import LightbridgeAuthz.Budget.Revocation

/-!
# The expiry-aware balance

`BudgetRepo::effective_balance` sums the rows of an account and period that are
in force at an instant: not expired, not revoked. A grant may expire while the
correction that revokes it never does, so the two cancel only as long as the
grant is in force.
-/

namespace LightbridgeAuthz.Budget.EffectiveBalance

open Library.CheckedInt Library.KeyedRows
open Domain GrantLedger LedgerReplay Revocation

set_option autoImplicit false

/-- `(expires_at IS NULL OR expires_at > $3) AND revoked_at IS NULL`. -/
def InForce (asOf : Instant) (row : BudgetGrant) : Prop :=
  (∀ expiresAt ∈ row.expiresAt, asOf < expiresAt) ∧ row.revokedAt = none

instance (asOf : Instant) (row : BudgetGrant) : Decidable (InForce asOf row) :=
  inferInstanceAs (Decidable (_ ∧ _))

/-- The `SUM` of `EFFECTIVE_BALANCE_SQL`, before the cast. -/
def inForceTotal (rows : List BudgetGrant) (budgetAccountId : String) (period : Period)
    (asOf : Instant) : Int :=
  (((group rows budgetAccountId period).filter fun row => InForce asOf row).map
    fun row => row.amountMicros.toInt).sum

def effectiveBalance (db : BudgetDb) (budgetAccountId : String) (period : Period)
    (asOf : Instant) : Except BudgetError Int64 :=
  match toBigint (inForceTotal db.grants budgetAccountId period asOf) with
  | some total => .ok total
  | none => .error (.storageFailed .numericOutOfRange)

def inForceAmount (row : BudgetGrant) (budgetAccountId : String) (period : Period)
    (asOf : Instant) : Int :=
  if groupKey row = (budgetAccountId, period) ∧ InForce asOf row then row.amountMicros.toInt
  else 0

/-- The ledger with `original` taken out of it. -/
def withoutGrant (db : BudgetDb) (original : BudgetGrant) : BudgetDb :=
  { db with grants := db.grants.filter fun row => row.id ≠ original.id }

/-- Writing the correction for `original` gives every balance, at every instant,
the value it has without the two rows. -/
def BalancesAsIfNeverGranted (db : BudgetDb) (original : BudgetGrant)
    (subject reason : String) (stamp : Stamp) : Prop :=
  ∀ budgetAccountId period asOf,
    effectiveBalance (revokeBudgetGrant db subject original.id reason stamp).1
        budgetAccountId period asOf =
      effectiveBalance (withoutGrant db original) budgetAccountId period asOf

/-- From the expiry on, the balance leaves the 64-bit range both with and
without the amount taken off, so both reads fail alike. -/
def OverflowsFromExpiry (db : BudgetDb) (original : BudgetGrant) (expiresAt : Instant) : Prop :=
  ∀ asOf, expiresAt ≤ asOf →
    toBigint (inForceTotal (withoutGrant db original).grants original.budgetAccountId
      original.period asOf) = none ∧
    toBigint (inForceTotal (withoutGrant db original).grants original.budgetAccountId
      original.period asOf - original.amountMicros.toInt) = none

theorem grant_all_integrity {db : BudgetDb} (integrity : LedgerIntegrity db)
    (calls : List (GrantRequest × Stamp)) : LedgerIntegrity (grantAll db calls) := by
  induction calls generalizing db with
  | nil => exact integrity
  | cons call rest ih => exact ih (grant_preserves_integrity integrity rfl)

theorem in_force_total_eq_sum (rows : List BudgetGrant) (budgetAccountId : String)
    (period : Period) (asOf : Instant) :
    inForceTotal rows budgetAccountId period asOf =
      (rows.map fun row => inForceAmount row budgetAccountId period asOf).sum := by
  induction rows with
  | nil => rfl
  | cons head tail ih =>
      rw [List.map_cons, List.sum_cons, ← ih]
      by_cases inGroup : groupKey head = (budgetAccountId, period)
      · by_cases live : InForce asOf head
        · simp [inForceTotal, inForceAmount, group, inGroup, live]
        · simp [inForceTotal, inForceAmount, group, inGroup, live]
      · simp [inForceTotal, inForceAmount, group, inGroup]

theorem in_force_total_append (rows : List BudgetGrant) (fresh : BudgetGrant)
    (budgetAccountId : String) (period : Period) (asOf : Instant) :
    inForceTotal (rows ++ [fresh]) budgetAccountId period asOf =
      inForceTotal rows budgetAccountId period asOf +
        inForceAmount fresh budgetAccountId period asOf := by
  simp [in_force_total_eq_sum]

/-- Ids are unique, so taking a grant out of the ledger takes out its amount
and nothing else. -/
theorem in_force_total_without {db : BudgetDb} (integrity : LedgerIntegrity db)
    {original : BudgetGrant} (member : original ∈ db.grants) (budgetAccountId : String)
    (period : Period) (asOf : Instant) :
    inForceTotal db.grants budgetAccountId period asOf =
      inForceTotal (withoutGrant db original).grants budgetAccountId period asOf +
        inForceAmount original budgetAccountId period asOf := by
  have unique := integrity.uniqueIds
  obtain ⟨before, after, rows⟩ := List.append_of_mem member
  rw [rows] at unique
  obtain ⟨_, tailUnique, across⟩ := List.pairwise_append.mp unique
  have laterApart := (List.pairwise_cons.mp tailUnique).1
  have keepBefore : before.filter (fun row => row.id ≠ original.id) = before := by
    apply List.filter_eq_self.mpr
    intro row rowMember
    have apart := across row rowMember original List.mem_cons_self
    simpa [grantId] using apart
  have keepAfter : after.filter (fun row => row.id ≠ original.id) = after := by
    apply List.filter_eq_self.mpr
    intro row rowMember
    have apart : original.id ≠ row.id := by simpa [grantId] using laterApart row rowMember
    simpa using apart.symm
  have rest : (withoutGrant db original).grants = before ++ after := by
    simp only [withoutGrant, rows, List.filter_append, keepBefore]
    rw [List.filter_cons_of_neg (by simp), keepAfter]
  rw [rest, rows]
  simp only [in_force_total_eq_sum, List.map_append, List.map_cons, List.sum_append,
    List.sum_cons]
  omega

theorem effective_balance_eq_iff {left right : BudgetDb} {budgetAccountId : String}
    {period : Period} {asOf : Instant} :
    effectiveBalance left budgetAccountId period asOf =
        effectiveBalance right budgetAccountId period asOf ↔
      inForceTotal left.grants budgetAccountId period asOf =
          inForceTotal right.grants budgetAccountId period asOf ∨
        toBigint (inForceTotal left.grants budgetAccountId period asOf) = none ∧
          toBigint (inForceTotal right.grants budgetAccountId period asOf) = none := by
  unfold effectiveBalance
  cases leftCast : toBigint (inForceTotal left.grants budgetAccountId period asOf) with
  | none =>
      cases rightCast : toBigint (inForceTotal right.grants budgetAccountId period asOf) with
      | none => simp
      | some rightTotal =>
          have different : inForceTotal left.grants budgetAccountId period asOf ≠
              inForceTotal right.grants budgetAccountId period asOf := by
            intro same
            rw [same, rightCast] at leftCast
            cases leftCast
          simp [different]
  | some leftTotal =>
      have leftExact := to_bigint_some.mp leftCast
      cases rightCast : toBigint (inForceTotal right.grants budgetAccountId period asOf) with
      | none =>
          have different : inForceTotal left.grants budgetAccountId period asOf ≠
              inForceTotal right.grants budgetAccountId period asOf := by
            intro same
            rw [← same, leftCast] at rightCast
            cases rightCast
          simp [different]
      | some rightTotal =>
          have rightExact := to_bigint_some.mp rightCast
          simp [← leftExact, ← rightExact, Int64.toInt_inj]

theorem exists_before_every_expiry {rows : List BudgetGrant}
    (neverRevoked : ∀ row ∈ rows, row.revokedAt = none) :
    ∃ early, ∀ asOf ≤ early, ∀ row ∈ rows, InForce asOf row := by
  induction rows with
  | nil => exact ⟨0, by simp⟩
  | cons head tail ih =>
      obtain ⟨early, live⟩ := ih fun row member =>
        neverRevoked row (List.mem_cons_of_mem _ member)
      have headNeverRevoked := neverRevoked head List.mem_cons_self
      cases expiry : head.expiresAt with
      | none =>
          refine ⟨early, ?_⟩
          intro asOf bound row member
          rcases List.mem_cons.mp member with isHead | inTail
          · subst isHead
            exact ⟨by simp [expiry], headNeverRevoked⟩
          · exact live asOf bound row inTail
      | some expiresAt =>
          refine ⟨min early (expiresAt - 1), ?_⟩
          intro asOf bound row member
          rcases List.mem_cons.mp member with isHead | inTail
          · subst isHead
            refine ⟨?_, headNeverRevoked⟩
            intro instant isExpiry
            have same : instant = expiresAt := by simpa [expiry] using isExpiry.symm
            rw [same]
            exact Int.lt_of_le_sub_one (Int.le_trans bound (Int.min_le_right _ _))
          · exact live asOf (Int.le_trans bound (Int.min_le_left _ _)) row inTail

/-- While no row has expired the balance is the stored effective budget, so it
is in range. -/
theorem early_total_in_range {db : BudgetDb} (replays : Replays db)
    (integrity : LedgerIntegrity db) (budgetAccountId : String) (period : Period) :
    ∃ early, ∀ asOf ≤ early, ∃ column : Int64,
      column.toInt = inForceTotal db.grants budgetAccountId period asOf := by
  obtain ⟨early, live⟩ := exists_before_every_expiry integrity.neverRevoked
  refine ⟨early, ?_⟩
  intro asOf bound
  refine ⟨(storedColumns db budgetAccountId period).effectiveBudgetMicros, ?_⟩
  have stored := replays budgetAccountId period .effective
  have everyRow : (group db.grants budgetAccountId period).filter
      (fun row => InForce asOf row) = group db.grants budgetAccountId period := by
    apply List.filter_eq_self.mpr
    intro row member
    have inLedger : row ∈ db.grants := (List.mem_filter.mp member).1
    simpa using live asOf bound row inLedger
  rw [inForceTotal, everyRow]
  exact stored

/-- The correction is always in force, so it takes its amount off at every
instant. -/
theorem in_force_amount_correction (original : BudgetGrant) (subject reason : String)
    (stamp : Stamp) (budgetAccountId : String) (period : Period) (asOf : Instant) :
    inForceAmount (grantRow (correctionRequest original subject original.id reason) stamp)
        budgetAccountId period asOf =
      if groupKey original = (budgetAccountId, period) then (-original.amountMicros).toInt
      else 0 := by
  have live : InForce asOf
      (grantRow (correctionRequest original subject original.id reason) stamp) :=
    ⟨by simp [grantRow, correctionRequest], rfl⟩
  unfold inForceAmount
  simp only [live, and_true]
  rfl

theorem revocation_appends {db next : BudgetDb} (integrity : LedgerIntegrity db)
    {original answer : BudgetGrant} (member : original ∈ db.grants) {subject reason : String}
    {stamp : Stamp}
    (free : ∀ row ∈ db.grants, row.idempotencyKey ≠ some (revokeKey original.id))
    (revoked : revokeBudgetGrant db subject original.id reason stamp = (next, .ok answer)) :
    next.grants =
        db.grants ++ [grantRow (correctionRequest original subject original.id reason) stamp] ∧
      original.amountMicros ≠ 0 := by
  rw [revoke_of_mem integrity member] at revoked
  cases grant_outcome revoked with
  | replayed keyed stored =>
      obtain ⟨holder, holderKey⟩ := find_key_some stored
      exact absurd (holderKey.trans keyed.symm) (free answer holder)
  | inserted signed freshKey freshId known locked added =>
      refine ⟨rfl, ?_⟩
      intro zero
      simp [correctionRequest, validateAmountSign, zero] at signed

theorem in_force_total_after_revocation {db next : BudgetDb} (integrity : LedgerIntegrity db)
    {original : BudgetGrant} (member : original ∈ db.grants) {subject reason : String}
    {stamp : Stamp}
    (appended : next.grants =
      db.grants ++ [grantRow (correctionRequest original subject original.id reason) stamp])
    (budgetAccountId : String) (period : Period) (asOf : Instant) :
    inForceTotal next.grants budgetAccountId period asOf =
      inForceTotal (withoutGrant db original).grants budgetAccountId period asOf +
        if groupKey original = (budgetAccountId, period) then
          (if InForce asOf original then original.amountMicros.toInt else 0) +
            (-original.amountMicros).toInt
        else 0 := by
  rw [appended, in_force_total_append, in_force_total_without integrity member,
    in_force_amount_correction]
  by_cases inGroup : groupKey original = (budgetAccountId, period)
  · simp [inForceAmount, inGroup, add_assoc]
  · simp [inForceAmount, inGroup]

theorem in_force_iff {db : BudgetDb} (integrity : LedgerIntegrity db) {original : BudgetGrant}
    (member : original ∈ db.grants) (asOf : Instant) :
    InForce asOf original ↔ ∀ expiresAt ∈ original.expiresAt, asOf < expiresAt := by
  simp [InForce, integrity.neverRevoked original member]

theorem balances_as_if_never_granted {db next : BudgetDb} (integrity : LedgerIntegrity db)
    {original : BudgetGrant} (member : original ∈ db.grants) {subject reason : String}
    {stamp : Stamp}
    (appended : next.grants =
      db.grants ++ [grantRow (correctionRequest original subject original.id reason) stamp])
    (negatable : original.amountMicros ≠ Int64.minValue)
    (overflows : ∀ expiresAt ∈ original.expiresAt, OverflowsFromExpiry db original expiresAt)
    (budgetAccountId : String) (period : Period) (asOf : Instant) :
    effectiveBalance next budgetAccountId period asOf =
      effectiveBalance (withoutGrant db original) budgetAccountId period asOf := by
  have total := in_force_total_after_revocation integrity member appended budgetAccountId
    period asOf
  rw [neg_to_int negatable] at total
  apply effective_balance_eq_iff.mpr
  by_cases inGroup : groupKey original = (budgetAccountId, period)
  · by_cases live : InForce asOf original
    · left
      simp only [inGroup, if_true, live] at total
      omega
    · right
      simp only [inGroup, if_true, live, if_false] at total
      rw [in_force_iff integrity member] at live
      obtain ⟨expiresAt, unexpired⟩ := not_forall.mp live
      obtain ⟨expiry, expired⟩ := Classical.not_imp.mp unexpired
      have fails := overflows expiresAt expiry asOf (Int.not_lt.mp expired)
      obtain ⟨sameAccount, samePeriod⟩ := Prod.mk.inj inGroup
      subst sameAccount samePeriod
      rw [total]
      constructor
      · simpa [sub_eq_add_neg] using fails.2
      · exact fails.1
  · left
    simpa [inGroup] using total

theorem negatable_of_balances {db next : BudgetDb} (integrity : LedgerIntegrity db)
    {original : BudgetGrant} (member : original ∈ db.grants) {subject reason : String}
    {stamp : Stamp}
    (appended : next.grants =
      db.grants ++ [grantRow (correctionRequest original subject original.id reason) stamp])
    (replays : Replays next) (nextIntegrity : LedgerIntegrity next)
    (agrees : ∀ asOf,
      effectiveBalance next original.budgetAccountId original.period asOf =
        effectiveBalance (withoutGrant db original) original.budgetAccountId original.period
          asOf) :
    original.amountMicros ≠ Int64.minValue := by
  intro least
  obtain ⟨early, inRange⟩ := early_total_in_range replays nextIntegrity
    original.budgetAccountId original.period
  obtain ⟨column, exact⟩ := inRange early (Int.le_refl early)
  have total := in_force_total_after_revocation integrity member appended
    original.budgetAccountId original.period early
  have bottom : Int64.minValue.toInt = -2 ^ 63 := by decide
  have doubled : (-Int64.minValue).toInt = -2 ^ 63 := by decide
  rw [least, bottom, doubled] at total
  rcases effective_balance_eq_iff.mp (agrees early) with same | ⟨overflow, _⟩
  · rw [same] at total
    by_cases live : InForce early original
    · simp [groupKey, live] at total
    · simp [groupKey, live] at total
  · rw [to_bigint_some.mpr exact] at overflow
    cases overflow

theorem overflows_of_balances {db next : BudgetDb} (integrity : LedgerIntegrity db)
    {original : BudgetGrant} (member : original ∈ db.grants) {subject reason : String}
    {stamp : Stamp}
    (appended : next.grants =
      db.grants ++ [grantRow (correctionRequest original subject original.id reason) stamp])
    (nonzero : original.amountMicros ≠ 0) (negatable : original.amountMicros ≠ Int64.minValue)
    (agrees : ∀ asOf,
      effectiveBalance next original.budgetAccountId original.period asOf =
        effectiveBalance (withoutGrant db original) original.budgetAccountId original.period
          asOf) {expiresAt : Instant} (expiry : expiresAt ∈ original.expiresAt) :
    OverflowsFromExpiry db original expiresAt := by
  intro asOf past
  have notLive : ¬ InForce asOf original := by
    rw [in_force_iff integrity member]
    intro later
    exact Int.not_lt.mpr past (later expiresAt expiry)
  have total := in_force_total_after_revocation integrity member appended
    original.budgetAccountId original.period asOf
  rw [neg_to_int negatable] at total
  simp only [groupKey, if_true, notLive, if_false, Int.zero_add] at total
  rcases effective_balance_eq_iff.mp (agrees asOf) with same | ⟨after, before⟩
  · have zero : original.amountMicros.toInt = 0 := by omega
    exact absurd (Int64.toInt_inj.mp zero) nonzero
  · rw [total, ← Int.sub_eq_add_neg] at after
    exact ⟨before, after⟩

/-- For every grant of a ledger built by `grant` calls, with any expiries, whose
correction is then written: every balance reads at every instant as if the two
rows were not there exactly when the amount can be negated and the grant never
expires, or the reads fail from its expiry on. -/
theorem correction_neutral_iff (accounts projects : List String)
    (calls : List (GrantRequest × Stamp)) (original : BudgetGrant)
    (member : original ∈ (grantAll (BudgetDb.empty accounts projects) calls).grants)
    (subject reason : String) (stamp : Stamp) (answer : BudgetGrant)
    (free : ∀ row ∈ (grantAll (BudgetDb.empty accounts projects) calls).grants,
      row.idempotencyKey ≠ some (revokeKey original.id))
    (answered : (revokeBudgetGrant (grantAll (BudgetDb.empty accounts projects) calls)
      subject original.id reason stamp).2 = .ok answer) :
    BalancesAsIfNeverGranted (grantAll (BudgetDb.empty accounts projects) calls) original
        subject reason stamp ↔
      original.amountMicros ≠ Int64.minValue ∧
        ∀ expiresAt ∈ original.expiresAt,
          OverflowsFromExpiry (grantAll (BudgetDb.empty accounts projects) calls) original
            expiresAt := by
  have replays := grant_all_replays (empty_replays accounts projects) calls
  have integrity := grant_all_integrity (empty_integrity accounts projects) calls
  generalize grantAll (BudgetDb.empty accounts projects) calls = db at *
  rcases revoked : revokeBudgetGrant db subject original.id reason stamp with ⟨next, result⟩
  rw [revoked] at answered
  cases answered
  obtain ⟨appended, nonzero⟩ := revocation_appends integrity member free revoked
  rw [BalancesAsIfNeverGranted, revoked]
  constructor
  · intro agrees
    rw [revoke_of_mem integrity member] at revoked
    have nextReplays : Replays next := grant_preserves_replay replays revoked
    have nextIntegrity := grant_preserves_integrity integrity revoked
    have ownAgrees := agrees original.budgetAccountId original.period
    have negatable := negatable_of_balances integrity member appended nextReplays
      nextIntegrity ownAgrees
    refine ⟨negatable, ?_⟩
    intro expiresAt expiry
    exact overflows_of_balances integrity member appended nonzero negatable ownAgrees expiry
  · intro condition
    exact balances_as_if_never_granted integrity member appended condition.1 condition.2

/-- A $15 grant that expires at instant 10 and is revoked: at instant 10 the
correction alone is left, and the balance reads -$15. -/
theorem expired_grant_leaves_correction :
    ¬ ∀ (accounts projects : List String) (calls : List (GrantRequest × Stamp))
        (original : BudgetGrant) (subject reason : String) (stamp : Stamp)
        (answer : BudgetGrant),
        original ∈ (grantAll (BudgetDb.empty accounts projects) calls).grants →
        (∀ row ∈ (grantAll (BudgetDb.empty accounts projects) calls).grants,
          row.idempotencyKey ≠ some (revokeKey original.id)) →
        (revokeBudgetGrant (grantAll (BudgetDb.empty accounts projects) calls)
          subject original.id reason stamp).2 = .ok answer →
        BalancesAsIfNeverGranted (grantAll (BudgetDb.empty accounts projects) calls)
          original subject reason stamp := by
  intro claimed
  have broken := claimed ["acct"] [] [(selfServiceGrant none (some 10), ⟨"g1", 1⟩)]
    (grantRow (selfServiceGrant none (some 10)) ⟨"g1", 1⟩) "admin" "abuse" ⟨"g2", 2⟩
    (grantRow (correctionRequest (grantRow (selfServiceGrant none (some 10)) ⟨"g1", 1⟩)
      "admin" "g1" "abuse") ⟨"g2", 2⟩) (by decide) (by decide) (by decide)
  have atExpiry := broken "acct" ⟨"2026-08", by decide⟩ 10
  revert atExpiry
  decide

/-- Without an expiry the correction is neutral at every instant. -/
theorem unexpiring_correction_neutral :
    BalancesAsIfNeverGranted
      (grantAll (BudgetDb.empty ["acct"] []) [(selfServiceGrant none none, ⟨"g1", 1⟩)])
      (grantRow (selfServiceGrant none none) ⟨"g1", 1⟩) "admin" "abuse" ⟨"g2", 2⟩ := by
  apply (correction_neutral_iff ["acct"] [] [(selfServiceGrant none none, ⟨"g1", 1⟩)]
    (grantRow (selfServiceGrant none none) ⟨"g1", 1⟩) (by decide) "admin" "abuse" ⟨"g2", 2⟩
    (grantRow (correctionRequest (grantRow (selfServiceGrant none none) ⟨"g1", 1⟩)
      "admin" "g1" "abuse") ⟨"g2", 2⟩) (by decide) (by decide)).mpr
  constructor
  · decide
  · intro expiresAt expiry
    cases expiry

end LightbridgeAuthz.Budget.EffectiveBalance
