import LightbridgeAuthz.Budget.LedgerReplay

/-!
# Revocation by correction

The ledger is append-only, so `revokeBudgetGrant` writes a `correction` row
that negates the original amount, under the key `revoke:{grantId}`. The key
space is the one every other caller writes into, and the correction is written
without the `expires_at` of the row it compensates. Both facts decide when a
revocation compensates.
-/

namespace LightbridgeAuthz.Budget.Revocation

open Library.CheckedInt Library.KeyedRows
open Domain GrantLedger LedgerReplay

set_option autoImplicit false

def getGrantById (db : BudgetDb) (id : String) : Except BudgetError BudgetGrant :=
  match findKey grantId db.grants id with
  | some row => .ok row
  | none => .error (.notFound ("budget grant '" ++ id ++ "'"))

def revokeKey (grantId : String) : String := "revoke:" ++ grantId

/-- The correction the procedure asks for. The negation is the machine's: the
release profile wraps. -/
def correctionRequest (original : BudgetGrant) (subject grantId reason : String) :
    GrantRequest where
  budgetAccountId := original.budgetAccountId
  accountId := original.accountId
  projectId := original.projectId
  period := original.period
  amountMicros := -original.amountMicros
  source := .correction
  actorId := some subject
  reason := some reason
  policyRevision := none
  matchedRuleIds := none
  idempotencyKey := some (revokeKey grantId)
  triggerKey := none
  expiresAt := none

/-- `Procedures::revoke_budget_grant`. The row it reads first never changes and
is never deleted, so the read and the transaction are one step here. -/
def revokeBudgetGrant (db : BudgetDb) (subject grantId reason : String) (stamp : Stamp) :
    BudgetDb × Except BudgetError BudgetGrant :=
  match getGrantById db grantId with
  | .error error => (db, .error error)
  | .ok original => grant db (correctionRequest original subject grantId reason) stamp

/-- `Procedures::grant_budget`, after its arguments parsed. -/
structure AdminGrant where
  budgetAccountId : String
  accountId : String
  projectId : Option String
  period : Period
  amountMicros : Int64
  subject : String
  reason : Option String
  idempotencyKey : Option String
  deriving DecidableEq, Repr

def AdminGrant.request (order : AdminGrant) : GrantRequest where
  budgetAccountId := order.budgetAccountId
  accountId := order.accountId
  projectId := order.projectId
  period := order.period
  amountMicros := order.amountMicros
  source := .admin
  actorId := some order.subject
  reason := order.reason
  policyRevision := none
  matchedRuleIds := none
  idempotencyKey := order.idempotencyKey
  triggerKey := none
  expiresAt := none

def grantBudget (db : BudgetDb) (order : AdminGrant) (stamp : Stamp) :
    BudgetDb × Except BudgetError BudgetGrant :=
  grant db order.request stamp

/-- Every way the ledger is written: a `grant` call with any request, keys
included, or a revocation. -/
inductive LedgerCall where
  | grant (request : GrantRequest) (stamp : Stamp)
  | revoke (subject grantId reason : String) (stamp : Stamp)

def LedgerCall.run (db : BudgetDb) : LedgerCall → BudgetDb × Except BudgetError BudgetGrant
  | .grant request stamp => GrantLedger.grant db request stamp
  | .revoke subject grantId reason stamp => revokeBudgetGrant db subject grantId reason stamp

def runLedger (db : BudgetDb) (calls : List LedgerCall) : BudgetDb :=
  calls.foldl (fun current call => (call.run current).1) db

/-- A row that undoes `original`: a correction of the opposite amount for the
same account and period, attributed to it by its key. -/
def IsCorrectionOf (original row : BudgetGrant) : Prop :=
  row.source = .correction ∧ row.amountMicros.toInt = -original.amountMicros.toInt ∧
    row.budgetAccountId = original.budgetAccountId ∧ row.period = original.period ∧
    row.idempotencyKey = some (revokeKey original.id)

instance (original row : BudgetGrant) : Decidable (IsCorrectionOf original row) :=
  inferInstanceAs (Decidable (_ ∧ _))

/-- Some row that does not undo `original` already holds the key its correction
would be written under. -/
def RevokeKeyTaken (db : BudgetDb) (original : BudgetGrant) : Prop :=
  ∃ row ∈ db.grants, row.idempotencyKey = some (revokeKey original.id) ∧
    ¬ IsCorrectionOf original row

/-- Further calls for the same grant, by any subjects and at any time. -/
def repeatRevocation (db : BudgetDb) (grantId : String)
    (calls : List (String × String × Stamp)) : BudgetDb :=
  calls.foldl (fun current call =>
    (revokeBudgetGrant current call.1 grantId call.2.1 call.2.2).1) db

/-- What a revocation is for: its ledger holds exactly one row that undoes
`original`, and repeating the call changes no table. -/
def Compensates (db : BudgetDb) (original : BudgetGrant) (subject reason : String)
    (stamp : Stamp) : Prop :=
  (revokeBudgetGrant db subject original.id reason stamp).1.grants.countP
      (fun row => IsCorrectionOf original row) = 1 ∧
    ∀ calls, repeatRevocation (revokeBudgetGrant db subject original.id reason stamp).1
      original.id calls = (revokeBudgetGrant db subject original.id reason stamp).1

theorem revoke_is_grant (db : BudgetDb) (subject grantId reason : String) (stamp : Stamp) :
    (revokeBudgetGrant db subject grantId reason stamp).1 = db ∨
      ∃ original, findKey GrantLedger.grantId db.grants grantId = some original ∧
        revokeBudgetGrant db subject grantId reason stamp =
          grant db (correctionRequest original subject grantId reason) stamp := by
  unfold revokeBudgetGrant getGrantById
  cases found : findKey GrantLedger.grantId db.grants grantId with
  | none => exact Or.inl rfl
  | some original => exact Or.inr ⟨original, rfl, rfl⟩

theorem ledger_call_preserves {invariant : BudgetDb → Prop}
    (kept : ∀ db request stamp, invariant db → invariant (grant db request stamp).1)
    {db : BudgetDb} (start : invariant db) (call : LedgerCall) : invariant (call.run db).1 := by
  cases call with
  | grant request stamp => exact kept db request stamp start
  | revoke subject grantId reason stamp =>
      rcases revoke_is_grant db subject grantId reason stamp with same | ⟨original, _, ran⟩
      · rw [LedgerCall.run, same]
        exact start
      · rw [LedgerCall.run, ran]
        exact kept db _ stamp start

theorem run_ledger_preserves {invariant : BudgetDb → Prop}
    (kept : ∀ db request stamp, invariant db → invariant (grant db request stamp).1)
    {db : BudgetDb} (start : invariant db) (calls : List LedgerCall) :
    invariant (runLedger db calls) := by
  induction calls generalizing db with
  | nil => exact start
  | cons call rest ih => exact ih (ledger_call_preserves kept start call)

theorem run_ledger_integrity {db : BudgetDb} (integrity : LedgerIntegrity db)
    (calls : List LedgerCall) : LedgerIntegrity (runLedger db calls) := by
  apply run_ledger_preserves _ integrity
  intro current request stamp sound
  exact grant_preserves_integrity sound rfl

theorem revoke_of_mem {db : BudgetDb} (integrity : LedgerIntegrity db) {original : BudgetGrant}
    (member : original ∈ db.grants) (subject reason : String) (stamp : Stamp) :
    revokeBudgetGrant db subject original.id reason stamp =
      grant db (correctionRequest original subject original.id reason) stamp := by
  have found : findKey grantId db.grants original.id = some original :=
    find_key_eq_of_unique integrity.uniqueIds member rfl
  simp only [revokeBudgetGrant, getGrantById, found]

/-- A freshly written correction undoes its original, unless the amount is the
one 64-bit value without an opposite. -/
theorem correction_row_undoes {original : BudgetGrant} (subject reason : String) (stamp : Stamp)
    (negatable : original.amountMicros ≠ Int64.minValue) :
    IsCorrectionOf original
      (grantRow (correctionRequest original subject original.id reason) stamp) :=
  ⟨rfl, neg_to_int negatable, rfl, rfl, rfl⟩

theorem negatable_of_correction {original row : BudgetGrant}
    (undoes : IsCorrectionOf original row) : original.amountMicros ≠ Int64.minValue := by
  intro least
  have opposite := undoes.2.1
  have high := Int64.toInt_lt row.amountMicros
  have bottom : Int64.minValue.toInt = -2 ^ 63 := by decide
  rw [least, bottom] at opposite
  omega

/-- Once a revocation of `original` was answered, repeating it changes
nothing: its key is taken, by whatever row, and its balance row is there. -/
theorem repeat_revocation_unchanged {db next : BudgetDb} (integrity : LedgerIntegrity db)
    {original answer : BudgetGrant} (member : original ∈ db.grants) {subject reason : String}
    {stamp : Stamp}
    (revoked : revokeBudgetGrant db subject original.id reason stamp = (next, .ok answer))
    (calls : List (String × String × Stamp)) :
    repeatRevocation next original.id calls = next := by
  rw [revoke_of_mem integrity member] at revoked
  have sound : LedgerIntegrity next := grant_preserves_integrity integrity revoked
  have kept : original ∈ next.grants := mem_grants_of_grant revoked member
  have held : ∃ row ∈ next.grants, row.idempotencyKey = some (revokeKey original.id) :=
    ⟨answer, grant_ok_mem revoked, grant_ok_key revoked⟩
  have balanced := grant_ok_balance revoked
  induction calls with
  | nil => rfl
  | cons call rest ih =>
      have once : (revokeBudgetGrant next call.1 original.id call.2.1 call.2.2).1 = next := by
        rw [revoke_of_mem sound kept]
        apply grant_taken_key_unchanged
        · rfl
        · exact held
        · exact balanced
      simpa [repeatRevocation, once] using ih

/-- The row under the key decides: the revocation leaves a correction of
`original` exactly when it found none but such a row under the key, and the
amount can be negated. -/
theorem correction_written_iff {db next : BudgetDb} (integrity : LedgerIntegrity db)
    {original answer : BudgetGrant} (member : original ∈ db.grants) {subject reason : String}
    {stamp : Stamp}
    (revoked : revokeBudgetGrant db subject original.id reason stamp = (next, .ok answer)) :
    (∃ row ∈ next.grants, IsCorrectionOf original row) ↔
      ¬ RevokeKeyTaken db original ∧ original.amountMicros ≠ Int64.minValue := by
  rw [revoke_of_mem integrity member] at revoked
  constructor
  · intro written
    obtain ⟨row, rowMember, undoes⟩ := written
    refine ⟨?_, negatable_of_correction undoes⟩
    intro taken
    obtain ⟨squatter, squatterMember, squatterKey, different⟩ := taken
    have sound : LedgerIntegrity next := grant_preserves_integrity integrity revoked
    have same : squatter = row :=
      unique_keys_eq sound.uniqueIdempotencyKeys (mem_grants_of_grant revoked squatterMember)
        rowMember squatterKey undoes.2.2.2.2
    rw [same] at different
    exact different undoes
  · intro free
    obtain ⟨notTaken, negatable⟩ := free
    cases grant_outcome revoked with
    | replayed keyed stored =>
        obtain ⟨answerMember, answerKey⟩ := find_key_some stored
        have sameKey : answer.idempotencyKey = some (revokeKey original.id) := by
          rw [answerKey, ← keyed]
          rfl
        refine ⟨answer, answerMember, ?_⟩
        by_contra different
        exact notTaken ⟨answer, answerMember, sameKey, different⟩
    | inserted signed freshKey freshId known locked added =>
        refine ⟨_, List.mem_append_right _ (List.mem_singleton_self _), ?_⟩
        exact correction_row_undoes subject reason stamp negatable

/-- For every grant of a ledger that any callers wrote under any keys, a
revocation answered with success compensates it exactly when no other row
holds its revocation key and its amount is not the least 64-bit value. -/
theorem revocation_compensates_iff (accounts projects : List String) (calls : List LedgerCall)
    (original : BudgetGrant)
    (member : original ∈ (runLedger (BudgetDb.empty accounts projects) calls).grants)
    (subject reason : String) (stamp : Stamp) (answer : BudgetGrant)
    (answered : (revokeBudgetGrant (runLedger (BudgetDb.empty accounts projects) calls)
      subject original.id reason stamp).2 = .ok answer) :
    Compensates (runLedger (BudgetDb.empty accounts projects) calls) original subject reason
        stamp ↔
      ¬ RevokeKeyTaken (runLedger (BudgetDb.empty accounts projects) calls) original ∧
        original.amountMicros ≠ Int64.minValue := by
  have integrity := run_ledger_integrity (empty_integrity accounts projects) calls
  generalize runLedger (BudgetDb.empty accounts projects) calls = db at *
  rcases revoked : revokeBudgetGrant db subject original.id reason stamp with ⟨next, result⟩
  rw [revoked] at answered
  cases answered
  have sound : LedgerIntegrity next := by
    rw [revoke_of_mem integrity member] at revoked
    exact grant_preserves_integrity integrity revoked
  have keyed : ∀ row, decide (IsCorrectionOf original row) = true →
      row.idempotencyKey = some (revokeKey original.id) := by
    intro row selected
    exact (of_decide_eq_true selected).2.2.2.2
  have counted : next.grants.countP (fun row => IsCorrectionOf original row) = 1 ↔
      ∃ row ∈ next.grants, IsCorrectionOf original row := by
    rw [count_eq_one_iff_exists sound.uniqueIdempotencyKeys keyed]
    simp
  rw [Compensates, revoked, counted, correction_written_iff integrity member revoked]
  constructor
  · intro both
    exact both.1
  · intro free
    exact ⟨free, repeat_revocation_unchanged integrity member revoked⟩

def selfServiceGrant (idempotencyKey : Option String) (expiresAt : Option Instant) :
    GrantRequest where
  budgetAccountId := "acct"
  accountId := "acct"
  projectId := none
  period := ⟨"2026-08", Eq.refl true⟩
  amountMicros := 15000000
  source := .selfService
  actorId := some "acct"
  reason := none
  policyRevision := some "budget-policy-v1"
  matchedRuleIds := some ["within-unaided-allowance"]
  idempotencyKey := idempotencyKey
  triggerKey := none
  expiresAt := expiresAt

/-- A refill that took the key `revoke:g1` before `g1` was revoked: the
revocation is answered with the refill's own row and compensates nothing. -/
theorem squatted_key_defeats_revocation :
    ¬ ∀ (accounts projects : List String) (calls : List LedgerCall) (original : BudgetGrant)
        (subject reason : String) (stamp : Stamp) (answer : BudgetGrant),
        original ∈ (runLedger (BudgetDb.empty accounts projects) calls).grants →
        (revokeBudgetGrant (runLedger (BudgetDb.empty accounts projects) calls)
          subject original.id reason stamp).2 = .ok answer →
        Compensates (runLedger (BudgetDb.empty accounts projects) calls) original subject
          reason stamp := by
  intro claimed
  have broken := claimed ["acct"] []
    [.grant (selfServiceGrant none none) ⟨"g1", 1⟩,
      .grant (selfServiceGrant (some "revoke:g1") none) ⟨"g2", 2⟩]
    (grantRow (selfServiceGrant none none) ⟨"g1", 1⟩) "admin" "abuse" ⟨"g3", 3⟩
    (grantRow (selfServiceGrant (some "revoke:g1") none) ⟨"g2", 2⟩) (by decide) (by decide)
  have count := broken.1
  revert count
  decide

/-- With the key free, the same revocation compensates. -/
theorem free_key_revocation_compensates :
    Compensates
      (runLedger (BudgetDb.empty ["acct"] []) [.grant (selfServiceGrant none none) ⟨"g1", 1⟩])
      (grantRow (selfServiceGrant none none) ⟨"g1", 1⟩) "admin" "abuse" ⟨"g3", 3⟩ := by
  apply (revocation_compensates_iff ["acct"] []
    [.grant (selfServiceGrant none none) ⟨"g1", 1⟩]
    (grantRow (selfServiceGrant none none) ⟨"g1", 1⟩) (by decide) "admin" "abuse" ⟨"g3", 3⟩
    (grantRow (correctionRequest (grantRow (selfServiceGrant none none) ⟨"g1", 1⟩)
      "admin" "g1" "abuse") ⟨"g3", 3⟩) (by decide)).mpr
  constructor
  · rintro ⟨row, member, key, _⟩
    revert row
    decide
  · decide

end LightbridgeAuthz.Budget.Revocation
