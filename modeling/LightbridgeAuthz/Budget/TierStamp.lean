import LightbridgeAuthz.Budget.EffectiveBalance

/-!
# The tier stamped on a token

Minting a token reads the newest tier-representing grant of the account's
current period and stamps its rung. The query orders by `created_at` alone and
does not look at expiry or corrections; an amount off the ladder is stamped as
the lowest rung. Rows created at one instant may come back in any order, so the
table is read through a `scan` that is some permutation of it.
-/

namespace LightbridgeAuthz.Budget.TierStamp

open Library.CheckedInt Library.KeyedRows
open Domain GrantLedger LedgerReplay Revocation EffectiveBalance

set_option autoImplicit false

/-- A year and month as the clock library gives them, within the four digits a
period can write. -/
structure CalendarMonth where
  year : Nat
  month : Nat
  yearBound : year < 10000
  monthLower : 1 ≤ month
  monthUpper : month ≤ 12

/-- `format!("{year:04}-{month:02}")`. -/
def CalendarMonth.text (calendar : CalendarMonth) : String :=
  String.ofList
    [(calendar.year / 1000).digitChar, (calendar.year / 100 % 10).digitChar,
      (calendar.year / 10 % 10).digitChar, (calendar.year % 10).digitChar, '-',
      (calendar.month / 10).digitChar, (calendar.month % 10).digitChar]

theorem digit_char_is_digit : ∀ digit < 10, digit.digitChar.isDigit = true := by
  decide

theorem digit_char_value : ∀ digit < 10, digit.digitChar.toNat - '0'.toNat = digit := by
  decide

theorem calendar_text_well_formed (calendar : CalendarMonth) :
    wellFormedPeriod calendar.text = true := by
  have yearBound := calendar.yearBound
  have monthLower := calendar.monthLower
  have monthUpper := calendar.monthUpper
  have tens : (calendar.month / 10).digitChar.toNat - '0'.toNat = calendar.month / 10 :=
    digit_char_value _ (by omega)
  have units : (calendar.month % 10).digitChar.toNat - '0'.toNat = calendar.month % 10 :=
    digit_char_value _ (by omega)
  have month : calendar.month / 10 * 10 + calendar.month % 10 = calendar.month := by omega
  have digits : [(calendar.year / 1000).digitChar, (calendar.year / 100 % 10).digitChar,
      (calendar.year / 10 % 10).digitChar, (calendar.year % 10).digitChar,
      (calendar.month / 10).digitChar, (calendar.month % 10).digitChar].all Char.isDigit =
      true := by
    simp only [List.all_cons, List.all_nil, Bool.and_true, Bool.and_eq_true]
    refine ⟨?_, ?_, ?_, ?_, ?_, ?_⟩ <;> exact digit_char_is_digit _ (by omega)
  simp only [wellFormedPeriod, CalendarMonth.text, String.toList_ofList, digits, tens, units,
    month]
  simp [monthLower, monthUpper]

/-- `Period::current`, with the clock library's reading of the instant. -/
def Period.current (calendar : Instant → CalendarMonth) (now : Instant) : Period :=
  ⟨(calendar now).text, calendar_text_well_formed (calendar now)⟩

/-- The sources of `LATEST_TIER_GRANT_AMOUNT_SQL`. -/
def tierSources : List GrantSource :=
  [.base, .selfService, .automatic, .admin, .manualApproval, .promotion]

def tierGrants (rows : List BudgetGrant) (budgetAccountId : String) (period : Period) :
    List BudgetGrant :=
  (group rows budgetAccountId period).filter fun row => row.source ∈ tierSources

/-- `ORDER BY created_at DESC LIMIT 1`; of rows of one instant, the one the scan
meets first. -/
def newest : List BudgetGrant → Option BudgetGrant
  | [] => none
  | row :: rest =>
      match newest rest with
      | none => some row
      | some later => if row.createdAt < later.createdAt then some later else some row

/-- `BudgetRepo::current_tier`, on the rows the scan returned or on the failure
it ended with. -/
def currentTier (scan : Except StorageFailure (List BudgetGrant)) (budgetAccountId : String)
    (period : Period) : Except BudgetError BudgetTier :=
  match scan with
  | .error failure => .error (.storageFailed failure)
  | .ok rows =>
      match newest (tierGrants rows budgetAccountId period) with
      | some row => .ok ((BudgetTier.fromAmountMicros row.amountMicros).getD .b15)
      | none => .ok .b15

def budgetTierWireLabel (amountMicros : Int64) : String :=
  match BudgetTier.fromAmountMicros amountMicros with
  | some tier => tier.label
  | none => "b-" ++ toString (amountMicros / 1000000).toInt

def resolveBudgetTier (calendar : Instant → CalendarMonth) (failClosedFloorMicros : Int64)
    (scan : Except StorageFailure (List BudgetGrant)) (budgetAccountId : String)
    (now : Instant) : String :=
  match currentTier scan budgetAccountId (Period.current calendar now) with
  | .ok tier => tier.label
  | .error _ => budgetTierWireLabel failClosedFloorMicros

/-- The amount a label of the form `b-{dollars}` denotes. -/
def labelMicros (label : String) : Option Int :=
  match label.toList with
  | 'b' :: '-' :: digits =>
      if digits ≠ [] ∧ digits.all Char.isDigit then
        some ((digits.foldl (fun value digit =>
          value * 10 + (digit.toNat - '0'.toNat)) 0 : Nat) * 1000000)
      else none
  | _ => none

/-- In force at the mint instant: not expired, not revoked, and not compensated
by a correction under its revocation key. -/
def StillInForce (db : BudgetDb) (now : Instant) (row : BudgetGrant) : Prop :=
  InForce now row ∧
    ∀ correction ∈ db.grants, correction.source = .correction →
      correction.idempotencyKey ≠ some (revokeKey row.id)

instance (db : BudgetDb) (now : Instant) (row : BudgetGrant) :
    Decidable (StillInForce db now row) :=
  inferInstanceAs (Decidable (_ ∧ _))

def MostRecent (selects : BudgetGrant → Prop) (rows : List BudgetGrant)
    (row : BudgetGrant) : Prop :=
  row ∈ rows ∧ selects row ∧ ∀ other ∈ rows, selects other → other.createdAt ≤ row.createdAt

theorem label_micros_label (tier : BudgetTier) :
    labelMicros tier.label = some tier.amount.toInt := by
  cases tier <;> decide

theorem newest_none {rows : List BudgetGrant} (nothing : newest rows = none) : rows = [] := by
  cases rows with
  | nil => rfl
  | cons row rest =>
      unfold newest at nothing
      split at nothing
      · cases nothing
      · split_ifs at nothing

theorem newest_some {rows : List BudgetGrant} {row : BudgetGrant}
    (found : newest rows = some row) :
    row ∈ rows ∧ ∀ other ∈ rows, other.createdAt ≤ row.createdAt := by
  induction rows generalizing row with
  | nil => cases found
  | cons head rest ih =>
      unfold newest at found
      cases tail : newest rest with
      | none =>
          simp only [tail, Option.some.injEq] at found
          subst found
          simp [newest_none tail]
      | some later =>
          obtain ⟨laterMember, laterMost⟩ := ih tail
          simp only [tail] at found
          by_cases older : head.createdAt < later.createdAt
          · rw [if_pos older, Option.some.injEq] at found
            subst found
            refine ⟨List.mem_cons_of_mem _ laterMember, ?_⟩
            intro other member
            rcases List.mem_cons.mp member with isHead | inRest
            · rw [isHead]
              exact Int.le_of_lt older
            · exact laterMost other inRest
          · rw [if_neg older, Option.some.injEq] at found
            subst found
            refine ⟨List.mem_cons_self, ?_⟩
            intro other member
            rcases List.mem_cons.mp member with isHead | inRest
            · exact Int.le_of_eq (by rw [isHead])
            · exact Int.le_trans (laterMost other inRest) (Int.not_lt.mp older)

theorem mem_tier_grants_of_perm {rows table : List BudgetGrant} (scanned : rows.Perm table)
    (budgetAccountId : String) (period : Period) (row : BudgetGrant) :
    row ∈ tierGrants rows budgetAccountId period ↔
      row ∈ tierGrants table budgetAccountId period := by
  simp only [tierGrants, group, List.mem_filter, scanned.mem_iff]

/-- The success path stamps the rung of the newest tier-representing grant, or
the lowest rung when its amount is off the ladder. -/
theorem resolve_budget_tier_newest (calendar : Instant → CalendarMonth)
    (failClosedFloorMicros : Int64) {rows : List BudgetGrant} {budgetAccountId : String}
    {now : Instant} {row : BudgetGrant}
    (found : newest (tierGrants rows budgetAccountId (Period.current calendar now)) =
      some row) :
    resolveBudgetTier calendar failClosedFloorMicros (.ok rows) budgetAccountId now =
      ((BudgetTier.fromAmountMicros row.amountMicros).getD .b15).label := by
  simp only [resolveBudgetTier, currentTier, found]

/-- Whenever every newest tier-representing grant is in force, the label denotes
the amount of a most recent grant in force if that amount is a rung, and $15
if it is not. -/
theorem stamped_tier_is_newest_in_force (calendar : Instant → CalendarMonth)
    (failClosedFloorMicros : Int64) (db : BudgetDb) (rows : List BudgetGrant)
    (scanned : rows.Perm db.grants) (budgetAccountId : String) (now : Instant)
    (represented : tierGrants db.grants budgetAccountId (Period.current calendar now) ≠ [])
    (newestInForce : ∀ row, MostRecent (fun _ => True)
        (tierGrants db.grants budgetAccountId (Period.current calendar now)) row →
      StillInForce db now row) :
    ∃ row micros,
      MostRecent (StillInForce db now)
        (tierGrants db.grants budgetAccountId (Period.current calendar now)) row ∧
      labelMicros (resolveBudgetTier calendar failClosedFloorMicros (.ok rows)
        budgetAccountId now) = some micros ∧
      micros ≤ max 15000000 row.amountMicros.toInt ∧
      ((BudgetTier.fromAmountMicros row.amountMicros).isSome →
        micros = row.amountMicros.toInt) := by
  cases found : newest (tierGrants rows budgetAccountId (Period.current calendar now)) with
  | none =>
      have noRows := newest_none found
      obtain ⟨row, rest, table⟩ := List.exists_cons_of_ne_nil represented
      have inTable : row ∈ tierGrants db.grants budgetAccountId
          (Period.current calendar now) := by
        rw [table]
        exact List.mem_cons_self
      have inScan := (mem_tier_grants_of_perm scanned _ _ row).mpr inTable
      rw [noRows] at inScan
      cases inScan
  | some row =>
      obtain ⟨inScan, latest⟩ := newest_some found
      have inTable := (mem_tier_grants_of_perm scanned _ _ row).mp inScan
      have noLater : ∀ other ∈ tierGrants db.grants budgetAccountId
          (Period.current calendar now), other.createdAt ≤ row.createdAt := by
        intro other member
        exact latest other ((mem_tier_grants_of_perm scanned _ _ other).mpr member)
      have inForce := newestInForce row ⟨inTable, trivial, fun other member _ =>
        noLater other member⟩
      have label := resolve_budget_tier_newest calendar failClosedFloorMicros found
      refine ⟨row, _, ⟨inTable, inForce, fun other member _ => noLater other member⟩,
        by rw [label, label_micros_label], ?_, ?_⟩
      · cases rung : BudgetTier.fromAmountMicros row.amountMicros with
        | none => exact Int.le_max_left _ _
        | some tier =>
            rw [← amount_of_from_amount_micros rung]
            exact Int.le_max_right _ _
      · intro onLadder
        obtain ⟨tier, rung⟩ := Option.isSome_iff_exists.mp onLadder
        rw [rung, Option.getD_some, amount_of_from_amount_micros rung]

def sixDollarGrant : GrantRequest :=
  { selfServiceGrant none none with amountMicros := 6000000 }

def august : CalendarMonth := ⟨2026, 8, by decide, by decide, by decide⟩

/-- The smallest amount the default policy offers is $6, which no rung denotes:
the only grant, in force, is stamped `b-15`. -/
theorem six_dollar_grant_stamped_fifteen :
    ¬ ∀ (calendar : Instant → CalendarMonth) (failClosedFloorMicros : Int64) (db : BudgetDb)
        (rows : List BudgetGrant) (budgetAccountId : String) (now : Instant)
        (row : BudgetGrant) (micros : Int),
        rows.Perm db.grants →
        MostRecent (StillInForce db now)
          (tierGrants db.grants budgetAccountId (Period.current calendar now)) row →
        labelMicros (resolveBudgetTier calendar failClosedFloorMicros (.ok rows)
          budgetAccountId now) = some micros →
        micros ≤ row.amountMicros.toInt := by
  intro claimed
  have broken := claimed (fun _ => august) 6000000
    (grantAll (BudgetDb.empty ["acct"] []) [(sixDollarGrant, ⟨"g1", 1⟩)])
    [grantRow sixDollarGrant ⟨"g1", 1⟩] "acct" 5 (grantRow sixDollarGrant ⟨"g1", 1⟩) 15000000
    (by decide) ⟨by decide, by decide, by decide⟩ (by decide)
  revert broken
  decide

/-- A $15 grant in force is stamped with its own amount. -/
theorem fifteen_dollar_grant_stamped_fifteen :
    ∃ row micros,
      MostRecent
        (StillInForce
          (grantAll (BudgetDb.empty ["acct"] []) [(selfServiceGrant none none, ⟨"g1", 1⟩)]) 5)
        (tierGrants [grantRow (selfServiceGrant none none) ⟨"g1", 1⟩] "acct"
          (Period.current (fun _ => august) 5)) row ∧
      labelMicros (resolveBudgetTier (fun _ => august) 6000000
        (.ok [grantRow (selfServiceGrant none none) ⟨"g1", 1⟩]) "acct" 5) = some micros ∧
      micros ≤ max 15000000 row.amountMicros.toInt ∧
      ((BudgetTier.fromAmountMicros row.amountMicros).isSome →
        micros = row.amountMicros.toInt) := by
  apply stamped_tier_is_newest_in_force (fun _ => august) 6000000
    (grantAll (BudgetDb.empty ["acct"] []) [(selfServiceGrant none none, ⟨"g1", 1⟩)])
    [grantRow (selfServiceGrant none none) ⟨"g1", 1⟩] (by decide) "acct" 5 (by decide)
  rintro row ⟨member, _⟩
  revert row
  decide

end LightbridgeAuthz.Budget.TierStamp
