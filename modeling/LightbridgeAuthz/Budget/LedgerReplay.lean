import Mathlib.Algebra.BigOperators.Group.List.Basic
import Mathlib.Algebra.Order.Ring.Int
import Mathlib.Data.List.Dedup
import LightbridgeAuthz.Budget.GrantLedger

/-!
# The balance projection is the replayed ledger

`BudgetRepo::grant` keeps `budget_balances` up to date column by column, and
`REBUILD_ALL_BALANCES_SQL` derives the same eight columns from `budget_grants`
alone. The two source-to-bucket mappings are written down twice in the source
and twice here; `bucketOf` is the one mapping both are compared with.
-/

namespace LightbridgeAuthz.Budget.LedgerReplay

open Library.CheckedInt Library.KeyedRows
open Domain GrantLedger

set_option autoImplicit false

/-- The eight money and count columns, without the bookkeeping of a stored
row. -/
structure BalanceColumns where
  baseTotalMicros : Int64
  selfServiceTotalMicros : Int64
  adminTotalMicros : Int64
  automaticTotalMicros : Int64
  refundTotalMicros : Int64
  effectiveBudgetMicros : Int64
  selfServiceGrantCount : Int32
  automaticGrantCount : Int32
  deriving DecidableEq, Repr

def BalanceColumns.zero : BalanceColumns := ⟨0, 0, 0, 0, 0, 0, 0, 0⟩

def rowColumns (row : BalanceRow) : BalanceColumns where
  baseTotalMicros := row.baseTotalMicros
  selfServiceTotalMicros := row.selfServiceTotalMicros
  adminTotalMicros := row.adminTotalMicros
  automaticTotalMicros := row.automaticTotalMicros
  refundTotalMicros := row.refundTotalMicros
  effectiveBudgetMicros := row.effectiveBudgetMicros
  selfServiceGrantCount := row.selfServiceGrantCount
  automaticGrantCount := row.automaticGrantCount

def getBalance (db : BudgetDb) (budgetAccountId : String) (period : Period) :
    Option BalanceRow :=
  findKey balanceKey db.balances (budgetAccountId, period)

/-- The stored row, an absent one read as all zeros. -/
def storedColumns (db : BudgetDb) (budgetAccountId : String) (period : Period) :
    BalanceColumns :=
  ((getBalance db budgetAccountId period).map rowColumns).getD .zero

structure DerivedBalance where
  budgetAccountId : String
  period : Period
  columns : BalanceColumns
  deriving DecidableEq, Repr

/-- The `GROUP BY` key of a ledger row. -/
def groupKey (row : BudgetGrant) : String × Period := (row.budgetAccountId, row.period)

def group (rows : List BudgetGrant) (budgetAccountId : String) (period : Period) :
    List BudgetGrant :=
  rows.filter fun row => groupKey row = (budgetAccountId, period)

/-- `COALESCE(SUM(CASE WHEN source IN (…) THEN value ELSE 0 END), 0)`. -/
def sumCase (sources : List GrantSource) (value : BudgetGrant → Int)
    (rows : List BudgetGrant) : Int :=
  (rows.map fun row => if row.source ∈ sources then value row else 0).sum

/-- One row of `REBUILD_ALL_BALANCES_SQL`. `SUM` itself is unbounded; the cast
of each column to its type is what can fail. -/
def deriveColumns (rows : List BudgetGrant) : Option BalanceColumns := do
  let amount := fun row : BudgetGrant => row.amountMicros.toInt
  let baseTotalMicros ← toBigint (sumCase [.base, .migration] amount rows)
  let selfServiceTotalMicros ← toBigint (sumCase [.selfService] amount rows)
  let adminTotalMicros ← toBigint
    (sumCase [.admin, .manualApproval, .promotion] amount rows)
  let automaticTotalMicros ← toBigint (sumCase [.automatic] amount rows)
  let refundTotalMicros ← toBigint (sumCase [.refund] amount rows)
  let effectiveBudgetMicros ← toBigint (rows.map amount).sum
  let selfServiceGrantCount ← toInteger (sumCase [.selfService] (fun _ => 1) rows)
  let automaticGrantCount ← toInteger (sumCase [.automatic] (fun _ => 1) rows)
  some
    { baseTotalMicros := baseTotalMicros
      selfServiceTotalMicros := selfServiceTotalMicros
      adminTotalMicros := adminTotalMicros
      automaticTotalMicros := automaticTotalMicros
      refundTotalMicros := refundTotalMicros
      effectiveBudgetMicros := effectiveBudgetMicros
      selfServiceGrantCount := selfServiceGrantCount
      automaticGrantCount := automaticGrantCount }

def deriveBalance (db : BudgetDb) (key : String × Period) : Except BudgetError DerivedBalance :=
  match deriveColumns (group db.grants key.1 key.2) with
  | none => .error (.storageFailed .numericOutOfRange)
  | some columns =>
      .ok { budgetAccountId := key.1, period := key.2, columns := columns }

/-- `BudgetRepo::rebuild_all_balances`: one row for every group of the ledger. -/
def rebuildAllBalances (db : BudgetDb) : Except BudgetError (List DerivedBalance) :=
  (db.grants.map groupKey).dedup.mapM (deriveBalance db)

/-- The derived row of a group, an absent group read as all zeros. -/
def derivedColumns (derived : List DerivedBalance) (budgetAccountId : String)
    (period : Period) : BalanceColumns :=
  ((derived.find? fun row =>
    (row.budgetAccountId, row.period) = (budgetAccountId, period)).map
      DerivedBalance.columns).getD .zero

def grantAll (db : BudgetDb) (calls : List (GrantRequest × Stamp)) : BudgetDb :=
  calls.foldl (fun current call => (grant current call.1 call.2).1) db

inductive Bucket where
  | base
  | selfService
  | admin
  | automatic
  | refund
  deriving DecidableEq, Repr

/-- What the two mappings are for: every source but `correction` feeds one
bucket. -/
def bucketOf : GrantSource → Option Bucket
  | .base => some .base
  | .migration => some .base
  | .selfService => some .selfService
  | .admin => some .admin
  | .manualApproval => some .admin
  | .promotion => some .admin
  | .automatic => some .automatic
  | .refund => some .refund
  | .correction => none

inductive Column where
  | bucket (bucket : Bucket)
  | effective
  | selfServiceCount
  | automaticCount
  deriving DecidableEq, Repr

def BalanceColumns.value (columns : BalanceColumns) : Column → Int
  | .bucket .base => columns.baseTotalMicros.toInt
  | .bucket .selfService => columns.selfServiceTotalMicros.toInt
  | .bucket .admin => columns.adminTotalMicros.toInt
  | .bucket .automatic => columns.automaticTotalMicros.toInt
  | .bucket .refund => columns.refundTotalMicros.toInt
  | .effective => columns.effectiveBudgetMicros.toInt
  | .selfServiceCount => columns.selfServiceGrantCount.toInt
  | .automaticCount => columns.automaticGrantCount.toInt

/-- What one grant adds to a column, through `bucketOf`. -/
def contribution (column : Column) (source : GrantSource) (amount : Int) : Int :=
  match column with
  | .bucket bucket => if bucketOf source = some bucket then amount else 0
  | .effective => amount
  | .selfServiceCount => if bucketOf source = some .selfService then 1 else 0
  | .automaticCount => if bucketOf source = some .automatic then 1 else 0

def ledgerColumn (rows : List BudgetGrant) (budgetAccountId : String) (period : Period)
    (column : Column) : Int :=
  ((group rows budgetAccountId period).map fun row =>
    contribution column row.source row.amountMicros.toInt).sum

theorem columns_ext {left right : BalanceColumns}
    (same : ∀ column, left.value column = right.value column) : left = right := by
  have base := same (.bucket .base)
  have selfService := same (.bucket .selfService)
  have admin := same (.bucket .admin)
  have automatic := same (.bucket .automatic)
  have refund := same (.bucket .refund)
  have effective := same .effective
  have selfServiceCount := same .selfServiceCount
  have automaticCount := same .automaticCount
  cases left
  cases right
  simp only [BalanceColumns.value, Int64.toInt_inj, Int32.toInt_inj] at *
  simp [*]

theorem zero_value (column : Column) : BalanceColumns.zero.value column = 0 := by
  cases column with
  | bucket bucket => cases bucket <;> rfl
  | effective => rfl
  | selfServiceCount => rfl
  | automaticCount => rfl

theorem case_when_bucket (bucket : Bucket) (source : GrantSource) (amount : Int) :
    caseWhen (match bucket with
      | .base => [.base, .migration]
      | .selfService => [.selfService]
      | .admin => [.admin, .manualApproval, .promotion]
      | .automatic => [.automatic]
      | .refund => [.refund]) source amount =
      if bucketOf source = some bucket then amount else 0 := by
  cases bucket <;> cases source <;> rfl

theorem credit_value {row credited : BalanceRow} {source : GrantSource} {amountMicros : Int64}
    {now : Instant} (added : credit row source amountMicros now = some credited)
    (column : Column) :
    (rowColumns credited).value column =
      (rowColumns row).value column + contribution column source amountMicros.toInt := by
  simp only [credit, Option.bind_eq_bind, Option.bind_eq_some_iff, Option.some.injEq] at added
  obtain ⟨base, hBase, selfService, hSelf, admin, hAdmin, automatic, hAutomatic, refund,
    hRefund, effective, hEffective, selfCount, hSelfCount, autoCount, hAutoCount, version,
    hVersion, rfl⟩ := added
  rw [to_bigint_some] at hBase hSelf hAdmin hAutomatic hRefund hEffective
  rw [to_integer_some] at hSelfCount hAutoCount
  cases column with
  | bucket bucket =>
      have mapped := case_when_bucket bucket source amountMicros.toInt
      cases bucket <;>
        simp only [rowColumns, BalanceColumns.value, contribution, hBase, hSelf, hAdmin,
          hAutomatic, hRefund, mapped]
  | effective => simp only [rowColumns, BalanceColumns.value, contribution, hEffective]
  | selfServiceCount =>
      have mapped := case_when_bucket .selfService source 1
      simp only [rowColumns, BalanceColumns.value, contribution, hSelfCount, mapped]
  | automaticCount =>
      have mapped := case_when_bucket .automatic source 1
      simp only [rowColumns, BalanceColumns.value, contribution, hAutoCount, mapped]

def Replays (db : BudgetDb) : Prop :=
  ∀ budgetAccountId period column,
    (storedColumns db budgetAccountId period).value column =
      ledgerColumn db.grants budgetAccountId period column

theorem empty_replays (accounts projects : List String) :
    Replays (BudgetDb.empty accounts projects) := by
  intro budgetAccountId period column
  exact zero_value column

theorem stored_columns_bootstrapped (db : BudgetDb) (request : GrantRequest) (now : Instant)
    (budgetAccountId : String) (period : Period) :
    storedColumns { db with balances := bootstrappedBalances db request now }
      budgetAccountId period = storedColumns db budgetAccountId period := by
  unfold storedColumns getBalance bootstrappedBalances
  split_ifs with present
  · rfl
  · simp only [find_key_append]
    cases findKey balanceKey db.balances (budgetAccountId, period) with
    | some row => rfl
    | none =>
        by_cases same : balanceKey (zeroBalance request.budgetAccountId request.period now) =
            some (budgetAccountId, period)
        · rw [if_pos same]
          rfl
        · rw [if_neg same]
          rfl

theorem ledger_column_append (rows : List BudgetGrant) (fresh : BudgetGrant)
    (budgetAccountId : String) (period : Period) (column : Column) :
    ledgerColumn (rows ++ [fresh]) budgetAccountId period column =
      ledgerColumn rows budgetAccountId period column +
        if groupKey fresh = (budgetAccountId, period) then
          contribution column fresh.source fresh.amountMicros.toInt
        else 0 := by
  unfold ledgerColumn group
  rw [List.filter_append, List.map_append, List.sum_append]
  by_cases same : groupKey fresh = (budgetAccountId, period)
  · simp [same]
  · simp [same]

theorem grant_preserves_replay {db next : BudgetDb} (replays : Replays db)
    {request : GrantRequest} {stamp : Stamp} {answer : Except BudgetError BudgetGrant}
    (ran : grant db request stamp = (next, answer)) : Replays next := by
  intro budgetAccountId period column
  have before := replays budgetAccountId period column
  rw [← stored_columns_bootstrapped db request stamp.now] at before
  cases grant_outcome ran with
  | refused error => exact replays budgetAccountId period column
  | replayed keyed stored => exact before
  | @inserted old credited signed freshKey freshId known locked added =>
      rw [ledger_column_append, ← before]
      have keyed : balanceKey credited =
          some (request.budgetAccountId, request.period) := by
        rw [credit_key added]
        exact (find_key_some locked).2
      by_cases same : (request.budgetAccountId, request.period) = (budgetAccountId, period)
      · obtain ⟨sameAccount, samePeriod⟩ := Prod.mk.inj same
        subst sameAccount samePeriod
        have after := find_key_update_same (fun _ => credited) locked keyed
        simp only [storedColumns, getBalance, after, locked, Option.map_some,
          Option.getD_some]
        rw [credit_value added column]
        simp [groupKey, grantRow]
      · have after : findKey balanceKey
            (updateKey balanceKey (bootstrappedBalances db request stamp.now)
              (request.budgetAccountId, request.period) fun _ => credited)
            (budgetAccountId, period) =
            findKey balanceKey (bootstrappedBalances db request stamp.now)
              (budgetAccountId, period) := by
          apply find_key_update_other
          · intro row member rowKey
            exact keyed
          · exact Ne.symm same
        have otherGroup : ¬ groupKey (grantRow request stamp) = (budgetAccountId, period) := same
        simp only [storedColumns, getBalance, after]
        rw [if_neg otherGroup, Int.add_zero]

theorem grant_all_replays {db : BudgetDb} (replays : Replays db)
    (calls : List (GrantRequest × Stamp)) : Replays (grantAll db calls) := by
  induction calls generalizing db with
  | nil => exact replays
  | cons call rest ih => exact ih (grant_preserves_replay replays rfl)

theorem sum_case_bucket (bucket : Bucket) (value : BudgetGrant → Int)
    (rows : List BudgetGrant) :
    sumCase (match bucket with
      | .base => [.base, .migration]
      | .selfService => [.selfService]
      | .admin => [.admin, .manualApproval, .promotion]
      | .automatic => [.automatic]
      | .refund => [.refund]) value rows =
      (rows.map fun row => if bucketOf row.source = some bucket then value row else 0).sum := by
  unfold sumCase
  congr 1
  apply List.map_congr_left
  intro row member
  exact case_when_bucket bucket row.source (value row)

theorem derive_columns_of_sums {rows : List BudgetGrant} {columns : BalanceColumns}
    (sums : ∀ column, columns.value column =
      (rows.map fun row => contribution column row.source row.amountMicros.toInt).sum) :
    deriveColumns rows = some columns := by
  have base := sums (.bucket .base)
  have selfService := sums (.bucket .selfService)
  have admin := sums (.bucket .admin)
  have automatic := sums (.bucket .automatic)
  have refund := sums (.bucket .refund)
  have effective := sums .effective
  have selfCount := sums .selfServiceCount
  have autoCount := sums .automaticCount
  simp only [BalanceColumns.value, contribution] at base selfService admin automatic refund
  simp only [BalanceColumns.value, contribution] at effective selfCount autoCount
  rw [← sum_case_bucket .base fun row => row.amountMicros.toInt] at base
  rw [← sum_case_bucket .selfService fun row => row.amountMicros.toInt] at selfService
  rw [← sum_case_bucket .admin fun row => row.amountMicros.toInt] at admin
  rw [← sum_case_bucket .automatic fun row => row.amountMicros.toInt] at automatic
  rw [← sum_case_bucket .refund fun row => row.amountMicros.toInt] at refund
  rw [← sum_case_bucket .selfService (fun _ => 1)] at selfCount
  rw [← sum_case_bucket .automatic (fun _ => 1)] at autoCount
  unfold deriveColumns
  simp [to_bigint_some.mpr base, to_bigint_some.mpr selfService, to_bigint_some.mpr admin,
    to_bigint_some.mpr automatic, to_bigint_some.mpr refund, to_bigint_some.mpr effective,
    to_integer_some.mpr selfCount, to_integer_some.mpr autoCount]

theorem derive_balance_of_replays {db : BudgetDb} (replays : Replays db)
    (key : String × Period) :
    deriveBalance db key =
      .ok { budgetAccountId := key.1, period := key.2,
            columns := storedColumns db key.1 key.2 } := by
  unfold deriveBalance
  rw [derive_columns_of_sums fun column => replays key.1 key.2 column]

theorem mapM_ok_of_forall {Item Value Error : Type} (items : List Item)
    (compute : Item → Except Error Value) (value : Item → Value)
    (each : ∀ item, compute item = .ok (value item)) :
    items.mapM compute = .ok (items.map value) := by
  induction items with
  | nil => rfl
  | cons item rest ih =>
      rw [List.mapM_cons, each, ih]
      rfl

theorem stored_columns_of_absent_group {db : BudgetDb} (replays : Replays db)
    {budgetAccountId : String} {period : Period}
    (absent : (budgetAccountId, period) ∉ db.grants.map groupKey) :
    storedColumns db budgetAccountId period = .zero := by
  apply columns_ext
  intro column
  have noRows : group db.grants budgetAccountId period = [] := by
    refine List.filter_eq_nil_iff.mpr fun row member same => absent ?_
    exact List.mem_map.mpr ⟨row, member, by simpa using same⟩
  rw [replays, zero_value, ledgerColumn, noRows]
  rfl

theorem derived_columns_map (keys : List (String × Period))
    (columnsOf : String × Period → BalanceColumns) (budgetAccountId : String)
    (period : Period) :
    derivedColumns (keys.map fun key =>
        { budgetAccountId := key.1, period := key.2, columns := columnsOf key })
      budgetAccountId period =
      if (budgetAccountId, period) ∈ keys then columnsOf (budgetAccountId, period)
      else .zero := by
  induction keys with
  | nil => rfl
  | cons key rest ih =>
      unfold derivedColumns at ih ⊢
      rw [List.map_cons, List.find?_cons]
      by_cases same : key = (budgetAccountId, period)
      · subst same
        simp
      · have apart : ¬ (key.1, key.2) = (budgetAccountId, period) := same
        have notHead : (budgetAccountId, period) ≠ key := fun equal => same equal.symm
        simp only [apart, decide_false, List.mem_cons, notHead, false_or]
        exact ih

theorem rebuild_of_replays {db : BudgetDb} (replays : Replays db) :
    ∃ derived, rebuildAllBalances db = .ok derived ∧
      ∀ budgetAccountId period,
        derivedColumns derived budgetAccountId period =
          storedColumns db budgetAccountId period := by
  refine ⟨_, mapM_ok_of_forall _ _ _ fun key => derive_balance_of_replays replays key, ?_⟩
  intro budgetAccountId period
  rw [derived_columns_map _ fun key => storedColumns db key.1 key.2]
  split_ifs with present
  · rfl
  · exact (stored_columns_of_absent_group replays fun member =>
      present (List.mem_dedup.mpr member)).symm

theorem replay_changes_no_column {db : BudgetDb} {request : GrantRequest} {key : String}
    (keyed : request.idempotencyKey = some key)
    (held : ∃ row ∈ db.grants, row.idempotencyKey = some key) (stamp : Stamp)
    (budgetAccountId : String) (period : Period) :
    (grant db request stamp).1.grants = db.grants ∧
      storedColumns (grant db request stamp).1 budgetAccountId period =
        storedColumns db budgetAccountId period := by
  rcases ran : grant db request stamp with ⟨next, answer⟩
  cases grant_outcome ran with
  | refused error => exact ⟨rfl, rfl⟩
  | replayed otherKeyed stored => exact ⟨rfl, stored_columns_bootstrapped db request _ _ _⟩
  | inserted signed freshKey freshId known locked added =>
      obtain ⟨row, member, rowKey⟩ := held
      exact absurd rowKey (freshKey key keyed row member)

/-- After any sequence of grant calls from empty tables the stored balances are
the rebuilt ledger in all eight columns; the effective budget is the sum of
all amounts, every bucket the sum of the amounts of its own sources, no source
but `correction` is outside the buckets, and a replayed key moves nothing. -/
theorem stored_balances_equal_rebuilt_ledger (accounts projects : List String)
    (calls : List (GrantRequest × Stamp)) :
    ∃ derived,
      rebuildAllBalances (grantAll (BudgetDb.empty accounts projects) calls) = .ok derived ∧
      ∀ budgetAccountId period,
        storedColumns (grantAll (BudgetDb.empty accounts projects) calls)
            budgetAccountId period =
          derivedColumns derived budgetAccountId period ∧
        (storedColumns (grantAll (BudgetDb.empty accounts projects) calls)
            budgetAccountId period).effectiveBudgetMicros.toInt =
          ((group (grantAll (BudgetDb.empty accounts projects) calls).grants
            budgetAccountId period).map fun row => row.amountMicros.toInt).sum ∧
        (∀ bucket,
          (storedColumns (grantAll (BudgetDb.empty accounts projects) calls)
              budgetAccountId period).value (.bucket bucket) =
            (((group (grantAll (BudgetDb.empty accounts projects) calls).grants
              budgetAccountId period).filter fun row =>
                bucketOf row.source = some bucket).map fun row =>
                  row.amountMicros.toInt).sum) ∧
        (∀ source, bucketOf source = none ↔ source = .correction) ∧
        ∀ request stamp key, request.idempotencyKey = some key →
          (∃ row ∈ (grantAll (BudgetDb.empty accounts projects) calls).grants,
            row.idempotencyKey = some key) →
          storedColumns
              (grant (grantAll (BudgetDb.empty accounts projects) calls) request stamp).1
              budgetAccountId period =
            storedColumns (grantAll (BudgetDb.empty accounts projects) calls)
              budgetAccountId period := by
  have replays := grant_all_replays (empty_replays accounts projects) calls
  obtain ⟨derived, rebuilt, agrees⟩ := rebuild_of_replays replays
  refine ⟨derived, rebuilt, fun budgetAccountId period => ⟨?_, ?_, ?_, ?_, ?_⟩⟩
  · exact (agrees budgetAccountId period).symm
  · exact replays budgetAccountId period .effective
  · intro bucket
    rw [replays budgetAccountId period (.bucket bucket), ledgerColumn]
    simp only [contribution]
    rw [List.sum_map_ite]
    simp
  · intro source
    cases source <;> simp [bucketOf]
  · intro request stamp key keyed held
    exact (replay_changes_no_column keyed held stamp budgetAccountId period).2

end LightbridgeAuthz.Budget.LedgerReplay
