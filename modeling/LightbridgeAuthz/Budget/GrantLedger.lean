import LightbridgeAuthz.Library.CheckedInt
import LightbridgeAuthz.Library.KeyedRows
import LightbridgeAuthz.Budget.Domain

/-!
# The grant ledger

`BudgetRepo::grant` as the database runs it: bootstrap and lock the balance
row, insert the grant unless its idempotency key is taken, and credit the
balance only for a fresh insert. The transaction is atomic, so it is one
function on the tables; an error rolls all of it back. `grant_outcome` says
once what a call can do, and every later proof goes through it.
-/

namespace LightbridgeAuthz.Budget.GrantLedger

open Library.CheckedInt Library.KeyedRows
open Domain

set_option autoImplicit false

/-- The tables the budget domain writes, and the ids its foreign keys point
at. -/
structure BudgetDb where
  accounts : List String
  projects : List String
  grants : List BudgetGrant
  balances : List BalanceRow
  requests : List AugmentationRequest

def BudgetDb.empty (accounts projects : List String) : BudgetDb where
  accounts := accounts
  projects := projects
  grants := []
  balances := []
  requests := []

def grantId (row : BudgetGrant) : Option String := some row.id

def balanceKey (row : BalanceRow) : Option (String × Period) :=
  some (row.budgetAccountId, row.period)

def validateAmountSign (source : GrantSource) (amountMicros : Int64) :
    Except BudgetError Unit :=
  let signIsValid : Bool :=
    match source with
    | .correction => amountMicros != 0
    | _ => 0 < amountMicros
  if signIsValid then .ok () else .error (.invalidAmount amountMicros)

def zeroBalance (budgetAccountId : String) (period : Period) (now : Instant) : BalanceRow where
  budgetAccountId := budgetAccountId
  period := period
  baseTotalMicros := 0
  selfServiceTotalMicros := 0
  adminTotalMicros := 0
  automaticTotalMicros := 0
  refundTotalMicros := 0
  effectiveBudgetMicros := 0
  selfServiceGrantCount := 0
  automaticGrantCount := 0
  version := 0
  updatedAt := now

/-- `INSERT INTO budget_balances … ON CONFLICT DO NOTHING`. The following
`SELECT … FOR UPDATE` then always finds its row. -/
def bootstrapBalance (db : BudgetDb) (budgetAccountId : String) (period : Period)
    (now : Instant) : Except StorageFailure BudgetDb :=
  if conflicts balanceKey db.balances (some (budgetAccountId, period)) then .ok db
  else if budgetAccountId ∈ db.accounts then
    .ok { db with balances := db.balances ++ [zeroBalance budgetAccountId period now] }
  else .error (.foreignKeyViolation "budget_balances_budget_account_id_fkey")

def grantRow (request : GrantRequest) (stamp : Stamp) : BudgetGrant where
  id := stamp.id
  budgetAccountId := request.budgetAccountId
  accountId := request.accountId
  projectId := request.projectId
  period := request.period
  amountMicros := request.amountMicros
  source := request.source
  actorId := request.actorId
  reason := request.reason
  policyRevision := request.policyRevision
  matchedRuleIds := request.matchedRuleIds
  idempotencyKey := request.idempotencyKey
  triggerKey := request.triggerKey
  createdAt := stamp.now
  expiresAt := request.expiresAt
  revokedAt := none

/-- `GRANT_INSERT_SQL`. Only the idempotency key has an `ON CONFLICT` arm; a
clash on the primary key or on `trigger_key` is an error. The sign and period
checks of the table cannot fail here: `validateAmountSign` and `Period` have
made them already. -/
def insertGrant (db : BudgetDb) (request : GrantRequest) (stamp : Stamp) :
    Except StorageFailure (BudgetDb × Option BudgetGrant) :=
  if conflicts BudgetGrant.idempotencyKey db.grants request.idempotencyKey then .ok (db, none)
  else if conflicts grantId db.grants (some stamp.id) then
    .error (.uniqueViolation "budget_grants_pkey")
  else if conflicts BudgetGrant.triggerKey db.grants request.triggerKey then
    .error (.uniqueViolation "budget_grants_trigger_key_uidx")
  else if request.budgetAccountId ∉ db.accounts then
    .error (.foreignKeyViolation "budget_grants_budget_account_id_fkey")
  else if request.accountId ∉ db.accounts then
    .error (.foreignKeyViolation "budget_grants_account_id_fkey")
  else if ∃ project ∈ request.projectId, project ∉ db.projects then
    .error (.foreignKeyViolation "budget_grants_project_id_fkey")
  else
    .ok ({ db with grants := db.grants ++ [grantRow request stamp] },
      some (grantRow request stamp))

/-- The `CASE WHEN $3 IN (…) THEN $4 ELSE 0 END` of the balance update. -/
def caseWhen (sources : List GrantSource) (source : GrantSource) (amount : Int) : Int :=
  if source ∈ sources then amount else 0

/-- The `SET` list of the balance update; `none` is an out-of-range column. -/
def credit (row : BalanceRow) (source : GrantSource) (amountMicros : Int64) (now : Instant) :
    Option BalanceRow := do
  let amount := amountMicros.toInt
  let baseTotalMicros ← toBigint
    (row.baseTotalMicros.toInt + caseWhen [.base, .migration] source amount)
  let selfServiceTotalMicros ← toBigint
    (row.selfServiceTotalMicros.toInt + caseWhen [.selfService] source amount)
  let adminTotalMicros ← toBigint
    (row.adminTotalMicros.toInt + caseWhen [.admin, .manualApproval, .promotion] source amount)
  let automaticTotalMicros ← toBigint
    (row.automaticTotalMicros.toInt + caseWhen [.automatic] source amount)
  let refundTotalMicros ← toBigint
    (row.refundTotalMicros.toInt + caseWhen [.refund] source amount)
  let effectiveBudgetMicros ← toBigint (row.effectiveBudgetMicros.toInt + amount)
  let selfServiceGrantCount ← toInteger
    (row.selfServiceGrantCount.toInt + caseWhen [.selfService] source 1)
  let automaticGrantCount ← toInteger
    (row.automaticGrantCount.toInt + caseWhen [.automatic] source 1)
  let version ← toBigint (row.version.toInt + 1)
  some
    { budgetAccountId := row.budgetAccountId
      period := row.period
      baseTotalMicros := baseTotalMicros
      selfServiceTotalMicros := selfServiceTotalMicros
      adminTotalMicros := adminTotalMicros
      automaticTotalMicros := automaticTotalMicros
      refundTotalMicros := refundTotalMicros
      effectiveBudgetMicros := effectiveBudgetMicros
      selfServiceGrantCount := selfServiceGrantCount
      automaticGrantCount := automaticGrantCount
      version := version
      updatedAt := now }

/-- `UPDATE budget_balances … WHERE budget_account_id = $1 AND period = $2`. -/
def creditBalance (db : BudgetDb) (request : GrantRequest) (now : Instant) :
    Except StorageFailure BudgetDb :=
  match findKey balanceKey db.balances (request.budgetAccountId, request.period) with
  | none => .ok db
  | some row =>
      match credit row request.source request.amountMicros now with
      | none => .error .numericOutOfRange
      | some credited =>
          .ok
            { db with
              balances := updateKey balanceKey db.balances
                (request.budgetAccountId, request.period) fun _ => credited }

def grantTransaction (db : BudgetDb) (request : GrantRequest) (stamp : Stamp) :
    Except StorageFailure (BudgetDb × BudgetGrant) := do
  let bootstrapped ← bootstrapBalance db request.budgetAccountId request.period stamp.now
  let (written, inserted) ← insertGrant bootstrapped request stamp
  match inserted with
  | some row =>
      let credited ← creditBalance written request stamp.now
      return (credited, row)
  | none =>
      match request.idempotencyKey.bind
          (findKey BudgetGrant.idempotencyKey written.grants) with
      | some row => return (written, row)
      | none => throw .rowNotFound

/-- `BudgetRepo::grant`: the tables after the call, and its answer. -/
def grant (db : BudgetDb) (request : GrantRequest) (stamp : Stamp) :
    BudgetDb × Except BudgetError BudgetGrant :=
  match validateAmountSign request.source request.amountMicros with
  | .error error => (db, .error error)
  | .ok () =>
      match grantTransaction db request stamp with
      | .error failure => (db, .error (.storageFailed failure))
      | .ok (committed, row) => (committed, .ok row)

/-- The balance rows once the transaction has made sure its own row exists. -/
def bootstrappedBalances (db : BudgetDb) (request : GrantRequest) (now : Instant) :
    List BalanceRow :=
  if conflicts balanceKey db.balances (some (request.budgetAccountId, request.period)) then
    db.balances
  else db.balances ++ [zeroBalance request.budgetAccountId request.period now]

/-- Everything a `grant` call can do. -/
inductive GrantOutcome (db : BudgetDb) (request : GrantRequest) (stamp : Stamp) :
    BudgetDb → Except BudgetError BudgetGrant → Prop where
  | refused (error : BudgetError) : GrantOutcome db request stamp db (.error error)
  | replayed {key : String} {row : BudgetGrant}
      (keyed : request.idempotencyKey = some key)
      (stored : findKey BudgetGrant.idempotencyKey db.grants key = some row) :
      GrantOutcome db request stamp
        { db with balances := bootstrappedBalances db request stamp.now } (.ok row)
  | inserted {old credited : BalanceRow}
      (signed : validateAmountSign request.source request.amountMicros = .ok ())
      (freshKey : ∀ key, request.idempotencyKey = some key →
        ∀ row ∈ db.grants, row.idempotencyKey ≠ some key)
      (freshId : ∀ row ∈ db.grants, row.id ≠ stamp.id)
      (known : request.budgetAccountId ∈ db.accounts)
      (locked : findKey balanceKey (bootstrappedBalances db request stamp.now)
        (request.budgetAccountId, request.period) = some old)
      (added : credit old request.source request.amountMicros stamp.now = some credited) :
      GrantOutcome db request stamp
        { db with
          grants := db.grants ++ [grantRow request stamp]
          balances := updateKey balanceKey (bootstrappedBalances db request stamp.now)
            (request.budgetAccountId, request.period) fun _ => credited }
        (.ok (grantRow request stamp))

theorem bootstrap_balance_ok {db bootstrapped : BudgetDb} {request : GrantRequest}
    {now : Instant}
    (booted : bootstrapBalance db request.budgetAccountId request.period now =
      .ok bootstrapped) :
    bootstrapped = { db with balances := bootstrappedBalances db request now } := by
  unfold bootstrapBalance at booted
  unfold bootstrappedBalances
  split_ifs at booted ⊢
  · exact (Except.ok.inj booted).symm
  · exact (Except.ok.inj booted).symm

theorem find_bootstrapped_balance (db : BudgetDb) (request : GrantRequest) (now : Instant) :
    ∃ row, findKey balanceKey (bootstrappedBalances db request now)
      (request.budgetAccountId, request.period) = some row := by
  unfold bootstrappedBalances
  split_ifs with present
  · obtain ⟨key, row, same, found⟩ := conflicts_true present
    exact ⟨row, by rw [Option.some.inj same]; exact found⟩
  · exact find_key_of_mem (List.mem_append_right _ (List.mem_singleton_self _)) rfl

theorem insert_grant_ok {db written : BudgetDb} {request : GrantRequest} {stamp : Stamp}
    {inserted : Option BudgetGrant}
    (ran : insertGrant db request stamp = .ok (written, inserted)) :
    (written = db ∧ inserted = none ∧
        conflicts BudgetGrant.idempotencyKey db.grants request.idempotencyKey = true) ∨
      (written = { db with grants := db.grants ++ [grantRow request stamp] } ∧
        inserted = some (grantRow request stamp) ∧
        ¬ conflicts BudgetGrant.idempotencyKey db.grants request.idempotencyKey = true ∧
        ¬ conflicts grantId db.grants (some stamp.id) = true ∧
        request.budgetAccountId ∈ db.accounts) := by
  unfold insertGrant at ran
  split_ifs at ran with keyTaken idTaken triggerTaken noBudgetAccount noAccount noProject
  · obtain ⟨same, nothing⟩ := Prod.mk.inj (Except.ok.inj ran)
    exact Or.inl ⟨same.symm, nothing.symm, keyTaken⟩
  · obtain ⟨same, row⟩ := Prod.mk.inj (Except.ok.inj ran)
    exact Or.inr ⟨same.symm, row.symm, keyTaken, idTaken, by simpa using noBudgetAccount⟩

theorem grant_transaction_ok {db committed : BudgetDb} {request : GrantRequest}
    {stamp : Stamp} {row : BudgetGrant}
    (signed : validateAmountSign request.source request.amountMicros = .ok ())
    (ran : grantTransaction db request stamp = .ok (committed, row)) :
    GrantOutcome db request stamp committed (.ok row) := by
  unfold grantTransaction at ran
  cases booted : bootstrapBalance db request.budgetAccountId request.period stamp.now with
  | error failure => simp [booted, bind, Except.bind] at ran
  | ok bootstrapped =>
      obtain rfl := bootstrap_balance_ok booted
      cases inserting : insertGrant
          { db with balances := bootstrappedBalances db request stamp.now } request stamp with
      | error failure => simp [booted, inserting, bind, Except.bind] at ran
      | ok result =>
          obtain ⟨written, inserted⟩ := result
          simp only [booted, inserting, bind, Except.bind] at ran
          rcases insert_grant_ok inserting with
            ⟨sameDb, nothing, taken⟩ | ⟨grownDb, inserts, freeKey, freeId, known⟩
          · subst sameDb nothing
            obtain ⟨key, stored, keyed, found⟩ := conflicts_true taken
            simp only [keyed, Option.bind_some, found, pure, Except.pure, Except.ok.injEq,
              Prod.mk.injEq] at ran
            obtain ⟨sameCommitted, sameRow⟩ := ran
            subst sameCommitted sameRow
            exact .replayed keyed found
          · obtain ⟨old, locked⟩ := find_bootstrapped_balance db request stamp.now
            subst grownDb inserts
            simp only [creditBalance, locked] at ran
            cases added : credit old request.source request.amountMicros stamp.now with
            | none => simp [added] at ran
            | some credited =>
                simp only [added, pure, Except.pure, Except.ok.injEq, Prod.mk.injEq] at ran
                obtain ⟨sameCommitted, sameRow⟩ := ran
                subst sameCommitted sameRow
                refine .inserted signed ?_ ?_ known locked added
                · exact apart_of_not_conflicts freeKey
                · intro other member sameId
                  exact apart_of_not_conflicts freeId stamp.id rfl other member
                    (by simp [grantId, sameId])

/-- The inversion principle of the ledger: a call is refused and changes
nothing, replays the row that holds its key, or inserts and credits. -/
theorem grant_outcome {db next : BudgetDb} {request : GrantRequest} {stamp : Stamp}
    {answer : Except BudgetError BudgetGrant} (ran : grant db request stamp = (next, answer)) :
    GrantOutcome db request stamp next answer := by
  unfold grant at ran
  cases signed : validateAmountSign request.source request.amountMicros with
  | error error =>
      simp only [signed, Prod.mk.injEq] at ran
      rw [← ran.1, ← ran.2]
      exact .refused error
  | ok _ =>
      cases transacted : grantTransaction db request stamp with
      | error failure =>
          simp only [signed, transacted, Prod.mk.injEq] at ran
          rw [← ran.1, ← ran.2]
          exact .refused _
      | ok result =>
          simp only [signed, transacted, Prod.mk.injEq] at ran
          rw [← ran.1, ← ran.2]
          exact grant_transaction_ok signed transacted

theorem credit_key {row credited : BalanceRow} {source : GrantSource} {amountMicros : Int64}
    {now : Instant} (added : credit row source amountMicros now = some credited) :
    balanceKey credited = balanceKey row := by
  simp only [credit, Option.bind_eq_bind, Option.bind_eq_some_iff, Option.some.injEq] at added
  obtain ⟨_, _, _, _, _, _, _, _, _, _, _, _, _, _, _, _, _, _, rfl⟩ := added
  rfl

theorem grant_ok_balance {db next : BudgetDb} {request : GrantRequest} {stamp : Stamp}
    {row : BudgetGrant} (ran : grant db request stamp = (next, .ok row)) :
    conflicts balanceKey next.balances (some (request.budgetAccountId, request.period)) =
      true := by
  cases grant_outcome ran with
  | replayed keyed stored =>
      obtain ⟨balance, found⟩ := find_bootstrapped_balance db request stamp.now
      simp [conflicts, found]
  | @inserted old credited signed freshKey freshId known locked added =>
      have keyed := (credit_key added).trans (find_key_some locked).2
      simp [conflicts, find_key_update_same (fun _ => credited) locked keyed]

theorem grant_taken_key_unchanged {db : BudgetDb} {request : GrantRequest} {key : String}
    (keyed : request.idempotencyKey = some key)
    (held : ∃ row ∈ db.grants, row.idempotencyKey = some key)
    (balanced : conflicts balanceKey db.balances
      (some (request.budgetAccountId, request.period)) = true) (stamp : Stamp) :
    (grant db request stamp).1 = db := by
  rcases ran : grant db request stamp with ⟨next, answer⟩
  cases grant_outcome ran with
  | refused error => rfl
  | replayed otherKeyed stored => simp [bootstrappedBalances, balanced]
  | inserted signed freshKey freshId known locked added =>
      obtain ⟨row, member, rowKey⟩ := held
      exact absurd rowKey (freshKey key keyed row member)

/-- What the unique indexes of `budget_grants` and the insert statement
promise of every row: no statement ever sets `revoked_at`. -/
structure LedgerIntegrity (db : BudgetDb) : Prop where
  uniqueIds : UniqueKeys grantId db.grants
  uniqueIdempotencyKeys : UniqueKeys BudgetGrant.idempotencyKey db.grants
  neverRevoked : ∀ row ∈ db.grants, row.revokedAt = none

theorem empty_integrity (accounts projects : List String) :
    LedgerIntegrity (BudgetDb.empty accounts projects) where
  uniqueIds := unique_keys_nil
  uniqueIdempotencyKeys := unique_keys_nil
  neverRevoked := by simp [BudgetDb.empty]

theorem grant_preserves_integrity {db next : BudgetDb} {request : GrantRequest} {stamp : Stamp}
    {answer : Except BudgetError BudgetGrant} (integrity : LedgerIntegrity db)
    (ran : grant db request stamp = (next, answer)) : LedgerIntegrity next := by
  cases grant_outcome ran with
  | refused error => exact integrity
  | replayed keyed stored =>
      exact ⟨integrity.uniqueIds, integrity.uniqueIdempotencyKeys, integrity.neverRevoked⟩
  | inserted signed freshKey freshId known locked added =>
      constructor
      · apply unique_keys_append integrity.uniqueIds
        intro id sameId row member rowId
        apply freshId row member
        simp only [grantId, grantRow, Option.some.injEq] at sameId rowId
        rw [rowId, sameId]
      · exact unique_keys_append integrity.uniqueIdempotencyKeys freshKey
      · intro row member
        rcases List.mem_append.mp member with stored | fresh
        · exact integrity.neverRevoked row stored
        · rw [List.mem_singleton.mp fresh]
          rfl

theorem grant_appends {db next : BudgetDb} {request : GrantRequest} {stamp : Stamp}
    {answer : Except BudgetError BudgetGrant} (ran : grant db request stamp = (next, answer)) :
    next.grants = db.grants ∨
      next.grants = db.grants ++ [grantRow request stamp] ∧
        answer = .ok (grantRow request stamp) := by
  cases grant_outcome ran with
  | refused error => exact Or.inl rfl
  | replayed keyed stored => exact Or.inl rfl
  | inserted signed freshKey freshId known locked added => exact Or.inr ⟨rfl, rfl⟩

theorem grant_frame {db next : BudgetDb} {request : GrantRequest} {stamp : Stamp}
    {answer : Except BudgetError BudgetGrant} (ran : grant db request stamp = (next, answer)) :
    next.requests = db.requests ∧ next.accounts = db.accounts ∧
      next.projects = db.projects := by
  cases grant_outcome ran with
  | refused error => exact ⟨rfl, rfl, rfl⟩
  | replayed keyed stored => exact ⟨rfl, rfl, rfl⟩
  | inserted signed freshKey freshId known locked added => exact ⟨rfl, rfl, rfl⟩

theorem mem_grants_of_grant {db next : BudgetDb} {request : GrantRequest} {stamp : Stamp}
    {answer : Except BudgetError BudgetGrant} (ran : grant db request stamp = (next, answer))
    {row : BudgetGrant} (member : row ∈ db.grants) : row ∈ next.grants := by
  rcases grant_appends ran with same | ⟨grown, _⟩
  · rwa [same]
  · rw [grown]
    exact List.mem_append_left _ member

theorem grant_ok_mem {db next : BudgetDb} {request : GrantRequest} {stamp : Stamp}
    {row : BudgetGrant} (ran : grant db request stamp = (next, .ok row)) :
    row ∈ next.grants := by
  cases grant_outcome ran with
  | replayed keyed stored => exact (find_key_some stored).1
  | inserted signed freshKey freshId known locked added => simp

theorem grant_ok_key {db next : BudgetDb} {request : GrantRequest} {stamp : Stamp}
    {row : BudgetGrant} (ran : grant db request stamp = (next, .ok row)) :
    row.idempotencyKey = request.idempotencyKey := by
  cases grant_outcome ran with
  | replayed keyed stored => rw [keyed, (find_key_some stored).2]
  | inserted signed freshKey freshId known locked added => rfl

end LightbridgeAuthz.Budget.GrantLedger
