import LightbridgeAuthz.Budget.AugmentationRequests
import LightbridgeAuthz.Budget.ListedPages
import LightbridgeAuthz.Budget.StoredColumns

/-!
# The repositories' statements on the stored columns

The statements as the database sees them: texts are bound, compared and stored, every
inserted or updated row meets its `CHECK` constraints, and what comes back is parsed
again. They refine the repositories of the domain's values, call by call and over any
run of calls.
-/

namespace LightbridgeAuthz.Budget.ColumnStatements

open Library.CheckedInt Library.KeyedRows Library.RowCodecs
open Domain GrantLedger AugmentationRequests LedgerReplay Revocation EffectiveBalance TierStamp
open ListedPages StoredColumns

set_option autoImplicit false

structure ColumnDb where
  accounts : List String
  projects : List String
  grants : List BudgetGrantRow
  balances : List BudgetBalanceRow
  requests : List AugmentationRequestRow
  deriving DecidableEq, Repr

def ColumnDb.empty (accounts projects : List String) : ColumnDb where
  accounts := accounts
  projects := projects
  grants := []
  balances := []
  requests := []

def storedDb (db : BudgetDb) : ColumnDb where
  accounts := db.accounts
  projects := db.projects
  grants := db.grants.map storedGrant
  balances := db.balances.map storedBalance
  requests := db.requests.map storedRequest

def grantRowId (row : BudgetGrantRow) : Option String := some row.id

def balanceRowKey (row : BudgetBalanceRow) : Option (String × String) :=
  some (row.budgetAccountId, row.period)

def requestRowId (row : AugmentationRequestRow) : Option String := some row.id

def checkViolation (relation constraintName : String) : StorageFailure :=
  .message ("new row for relation \"" ++ relation ++ "\" violates check constraint \"" ++
    constraintName ++ "\"")

/-- The values of a new balance row: the columns not named take their defaults. -/
def newBalance (budgetAccountId period : String) (now : Instant) : BudgetBalanceRow where
  budgetAccountId := budgetAccountId
  period := period
  baseTotalMicros := 0
  selfServiceTotalMicros := 0
  adminTotalMicros := 0
  automaticTotalMicros := 0
  refundTotalMicros := 0
  effectiveBudgetMicros := 0
  selfServiceGrantCount := 0
  automaticGrantCount := 0
  version := 0
  updatedAt := now

/-- `INSERT INTO budget_balances … ON CONFLICT DO NOTHING`; the constraints come first. -/
def insertBalanceRow (db : ColumnDb) (budgetAccountId period : String) (now : Instant) :
    Except StorageFailure ColumnDb :=
  match violated (balanceChecks (newBalance budgetAccountId period now)) with
  | some constraintName => .error (checkViolation "budget_balances" constraintName)
  | none =>
      if conflicts balanceRowKey db.balances (some (budgetAccountId, period)) then .ok db
      else if budgetAccountId ∈ db.accounts then
        .ok { db with balances := db.balances ++ [newBalance budgetAccountId period now] }
      else .error (.foreignKeyViolation "budget_balances_budget_account_id_fkey")

/-- The values bound to `GRANT_INSERT_SQL`. -/
def newGrant (request : GrantRequest) (stamp : Stamp) : BudgetGrantRow where
  id := stamp.id
  budgetAccountId := request.budgetAccountId
  accountId := request.accountId
  projectId := request.projectId
  period := request.period.text
  amountMicros := request.amountMicros
  source := GrantSource.asStr request.source
  actorId := request.actorId
  reason := request.reason
  policyRevision := request.policyRevision
  matchedRuleIds := request.matchedRuleIds
  idempotencyKey := request.idempotencyKey
  triggerKey := request.triggerKey
  createdAt := stamp.now
  expiresAt := request.expiresAt
  revokedAt := none

/-- `GRANT_INSERT_SQL`. -/
def insertGrantRow (db : ColumnDb) (row : BudgetGrantRow) :
    Except StorageFailure (ColumnDb × Option BudgetGrantRow) :=
  match violated (grantChecks row) with
  | some constraintName => .error (checkViolation "budget_grants" constraintName)
  | none =>
      if conflicts BudgetGrantRow.idempotencyKey db.grants row.idempotencyKey then .ok (db, none)
      else if conflicts grantRowId db.grants (some row.id) then
        .error (.uniqueViolation "budget_grants_pkey")
      else if conflicts BudgetGrantRow.triggerKey db.grants row.triggerKey then
        .error (.uniqueViolation "budget_grants_trigger_key_uidx")
      else if row.budgetAccountId ∉ db.accounts then
        .error (.foreignKeyViolation "budget_grants_budget_account_id_fkey")
      else if row.accountId ∉ db.accounts then
        .error (.foreignKeyViolation "budget_grants_account_id_fkey")
      else if ∃ project ∈ row.projectId, project ∉ db.projects then
        .error (.foreignKeyViolation "budget_grants_project_id_fkey")
      else .ok ({ db with grants := db.grants ++ [row] }, some row)

/-- `CASE WHEN $3 IN (…) THEN $4 ELSE 0 END`, on the bound text. -/
def caseWhenText (sources : List String) (source : String) (amount : Int) : Int :=
  if source ∈ sources then amount else 0

/-- The `SET` list of the balance update. -/
def creditRow (row : BudgetBalanceRow) (source : String) (amountMicros : Int64) (now : Instant) :
    Option BudgetBalanceRow := do
  let amount := amountMicros.toInt
  let baseTotalMicros ← toBigint
    (row.baseTotalMicros.toInt + caseWhenText ["base", "migration"] source amount)
  let selfServiceTotalMicros ← toBigint
    (row.selfServiceTotalMicros.toInt + caseWhenText ["self_service"] source amount)
  let adminTotalMicros ← toBigint
    (row.adminTotalMicros.toInt +
      caseWhenText ["admin", "manual_approval", "promotion"] source amount)
  let automaticTotalMicros ← toBigint
    (row.automaticTotalMicros.toInt + caseWhenText ["automatic"] source amount)
  let refundTotalMicros ← toBigint
    (row.refundTotalMicros.toInt + caseWhenText ["refund"] source amount)
  let effectiveBudgetMicros ← toBigint (row.effectiveBudgetMicros.toInt + amount)
  let selfServiceGrantCount ← toInteger
    (row.selfServiceGrantCount.toInt + caseWhenText ["self_service"] source 1)
  let automaticGrantCount ← toInteger
    (row.automaticGrantCount.toInt + caseWhenText ["automatic"] source 1)
  let version ← toBigint (row.version.toInt + 1)
  some
    { budgetAccountId := row.budgetAccountId
      period := row.period
      baseTotalMicros := baseTotalMicros
      selfServiceTotalMicros := selfServiceTotalMicros
      adminTotalMicros := adminTotalMicros
      automaticTotalMicros := automaticTotalMicros
      refundTotalMicros := refundTotalMicros
      effectiveBudgetMicros := effectiveBudgetMicros
      selfServiceGrantCount := selfServiceGrantCount
      automaticGrantCount := automaticGrantCount
      version := version
      updatedAt := now }

/-- `UPDATE budget_balances … WHERE budget_account_id = $1 AND period = $2`. -/
def creditBalanceRow (db : ColumnDb) (budgetAccountId period source : String)
    (amountMicros : Int64) (now : Instant) : Except StorageFailure ColumnDb :=
  match findKey balanceRowKey db.balances (budgetAccountId, period) with
  | none => .ok db
  | some row =>
      match creditRow row source amountMicros now with
      | none => .error .numericOutOfRange
      | some credited =>
          .ok
            { db with
              balances := updateKey balanceRowKey db.balances (budgetAccountId, period)
                fun _ => credited }

/-- `BudgetRepo::grant`, between `begin` and `commit`. -/
def grantStatements (db : ColumnDb) (request : GrantRequest) (stamp : Stamp) :
    Except StorageFailure (ColumnDb × BudgetGrantRow) := do
  let period := request.period.text
  let source := GrantSource.asStr request.source
  let bootstrapped ← insertBalanceRow db request.budgetAccountId period stamp.now
  let (written, inserted) ← insertGrantRow bootstrapped (newGrant request stamp)
  match inserted with
  | some row =>
      let credited ← creditBalanceRow written request.budgetAccountId period source
        request.amountMicros stamp.now
      return (credited, row)
  | none =>
      match request.idempotencyKey.bind
          (findKey BudgetGrantRow.idempotencyKey written.grants) with
      | some row => return (written, row)
      | none => throw .rowNotFound

/-- `BudgetRepo::grant`: the row is parsed once the transaction has committed. -/
def grantColumns (db : ColumnDb) (request : GrantRequest) (stamp : Stamp) :
    ColumnDb × Except BudgetError BudgetGrant :=
  match validateAmountSign request.source request.amountMicros with
  | .error error => (db, .error error)
  | .ok () =>
      match grantStatements db request stamp with
      | .error failure => (db, .error (.storageFailed failure))
      | .ok (committed, row) => (committed, readGrant row)

/-- `BudgetRepo::get_grant_by_id`. -/
def getGrantByIdColumns (db : ColumnDb) (id : String) : Except BudgetError BudgetGrant :=
  match findKey grantRowId db.grants id with
  | some row => readGrant row
  | none => .error (.notFound ("budget grant '" ++ id ++ "'"))

/-- `BudgetRepo::get_balance`. -/
def getBalanceColumns (db : ColumnDb) (budgetAccountId : String) (period : Period) :
    Except BudgetError (Option BalanceRow) :=
  match findKey balanceRowKey db.balances (budgetAccountId, period.text) with
  | some row => (readBalance row).map some
  | none => .ok none

/-- `WHERE budget_account_id = $1 AND period = $2`. -/
def groupRows (rows : List BudgetGrantRow) (budgetAccountId period : String) :
    List BudgetGrantRow :=
  rows.filter fun row => (row.budgetAccountId, row.period) = (budgetAccountId, period)

/-- `EFFECTIVE_BALANCE_SQL`. -/
def effectiveBalanceColumns (db : ColumnDb) (budgetAccountId : String) (period : Period)
    (asOf : Instant) : Except BudgetError Int64 :=
  match toBigint (((groupRows db.grants budgetAccountId period.text).filter fun row =>
      (row.expiresAt.all fun expiresAt => asOf < expiresAt) && row.revokedAt.isNone).map
    fun row => row.amountMicros.toInt).sum with
  | some total => .ok total
  | none => .error (.storageFailed .numericOutOfRange)

/-- `SUM(CASE WHEN source IN (…) THEN value ELSE 0 END)`. -/
def sumCaseText (sources : List String) (value : BudgetGrantRow → Int)
    (rows : List BudgetGrantRow) : Int :=
  (rows.map fun row => if row.source ∈ sources then value row else 0).sum

/-- The columns of one group of `REBUILD_ALL_BALANCES_SQL`. -/
def deriveRowColumns (rows : List BudgetGrantRow) : Option BalanceColumns := do
  let amount := fun row : BudgetGrantRow => row.amountMicros.toInt
  let baseTotalMicros ← toBigint (sumCaseText ["base", "migration"] amount rows)
  let selfServiceTotalMicros ← toBigint (sumCaseText ["self_service"] amount rows)
  let adminTotalMicros ← toBigint
    (sumCaseText ["admin", "manual_approval", "promotion"] amount rows)
  let automaticTotalMicros ← toBigint (sumCaseText ["automatic"] amount rows)
  let refundTotalMicros ← toBigint (sumCaseText ["refund"] amount rows)
  let effectiveBudgetMicros ← toBigint (rows.map amount).sum
  let selfServiceGrantCount ← toInteger (sumCaseText ["self_service"] (fun _ => 1) rows)
  let automaticGrantCount ← toInteger (sumCaseText ["automatic"] (fun _ => 1) rows)
  some
    { baseTotalMicros := baseTotalMicros
      selfServiceTotalMicros := selfServiceTotalMicros
      adminTotalMicros := adminTotalMicros
      automaticTotalMicros := automaticTotalMicros
      refundTotalMicros := refundTotalMicros
      effectiveBudgetMicros := effectiveBudgetMicros
      selfServiceGrantCount := selfServiceGrantCount
      automaticGrantCount := automaticGrantCount }

/-- `DerivedBalance`, whose period stays a text. -/
structure DerivedBalanceRow where
  budgetAccountId : String
  period : String
  columns : BalanceColumns
  deriving DecidableEq, Repr

def deriveBalanceRow (db : ColumnDb) (key : String × String) :
    Except BudgetError DerivedBalanceRow :=
  match deriveRowColumns (groupRows db.grants key.1 key.2) with
  | none => .error (.storageFailed .numericOutOfRange)
  | some columns => .ok { budgetAccountId := key.1, period := key.2, columns := columns }

/-- `BudgetRepo::rebuild_all_balances`: `GROUP BY budget_account_id, period`. -/
def rebuildAllBalancesColumns (db : ColumnDb) : Except BudgetError (List DerivedBalanceRow) :=
  (db.grants.map fun row => (row.budgetAccountId, row.period)).dedup.mapM (deriveBalanceRow db)

/-- The rows of `LIST_GRANTS_SQL`, whatever the cursor. -/
def listedGrantRows (grants : List BudgetGrantRow) (budgetAccountId : String)
    (period : Option String) : List BudgetGrantRow :=
  grants.filter fun row =>
    row.budgetAccountId = budgetAccountId ∧ period.all fun only => row.period = only

/-- The rows of `REQUEST_LIST_BY_BUDGET_ACCOUNT_SQL`. -/
def ownRequestRows (requests : List AugmentationRequestRow) (budgetAccountId : String) :
    List AugmentationRequestRow :=
  requests.filter fun row => row.budgetAccountId = budgetAccountId

/-- The rows of `REQUEST_LIST_PENDING_REVIEW_SQL`. -/
def pendingRequestRows (requests : List AugmentationRequestRow)
    (budgetAccountId : Option String) : List AugmentationRequestRow :=
  requests.filter fun row =>
    row.status = "pending_review" ∧ budgetAccountId.all fun only => row.budgetAccountId = only

/-- `source IN ('base','self_service','automatic','admin','manual_approval','promotion')`. -/
def tierRows (rows : List BudgetGrantRow) (budgetAccountId period : String) :
    List BudgetGrantRow :=
  (groupRows rows budgetAccountId period).filter fun row =>
    row.source ∈ ["base", "self_service", "automatic", "admin", "manual_approval", "promotion"]

/-- `ORDER BY created_at DESC LIMIT 1`. -/
def newestRow : List BudgetGrantRow → Option BudgetGrantRow
  | [] => none
  | row :: rest =>
      match newestRow rest with
      | none => some row
      | some later => if row.createdAt < later.createdAt then some later else some row

/-- `BudgetRepo::current_tier`, on the rows the scan returned. -/
def currentTierColumns (scan : Except StorageFailure (List BudgetGrantRow))
    (budgetAccountId : String) (period : Period) : Except BudgetError BudgetTier :=
  match scan with
  | .error failure => .error (.storageFailed failure)
  | .ok rows =>
      match newestRow (tierRows rows budgetAccountId period.text) with
      | some row => .ok ((BudgetTier.fromAmountMicros row.amountMicros).getD .b15)
      | none => .ok .b15

/-- The values bound to `REQUEST_INSERT_SQL`. -/
def newRequest (request : NewAugmentationRequest) (stamp : Stamp) : AugmentationRequestRow where
  id := stamp.id
  budgetAccountId := request.budgetAccountId
  accountId := request.accountId
  projectId := request.projectId
  period := request.period.text
  requestedTier := request.requestedTier.label
  requestedAmountMicros := request.requestedAmountMicros
  status := AugmentationStatus.created.asStr
  policyEffect := none
  policyReasonCodes := none
  matchedRuleIds := none
  policyRevision := none
  approvedAmountMicros := none
  grantId := none
  idempotencyKey := request.idempotencyKey
  reviewedBy := none
  rejectionReason := none
  createdAt := stamp.now
  reviewedAt := none

/-- `AugmentationRepo::create`. -/
def createColumns (db : ColumnDb) (request : NewAugmentationRequest) (stamp : Stamp) :
    ColumnDb × Except BudgetError AugmentationRequest :=
  match violated (requestChecks (newRequest request stamp)) with
  | some constraintName =>
      (db, .error (.storageFailed
        (checkViolation "budget_augmentation_requests" constraintName)))
  | none =>
      if conflicts AugmentationRequestRow.idempotencyKey db.requests request.idempotencyKey then
        match request.idempotencyKey.bind
            (findKey AugmentationRequestRow.idempotencyKey db.requests) with
        | some row => (db, readRequest row)
        | none => (db, .error (.storageFailed .rowNotFound))
      else if conflicts requestRowId db.requests (some stamp.id) then
        (db, .error (.storageFailed (.uniqueViolation "budget_augmentation_requests_pkey")))
      else if request.budgetAccountId ∉ db.accounts then
        (db, .error (.storageFailed
          (.foreignKeyViolation "budget_augmentation_requests_budget_account_id_fkey")))
      else if request.accountId ∉ db.accounts then
        (db, .error (.storageFailed
          (.foreignKeyViolation "budget_augmentation_requests_account_id_fkey")))
      else if ∃ project ∈ request.projectId, project ∉ db.projects then
        (db, .error (.storageFailed
          (.foreignKeyViolation "budget_augmentation_requests_project_id_fkey")))
      else
        ({ db with requests := db.requests ++ [newRequest request stamp] },
          readRequest (newRequest request stamp))

/-- `AugmentationRepo::find_by_idempotency_key`. -/
def findByIdempotencyKeyColumns (db : ColumnDb) (key : String) :
    Except BudgetError (Option AugmentationRequest) :=
  match findKey AugmentationRequestRow.idempotencyKey db.requests key with
  | some row => (readRequest row).map some
  | none => .ok none

/-- `AugmentationRepo::get`. -/
def getColumns (db : ColumnDb) (id : String) : Except BudgetError AugmentationRequest :=
  match findKey requestRowId db.requests id with
  | some row => readRequest row
  | none => .error (.notFound ("augmentation request '" ++ id ++ "'"))

/-- The `SET` list of `REQUEST_UPDATE_DECISION_SQL`. -/
def decidedRow (decision : DecomposedDecision) (row : AugmentationRequestRow) :
    AugmentationRequestRow :=
  { row with
    status := decision.status.asStr
    policyEffect := some (effectToDb decision.policyEffect)
    policyReasonCodes := some decision.policyReasonCodes
    matchedRuleIds := some decision.matchedRuleIds
    policyRevision := some decision.policyRevision
    approvedAmountMicros := decision.approvedAmountMicros
    grantId := decision.grantId }

def danglingGrantRow (db : ColumnDb) (id : Option String) : Bool :=
  match id with
  | none => false
  | some present => (findKey grantRowId db.grants present).isNone

/-- An `UPDATE … WHERE id = $1 … RETURNING` of one request row, on the row it found. -/
def updateRequestRow (db : ColumnDb) (id : String)
    (change : AugmentationRequestRow → AugmentationRequestRow) (row : AugmentationRequestRow) :
    ColumnDb × Except BudgetError AugmentationRequest :=
  match violated (requestChecks (change row)) with
  | some constraintName =>
      (db, .error (.storageFailed
        (checkViolation "budget_augmentation_requests" constraintName)))
  | none =>
      if danglingGrantRow db (change row).grantId then
        (db, .error (.storageFailed
          (.foreignKeyViolation "budget_augmentation_requests_grant_id_fkey")))
      else
        ({ db with requests := updateKey requestRowId db.requests id change },
          readRequest (change row))

/-- `AugmentationRepo::record_decision`. -/
def recordDecisionColumns (db : ColumnDb) (id : String) (decision : RecordedDecision) :
    ColumnDb × Except BudgetError AugmentationRequest :=
  match findKey requestRowId db.requests id with
  | none => (db, .error (.notFound ("augmentation request '" ++ id ++ "'")))
  | some row => updateRequestRow db id (decidedRow decision.decompose) row

/-- The `SET` list of `REQUEST_UPDATE_REVIEW_SQL`. -/
def reviewedRow (status : AugmentationStatus) (reviewedBy : String)
    (rejectionReason grantId : Option String) (now : Instant) (row : AugmentationRequestRow) :
    AugmentationRequestRow :=
  { row with
    status := status.asStr
    reviewedBy := some reviewedBy
    rejectionReason := rejectionReason
    reviewedAt := some now
    grantId := grantId }

/-- `AugmentationRepo::record_review`: `WHERE id = $1 AND status = 'pending_review'`. -/
def recordReviewColumns (db : ColumnDb) (id : String) (status : AugmentationStatus)
    (reviewedBy : String) (rejectionReason grantId : Option String) (now : Instant) :
    ColumnDb × Except BudgetError AugmentationRequest :=
  if status ≠ .approved ∧ status ≠ .denied then
    (db, .error (.invalidReviewOutcome status.asStr))
  else if status = .denied ∧ ¬ ∃ reason ∈ rejectionReason, isBlank reason = false then
    (db, .error .missingRejectionReason)
  else
    match findKey requestRowId db.requests id with
    | none => (db, .error (.alreadyReviewed id))
    | some row =>
        if row.status ≠ "pending_review" then (db, .error (.alreadyReviewed id))
        else updateRequestRow db id (reviewedRow status reviewedBy rejectionReason grantId now) row

section Lookups

theorem balance_keys_stored : StoresKeys storedBalance balanceKey balanceRowKey
    (fun key => (key.1, key.2.text)) where
  injective := by
    rintro ⟨account, period⟩ ⟨other, otherPeriod⟩ same
    have texts : period.text = otherPeriod.text := congrArg Prod.snd same
    rw [Prod.mk.injEq]
    exact ⟨congrArg Prod.fst same, encode_injective periodText texts⟩
  stored _ := rfl

variable (db : BudgetDb)

theorem find_grant_row (id : String) :
    findKey grantRowId (storedDb db).grants id = (findKey grantId db.grants id).map storedGrant :=
  find_key_same (fun _ => rfl) db.grants id

theorem find_grant_by_key (key : String) :
    findKey BudgetGrantRow.idempotencyKey (storedDb db).grants key =
      (findKey BudgetGrant.idempotencyKey db.grants key).map storedGrant :=
  find_key_same (fun _ => rfl) db.grants key

theorem find_balance_row (budgetAccountId : String) (period : Period) :
    findKey balanceRowKey (storedDb db).balances (budgetAccountId, period.text) =
      (findKey balanceKey db.balances (budgetAccountId, period)).map storedBalance :=
  find_key_stored balance_keys_stored db.balances (budgetAccountId, period)

theorem find_request_row (id : String) :
    findKey requestRowId (storedDb db).requests id =
      (findKey requestId db.requests id).map storedRequest :=
  find_key_same (fun _ => rfl) db.requests id

theorem find_request_by_key (key : String) :
    findKey AugmentationRequestRow.idempotencyKey (storedDb db).requests key =
      (findKey AugmentationRequest.idempotencyKey db.requests key).map storedRequest :=
  find_key_same (fun _ => rfl) db.requests key

theorem dangling_grant_stored (id : Option String) :
    danglingGrantRow (storedDb db) id = danglingGrant db id := by
  cases id with
  | none => rfl
  | some present => rw [danglingGrantRow, danglingGrant, find_grant_row, Option.isNone_map]

end Lookups

section Ledger

theorem new_balance_stored (budgetAccountId : String) (period : Period) (now : Instant) :
    newBalance budgetAccountId period.text now =
      storedBalance (zeroBalance budgetAccountId period now) := rfl

theorem new_grant_stored (request : GrantRequest) (stamp : Stamp) :
    newGrant request stamp = storedGrant (grantRow request stamp) := rfl

theorem insert_balance_stored (db : BudgetDb) (budgetAccountId : String) (period : Period)
    (now : Instant) :
    insertBalanceRow (storedDb db) budgetAccountId period.text now =
      (bootstrapBalance db budgetAccountId period now).map storedDb := by
  have agree : conflicts balanceRowKey (storedDb db).balances
      (some (budgetAccountId, period.text)) =
        conflicts balanceKey db.balances (some (budgetAccountId, period)) :=
    conflicts_stored balance_keys_stored db.balances (some (budgetAccountId, period))
  rw [insertBalanceRow, bootstrapBalance, new_balance_stored, balance_row_checks]
  dsimp only
  rw [agree]
  by_cases taken : conflicts balanceKey db.balances (some (budgetAccountId, period)) = true
  · rw [if_pos taken, if_pos taken]
    rfl
  · rw [if_neg taken, if_neg taken]
    by_cases known : budgetAccountId ∈ db.accounts
    · rw [if_pos known, if_pos (show budgetAccountId ∈ (storedDb db).accounts from known)]
      simp [storedDb, Except.map]
    · rw [if_neg known, if_neg (show budgetAccountId ∉ (storedDb db).accounts from known)]
      rfl

theorem insert_grant_stored (db : BudgetDb) {request : GrantRequest} {stamp : Stamp}
    (signed : validateAmountSign request.source request.amountMicros = .ok ()) :
    insertGrantRow (storedDb db) (newGrant request stamp) =
      (insertGrant db request stamp).map fun written =>
        (storedDb written.1, written.2.map storedGrant) := by
  have checked : violated (grantChecks (storedGrant (grantRow request stamp))) = none :=
    grant_row_checks signed
  have keyTaken : conflicts BudgetGrantRow.idempotencyKey (storedDb db).grants
      (newGrant request stamp).idempotencyKey =
        conflicts BudgetGrant.idempotencyKey db.grants request.idempotencyKey :=
    conflicts_same (fun _ => rfl) db.grants request.idempotencyKey
  have idTaken : conflicts grantRowId (storedDb db).grants (some (newGrant request stamp).id) =
      conflicts grantId db.grants (some stamp.id) :=
    conflicts_same (fun _ => rfl) db.grants (some stamp.id)
  have triggerTaken : conflicts BudgetGrantRow.triggerKey (storedDb db).grants
      (newGrant request stamp).triggerKey =
        conflicts BudgetGrant.triggerKey db.grants request.triggerKey :=
    conflicts_same (fun _ => rfl) db.grants request.triggerKey
  have written : (storedDb db).grants ++ [newGrant request stamp] =
      (db.grants ++ [grantRow request stamp]).map storedGrant := by
    rw [List.map_append]
    rfl
  rw [insertGrantRow, keyTaken, idTaken, triggerTaken, written, new_grant_stored, checked]
  simp only [insertGrant, apply_ite (Except.map _)]
  rfl

theorem case_when_text (sources : List GrantSource) (names : List String)
    (named : names = sources.map GrantSource.asStr) (source : GrantSource) (amount : Int) :
    caseWhenText names (GrantSource.asStr source) amount = caseWhen sources source amount := by
  have agree : GrantSource.asStr source ∈ names ↔ source ∈ sources := by
    rw [named]
    exact encode_mem_iff sourceText
  rw [caseWhenText, caseWhen]
  simp only [agree]

theorem credit_stored (row : BalanceRow) (source : GrantSource) (amountMicros : Int64)
    (now : Instant) :
    creditRow (storedBalance row) (GrantSource.asStr source) amountMicros now =
      (credit row source amountMicros now).map storedBalance := by
  simp only [creditRow, credit, case_when_text [.base, .migration] ["base", "migration"] rfl,
    case_when_text [.selfService] ["self_service"] rfl,
    case_when_text [.admin, .manualApproval, .promotion]
      ["admin", "manual_approval", "promotion"] rfl,
    case_when_text [.automatic] ["automatic"] rfl, case_when_text [.refund] ["refund"] rfl,
    Option.bind_eq_bind, Option.map_bind, Function.comp_def]
  rfl

theorem credit_balance_stored (db : BudgetDb) (request : GrantRequest) (now : Instant) :
    creditBalanceRow (storedDb db) request.budgetAccountId request.period.text
        (GrantSource.asStr request.source) request.amountMicros now =
      (creditBalance db request now).map storedDb := by
  rw [creditBalanceRow, creditBalance, find_balance_row]
  cases found : findKey balanceKey db.balances (request.budgetAccountId, request.period) with
  | none => rfl
  | some row =>
      simp only [Option.map_some, credit_stored]
      cases credited : credit row request.source request.amountMicros now with
      | none => rfl
      | some after =>
          have updated : updateKey balanceRowKey (db.balances.map storedBalance)
              (request.budgetAccountId, request.period.text) (fun _ => storedBalance after) =
                (updateKey balanceKey db.balances (request.budgetAccountId, request.period)
                  fun _ => after).map storedBalance :=
            update_key_stored balance_keys_stored (fun _ => rfl) db.balances
              (request.budgetAccountId, request.period)
          simp only [Option.map_some, Except.map, storedDb, updated]

theorem grant_statements_stored (db : BudgetDb) {request : GrantRequest} {stamp : Stamp}
    (signed : validateAmountSign request.source request.amountMicros = .ok ()) :
    grantStatements (storedDb db) request stamp =
      (grantTransaction db request stamp).map fun committed =>
        (storedDb committed.1, storedGrant committed.2) := by
  simp only [grantStatements, grantTransaction, insert_balance_stored]
  cases bootstrapBalance db request.budgetAccountId request.period stamp.now with
  | error failure => rfl
  | ok bootstrapped =>
      simp only [Except.map, bind, Except.bind, insert_grant_stored bootstrapped signed]
      cases insertGrant bootstrapped request stamp with
      | error failure => rfl
      | ok inserted =>
          obtain ⟨written, row⟩ := inserted
          cases row with
          | some row =>
              simp only [Option.map_some, credit_balance_stored]
              cases creditBalance written request stamp.now with
              | error failure => rfl
              | ok credited => rfl
          | none =>
              simp only [Option.map_none]
              cases request.idempotencyKey with
              | none => rfl
              | some key =>
                  simp only [Option.bind_some, find_grant_by_key]
                  cases findKey BudgetGrant.idempotencyKey written.grants key with
                  | none => rfl
                  | some found => rfl

theorem grant_stored (db : BudgetDb) (request : GrantRequest) (stamp : Stamp) :
    grantColumns (storedDb db) request stamp =
      (storedDb (grant db request stamp).1, (grant db request stamp).2) := by
  cases signed : validateAmountSign request.source request.amountMicros with
  | error failure => simp only [grantColumns, grant, signed]
  | ok _ =>
      simp only [grantColumns, grant, signed, grant_statements_stored db signed]
      cases grantTransaction db request stamp with
      | error failure => rfl
      | ok committed =>
          simp only [Except.map]
          rw [show readGrant (storedGrant committed.2) = .ok committed.2 from
            grantCodec.reads committed.2]

theorem get_grant_stored (db : BudgetDb) (id : String) :
    getGrantByIdColumns (storedDb db) id = getGrantById db id := by
  rw [getGrantByIdColumns, getGrantById, find_grant_row]
  cases findKey grantId db.grants id with
  | none => rfl
  | some row => exact grantCodec.reads row

theorem get_balance_stored (db : BudgetDb) (budgetAccountId : String) (period : Period) :
    getBalanceColumns (storedDb db) budgetAccountId period =
      .ok (getBalance db budgetAccountId period) := by
  rw [getBalanceColumns, getBalance, find_balance_row]
  cases findKey balanceKey db.balances (budgetAccountId, period) with
  | none => rfl
  | some row =>
      rw [Option.map_some]
      exact congrArg (Except.map some) (balanceCodec.reads row)

theorem group_stored (rows : List BudgetGrant) (budgetAccountId : String) (period : Period) :
    groupRows (rows.map storedGrant) budgetAccountId period.text =
      (group rows budgetAccountId period).map storedGrant := by
  apply filter_stored
  intro row
  apply decide_eq_decide.mpr
  rw [groupKey, Prod.mk.injEq, Prod.mk.injEq]
  exact and_congr_right fun _ => encode_eq_iff periodText

theorem effective_balance_stored (db : BudgetDb) (budgetAccountId : String) (period : Period)
    (asOf : Instant) :
    effectiveBalanceColumns (storedDb db) budgetAccountId period asOf =
      effectiveBalance db budgetAccountId period asOf := by
  have inForce : ∀ row, (((storedGrant row).expiresAt.all fun expiresAt => asOf < expiresAt) &&
      (storedGrant row).revokedAt.isNone) = decide (InForce asOf row) := by
    intro row
    rw [Bool.eq_iff_iff, Bool.and_eq_true, decide_eq_true_iff, InForce]
    simp [storedGrant, Option.all_eq_true]
  have rows : ((group db.grants budgetAccountId period).map storedGrant).filter (fun row =>
      (row.expiresAt.all fun expiresAt => asOf < expiresAt) && row.revokedAt.isNone) =
        ((group db.grants budgetAccountId period).filter fun row =>
          InForce asOf row).map storedGrant :=
    filter_stored inForce _
  rw [effectiveBalanceColumns, effectiveBalance, inForceTotal, storedDb, group_stored, rows,
    List.map_map]
  rfl

theorem sum_case_text (sources : List GrantSource) (names : List String)
    (named : names = sources.map GrantSource.asStr) (value : BudgetGrantRow → Int)
    (rows : List BudgetGrant) :
    sumCaseText names value (rows.map storedGrant) =
      sumCase sources (fun row => value (storedGrant row)) rows := by
  rw [sumCaseText, sumCase, List.map_map]
  congr 1
  apply List.map_congr_left
  intro row _
  have agree : (storedGrant row).source ∈ names ↔ row.source ∈ sources := by
    rw [named]
    exact encode_mem_iff sourceText
  simp only [Function.comp_apply, agree]

theorem derive_columns_stored (rows : List BudgetGrant) :
    deriveRowColumns (rows.map storedGrant) = deriveColumns rows := by
  simp only [deriveRowColumns, deriveColumns,
    sum_case_text [.base, .migration] ["base", "migration"] rfl,
    sum_case_text [.selfService] ["self_service"] rfl,
    sum_case_text [.admin, .manualApproval, .promotion]
      ["admin", "manual_approval", "promotion"] rfl,
    sum_case_text [.automatic] ["automatic"] rfl, sum_case_text [.refund] ["refund"] rfl,
    List.map_map]
  rfl

def storedDerived (row : DerivedBalance) : DerivedBalanceRow where
  budgetAccountId := row.budgetAccountId
  period := row.period.text
  columns := row.columns

theorem derive_balance_stored (db : BudgetDb) (key : String × Period) :
    deriveBalanceRow (storedDb db) (key.1, key.2.text) =
      (deriveBalance db key).map storedDerived := by
  rw [deriveBalanceRow, deriveBalance, storedDb, group_stored, derive_columns_stored]
  cases deriveColumns (group db.grants key.1 key.2) with
  | none => rfl
  | some columns => rfl

theorem rebuild_stored (db : BudgetDb) :
    rebuildAllBalancesColumns (storedDb db) =
      (rebuildAllBalances db).map fun derived => derived.map storedDerived := by
  have keys : ((storedDb db).grants.map fun row => (row.budgetAccountId, row.period)) =
      (db.grants.map groupKey).map fun key => (key.1, key.2.text) := by
    rw [storedDb, List.map_map, List.map_map]
    rfl
  rw [rebuildAllBalancesColumns, rebuildAllBalances, keys,
    List.dedup_map_of_injective balance_keys_stored.injective, List.mapM_map]
  exact map_m_stored (derive_balance_stored db) _

theorem listed_grants_stored (grants : List BudgetGrant) (budgetAccountId : String)
    (period : Option Period) :
    listedGrantRows (grants.map storedGrant) budgetAccountId (period.map Period.text) =
      (listedGrants grants budgetAccountId period).map storedGrant := by
  apply filter_stored
  intro row
  apply decide_eq_decide.mpr
  apply and_congr_right
  intro _
  cases period with
  | none => rfl
  | some only =>
      simp only [Option.map_some, Option.all_some, decide_eq_true_iff]
      exact encode_eq_iff periodText

theorem tier_rows_stored (rows : List BudgetGrant) (budgetAccountId : String) (period : Period) :
    tierRows (rows.map storedGrant) budgetAccountId period.text =
      (tierGrants rows budgetAccountId period).map storedGrant := by
  rw [tierRows, tierGrants, group_stored]
  apply filter_stored
  intro row
  have agree : sourceText.encode row.source ∈ tierSources.map sourceText.encode ↔
      row.source ∈ tierSources := encode_mem_iff sourceText
  exact decide_eq_decide.mpr agree

theorem newest_stored (rows : List BudgetGrant) :
    newestRow (rows.map storedGrant) = (newest rows).map storedGrant := by
  induction rows with
  | nil => rfl
  | cons row rest ih =>
      rw [List.map_cons, newestRow, newest, ih]
      cases newest rest with
      | none => rfl
      | some later =>
          simp only [Option.map_some, apply_ite (Option.map storedGrant)]
          rfl

theorem current_tier_stored (scan : Except StorageFailure (List BudgetGrant))
    (budgetAccountId : String) (period : Period) :
    currentTierColumns (scan.map fun rows => rows.map storedGrant) budgetAccountId period =
      currentTier scan budgetAccountId period := by
  cases scan with
  | error failure => rfl
  | ok rows =>
      simp only [Except.map, currentTierColumns, currentTier, tier_rows_stored, newest_stored]
      cases newest (tierGrants rows budgetAccountId period) with
      | none => rfl
      | some row => rfl

end Ledger

section Requests

theorem new_request_stored (request : NewAugmentationRequest) (stamp : Stamp) :
    newRequest request stamp = storedRequest (requestRow request stamp) := rfl

theorem decided_stored (decision : DecomposedDecision) (row : AugmentationRequest) :
    decidedRow decision (storedRequest row) = storedRequest (decided decision row) := rfl

theorem reviewed_stored (status : AugmentationStatus) (reviewedBy : String)
    (rejectionReason grantId : Option String) (now : Instant) (row : AugmentationRequest) :
    reviewedRow status reviewedBy rejectionReason grantId now (storedRequest row) =
      storedRequest (reviewed status reviewedBy rejectionReason grantId now row) := rfl

theorem read_request_stored (row : AugmentationRequest) :
    readRequest (storedRequest row) = .ok row :=
  requestCodec.reads row

theorem create_stored (db : BudgetDb) (request : NewAugmentationRequest) (stamp : Stamp) :
    createColumns (storedDb db) request stamp =
      (storedDb (create db request stamp).1, (create db request stamp).2) := by
  have keyTaken : conflicts AugmentationRequestRow.idempotencyKey (storedDb db).requests
      request.idempotencyKey =
        conflicts AugmentationRequest.idempotencyKey db.requests request.idempotencyKey :=
    conflicts_same (fun _ => rfl) db.requests request.idempotencyKey
  have idTaken : conflicts requestRowId (storedDb db).requests (some stamp.id) =
      conflicts requestId db.requests (some stamp.id) :=
    conflicts_same (fun _ => rfl) db.requests (some stamp.id)
  have written : (storedDb db).requests ++ [storedRequest (requestRow request stamp)] =
      (db.requests ++ [requestRow request stamp]).map storedRequest := by
    rw [List.map_append]
    rfl
  change _ = Prod.map storedDb id (create db request stamp)
  rw [createColumns, new_request_stored, request_row_checks]
  dsimp only
  rw [keyTaken, idTaken, written, read_request_stored, create]
  by_cases taken :
      conflicts AugmentationRequest.idempotencyKey db.requests request.idempotencyKey = true
  · obtain ⟨key, row, isKey, found⟩ := conflicts_true taken
    rw [if_pos taken, if_pos taken, isKey, Option.bind_some, Option.bind_some,
      find_request_by_key, found]
    simp only [Option.map_some, read_request_stored]
    rfl
  · rw [if_neg taken, if_neg taken]
    simp only [apply_ite (Prod.map storedDb id)]
    rfl

theorem find_by_key_stored (db : BudgetDb) (key : String) :
    findByIdempotencyKeyColumns (storedDb db) key = .ok (findByIdempotencyKey db key) := by
  rw [findByIdempotencyKeyColumns, findByIdempotencyKey, find_request_by_key]
  cases findKey AugmentationRequest.idempotencyKey db.requests key with
  | none => rfl
  | some row => exact congrArg (Except.map some) (read_request_stored row)

theorem get_stored (db : BudgetDb) (id : String) :
    getColumns (storedDb db) id = AugmentationRequests.get db id := by
  rw [getColumns, AugmentationRequests.get, find_request_row]
  cases findKey requestId db.requests id with
  | none => rfl
  | some row => exact read_request_stored row

theorem update_request_stored (db : BudgetDb) (id : String)
    {change : AugmentationRequest → AugmentationRequest}
    {storedChange : AugmentationRequestRow → AugmentationRequestRow}
    (follows : ∀ row, storedChange (storedRequest row) = storedRequest (change row))
    (row : AugmentationRequest) :
    updateRequestRow (storedDb db) id storedChange (storedRequest row) =
      if danglingGrant db (change row).grantId then
        (storedDb db, .error (.storageFailed
          (.foreignKeyViolation "budget_augmentation_requests_grant_id_fkey")))
      else
        (storedDb { db with requests := updateKey requestId db.requests id change },
          .ok (change row)) := by
  have updated : updateKey requestRowId (storedDb db).requests id storedChange =
      (updateKey requestId db.requests id change).map storedRequest :=
    update_key_same (fun _ => rfl) follows db.requests id
  rw [updateRequestRow, follows, request_row_checks]
  dsimp only
  rw [dangling_grant_stored, updated, read_request_stored]
  rfl

theorem record_decision_stored (db : BudgetDb) (id : String) (decision : RecordedDecision) :
    recordDecisionColumns (storedDb db) id decision =
      (storedDb (recordDecision db id decision).1, (recordDecision db id decision).2) := by
  rw [recordDecisionColumns, recordDecision, find_request_row]
  cases findKey requestId db.requests id with
  | none => rfl
  | some row =>
      simp only [Option.map_some]
      rw [update_request_stored db id (decided_stored decision.decompose) row]
      have grant : (decided decision.decompose row).grantId = decision.decompose.grantId := rfl
      rw [grant]
      split_ifs <;> rfl

theorem pending_text_iff (status : AugmentationStatus) :
    statusText.encode status = "pending_review" ↔ status = .pendingReview := by
  have agree : statusText.encode status = statusText.encode .pendingReview ↔
      status = .pendingReview := encode_eq_iff statusText
  exact agree

theorem record_review_stored (db : BudgetDb) (id : String) (status : AugmentationStatus)
    (reviewedBy : String) (rejectionReason grantId : Option String) (now : Instant) :
    recordReviewColumns (storedDb db) id status reviewedBy rejectionReason grantId now =
      (storedDb (recordReview db id status reviewedBy rejectionReason grantId now).1,
        (recordReview db id status reviewedBy rejectionReason grantId now).2) := by
  rw [recordReviewColumns, recordReview, find_request_row]
  split
  · rfl
  · split
    · rfl
    · cases findKey requestId db.requests id with
      | none => rfl
      | some row =>
          have guard : (storedRequest row).status ≠ "pending_review" ↔
              row.status ≠ .pendingReview := not_congr (pending_text_iff row.status)
          simp only [Option.map_some, guard]
          split
          · rfl
          · rw [update_request_stored db id
              (reviewed_stored status reviewedBy rejectionReason grantId now) row]
            have grant : (reviewed status reviewedBy rejectionReason grantId now row).grantId =
              grantId := rfl
            rw [grant]
            split_ifs <;> rfl

theorem own_requests_stored (requests : List AugmentationRequest) (budgetAccountId : String) :
    ownRequestRows (requests.map storedRequest) budgetAccountId =
      (ownRequests requests budgetAccountId).map storedRequest :=
  filter_stored (fun _ => rfl) requests

theorem pending_requests_stored (requests : List AugmentationRequest)
    (budgetAccountId : Option String) :
    pendingRequestRows (requests.map storedRequest) budgetAccountId =
      (pendingRequests requests budgetAccountId).map storedRequest := by
  apply filter_stored
  intro row
  apply decide_eq_decide.mpr
  exact and_congr_left fun _ => pending_text_iff row.status

end Requests

inductive RepoCall where
  | grant (request : GrantRequest) (stamp : Stamp)
  | create (request : NewAugmentationRequest) (stamp : Stamp)
  | recordDecision (id : String) (decision : RecordedDecision)
  | recordReview (id : String) (status : AugmentationStatus) (reviewedBy : String)
      (rejectionReason grantId : Option String) (now : Instant)
  | findByIdempotencyKey (key : String)
  | get (id : String)
  | getGrantById (id : String)
  | getBalance (budgetAccountId : String) (period : Period)
  | effectiveBalance (budgetAccountId : String) (period : Period) (asOf : Instant)
  | rebuildAllBalances
  deriving DecidableEq, Repr

inductive RepoAnswer where
  | granted (answer : Except BudgetError BudgetGrant)
  | request (answer : Except BudgetError AugmentationRequest)
  | found (answer : Except BudgetError (Option AugmentationRequest))
  | balance (answer : Except BudgetError (Option BalanceRow))
  | total (answer : Except BudgetError Int64)
  | derived (answer : Except BudgetError (List DerivedBalanceRow))

/-- The tables after a call, and its answer as one of the repositories'. -/
def answering {Db Value : Type} (wrap : Value → RepoAnswer) (ran : Db × Value) :
    Db × RepoAnswer :=
  (ran.1, wrap ran.2)

def RepoCall.run (db : BudgetDb) : RepoCall → BudgetDb × RepoAnswer
  | .grant request stamp => answering .granted (GrantLedger.grant db request stamp)
  | .create request stamp => answering .request (AugmentationRequests.create db request stamp)
  | .recordDecision id decision =>
      answering .request (AugmentationRequests.recordDecision db id decision)
  | .recordReview id status reviewedBy rejectionReason grantId now =>
      answering .request (AugmentationRequests.recordReview db id status reviewedBy
        rejectionReason grantId now)
  | .findByIdempotencyKey key =>
      (db, .found (.ok (AugmentationRequests.findByIdempotencyKey db key)))
  | .get id => (db, .request (AugmentationRequests.get db id))
  | .getGrantById id => (db, .granted (Revocation.getGrantById db id))
  | .getBalance budgetAccountId period =>
      (db, .balance (.ok (LedgerReplay.getBalance db budgetAccountId period)))
  | .effectiveBalance budgetAccountId period asOf =>
      (db, .total (EffectiveBalance.effectiveBalance db budgetAccountId period asOf))
  | .rebuildAllBalances =>
      (db, .derived ((LedgerReplay.rebuildAllBalances db).map (List.map storedDerived)))

def RepoCall.runColumns (db : ColumnDb) : RepoCall → ColumnDb × RepoAnswer
  | .grant request stamp => answering .granted (grantColumns db request stamp)
  | .create request stamp => answering .request (createColumns db request stamp)
  | .recordDecision id decision => answering .request (recordDecisionColumns db id decision)
  | .recordReview id status reviewedBy rejectionReason grantId now =>
      answering .request (recordReviewColumns db id status reviewedBy rejectionReason grantId now)
  | .findByIdempotencyKey key => (db, .found (findByIdempotencyKeyColumns db key))
  | .get id => (db, .request (getColumns db id))
  | .getGrantById id => (db, .granted (getGrantByIdColumns db id))
  | .getBalance budgetAccountId period =>
      (db, .balance (getBalanceColumns db budgetAccountId period))
  | .effectiveBalance budgetAccountId period asOf =>
      (db, .total (effectiveBalanceColumns db budgetAccountId period asOf))
  | .rebuildAllBalances => (db, .derived (rebuildAllBalancesColumns db))

/-- Calls one after the other, and what each of them answers. -/
def runCalls {Db : Type} (step : Db → RepoCall → Db × RepoAnswer) (db : Db) :
    List RepoCall → Db × List RepoAnswer
  | [] => (db, [])
  | call :: rest =>
      let ran := step db call
      let later := runCalls step ran.1 rest
      (later.1, ran.2 :: later.2)

theorem run_columns_stored (db : BudgetDb) (call : RepoCall) :
    call.runColumns (storedDb db) = (storedDb (call.run db).1, (call.run db).2) := by
  cases call with
  | grant request stamp =>
      rw [RepoCall.runColumns, grant_stored]
      rfl
  | create request stamp =>
      rw [RepoCall.runColumns, create_stored]
      rfl
  | recordDecision id decision =>
      rw [RepoCall.runColumns, record_decision_stored]
      rfl
  | recordReview id status reviewedBy rejectionReason grantId now =>
      rw [RepoCall.runColumns, record_review_stored]
      rfl
  | findByIdempotencyKey key =>
      rw [RepoCall.runColumns, find_by_key_stored]
      rfl
  | get id =>
      rw [RepoCall.runColumns, get_stored]
      rfl
  | getGrantById id =>
      rw [RepoCall.runColumns, get_grant_stored]
      rfl
  | getBalance budgetAccountId period =>
      rw [RepoCall.runColumns, get_balance_stored]
      rfl
  | effectiveBalance budgetAccountId period asOf =>
      rw [RepoCall.runColumns, effective_balance_stored]
      rfl
  | rebuildAllBalances =>
      rw [RepoCall.runColumns, rebuild_stored]
      rfl

theorem run_calls_stored (db : BudgetDb) (calls : List RepoCall) :
    runCalls RepoCall.runColumns (storedDb db) calls =
      (storedDb (runCalls RepoCall.run db calls).1, (runCalls RepoCall.run db calls).2) := by
  induction calls generalizing db with
  | nil => rfl
  | cons call rest ih =>
      rw [runCalls, runCalls]
      simp only [run_columns_stored, ih]

def LedgerSigned (db : BudgetDb) : Prop :=
  ∀ row ∈ db.grants, validateAmountSign row.source row.amountMicros = .ok ()

theorem grant_signed {db : BudgetDb} (signed : LedgerSigned db) (request : GrantRequest)
    (stamp : Stamp) : LedgerSigned (grant db request stamp).1 := by
  rcases ran : grant db request stamp with ⟨next, answer⟩
  cases grant_outcome ran with
  | refused error => exact signed
  | replayed keyed stored => exact signed
  | inserted sign freshKey freshId known locked added =>
      intro row member
      rcases List.mem_append.mp member with old | new
      · exact signed row old
      · rw [List.mem_singleton.mp new]
        exact sign

theorem run_signed {db : BudgetDb} (signed : LedgerSigned db) (call : RepoCall) :
    LedgerSigned (call.run db).1 := by
  cases call with
  | grant request stamp => exact grant_signed signed request stamp
  | create request stamp =>
      have same := create_grants (Prod.eta (AugmentationRequests.create db request stamp)).symm
      intro row member
      exact signed row (same ▸ member)
  | recordDecision id decision =>
      have same := update_grants (record_decision_outcome
        (Prod.eta (AugmentationRequests.recordDecision db id decision)).symm)
      intro row member
      exact signed row (same ▸ member)
  | recordReview id status reviewedBy rejectionReason grantId now =>
      have same := update_grants (record_review_outcome
        (Prod.eta (AugmentationRequests.recordReview db id status reviewedBy rejectionReason
          grantId now)).symm)
      intro row member
      exact signed row (same ▸ member)
  | findByIdempotencyKey | get | getGrantById | getBalance | effectiveBalance
  | rebuildAllBalances => exact signed

theorem run_calls_signed {db : BudgetDb} (signed : LedgerSigned db) (calls : List RepoCall) :
    LedgerSigned (runCalls RepoCall.run db calls).1 := by
  induction calls generalizing db with
  | nil => exact signed
  | cons call rest ih => exact ih (run_signed signed call)

/-- The stored tables hold the domain's rows: each row passes its constraints, and every
list query finds and parses the rows that the domain's query finds. -/
structure HoldsRows (db : BudgetDb) (columns : ColumnDb) : Prop where
  tables : columns = storedDb db
  grantsChecked : ∀ row ∈ columns.grants, violated (grantChecks row) = none
  balancesChecked : ∀ row ∈ columns.balances, violated (balanceChecks row) = none
  requestsChecked : ∀ row ∈ columns.requests, violated (requestChecks row) = none
  listedGrants : ∀ budgetAccountId period,
    (listedGrantRows columns.grants budgetAccountId (period.map Period.text)).mapM readGrant =
      .ok (listedGrants db.grants budgetAccountId period)
  ownRequests : ∀ budgetAccountId,
    (ownRequestRows columns.requests budgetAccountId).mapM readRequest =
      .ok (ownRequests db.requests budgetAccountId)
  pendingRequests : ∀ budgetAccountId,
    (pendingRequestRows columns.requests budgetAccountId).mapM readRequest =
      .ok (pendingRequests db.requests budgetAccountId)
  currentTier : ∀ scan : List BudgetGrant, (scan.map storedGrant).Perm columns.grants →
    ∀ budgetAccountId period,
      currentTierColumns (.ok (scan.map storedGrant)) budgetAccountId period =
        currentTier (.ok scan) budgetAccountId period

theorem stored_holds_rows {db : BudgetDb} (signed : LedgerSigned db) :
    HoldsRows db (storedDb db) where
  tables := rfl
  grantsChecked := by
    intro row member
    obtain ⟨origin, inGrants, rfl⟩ := List.mem_map.mp member
    exact grant_row_checks (signed origin inGrants)
  balancesChecked := by
    intro row member
    obtain ⟨origin, _, rfl⟩ := List.mem_map.mp member
    exact balance_row_checks origin
  requestsChecked := by
    intro row member
    obtain ⟨origin, _, rfl⟩ := List.mem_map.mp member
    exact request_row_checks origin
  listedGrants budgetAccountId period := by
    rw [storedDb, listed_grants_stored]
    exact decode_table grantCodec _
  ownRequests budgetAccountId := by
    rw [storedDb, own_requests_stored]
    exact decode_table requestCodec _
  pendingRequests budgetAccountId := by
    rw [storedDb, pending_requests_stored]
    exact decode_table requestCodec _
  currentTier scan _ budgetAccountId period :=
    current_tier_stored (.ok scan) budgetAccountId period

/-- From empty tables, any run of the repositories' calls on the text columns gives the
answers of the same run on the domain's rows, and leaves tables that hold those rows. -/
theorem columns_hold_the_rows (accounts projects : List String) (calls : List RepoCall) :
    (runCalls RepoCall.runColumns (.empty accounts projects) calls).2 =
        (runCalls RepoCall.run (.empty accounts projects) calls).2 ∧
      HoldsRows (runCalls RepoCall.run (.empty accounts projects) calls).1
        (runCalls RepoCall.runColumns (.empty accounts projects) calls).1 := by
  have refines := run_calls_stored (.empty accounts projects) calls
  change runCalls RepoCall.runColumns (.empty accounts projects) calls = _ at refines
  rw [refines]
  refine ⟨rfl, stored_holds_rows (run_calls_signed ?_ calls)⟩
  intro row member
  cases member

end LightbridgeAuthz.Budget.ColumnStatements
