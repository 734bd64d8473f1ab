import LightbridgeAuthz.Library.RowCodecs
import LightbridgeAuthz.Budget.EffectiveBalance
import LightbridgeAuthz.Budget.RuleDocuments
import LightbridgeAuthz.Budget.TierStamp

/-!
# The columns the budget tables store

Periods, sources, tiers, statuses and policy effects are text columns with `CHECK`
constraints. Every row the repositories write is one that they read back, and the
comparisons of the SQL texts are those of the domain's values.
-/

namespace LightbridgeAuthz.Budget.StoredColumns

open Library.KeyedRows Library.RowCodecs
open Domain GrantLedger

set_option autoImplicit false

def GrantSource.asStr : GrantSource → String
  | .base => "base"
  | .selfService => "self_service"
  | .admin => "admin"
  | .automatic => "automatic"
  | .manualApproval => "manual_approval"
  | .refund => "refund"
  | .correction => "correction"
  | .promotion => "promotion"
  | .migration => "migration"

def GrantSource.fromStr (text : String) : Except BudgetError GrantSource :=
  if text = "base" then .ok .base
  else if text = "self_service" then .ok .selfService
  else if text = "admin" then .ok .admin
  else if text = "automatic" then .ok .automatic
  else if text = "manual_approval" then .ok .manualApproval
  else if text = "refund" then .ok .refund
  else if text = "correction" then .ok .correction
  else if text = "promotion" then .ok .promotion
  else if text = "migration" then .ok .migration
  else .error (.unknownSource text)

def BudgetTier.fromStr (text : String) : Except BudgetError BudgetTier :=
  if text = "b-15" then .ok .b15
  else if text = "b-30" then .ok .b30
  else if text = "b-60" then .ok .b60
  else if text = "b-120" then .ok .b120
  else if text = "b-250" then .ok .b250
  else if text = "b-500" then .ok .b500
  else if text = "b-1000" then .ok .b1000
  else .error (.unknownTier text)

def AugmentationStatus.fromStr (text : String) : Except BudgetError AugmentationStatus :=
  if text = "created" then .ok .created
  else if text = "evaluating" then .ok .evaluating
  else if text = "auto_approved" then .ok .autoApproved
  else if text = "pending_review" then .ok .pendingReview
  else if text = "approved" then .ok .approved
  else if text = "partially_approved" then .ok .partiallyApproved
  else if text = "denied" then .ok .denied
  else if text = "cancelled" then .ok .cancelled
  else if text = "expired" then .ok .expired
  else if text = "applied" then .ok .applied
  else .error (.unknownStatus text)

/-- `effect_to_db`, and `effect_to_wire_string`: the serialized name. -/
def effectToDb : Effect → String
  | .autoApprove => "auto_approve"
  | .autoApproveCapped => "auto_approve_capped"
  | .manualReview => "manual_review"
  | .deny => "deny"
  | .noAction => "no_action"

def effectFromDb (text : String) : Except BudgetError Effect :=
  match RuleDocuments.effectNamed text with
  | some effect => .ok effect
  | none => .error (.storageFailed (.message ("stored policy_effect '" ++ text ++
      "' is invalid: unknown variant `" ++ text ++ "`, expected one of `auto_approve`, " ++
      "`auto_approve_capped`, `manual_review`, `deny`, `no_action`")))

def parseErrorText : BudgetError → String
  | .invalidPeriod text => "invalid period, expected YYYY-MM: " ++ text
  | .unknownSource text => "unknown grant source: " ++ text
  | .unknownTier text => "unknown budget tier: " ++ text
  | .unknownStatus text => "unknown augmentation request status: " ++ text
  | _ => ""

/-- A column that does not parse is a failure of the storage. -/
def readColumn {Value : Type} (column : String) (answer : Except BudgetError Value) :
    Except BudgetError Value :=
  match answer with
  | .ok value => .ok value
  | .error failure => .error (.storageFailed (.message
      ("stored " ++ column ++ " is invalid: " ++ parseErrorText failure)))

def periodText : Codec Period String BudgetError where
  encode period := period.text
  decode text := Period.parse text
  reads := parse_text

def sourceText : Codec GrantSource String BudgetError where
  encode := GrantSource.asStr
  decode := GrantSource.fromStr
  reads source := by cases source <;> decide

def tierText : Codec BudgetTier String BudgetError where
  encode := BudgetTier.label
  decode := BudgetTier.fromStr
  reads tier := by cases tier <;> decide

def statusText : Codec AugmentationStatus String BudgetError where
  encode := AugmentationStatus.asStr
  decode := AugmentationStatus.fromStr
  reads status := by cases status <;> decide

def effectText : Codec Effect String BudgetError where
  encode := effectToDb
  decode := effectFromDb
  reads effect := by cases effect <;> decide

/-- A row of `budget_grants` as the driver reads it. -/
structure BudgetGrantRow where
  id : String
  budgetAccountId : String
  accountId : String
  projectId : Option String
  period : String
  amountMicros : Int64
  source : String
  actorId : Option String
  reason : Option String
  policyRevision : Option String
  matchedRuleIds : Option (List String)
  idempotencyKey : Option String
  triggerKey : Option String
  createdAt : Instant
  expiresAt : Option Instant
  revokedAt : Option Instant
  deriving DecidableEq, Repr

/-- A row of `budget_balances`. -/
structure BudgetBalanceRow where
  budgetAccountId : String
  period : String
  baseTotalMicros : Int64
  selfServiceTotalMicros : Int64
  adminTotalMicros : Int64
  automaticTotalMicros : Int64
  refundTotalMicros : Int64
  effectiveBudgetMicros : Int64
  selfServiceGrantCount : Int32
  automaticGrantCount : Int32
  version : Int64
  updatedAt : Instant
  deriving DecidableEq, Repr

/-- A row of `budget_augmentation_requests`. -/
structure AugmentationRequestRow where
  id : String
  budgetAccountId : String
  accountId : String
  projectId : Option String
  period : String
  requestedTier : String
  requestedAmountMicros : Int64
  status : String
  policyEffect : Option String
  policyReasonCodes : Option (List String)
  matchedRuleIds : Option (List String)
  policyRevision : Option String
  approvedAmountMicros : Option Int64
  grantId : Option String
  idempotencyKey : Option String
  reviewedBy : Option String
  rejectionReason : Option String
  createdAt : Instant
  reviewedAt : Option Instant
  deriving DecidableEq, Repr

def storedGrant (row : BudgetGrant) : BudgetGrantRow where
  id := row.id
  budgetAccountId := row.budgetAccountId
  accountId := row.accountId
  projectId := row.projectId
  period := periodText.encode row.period
  amountMicros := row.amountMicros
  source := sourceText.encode row.source
  actorId := row.actorId
  reason := row.reason
  policyRevision := row.policyRevision
  matchedRuleIds := row.matchedRuleIds
  idempotencyKey := row.idempotencyKey
  triggerKey := row.triggerKey
  createdAt := row.createdAt
  expiresAt := row.expiresAt
  revokedAt := row.revokedAt

/-- `TryFrom<BudgetGrantRow> for BudgetGrant`. -/
def readGrant (row : BudgetGrantRow) : Except BudgetError BudgetGrant := do
  let period ← readColumn "budget_grants.period" (periodText.decode row.period)
  let source ← readColumn "budget_grants.source" (sourceText.decode row.source)
  return {
    id := row.id
    budgetAccountId := row.budgetAccountId
    accountId := row.accountId
    projectId := row.projectId
    period := period
    amountMicros := row.amountMicros
    source := source
    actorId := row.actorId
    reason := row.reason
    policyRevision := row.policyRevision
    matchedRuleIds := row.matchedRuleIds
    idempotencyKey := row.idempotencyKey
    triggerKey := row.triggerKey
    createdAt := row.createdAt
    expiresAt := row.expiresAt
    revokedAt := row.revokedAt }

def storedBalance (row : BalanceRow) : BudgetBalanceRow where
  budgetAccountId := row.budgetAccountId
  period := periodText.encode row.period
  baseTotalMicros := row.baseTotalMicros
  selfServiceTotalMicros := row.selfServiceTotalMicros
  adminTotalMicros := row.adminTotalMicros
  automaticTotalMicros := row.automaticTotalMicros
  refundTotalMicros := row.refundTotalMicros
  effectiveBudgetMicros := row.effectiveBudgetMicros
  selfServiceGrantCount := row.selfServiceGrantCount
  automaticGrantCount := row.automaticGrantCount
  version := row.version
  updatedAt := row.updatedAt

/-- `TryFrom<BalanceRow> for BalanceSnapshot`. -/
def readBalance (row : BudgetBalanceRow) : Except BudgetError BalanceRow := do
  let period ← readColumn "budget_balances.period" (periodText.decode row.period)
  return {
    budgetAccountId := row.budgetAccountId
    period := period
    baseTotalMicros := row.baseTotalMicros
    selfServiceTotalMicros := row.selfServiceTotalMicros
    adminTotalMicros := row.adminTotalMicros
    automaticTotalMicros := row.automaticTotalMicros
    refundTotalMicros := row.refundTotalMicros
    effectiveBudgetMicros := row.effectiveBudgetMicros
    selfServiceGrantCount := row.selfServiceGrantCount
    automaticGrantCount := row.automaticGrantCount
    version := row.version
    updatedAt := row.updatedAt }

def storedRequest (row : AugmentationRequest) : AugmentationRequestRow where
  id := row.id
  budgetAccountId := row.budgetAccountId
  accountId := row.accountId
  projectId := row.projectId
  period := periodText.encode row.period
  requestedTier := tierText.encode row.requestedTier
  requestedAmountMicros := row.requestedAmountMicros
  status := statusText.encode row.status
  policyEffect := (optional effectText).encode row.policyEffect
  policyReasonCodes := row.policyReasonCodes
  matchedRuleIds := row.matchedRuleIds
  policyRevision := row.policyRevision
  approvedAmountMicros := row.approvedAmountMicros
  grantId := row.grantId
  idempotencyKey := row.idempotencyKey
  reviewedBy := row.reviewedBy
  rejectionReason := row.rejectionReason
  createdAt := row.createdAt
  reviewedAt := row.reviewedAt

/-- `TryFrom<AugmentationRequestRow> for AugmentationRequest`. -/
def readRequest (row : AugmentationRequestRow) : Except BudgetError AugmentationRequest := do
  let period ← readColumn "budget_augmentation_requests.period" (periodText.decode row.period)
  let requestedTier ← readColumn "budget_augmentation_requests.requested_tier"
    (tierText.decode row.requestedTier)
  let status ← readColumn "budget_augmentation_requests.status" (statusText.decode row.status)
  let policyEffect ← (optional effectText).decode row.policyEffect
  return {
    id := row.id
    budgetAccountId := row.budgetAccountId
    accountId := row.accountId
    projectId := row.projectId
    period := period
    requestedTier := requestedTier
    requestedAmountMicros := row.requestedAmountMicros
    status := status
    policyEffect := policyEffect
    policyReasonCodes := row.policyReasonCodes
    matchedRuleIds := row.matchedRuleIds
    policyRevision := row.policyRevision
    approvedAmountMicros := row.approvedAmountMicros
    grantId := row.grantId
    idempotencyKey := row.idempotencyKey
    reviewedBy := row.reviewedBy
    rejectionReason := row.rejectionReason
    createdAt := row.createdAt
    reviewedAt := row.reviewedAt }

@[simp] theorem read_column_ok {Value : Type} (column : String) (value : Value) :
    readColumn column (.ok value) = .ok value := rfl

def grantCodec : Codec BudgetGrant BudgetGrantRow BudgetError where
  encode := storedGrant
  decode := readGrant
  reads row := by
    simp only [readGrant, storedGrant, periodText.reads, sourceText.reads, read_column_ok]
    rfl

def balanceCodec : Codec BalanceRow BudgetBalanceRow BudgetError where
  encode := storedBalance
  decode := readBalance
  reads row := by
    simp only [readBalance, storedBalance, periodText.reads, read_column_ok]
    rfl

def requestCodec : Codec AugmentationRequest AugmentationRequestRow BudgetError where
  encode := storedRequest
  decode := readRequest
  reads row := by
    simp only [readRequest, storedRequest, periodText.reads, tierText.reads, statusText.reads,
      (optional effectText).reads, read_column_ok]
    rfl

/-- `period ~ '^\d\x7b4\x7d-\d\x7b2\x7d$'`. -/
def periodFormatChk (text : String) : Bool :=
  match text.toList with
  | [y₁, y₂, y₃, y₄, dash, m₁, m₂] =>
      dash == '-' && [y₁, y₂, y₃, y₄, m₁, m₂].all Char.isDigit
  | _ => false

def sourceNames : List String :=
  ["base", "self_service", "admin", "automatic", "manual_approval", "refund", "correction",
    "promotion", "migration"]

def statusNames : List String :=
  ["created", "evaluating", "auto_approved", "pending_review", "approved",
    "partially_approved", "denied", "cancelled", "expired", "applied"]

/-- The `CHECK` constraints of `budget_grants`, in the order of their names. -/
def grantChecks (row : BudgetGrantRow) : List (String × Bool) :=
  [("budget_grants_amount_sign_chk",
      (row.source = "correction" && row.amountMicros != 0) ||
        (row.source != "correction" && decide (0 < row.amountMicros))),
    ("budget_grants_period_format_chk", periodFormatChk row.period),
    ("budget_grants_source_chk", row.source ∈ sourceNames)]

def balanceChecks (row : BudgetBalanceRow) : List (String × Bool) :=
  [("budget_balances_period_format_chk", periodFormatChk row.period)]

def requestChecks (row : AugmentationRequestRow) : List (String × Bool) :=
  [("budget_augmentation_requests_period_format_chk", periodFormatChk row.period),
    ("budget_augmentation_requests_status_chk", row.status ∈ statusNames)]

def violated (checks : List (String × Bool)) : Option String :=
  (checks.find? fun check => !check.2).map Prod.fst

theorem period_format (period : Period) : periodFormatChk period.text = true := by
  have formed := period.wellFormed
  unfold wellFormedPeriod at formed
  unfold periodFormatChk
  generalize period.text.toList = chars at formed ⊢
  split at formed
  · exact (Bool.and_eq_true_iff.mp formed).1
  · cases formed

theorem source_named (source : GrantSource) : sourceText.encode source ∈ sourceNames := by
  cases source <;> decide

theorem status_named (status : AugmentationStatus) : statusText.encode status ∈ statusNames := by
  cases status <;> decide

theorem violated_none_iff {checks : List (String × Bool)} :
    violated checks = none ↔ ∀ check ∈ checks, check.2 = true := by
  simp [violated, List.find?_eq_none]

theorem grant_row_checks {row : BudgetGrant}
    (signed : validateAmountSign row.source row.amountMicros = .ok ()) :
    violated (grantChecks (storedGrant row)) = none := by
  rw [violated_none_iff, grantChecks, List.forall_mem_cons, List.forall_mem_cons,
    List.forall_mem_singleton]
  refine ⟨?_, period_format row.period, decide_eq_true (source_named row.source)⟩
  unfold validateAmountSign at signed
  cases source : row.source <;> simp_all [storedGrant, sourceText, GrantSource.asStr]

theorem balance_row_checks (row : BalanceRow) :
    violated (balanceChecks (storedBalance row)) = none := by
  rw [violated_none_iff, balanceChecks, List.forall_mem_singleton]
  exact period_format row.period

theorem request_row_checks (row : AugmentationRequest) :
    violated (requestChecks (storedRequest row)) = none := by
  rw [violated_none_iff, requestChecks, List.forall_mem_cons, List.forall_mem_singleton]
  exact ⟨period_format row.period, decide_eq_true (status_named row.status)⟩

end LightbridgeAuthz.Budget.StoredColumns
