import Mathlib.Tactic.Common

/-!
# The budget domain's records

The value types of `lightbridge-authz-budget`: periods, grant sources, tiers,
request statuses, policy decisions, errors, and the rows of `budget_grants`,
`budget_balances` and `budget_augmentation_requests`. Money is 64-bit
micro-USD and counters are 32-bit, as the columns are. The `metadata` column of
`budget_grants` is left out: no statement reads or sets it.
-/

namespace LightbridgeAuthz.Budget.Domain

set_option autoImplicit false

/-- A `timestamptz`, in microseconds since the epoch. -/
abbrev Instant := Int

/-- Why the database refused a statement: what the text of
`BudgetError::StorageFailed` reports. -/
inductive StorageFailure where
  | foreignKeyViolation (constraintName : String)
  | uniqueViolation (constraintName : String)
  | numericOutOfRange
  | rowNotFound
  | connectionLost
  | message (text : String)
  deriving DecidableEq, Repr

inductive BudgetError where
  | invalidAmount (amountMicros : Int64)
  | invalidPeriod (text : String)
  | unknownSource (text : String)
  | unknownTier (text : String)
  | alreadyGranted
  | policyDenied (reason : String)
  | storageFailed (failure : StorageFailure)
  | invalidRuleData (reason : String)
  | notFound (subject : String)
  | unknownStatus (text : String)
  | invalidReviewOutcome (status : String)
  | missingRejectionReason
  | alreadyReviewed (requestId : String)
  | amountNotOffered (amountMicros : Int64)
  deriving DecidableEq, Repr

/-- A failed statement: what the driver reports, and whether the database had
committed it all the same. -/
structure Fault where
  failure : StorageFailure
  committed : Bool
  deriving DecidableEq, Repr

/-- A statement that writes, with what its fault leaves behind. -/
def attempt {Db Value : Type} (fault : Option Fault) (db : Db)
    (ran : Db × Except BudgetError Value) : Db × Except BudgetError Value :=
  match fault with
  | none => ran
  | some fault => (if fault.committed then ran.1 else db, .error (.storageFailed fault.failure))

def attemptRead {Value : Type} (fault : Option Fault) (answer : Except BudgetError Value) :
    Except BudgetError Value :=
  match fault with
  | none => answer
  | some fault => .error (.storageFailed fault.failure)

/-- `char::is_whitespace`: the Unicode property `White_Space`. -/
def isWhitespace (char : Char) : Bool :=
  (0x9 ≤ char.toNat && char.toNat ≤ 0xD) || char.toNat == 0x20 || char.toNat == 0x85 ||
    char.toNat == 0xA0 || char.toNat == 0x1680 ||
    (0x2000 ≤ char.toNat && char.toNat ≤ 0x200A) || char.toNat == 0x2028 ||
    char.toNat == 0x2029 || char.toNat == 0x202F || char.toNat == 0x205F ||
    char.toNat == 0x3000

/-- `text.trim().is_empty()`. -/
def isBlank (text : String) : Bool := text.toList.all isWhitespace

/-- `Period::parse`'s checks: four digits, a dash, two digits, and a month
from 1 to 12. Every accepted byte is ASCII, so characters and bytes agree. -/
def wellFormedPeriod (text : String) : Bool :=
  match text.toList with
  | [y₁, y₂, y₃, y₄, dash, m₁, m₂] =>
      dash == '-' && [y₁, y₂, y₃, y₄, m₁, m₂].all Char.isDigit &&
        (let month := (m₁.toNat - '0'.toNat) * 10 + (m₂.toNat - '0'.toNat)
         1 ≤ month && month ≤ 12)
  | _ => false

/-- A calendar month. The stored text passes the parser again, so reading a
period column back cannot fail (`parse_text`). -/
structure Period where
  text : String
  wellFormed : wellFormedPeriod text = true
  deriving DecidableEq, Repr

def Period.parse (text : String) : Except BudgetError Period :=
  if wellFormed : wellFormedPeriod text = true then .ok ⟨text, wellFormed⟩
  else .error (.invalidPeriod text)

theorem parse_text (period : Period) : Period.parse period.text = .ok period := by
  simp [Period.parse, period.wellFormed]

inductive GrantSource where
  | base
  | selfService
  | admin
  | automatic
  | manualApproval
  | refund
  | correction
  | promotion
  | migration
  deriving DecidableEq, Repr

inductive BudgetTier where
  | b15
  | b30
  | b60
  | b120
  | b250
  | b500
  | b1000
  deriving DecidableEq, Repr

def BudgetTier.amount : BudgetTier → Int64
  | .b15 => 15000000
  | .b30 => 30000000
  | .b60 => 60000000
  | .b120 => 120000000
  | .b250 => 250000000
  | .b500 => 500000000
  | .b1000 => 1000000000

def BudgetTier.label : BudgetTier → String
  | .b15 => "b-15"
  | .b30 => "b-30"
  | .b60 => "b-60"
  | .b120 => "b-120"
  | .b250 => "b-250"
  | .b500 => "b-500"
  | .b1000 => "b-1000"

def BudgetTier.fromAmountMicros (amount : Int64) : Option BudgetTier :=
  if amount = 15000000 then some .b15
  else if amount = 30000000 then some .b30
  else if amount = 60000000 then some .b60
  else if amount = 120000000 then some .b120
  else if amount = 250000000 then some .b250
  else if amount = 500000000 then some .b500
  else if amount = 1000000000 then some .b1000
  else none

theorem from_amount_micros_amount (tier : BudgetTier) :
    BudgetTier.fromAmountMicros tier.amount = some tier := by
  cases tier <;> decide

theorem amount_of_from_amount_micros {amount : Int64} {tier : BudgetTier}
    (named : BudgetTier.fromAmountMicros amount = some tier) : tier.amount = amount := by
  unfold BudgetTier.fromAmountMicros at named
  split_ifs at named <;> cases named <;> simp_all [BudgetTier.amount]

inductive AugmentationStatus where
  | created
  | evaluating
  | autoApproved
  | pendingReview
  | approved
  | partiallyApproved
  | denied
  | cancelled
  | expired
  | applied
  deriving DecidableEq, Repr

def AugmentationStatus.asStr : AugmentationStatus → String
  | .created => "created"
  | .evaluating => "evaluating"
  | .autoApproved => "auto_approved"
  | .pendingReview => "pending_review"
  | .approved => "approved"
  | .partiallyApproved => "partially_approved"
  | .denied => "denied"
  | .cancelled => "cancelled"
  | .expired => "expired"
  | .applied => "applied"

inductive Effect where
  | autoApprove
  | autoApproveCapped
  | manualReview
  | deny
  | noAction
  deriving DecidableEq, Repr

/-- `unavailable` is kept apart from `known 0`. -/
inductive Spend where
  | known (micros : Int64)
  | unavailable
  deriving DecidableEq, Repr

structure Facts where
  effectiveBalanceMicros : Int64
  selfServiceGrantCount : Int32
  spendThisPeriod : Spend
  spendLastPeriod : Spend
  deriving DecidableEq, Repr

structure Decision where
  effect : Effect
  approvedAmountMicros : Int64
  maximumAmountMicros : Int64
  reasonCodes : List String
  matchedRuleIds : List String
  policyRevision : String
  requiredApproverRole : Option String
  deriving DecidableEq, Repr

structure GrantRequest where
  budgetAccountId : String
  accountId : String
  projectId : Option String
  period : Period
  amountMicros : Int64
  source : GrantSource
  actorId : Option String
  reason : Option String
  policyRevision : Option String
  matchedRuleIds : Option (List String)
  idempotencyKey : Option String
  triggerKey : Option String
  expiresAt : Option Instant
  deriving DecidableEq, Repr

structure BudgetGrant where
  id : String
  budgetAccountId : String
  accountId : String
  projectId : Option String
  period : Period
  amountMicros : Int64
  source : GrantSource
  actorId : Option String
  reason : Option String
  policyRevision : Option String
  matchedRuleIds : Option (List String)
  idempotencyKey : Option String
  triggerKey : Option String
  createdAt : Instant
  expiresAt : Option Instant
  revokedAt : Option Instant
  deriving DecidableEq, Repr

structure BalanceRow where
  budgetAccountId : String
  period : Period
  baseTotalMicros : Int64
  selfServiceTotalMicros : Int64
  adminTotalMicros : Int64
  automaticTotalMicros : Int64
  refundTotalMicros : Int64
  effectiveBudgetMicros : Int64
  selfServiceGrantCount : Int32
  automaticGrantCount : Int32
  version : Int64
  updatedAt : Instant
  deriving DecidableEq, Repr

structure AugmentationRequest where
  id : String
  budgetAccountId : String
  accountId : String
  projectId : Option String
  period : Period
  requestedTier : BudgetTier
  requestedAmountMicros : Int64
  status : AugmentationStatus
  policyEffect : Option Effect
  policyReasonCodes : Option (List String)
  matchedRuleIds : Option (List String)
  policyRevision : Option String
  approvedAmountMicros : Option Int64
  grantId : Option String
  idempotencyKey : Option String
  reviewedBy : Option String
  rejectionReason : Option String
  createdAt : Instant
  reviewedAt : Option Instant
  deriving DecidableEq, Repr

/-- What one statement takes from outside: a fresh `cuid2` and the clock. -/
structure Stamp where
  id : String
  now : Instant
  deriving DecidableEq, Repr

end LightbridgeAuthz.Budget.Domain
