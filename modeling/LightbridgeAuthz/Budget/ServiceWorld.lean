import LightbridgeAuthz.Library.EventRun
import LightbridgeAuthz.Budget.AugmentationRequests
import LightbridgeAuthz.Budget.EffectiveBalance
import LightbridgeAuthz.Budget.RuleData

/-!
# Concurrent refills and reviews

`RefillService::request_refill` and `ReviewService::approve`/`reject` as
programs that take one database statement at a time, so that any number of
calls interleave in any order. A program point carries the local variables the
rest of the call reads. A statement may fail before it reached the database, or
be committed while its reply is lost; a call may stop anywhere; the policy
engine may be swapped between any two steps.
-/

namespace LightbridgeAuthz.Budget.ServiceWorld

open Library.EventRun Library.KeyedRows
open Domain GrantLedger LedgerReplay Revocation EffectiveBalance AugmentationRequests RuleData

set_option autoImplicit false

structure StepInput where
  stamp : Stamp
  spend : Spend
  fault : Option Fault
  deriving DecidableEq, Repr

structure RefillRequest where
  budgetAccountId : String
  accountId : String
  projectId : Option String
  period : Period
  idempotencyKey : Option String
  asOf : Instant
  requestedAmountMicros : Int64
  deriving DecidableEq, Repr

inductive RefillPoint where
  | findExisting
  | checkOffered
  | create (requestedTier : BudgetTier)
  | readEffectiveBalance (createdId : String)
  | readGrantCount (createdId : String) (effectiveBalanceMicros : Int64)
  | readSpendThisPeriod (createdId : String) (effectiveBalanceMicros : Int64)
      (selfServiceGrantCount : Int32)
  | readSpendLastPeriod (createdId : String) (effectiveBalanceMicros : Int64)
      (selfServiceGrantCount : Int32) (spendThisPeriod : Spend)
  | evaluate (createdId : String) (facts : Facts)
  | grant (createdId : String) (facts : Facts) (decision : Decision)
  | recordDecision (createdId : String) (decision : RecordedDecision)
  | returned (result : Except BudgetError AugmentationRequest)
  deriving DecidableEq

def newRequest (request : RefillRequest) (requestedTier : BudgetTier) :
    NewAugmentationRequest where
  budgetAccountId := request.budgetAccountId
  accountId := request.accountId
  projectId := request.projectId
  period := request.period
  requestedTier := requestedTier
  requestedAmountMicros := request.requestedAmountMicros
  idempotencyKey := request.idempotencyKey

def refillGrant (request : RefillRequest) (decision : Decision) : GrantRequest where
  budgetAccountId := request.budgetAccountId
  accountId := request.accountId
  projectId := request.projectId
  period := request.period
  amountMicros := decision.approvedAmountMicros
  source := .selfService
  actorId := some request.accountId
  reason := none
  policyRevision := some decision.policyRevision
  matchedRuleIds := some decision.matchedRuleIds
  idempotencyKey := request.idempotencyKey
  triggerKey := none
  expiresAt := none

def engineUnavailable : RecordedDecision :=
  .pendingReview
    { policyEffect := .manualReview
      policyReasonCodes := ["policy_engine_unavailable"]
      matchedRuleIds := []
      policyRevision := "n/a" }

def unapproved (decision : Decision) : UnapprovedDecision where
  policyEffect := decision.effect
  policyReasonCodes := decision.reasonCodes
  matchedRuleIds := decision.matchedRuleIds
  policyRevision := decision.policyRevision

def approval (decision : Decision) (grantId : String) : RecordedDecision :=
  let approved : ApprovedDecision :=
    { policyEffect := decision.effect
      policyReasonCodes := decision.reasonCodes
      matchedRuleIds := decision.matchedRuleIds
      policyRevision := decision.policyRevision
      approvedAmountMicros := decision.approvedAmountMicros
      grantId := grantId }
  if decision.effect = .autoApprove then .autoApproved approved else .partiallyApproved approved

def afterEvaluation (createdId : String) (facts : Facts) :
    Except BudgetError Decision → RefillPoint
  | .error _ => .recordDecision createdId engineUnavailable
  | .ok decision =>
      match decision.effect with
      | .autoApprove => .grant createdId facts decision
      | .autoApproveCapped => .grant createdId facts decision
      | .manualReview => .recordDecision createdId (.pendingReview (unapproved decision))
      | .deny => .recordDecision createdId (.denied (unapproved decision))
      | .noAction => .recordDecision createdId (.denied (unapproved decision))

/-- One statement of `request_refill`, with any `SpendReader`: what it reads or the error
that it may return. -/
def refillStep (engine : PolicyEngine) (db : BudgetDb) (request : RefillRequest)
    (input : StepInput) : RefillPoint → BudgetDb × RefillPoint
  | .findExisting =>
      match request.idempotencyKey with
      | none => (db, .checkOffered)
      | some key =>
          match attemptRead input.fault (.ok (findByIdempotencyKey db key)) with
          | .error error => (db, .returned (.error error))
          | .ok (some existing) => (db, .returned (.ok existing))
          | .ok none => (db, .checkOffered)
  | .checkOffered =>
      if request.requestedAmountMicros ∈ engine.allowedAmountsMicros then
        (db, .create ((BudgetTier.fromAmountMicros request.requestedAmountMicros).getD .b15))
      else (db, .returned (.error (.amountNotOffered request.requestedAmountMicros)))
  | .create requestedTier =>
      match attempt input.fault db
          (AugmentationRequests.create db (newRequest request requestedTier) input.stamp) with
      | (next, .error error) => (next, .returned (.error error))
      | (next, .ok created) => (next, .readEffectiveBalance created.id)
  | .readEffectiveBalance createdId =>
      match attemptRead input.fault
          (effectiveBalance db request.budgetAccountId request.period request.asOf) with
      | .error error => (db, .returned (.error error))
      | .ok effectiveBalanceMicros => (db, .readGrantCount createdId effectiveBalanceMicros)
  | .readGrantCount createdId effectiveBalanceMicros =>
      match attemptRead input.fault
          (.ok (getBalance db request.budgetAccountId request.period)) with
      | .error error => (db, .returned (.error error))
      | .ok balance =>
          (db, .readSpendThisPeriod createdId effectiveBalanceMicros
            ((balance.map BalanceRow.selfServiceGrantCount).getD 0))
  | .readSpendThisPeriod createdId effectiveBalanceMicros selfServiceGrantCount =>
      match attemptRead input.fault (.ok input.spend) with
      | .error error => (db, .returned (.error error))
      | .ok spend =>
          (db, .readSpendLastPeriod createdId effectiveBalanceMicros selfServiceGrantCount
            spend)
  | .readSpendLastPeriod createdId effectiveBalanceMicros selfServiceGrantCount
      spendThisPeriod =>
      match attemptRead input.fault (.ok input.spend) with
      | .error error => (db, .returned (.error error))
      | .ok spend =>
          (db, .evaluate createdId
            { effectiveBalanceMicros := effectiveBalanceMicros
              selfServiceGrantCount := selfServiceGrantCount
              spendThisPeriod := spendThisPeriod
              spendLastPeriod := spend })
  | .evaluate createdId facts =>
      (db, afterEvaluation createdId facts
        (engine.evaluate facts request.requestedAmountMicros))
  | .grant createdId _ decision =>
      match attempt input.fault db
          (GrantLedger.grant db (refillGrant request decision) input.stamp) with
      | (next, .error error) => (next, .returned (.error error))
      | (next, .ok row) => (next, .recordDecision createdId (approval decision row.id))
  | .recordDecision createdId decision =>
      match attempt input.fault db
          (AugmentationRequests.recordDecision db createdId decision) with
      | (next, answer) => (next, .returned answer)
  | .returned result => (db, .returned result)

inductive ReviewAction where
  | approve
  | reject (reason : String)
  deriving DecidableEq, Repr

structure Review where
  requestId : String
  reviewerAccountId : String
  action : ReviewAction
  deriving DecidableEq, Repr

inductive ReviewPoint where
  | validateReason
  | acquireLock
  | get
  | grant (request : AugmentationRequest)
  | recordReview (grantId : Option String)
  | releaseLock (result : Except BudgetError AugmentationRequest)
  | returned (result : Except BudgetError AugmentationRequest)
  deriving DecidableEq

def approvalKey (requestId : String) : String := "augmentation-approval:" ++ requestId

def approvalGrant (review : Review) (request : AugmentationRequest) : GrantRequest where
  budgetAccountId := request.budgetAccountId
  accountId := request.accountId
  projectId := request.projectId
  period := request.period
  amountMicros := request.requestedAmountMicros
  source := .manualApproval
  actorId := some review.reviewerAccountId
  reason := some ("approved via review queue by " ++ review.reviewerAccountId)
  policyRevision := request.policyRevision
  matchedRuleIds := request.matchedRuleIds
  idempotencyKey := some (approvalKey review.requestId)
  triggerKey := none
  expiresAt := none

/-- The `record_review` call a review ends with. -/
def recordOutcome (db : BudgetDb) (review : Review) (grantId : Option String) (now : Instant) :
    BudgetDb × Except BudgetError AugmentationRequest :=
  match review.action with
  | .approve =>
      AugmentationRequests.recordReview db review.requestId .approved review.reviewerAccountId
        none grantId now
  | .reject reason =>
      AugmentationRequests.recordReview db review.requestId .denied review.reviewerAccountId
        (some reason) none now

def reviewStep (db : BudgetDb) (review : Review) (input : StepInput) :
    ReviewPoint → BudgetDb × ReviewPoint
  | .get =>
      match attemptRead input.fault (AugmentationRequests.get db review.requestId) with
      | .error error => (db, .releaseLock (.error error))
      | .ok request =>
          if request.status ≠ .pendingReview then
            (db, .releaseLock (.error (.alreadyReviewed review.requestId)))
          else
            match review.action with
            | .approve => (db, .grant request)
            | .reject _ => (db, .recordReview none)
  | .grant request =>
      match attempt input.fault db
          (GrantLedger.grant db (approvalGrant review request) input.stamp) with
      | (next, .error error) => (next, .releaseLock (.error error))
      | (next, .ok row) => (next, .recordReview (some row.id))
  | .recordReview grantId =>
      match attempt input.fault db (recordOutcome db review grantId input.stamp.now) with
      | (next, answer) => (next, .releaseLock answer)
  | point => (db, point)

inductive Call where
  | refill (request : RefillRequest) (point : RefillPoint)
  | review (review : Review) (point : ReviewPoint)
  deriving DecidableEq

inductive Operation where
  | refill (request : RefillRequest)
  | review (review : Review)
  deriving DecidableEq, Repr

def Operation.start : Operation → Call
  | .refill request => .refill request .findExisting
  | .review asked =>
      match asked.action with
      | .approve => .review asked .acquireLock
      | .reject _ => .review asked .validateReason

/-- The database, the engine in memory, the advisory locks by their 64-bit key
with the call that holds them, and the calls in progress. -/
structure World where
  db : BudgetDb
  engine : PolicyEngine
  locks : Int64 → Option Nat
  calls : Nat → Option Call

def World.initial (accounts projects : List String) (engine : PolicyEngine) : World where
  db := BudgetDb.empty accounts projects
  engine := engine
  locks := fun _ => none
  calls := fun _ => none

inductive Event where
  | arrive (caller : Nat) (operation : Operation)
  | advance (caller : Nat) (input : StepInput)
  | stop (caller : Nat)
  | swapEngine (engine : PolicyEngine)
  | grantBudget (order : AdminGrant) (stamp : Stamp)
  | revokeBudgetGrant (subject grantId reason : String) (stamp : Stamp)

def setCall (calls : Nat → Option Call) (caller : Nat) (call : Option Call) :
    Nat → Option Call :=
  fun other => if other = caller then call else calls other

def holdLock (locks : Int64 → Option Nat) (key : Int64) (caller : Nat) : Int64 → Option Nat :=
  fun other => if other = key then some caller else locks other

/-- The end of a call's transaction frees the lock it holds. -/
def freeLocks (locks : Int64 → Option Nat) (caller : Nat) : Int64 → Option Nat :=
  fun key => if locks key = some caller then none else locks key

/-- One step of a review. A lock that another call holds blocks; `lockKey` is
`hashtextextended(request_id, 0)`. -/
def advanceReview (lockKey : String → Int64) (world : World) (caller : Nat) (review : Review)
    (input : StepInput) : ReviewPoint → Option World
  | .validateReason =>
      match review.action with
      | .reject reason =>
          if isBlank reason then
            some { world with
              calls := setCall world.calls caller
                (some (.review review (.returned (.error .missingRejectionReason)))) }
          else
            some { world with
              calls := setCall world.calls caller (some (.review review .acquireLock)) }
      | .approve =>
          some { world with
            calls := setCall world.calls caller (some (.review review .acquireLock)) }
  | .acquireLock =>
      match input.fault with
      | some fault =>
          some { world with
            calls := setCall world.calls caller
              (some (.review review (.returned (.error (.storageFailed fault.failure))))) }
      | none =>
          match world.locks (lockKey review.requestId) with
          | some _ => none
          | none =>
              some { world with
                locks := holdLock world.locks (lockKey review.requestId) caller
                calls := setCall world.calls caller (some (.review review .get)) }
  | .releaseLock result =>
      some { world with
        locks := freeLocks world.locks caller
        calls := setCall world.calls caller
          (some (.review review (.returned (match input.fault with
            | none => result
            | some fault => .error (.storageFailed fault.failure))))) }
  | .returned _ => none
  | point =>
      match reviewStep world.db review input point with
      | (next, later) =>
          some { world with
            db := next
            calls := setCall world.calls caller (some (.review review later)) }

/-- One step of a refill; a returned call takes none. -/
def advanceRefill (world : World) (caller : Nat) (request : RefillRequest) (input : StepInput)
    (point : RefillPoint) : Option World :=
  match point with
  | .returned _ => none
  | point =>
      match refillStep world.engine world.db request input point with
      | (next, later) =>
          some { world with
            db := next
            calls := setCall world.calls caller (some (.refill request later)) }

def step (lockKey : String → Int64) (world : World) : Event → Option World
  | .arrive caller operation =>
      match world.calls caller with
      | some _ => none
      | none => some { world with calls := setCall world.calls caller (some operation.start) }
  | .advance caller input =>
      match world.calls caller with
      | none => none
      | some (.refill request point) => advanceRefill world caller request input point
      | some (.review review point) => advanceReview lockKey world caller review input point
  | .stop caller =>
      match world.calls caller with
      | none => none
      | some _ =>
          some { world with
            locks := freeLocks world.locks caller
            calls := setCall world.calls caller none }
  | .swapEngine engine => some { world with engine := engine }
  | .grantBudget order stamp =>
      some { world with db := (Revocation.grantBudget world.db order stamp).1 }
  | .revokeBudgetGrant subject grantId reason stamp =>
      some { world with
        db := (Revocation.revokeBudgetGrant world.db subject grantId reason stamp).1 }

def movingCall (world : World) : Event → Option Call
  | .advance caller _ => world.calls caller
  | _ => none

def defaultEngine : PolicyEngine := ruleDataEngine defaultRuleSet 10000

def plainStep (id : String) (now : Instant) : StepInput where
  stamp := ⟨id, now⟩
  spend := .known 0
  fault := none

end LightbridgeAuthz.Budget.ServiceWorld
