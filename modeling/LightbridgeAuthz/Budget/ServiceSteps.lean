import LightbridgeAuthz.Budget.ServiceWorld

/-!
# What one step of the service can do

Inversion of the step functions: `RefillMove` and `ReviewMove` list what a call
can do from each program point, and `StepOutcome` what any event does to the
world. No later proof unfolds a step function.
-/

namespace LightbridgeAuthz.Budget.ServiceSteps

open Library.EventRun Library.KeyedRows
open Domain GrantLedger LedgerReplay Revocation EffectiveBalance AugmentationRequests RuleData
open ServiceWorld

set_option autoImplicit false

theorem attempt_ok {Value : Type} {fault : Option Fault} {db next : BudgetDb}
    {result : BudgetDb × Except BudgetError Value} {value : Value}
    (ran : attempt fault db result = (next, .ok value)) : result = (next, .ok value) := by
  cases fault with
  | none => exact ran
  | some fault => simp [attempt] at ran

theorem attempt_error {Value : Type} {fault : Option Fault} {db next : BudgetDb}
    {result : BudgetDb × Except BudgetError Value} {error : BudgetError}
    (ran : attempt fault db result = (next, .error error)) :
    (next = db ∨ next = result.1) ∧ (fault ≠ none ∨ result.2 = .error error) := by
  cases fault with
  | none =>
      simp only [attempt] at ran
      simp [ran]
  | some fault =>
      simp only [attempt, Prod.mk.injEq] at ran
      refine ⟨?_, Or.inl (by simp)⟩
      rw [← ran.1]
      split
      · exact Or.inr rfl
      · exact Or.inl rfl

inductive RefillMove (engine : PolicyEngine) (db : BudgetDb) (request : RefillRequest)
    (input : StepInput) : RefillPoint → BudgetDb → RefillPoint → Prop where
  | failed {point : RefillPoint} (error : BudgetError) :
      RefillMove engine db request input point db (.returned (.error error))
  | answered {key : String} {existing : AugmentationRequest}
      (keyed : request.idempotencyKey = some key)
      (stored : findKey AugmentationRequest.idempotencyKey db.requests key = some existing) :
      RefillMove engine db request input .findExisting db (.returned (.ok existing))
  | unseen : RefillMove engine db request input .findExisting db .checkOffered
  | offered (requestedTier : BudgetTier) :
      RefillMove engine db request input .checkOffered db (.create requestedTier)
  | created {requestedTier : BudgetTier} {next : BudgetDb} {row : AugmentationRequest}
      (ran : create db (newRequest request requestedTier) input.stamp = (next, .ok row)) :
      RefillMove engine db request input (.create requestedTier) next
        (.readEffectiveBalance row.id)
  | createFailed {requestedTier : BudgetTier} {next : BudgetDb} {error : BudgetError}
      (left : next = db ∨
        next = (create db (newRequest request requestedTier) input.stamp).1) :
      RefillMove engine db request input (.create requestedTier) next
        (.returned (.error error))
  | balanceRead {createdId : String} (effectiveBalanceMicros : Int64) :
      RefillMove engine db request input (.readEffectiveBalance createdId) db
        (.readGrantCount createdId effectiveBalanceMicros)
  | countRead {createdId : String} {effectiveBalanceMicros : Int64} :
      RefillMove engine db request input (.readGrantCount createdId effectiveBalanceMicros) db
        (.readSpendThisPeriod createdId effectiveBalanceMicros
          (((getBalance db request.budgetAccountId request.period).map
            BalanceRow.selfServiceGrantCount).getD 0))
  | spendThisRead {createdId : String} {effectiveBalanceMicros : Int64}
      {selfServiceGrantCount : Int32} (spend : Spend) :
      RefillMove engine db request input
        (.readSpendThisPeriod createdId effectiveBalanceMicros selfServiceGrantCount) db
        (.readSpendLastPeriod createdId effectiveBalanceMicros selfServiceGrantCount spend)
  | spendLastRead {createdId : String} {effectiveBalanceMicros : Int64}
      {selfServiceGrantCount : Int32} {spendThisPeriod : Spend} (spend : Spend) :
      RefillMove engine db request input
        (.readSpendLastPeriod createdId effectiveBalanceMicros selfServiceGrantCount
          spendThisPeriod) db
        (.evaluate createdId
          ⟨effectiveBalanceMicros, selfServiceGrantCount, spendThisPeriod, spend⟩)
  | approved {createdId : String} {facts : Facts} {decision : Decision}
      (evaluated : engine.evaluate facts request.requestedAmountMicros = .ok decision)
      (approves : decision.effect = .autoApprove ∨ decision.effect = .autoApproveCapped) :
      RefillMove engine db request input (.evaluate createdId facts) db
        (.grant createdId facts decision)
  | deferred {createdId : String} {facts : Facts} {decision : RecordedDecision}
      (unpaid : decision.decompose.grantId = none)
      (withheld : decision.decompose.status = .pendingReview ∨
        decision.decompose.status = .denied) :
      RefillMove engine db request input (.evaluate createdId facts) db
        (.recordDecision createdId decision)
  | granted {createdId : String} {facts : Facts} {decision : Decision} {next : BudgetDb}
      {row : BudgetGrant}
      (ran : GrantLedger.grant db (refillGrant request decision) input.stamp =
        (next, .ok row)) :
      RefillMove engine db request input (.grant createdId facts decision) next
        (.recordDecision createdId (approval decision row.id))
  | grantFailed {createdId : String} {facts : Facts} {decision : Decision} {next : BudgetDb}
      {error : BudgetError}
      (left : next = db ∨
        next = (GrantLedger.grant db (refillGrant request decision) input.stamp).1) :
      RefillMove engine db request input (.grant createdId facts decision) next
        (.returned (.error error))
  | recorded {createdId : String} {decision : RecordedDecision} {next : BudgetDb}
      {answer : Except BudgetError AugmentationRequest}
      (ran : recordDecision db createdId decision = (next, answer)) :
      RefillMove engine db request input (.recordDecision createdId decision) next
        (.returned answer)
  | recordFailed {createdId : String} {decision : RecordedDecision} {next : BudgetDb}
      {error : BudgetError}
      (left : next = db ∨ next = (recordDecision db createdId decision).1) :
      RefillMove engine db request input (.recordDecision createdId decision) next
        (.returned (.error error))

theorem after_evaluation_move (engine : PolicyEngine) (db : BudgetDb) (request : RefillRequest)
    (input : StepInput) (createdId : String) (facts : Facts) :
    RefillMove engine db request input (.evaluate createdId facts) db
      (afterEvaluation createdId facts
        (engine.evaluate facts request.requestedAmountMicros)) := by
  cases evaluated : engine.evaluate facts request.requestedAmountMicros with
  | error error => exact .deferred rfl (Or.inl rfl)
  | ok decision =>
      simp only [afterEvaluation]
      cases effect : decision.effect with
      | autoApprove => exact .approved evaluated (Or.inl effect)
      | autoApproveCapped => exact .approved evaluated (Or.inr effect)
      | manualReview => exact .deferred rfl (Or.inl rfl)
      | deny => exact .deferred rfl (Or.inr rfl)
      | noAction => exact .deferred rfl (Or.inr rfl)

theorem refill_move {engine : PolicyEngine} {db next : BudgetDb} {request : RefillRequest}
    {input : StepInput} {point later : RefillPoint}
    (unfinished : ∀ result, point ≠ .returned result)
    (ran : refillStep engine db request input point = (next, later)) :
    RefillMove engine db request input point next later := by
  cases point with
  | findExisting =>
      simp only [refillStep] at ran
      cases keyed : request.idempotencyKey with
      | none =>
          simp only [keyed] at ran
          cases ran
          exact .unseen
      | some key =>
          simp only [keyed] at ran
          cases fault : input.fault with
          | some fault =>
              simp only [fault, attemptRead] at ran
              cases ran
              exact .failed _
          | none =>
              simp only [fault, attemptRead] at ran
              cases found : findByIdempotencyKey db key with
              | none =>
                  simp only [found] at ran
                  cases ran
                  exact .unseen
              | some existing =>
                  simp only [found] at ran
                  cases ran
                  exact .answered keyed found
  | checkOffered =>
      simp only [refillStep] at ran
      split at ran
      · cases ran
        exact .offered _
      · cases ran
        exact .failed _
  | create requestedTier =>
      simp only [refillStep] at ran
      split at ran
      · rename_i failed
        cases ran
        exact .createFailed (attempt_error failed).1
      · rename_i succeeded
        cases ran
        exact .created (attempt_ok succeeded)
  | readEffectiveBalance createdId =>
      simp only [refillStep] at ran
      split at ran
      · cases ran
        exact .failed _
      · cases ran
        exact .balanceRead _
  | readGrantCount createdId effectiveBalanceMicros =>
      simp only [refillStep] at ran
      split at ran
      · cases ran
        exact .failed _
      · rename_i balance read
        cases fault : input.fault with
        | some fault => simp [fault, attemptRead] at read
        | none =>
            simp only [fault, attemptRead, Except.ok.injEq] at read
            cases ran
            rw [← read]
            exact .countRead
  | readSpendThisPeriod createdId effectiveBalanceMicros selfServiceGrantCount =>
      simp only [refillStep] at ran
      split at ran
      · cases ran
        exact .failed _
      · cases ran
        exact .spendThisRead _
  | readSpendLastPeriod createdId effectiveBalanceMicros selfServiceGrantCount spend =>
      simp only [refillStep] at ran
      split at ran
      · cases ran
        exact .failed _
      · cases ran
        exact .spendLastRead _
  | evaluate createdId facts =>
      simp only [refillStep] at ran
      cases ran
      exact after_evaluation_move engine db request input createdId facts
  | grant createdId facts decision =>
      simp only [refillStep] at ran
      split at ran
      · rename_i failed
        cases ran
        exact .grantFailed (attempt_error failed).1
      · rename_i succeeded
        cases ran
        exact .granted (attempt_ok succeeded)
  | recordDecision createdId decision =>
      simp only [refillStep] at ran
      rcases tried : attempt input.fault db
        (AugmentationRequests.recordDecision db createdId decision) with ⟨left, answer⟩
      rw [tried] at ran
      cases ran
      cases answer with
      | error error => exact .recordFailed (attempt_error tried).1
      | ok row => exact .recorded (attempt_ok tried)
  | returned result => exact absurd rfl (unfinished result)

/-- Everything a review can do while it holds its lock. -/
inductive ReviewMove (db : BudgetDb) (review : Review) (input : StepInput) :
    ReviewPoint → BudgetDb → ReviewPoint → Prop where
  | getFailed {error : BudgetError}
      (why : input.fault ≠ none ∨ findKey requestId db.requests review.requestId = none) :
      ReviewMove db review input .get db (.releaseLock (.error error))
  | settled {row : AugmentationRequest}
      (stored : findKey requestId db.requests review.requestId = some row)
      (notPending : row.status ≠ .pendingReview) :
      ReviewMove db review input .get db
        (.releaseLock (.error (.alreadyReviewed review.requestId)))
  | toGrant {row : AugmentationRequest}
      (stored : findKey requestId db.requests review.requestId = some row)
      (pending : row.status = .pendingReview) (approves : review.action = .approve) :
      ReviewMove db review input .get db (.grant row)
  | toRecord {row : AugmentationRequest} {reason : String}
      (stored : findKey requestId db.requests review.requestId = some row)
      (pending : row.status = .pendingReview) (rejects : review.action = .reject reason) :
      ReviewMove db review input .get db (.recordReview none)
  | granted {request : AugmentationRequest} {next : BudgetDb} {row : BudgetGrant}
      (ran : GrantLedger.grant db (approvalGrant review request) input.stamp =
        (next, .ok row)) :
      ReviewMove db review input (.grant request) next (.recordReview (some row.id))
  | grantFailed {request : AugmentationRequest} {next : BudgetDb} {error : BudgetError}
      (left : next = db ∨
        next = (GrantLedger.grant db (approvalGrant review request) input.stamp).1)
      (why : input.fault ≠ none ∨
        (GrantLedger.grant db (approvalGrant review request) input.stamp).2 = .error error) :
      ReviewMove db review input (.grant request) next (.releaseLock (.error error))
  | recorded {grantId : Option String} {next : BudgetDb}
      {answer : Except BudgetError AugmentationRequest}
      (ran : recordOutcome db review grantId input.stamp.now = (next, answer)) :
      ReviewMove db review input (.recordReview grantId) next (.releaseLock answer)
  | recordFailed {grantId : Option String} {next : BudgetDb} {error : BudgetError}
      (left : next = db ∨ next = (recordOutcome db review grantId input.stamp.now).1)
      (why : input.fault ≠ none) :
      ReviewMove db review input (.recordReview grantId) next (.releaseLock (.error error))

/-- The points a review passes while it holds its lock and has not answered. -/
def ReviewPoint.inside : ReviewPoint → Bool
  | .get => true
  | .grant _ => true
  | .recordReview _ => true
  | _ => false

def ReviewPoint.decides : ReviewPoint → Bool
  | .grant _ => true
  | .recordReview _ => true
  | _ => false

theorem get_move (db : BudgetDb) (review : Review) (input : StepInput) :
    ReviewMove db review input .get (reviewStep db review input .get).1
      (reviewStep db review input .get).2 := by
  simp only [reviewStep]
  cases fault : input.fault with
  | some fault =>
      simp only [attemptRead]
      exact .getFailed (Or.inl (by simp [fault]))
  | none =>
      simp only [attemptRead, AugmentationRequests.get]
      cases stored : findKey requestId db.requests review.requestId with
      | none => exact .getFailed (Or.inr stored)
      | some row =>
          by_cases pending : row.status = .pendingReview
          · simp only [pending, ne_eq, not_true_eq_false, if_false]
            cases action : review.action with
            | approve => exact .toGrant stored pending action
            | reject reason => exact .toRecord stored pending action
          · simp only [pending, ne_eq, not_false_eq_true, if_true]
            exact .settled stored pending

theorem review_move {db next : BudgetDb} {review : Review} {input : StepInput}
    {point later : ReviewPoint} (inside : ReviewPoint.inside point = true)
    (ran : reviewStep db review input point = (next, later)) :
    ReviewMove db review input point next later := by
  cases point with
  | get =>
      have moved := get_move db review input
      rwa [ran] at moved
  | grant request =>
      simp only [reviewStep] at ran
      split at ran
      · rename_i failed
        cases ran
        exact .grantFailed (attempt_error failed).1 (attempt_error failed).2
      · rename_i succeeded
        cases ran
        exact .granted (attempt_ok succeeded)
  | recordReview grantId =>
      simp only [reviewStep] at ran
      cases fault : input.fault with
      | none =>
          simp only [fault, attempt] at ran
          cases ran
          exact .recorded rfl
      | some fault =>
          rcases tried : attempt input.fault db
            (recordOutcome db review grantId input.stamp.now) with ⟨left, answer⟩
          rw [tried] at ran
          cases ran
          cases answer with
          | error error => exact .recordFailed (attempt_error tried).1 (by simp [fault])
          | ok row => exact .recorded (attempt_ok tried)
  | validateReason => cases inside
  | acquireLock => cases inside
  | releaseLock result => cases inside
  | returned result => cases inside

inductive StepOutcome (lockKey : String → Int64) (world : World) : Event → World → Prop where
  | arrived {caller : Nat} {operation : Operation} (free : world.calls caller = none) :
      StepOutcome lockKey world (.arrive caller operation)
        { world with calls := setCall world.calls caller (some operation.start) }
  | refillMoved {caller : Nat} {input : StepInput} {request : RefillRequest}
      {point later : RefillPoint} {next : BudgetDb}
      (running : world.calls caller = some (.refill request point))
      (unfinished : ∀ result, point ≠ .returned result)
      (move : RefillMove world.engine world.db request input point next later) :
      StepOutcome lockKey world (.advance caller input)
        { world with
          db := next
          calls := setCall world.calls caller (some (.refill request later)) }
  | reviewMoved {caller : Nat} {input : StepInput} {review : Review}
      {point later : ReviewPoint} {next : BudgetDb}
      (running : world.calls caller = some (.review review point))
      (inside : ReviewPoint.inside point = true)
      (move : ReviewMove world.db review input point next later) :
      StepOutcome lockKey world (.advance caller input)
        { world with
          db := next
          calls := setCall world.calls caller (some (.review review later)) }
  | reasonRefused {caller : Nat} {input : StepInput} {review : Review} {reason : String}
      (running : world.calls caller = some (.review review .validateReason))
      (rejects : review.action = .reject reason) (blank : isBlank reason = true) :
      StepOutcome lockKey world (.advance caller input)
        { world with
          calls := setCall world.calls caller
            (some (.review review (.returned (.error .missingRejectionReason)))) }
  | reasonAccepted {caller : Nat} {input : StepInput} {review : Review}
      (running : world.calls caller = some (.review review .validateReason)) :
      StepOutcome lockKey world (.advance caller input)
        { world with
          calls := setCall world.calls caller (some (.review review .acquireLock)) }
  | lockFailed {caller : Nat} {input : StepInput} {review : Review} {error : BudgetError}
      (running : world.calls caller = some (.review review .acquireLock))
      (why : input.fault ≠ none) :
      StepOutcome lockKey world (.advance caller input)
        { world with
          calls := setCall world.calls caller
            (some (.review review (.returned (.error error)))) }
  | locked {caller : Nat} {input : StepInput} {review : Review}
      (running : world.calls caller = some (.review review .acquireLock))
      (free : world.locks (lockKey review.requestId) = none) :
      StepOutcome lockKey world (.advance caller input)
        { world with
          locks := holdLock world.locks (lockKey review.requestId) caller
          calls := setCall world.calls caller (some (.review review .get)) }
  | released {caller : Nat} {input : StepInput} {review : Review}
      {result answer : Except BudgetError AugmentationRequest}
      (running : world.calls caller = some (.review review (.releaseLock result)))
      (why : input.fault ≠ none ∨ answer = result) :
      StepOutcome lockKey world (.advance caller input)
        { world with
          locks := freeLocks world.locks caller
          calls := setCall world.calls caller (some (.review review (.returned answer))) }
  | stopped {caller : Nat} {call : Call} (running : world.calls caller = some call) :
      StepOutcome lockKey world (.stop caller)
        { world with
          locks := freeLocks world.locks caller
          calls := setCall world.calls caller none }
  | swapped (engine : PolicyEngine) :
      StepOutcome lockKey world (.swapEngine engine) { world with engine := engine }
  | budgetGranted (order : AdminGrant) (stamp : Stamp) :
      StepOutcome lockKey world (.grantBudget order stamp)
        { world with db := (Revocation.grantBudget world.db order stamp).1 }
  | budgetRevoked (subject grantId reason : String) (stamp : Stamp) :
      StepOutcome lockKey world (.revokeBudgetGrant subject grantId reason stamp)
        { world with
          db := (Revocation.revokeBudgetGrant world.db subject grantId reason stamp).1 }

theorem advance_refill_eq {world : World} {caller : Nat} {request : RefillRequest}
    {input : StepInput} {point : RefillPoint} (unfinished : ∀ result, point ≠ .returned result) :
    advanceRefill world caller request input point =
      some { world with
        db := (refillStep world.engine world.db request input point).1
        calls := setCall world.calls caller
          (some (.refill request
            (refillStep world.engine world.db request input point).2)) } := by
  cases point with
  | returned result => exact absurd rfl (unfinished result)
  | _ => rfl

theorem advance_refill_unfinished {world next : World} {caller : Nat} {request : RefillRequest}
    {input : StepInput} {point : RefillPoint}
    (advanced : advanceRefill world caller request input point = some next) :
    ∀ result, point ≠ .returned result := by
  intro result isReturned
  rw [isReturned] at advanced
  cases advanced

theorem advance_refill_outcome (lockKey : String → Int64) {world next : World} {caller : Nat}
    {request : RefillRequest} {input : StepInput} {point : RefillPoint}
    (running : world.calls caller = some (.refill request point))
    (advanced : advanceRefill world caller request input point = some next) :
    StepOutcome lockKey world (.advance caller input) next := by
  have unfinished := advance_refill_unfinished advanced
  rw [advance_refill_eq unfinished] at advanced
  cases advanced
  exact .refillMoved running unfinished (refill_move unfinished rfl)

theorem advance_inside_outcome (lockKey : String → Int64) {world next : World} {caller : Nat}
    {review : Review} {input : StepInput} {point : ReviewPoint}
    (running : world.calls caller = some (.review review point))
    (inside : ReviewPoint.inside point = true)
    (advanced : advanceReview lockKey world caller review input point = some next) :
    StepOutcome lockKey world (.advance caller input) next := by
  rcases ran : reviewStep world.db review input point with ⟨db, later⟩
  have moved := review_move inside ran
  cases point with
  | get =>
      simp only [advanceReview, ran] at advanced
      cases advanced
      exact .reviewMoved running inside moved
  | grant request =>
      simp only [advanceReview, ran] at advanced
      cases advanced
      exact .reviewMoved running inside moved
  | recordReview grantId =>
      simp only [advanceReview, ran] at advanced
      cases advanced
      exact .reviewMoved running inside moved
  | validateReason => cases inside
  | acquireLock => cases inside
  | releaseLock result => cases inside
  | returned result => cases inside

theorem advance_review_outcome (lockKey : String → Int64) {world next : World} {caller : Nat}
    {review : Review} {input : StepInput} {point : ReviewPoint}
    (running : world.calls caller = some (.review review point))
    (advanced : advanceReview lockKey world caller review input point = some next) :
    StepOutcome lockKey world (.advance caller input) next := by
  cases point with
  | validateReason =>
      simp only [advanceReview] at advanced
      split at advanced
      · rename_i reason rejects
        split at advanced
        · rename_i blank
          cases advanced
          exact .reasonRefused running rejects blank
        · cases advanced
          exact .reasonAccepted running
      · cases advanced
        exact .reasonAccepted running
  | acquireLock =>
      simp only [advanceReview] at advanced
      split at advanced
      · rename_i fault failed
        cases advanced
        exact .lockFailed running (by simp [failed])
      · split at advanced
        · cases advanced
        · rename_i free
          cases advanced
          exact .locked running free
  | releaseLock result =>
      simp only [advanceReview] at advanced
      cases advanced
      apply StepOutcome.released running
      cases input.fault with
      | none => exact Or.inr rfl
      | some fault => exact Or.inl (by simp)
  | returned result => simp [advanceReview] at advanced
  | get => exact advance_inside_outcome lockKey running rfl advanced
  | grant request => exact advance_inside_outcome lockKey running rfl advanced
  | recordReview grantId => exact advance_inside_outcome lockKey running rfl advanced

theorem step_outcome {lockKey : String → Int64} {world next : World} {event : Event}
    (stepped : step lockKey world event = some next) :
    StepOutcome lockKey world event next := by
  cases event with
  | arrive caller operation =>
      simp only [step] at stepped
      split at stepped
      · cases stepped
      · rename_i free
        cases stepped
        exact .arrived free
  | advance caller input =>
      simp only [step] at stepped
      split at stepped
      · cases stepped
      · rename_i request point running
        exact advance_refill_outcome lockKey running stepped
      · rename_i review point running
        exact advance_review_outcome lockKey running stepped
  | stop caller =>
      simp only [step] at stepped
      split at stepped
      · cases stepped
      · rename_i call running
        cases stepped
        exact .stopped running
  | swapEngine engine =>
      cases stepped
      exact .swapped engine
  | grantBudget order stamp =>
      cases stepped
      exact .budgetGranted order stamp
  | revokeBudgetGrant subject grantId reason stamp =>
      cases stepped
      exact .budgetRevoked subject grantId reason stamp

end LightbridgeAuthz.Budget.ServiceSteps
