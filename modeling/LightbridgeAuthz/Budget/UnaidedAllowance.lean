import LightbridgeAuthz.Budget.ServiceWrites

/-!
# The unaided allowance

Under a rule set that approves while fewer than `limit` self-service grants were
made in the period, the allowance is meant to be a cap. A refill reads the
counter in one statement and grants in another, and the transaction that locks
the balance row does not look at the counter again. The cap holds along every
run in which each grant still finds the counter its refill read.
-/

namespace LightbridgeAuthz.Budget.UnaidedAllowance

open Library.EventRun Library.KeyedRows
open Domain GrantLedger LedgerReplay Revocation AugmentationRequests RuleData
open ServiceWorld ServiceSteps ServiceWrites

set_option autoImplicit false

/-- The engine approves exactly while the counter is below `limit` and sends
everything else to review. -/
def ThresholdEngine (limit : Nat) (engine : PolicyEngine) : Prop :=
  ∀ facts requestedAmountMicros, ∃ decision,
    engine.evaluate facts requestedAmountMicros = .ok decision ∧
      decision.effect =
        if facts.selfServiceGrantCount.toInt < limit then .autoApprove else .manualReview

def selfServiceGrants (db : BudgetDb) (budgetAccountId : String) (period : Period) :
    List BudgetGrant :=
  (group db.grants budgetAccountId period).filter fun row => row.source = .selfService

def grantingRefill : Call → Option (RefillRequest × Facts)
  | .refill request (.grant _ facts _) => some (request, facts)
  | _ => none

/-- A refill of the pair that is about to grant still finds the counter it
read. -/
def GrantSeesReadCount (budgetAccountId : String) (period : Period) (world : World)
    (event : Event) : Prop :=
  ∀ granting ∈ (movingCall world event).bind grantingRefill,
    (granting.1.budgetAccountId, granting.1.period) = (budgetAccountId, period) →
      (storedColumns world.db budgetAccountId period).selfServiceGrantCount =
        granting.2.selfServiceGrantCount

instance (budgetAccountId : String) (period : Period) (world : World) (event : Event) :
    Decidable (GrantSeesReadCount budgetAccountId period world event) :=
  inferInstanceAs (Decidable (∀ granting ∈ _, _))

def SwapsThreshold (limit : Nat) : Event → Prop
  | .swapEngine engine => ThresholdEngine limit engine
  | _ => True

theorem default_engine_threshold : ThresholdEngine 2 defaultEngine := by
  intro facts requestedAmountMicros
  refine ⟨_, rfl, ?_⟩
  have widened : facts.selfServiceGrantCount.toInt64.toInt =
      facts.selfServiceGrantCount.toInt := Int32.toInt_toInt64 _
  have compared : (facts.selfServiceGrantCount.toInt64 < 2) ↔
      facts.selfServiceGrantCount.toInt < 2 := by
    rw [Int64.lt_iff_toInt_lt, widened]
    rfl
  by_cases below : facts.selfServiceGrantCount.toInt < 2
  · simp [evaluateRules, defaultRuleSet, evalCondition, resolveField, RuleData.compare,
      compared.mpr below, decisionForEffect, below, Except.map]
  · have notBelow : ¬ facts.selfServiceGrantCount.toInt64 < 2 := fun less =>
      below (compared.mp less)
    simp [evaluateRules, defaultRuleSet, evalCondition, resolveField, RuleData.compare,
      notBelow, decisionForEffect, below, Except.map]

theorem self_service_count_column (rows : List BudgetGrant) (budgetAccountId : String)
    (period : Period) :
    ledgerColumn rows budgetAccountId period .selfServiceCount =
      ((group rows budgetAccountId period).filter fun row =>
        row.source = .selfService).length := by
  unfold ledgerColumn
  induction group rows budgetAccountId period with
  | nil => rfl
  | cons row rest ih =>
      rw [List.map_cons, List.sum_cons, ih]
      cases source : row.source <;> simp [contribution, bucketOf, source, Int.add_comm]

theorem stored_count_eq_length {db : BudgetDb} (replays : Replays db)
    (budgetAccountId : String) (period : Period) :
    (storedColumns db budgetAccountId period).selfServiceGrantCount.toInt =
      (selfServiceGrants db budgetAccountId period).length := by
  rw [selfServiceGrants, ← self_service_count_column]
  exact replays budgetAccountId period .selfServiceCount

theorem self_service_grants_append (rows : List BudgetGrant) (fresh : BudgetGrant)
    (budgetAccountId : String) (period : Period) :
    (group (rows ++ [fresh]) budgetAccountId period).filter
        (fun row => row.source = .selfService) =
      (group rows budgetAccountId period).filter (fun row => row.source = .selfService) ++
        if groupKey fresh = (budgetAccountId, period) ∧ fresh.source = .selfService then
          [fresh]
        else [] := by
  unfold group
  rw [List.filter_append, List.filter_append]
  congr 1
  by_cases inGroup : groupKey fresh = (budgetAccountId, period)
  · by_cases selfService : fresh.source = .selfService
    · simp [inGroup, selfService]
    · simp [inGroup, selfService]
  · simp [inGroup]

theorem self_service_grants_other {db next : BudgetDb} {request : GrantRequest}
    {stamp : Stamp} {answer : Except BudgetError BudgetGrant} {budgetAccountId : String}
    {period : Period}
    (other : ¬ ((request.budgetAccountId, request.period) = (budgetAccountId, period) ∧
      request.source = .selfService))
    (ran : GrantLedger.grant db request stamp = (next, answer)) :
    selfServiceGrants next budgetAccountId period =
      selfServiceGrants db budgetAccountId period := by
  unfold selfServiceGrants
  rcases grant_appends ran with same | ⟨grown, _⟩
  · rw [same]
  · have otherRow : ¬ (groupKey (grantRow request stamp) = (budgetAccountId, period) ∧
        (grantRow request stamp).source = .selfService) := other
    rw [grown, self_service_grants_append, if_neg otherRow, List.append_nil]

theorem self_service_grants_succ {db next : BudgetDb} {request : GrantRequest} {stamp : Stamp}
    {answer : Except BudgetError BudgetGrant}
    (ran : GrantLedger.grant db request stamp = (next, answer)) (budgetAccountId : String)
    (period : Period) :
    (selfServiceGrants next budgetAccountId period).length ≤
      (selfServiceGrants db budgetAccountId period).length + 1 := by
  unfold selfServiceGrants
  rcases grant_appends ran with same | ⟨grown, _⟩
  · rw [same]
    omega
  · rw [grown, self_service_grants_append, List.length_append]
    split
    · simp
    · simp

theorem self_service_grants_of_grants {db next : BudgetDb} (same : next.grants = db.grants)
    (budgetAccountId : String) (period : Period) :
    selfServiceGrants next budgetAccountId period =
      selfServiceGrants db budgetAccountId period := by
  rw [selfServiceGrants, same, selfServiceGrants]

/-- The invariant of the cap. A refill that reached its grant read a counter
below the limit. -/
structure AllowanceKept (limit : Nat) (budgetAccountId : String) (period : Period)
    (world : World) : Prop where
  sound : TablesSound world.db
  threshold : ThresholdEngine limit world.engine
  belowLimit : ∀ caller request createdId facts decision,
    world.calls caller = some (.refill request (.grant createdId facts decision)) →
    facts.selfServiceGrantCount.toInt < limit
  capped : (selfServiceGrants world.db budgetAccountId period).length ≤ limit

theorem below_limit_of_approved {limit : Nat} {engine : PolicyEngine}
    (threshold : ThresholdEngine limit engine) {facts : Facts} {requestedAmountMicros : Int64}
    {decision : Decision}
    (evaluated : engine.evaluate facts requestedAmountMicros = .ok decision)
    (approves : decision.effect = .autoApprove ∨ decision.effect = .autoApproveCapped) :
    facts.selfServiceGrantCount.toInt < limit := by
  obtain ⟨expected, same, effect⟩ := threshold facts requestedAmountMicros
  rw [evaluated] at same
  cases same
  by_contra notBelow
  rw [if_neg notBelow] at effect
  rw [effect] at approves
  simp at approves

theorem step_below_limit {limit : Nat} {budgetAccountId : String} {period : Period}
    {lockKey : String → Int64} {world next : World} {event : Event}
    (kept : AllowanceKept limit budgetAccountId period world)
    (outcome : StepOutcome lockKey world event next) :
    ∀ caller request createdId facts decision,
      next.calls caller = some (.refill request (.grant createdId facts decision)) →
      facts.selfServiceGrantCount.toInt < limit := by
  intro caller request createdId facts decision running
  rcases refill_after outcome running with
    ⟨was, _⟩ | ⟨started, _⟩ | ⟨before, input, _, was, move⟩
  · exact kept.belowLimit caller request createdId facts decision was
  · cases started
  · generalize next.db = nextDb at move
    cases move with
    | approved evaluated approves =>
        exact below_limit_of_approved kept.threshold evaluated approves

theorem step_capped {limit : Nat} {budgetAccountId : String} {period : Period}
    {lockKey : String → Int64} {world next : World} {event : Event}
    (kept : AllowanceKept limit budgetAccountId period world)
    (current : GrantSeesReadCount budgetAccountId period world event)
    (outcome : StepOutcome lockKey world event next) :
    (selfServiceGrants next.db budgetAccountId period).length ≤ limit := by
  have capped := kept.capped
  cases step_ledger_write outcome with
  | unchanged same =>
      rw [self_service_grants_of_grants same]
      exact capped
  | @refill caller input request createdId facts decision _ _ moves running ran =>
      by_cases pair : (request.budgetAccountId, request.period) = (budgetAccountId, period)
      · have counted := stored_count_eq_length kept.sound.replays budgetAccountId period
        have seen := current (request, facts) (by simp [movingCall, moves, running,
          grantingRefill]) pair
        have room := kept.belowLimit caller request createdId facts decision running
        have grown := self_service_grants_succ ran budgetAccountId period
        rw [seen] at counted
        simp only at counted
        omega
      · rw [self_service_grants_other (fun both => pair both.1) ran]
        exact capped
  | review moves running ran =>
      rw [self_service_grants_other (by simp [approvalGrant]) ran]
      exact capped
  | admin moves ran =>
      rw [self_service_grants_other (by simp [AdminGrant.request]) ran]
      exact capped
  | correction moves ran =>
      rw [self_service_grants_other (by simp [correctionRequest]) ran]
      exact capped

theorem step_threshold {limit : Nat} {lockKey : String → Int64} {world next : World}
    {event : Event} (threshold : ThresholdEngine limit world.engine)
    (swaps : SwapsThreshold limit event) (outcome : StepOutcome lockKey world event next) :
    ThresholdEngine limit next.engine := by
  cases outcome with
  | swapped engine => exact swaps
  | _ => exact threshold

theorem step_allowance_kept {limit : Nat} {budgetAccountId : String} {period : Period}
    {lockKey : String → Int64} {world next : World} {event : Event}
    (kept : AllowanceKept limit budgetAccountId period world)
    (swaps : SwapsThreshold limit event)
    (current : GrantSeesReadCount budgetAccountId period world event)
    (stepped : step lockKey world event = some next) :
    AllowanceKept limit budgetAccountId period next where
  sound := step_sound kept.sound stepped
  threshold := step_threshold kept.threshold swaps (step_outcome stepped)
  belowLimit := step_below_limit kept (step_outcome stepped)
  capped := step_capped kept current (step_outcome stepped)

/-- Under a threshold rule set, along every run in which each granting refill of
the pair still finds the counter it read, the ledger never holds more than
`limit` self-service grants for the pair. -/
theorem unaided_allowance_is_a_cap (limit : Nat) (lockKey : String → Int64)
    (accounts projects : List String) (engine : PolicyEngine)
    (threshold : ThresholdEngine limit engine) (budgetAccountId : String) (period : Period)
    (events : List Event) (swaps : ∀ event ∈ events, SwapsThreshold limit event)
    (current : Meets (step lockKey) (GrantSeesReadCount budgetAccountId period)
      (World.initial accounts projects engine) events)
    (world : World)
    (ran : runFrom (step lockKey) (World.initial accounts projects engine) events =
      some world) :
    (selfServiceGrants world.db budgetAccountId period).length ≤ limit := by
  have start : AllowanceKept limit budgetAccountId period
      (World.initial accounts projects engine) := by
    refine ⟨empty_tables_sound accounts projects, threshold, ?_, Nat.zero_le limit⟩
    intro caller request createdId facts decision running
    cases running
  have swapped : Meets (step lockKey) (fun _ event => SwapsThreshold limit event)
      (World.initial accounts projects engine) events := by
    apply meets_of_forall_mem
    intro event member _
    exact swaps event member
  have kept := run_preserves_of_meets (AllowanceKept limit budgetAccountId period)
    (fun _ _ _ kept condition stepped =>
      step_allowance_kept kept condition.1 condition.2 stepped) start
    (meets_and swapped current) ran
  exact kept.capped

def arrivingKey (budgetAccountId : String) (period : Period) : Event → Option String
  | .arrive _ (.refill request) =>
      if (request.budgetAccountId, request.period) = (budgetAccountId, period) then
        request.idempotencyKey
      else none
  | _ => none

def unkeyedRefill : RefillRequest where
  budgetAccountId := "acct"
  accountId := "acct"
  projectId := none
  period := ⟨"2026-08", Eq.refl true⟩
  idempotencyKey := none
  asOf := 0
  requestedAmountMicros := 15000000

def refillUpToGrant (caller : Nat) (rowId : String) : List Event :=
  .arrive caller (.refill unkeyedRefill) ::
    List.replicate 8 (.advance caller (plainStep rowId 1))

/-- Three refills read the counter before any of them grants. -/
def concurrentRefills : List Event :=
  refillUpToGrant 0 "r0" ++ refillUpToGrant 1 "r1" ++ refillUpToGrant 2 "r2" ++
    [.advance 0 (plainStep "g0" 2), .advance 1 (plainStep "g1" 2),
      .advance 2 (plainStep "g2" 2)]

/-- The allowance of two is overrun by three refills that ran at once. -/
theorem concurrent_refills_exceed_allowance :
    ¬ ∀ (limit : Nat) (lockKey : String → Int64) (accounts projects : List String)
        (engine : PolicyEngine) (budgetAccountId : String) (period : Period)
        (events : List Event) (world : World),
        ThresholdEngine limit engine →
        (∀ event ∈ events, SwapsThreshold limit event) →
        (events.filterMap (arrivingKey budgetAccountId period)).Nodup →
        runFrom (step lockKey) (World.initial accounts projects engine) events =
          some world →
        (selfServiceGrants world.db budgetAccountId period).length ≤ limit := by
  intro claimed
  have reached : reaches (step fun _ => 0) (World.initial ["acct"] [] defaultEngine)
      concurrentRefills (fun world =>
        (selfServiceGrants world.db "acct" ⟨"2026-08", by decide⟩).length = 3) = true := by
    decide +kernel
  obtain ⟨world, ran, three⟩ := exists_of_reaches reached
  have capped := claimed 2 (fun _ => 0) ["acct"] [] defaultEngine "acct"
    ⟨"2026-08", by decide⟩ concurrentRefills world default_engine_threshold
    (by simp [concurrentRefills, refillUpToGrant, SwapsThreshold]) (by decide) ran
  rw [of_decide_eq_true three] at capped
  omega

/-- Two refills one after the other: each grant finds the counter it read. -/
def sequentialRefills : List Event :=
  refillUpToGrant 0 "r0" ++ [.advance 0 (plainStep "g0" 2)] ++
    refillUpToGrant 1 "r1" ++ [.advance 1 (plainStep "g1" 2)]

theorem sequential_refills_capped :
    ∃ world,
      runFrom (step fun _ => 0) (World.initial ["acct"] [] defaultEngine)
        sequentialRefills = some world ∧
      (selfServiceGrants world.db "acct" ⟨"2026-08", by decide⟩).length ≤ 2 := by
  have reached : reaches (step fun _ => 0) (World.initial ["acct"] [] defaultEngine)
      sequentialRefills (fun _ => true) = true := by
    decide +kernel
  obtain ⟨world, ran, _⟩ := exists_of_reaches reached
  refine ⟨world, ran, ?_⟩
  exact unaided_allowance_is_a_cap 2 (fun _ => 0) ["acct"] [] defaultEngine
    default_engine_threshold "acct" ⟨"2026-08", by decide⟩ sequentialRefills
    (by simp [sequentialRefills, refillUpToGrant, SwapsThreshold]) (by decide +kernel) world
    ran

end LightbridgeAuthz.Budget.UnaidedAllowance
