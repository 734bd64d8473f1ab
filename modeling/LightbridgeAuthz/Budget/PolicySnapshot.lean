import LightbridgeAuthz.Budget.IdempotencyKeys
import LightbridgeAuthz.Budget.PolicyRevisions

/-!
# One policy snapshot for one decision

A refill asks the serving engine twice: for the amounts it offers, and, a few
database reads later, for its decision. Here the service and the policy store
run side by side in one process, so an activation may swap the engine between
the two. Along every run in which a swap goes on offering what the refills in
flight have asked for, and a refill that falls back to a stored request finds
its own amount there, every recorded decision is what the recorded revision
yields, amount check included.
-/

namespace LightbridgeAuthz.Budget.PolicySnapshot

open Library.EventRun Library.KeyedRows
open Domain GrantLedger AugmentationRequests RuleData
open ServiceWorld ServiceSteps ServiceWrites IdempotencyKeys PolicyStore PolicyRevisions

set_option autoImplicit false

/-- An evaluation that took place: for which request row, on whose behalf, and on
which facts. -/
structure Evaluation where
  requestId : String
  request : RefillRequest
  facts : Facts
  deriving DecidableEq, Repr

/-- One process: the service, the store whose engine it asks, and the history of
its evaluations. -/
structure SnapshotWorld where
  service : World
  store : StoreWorld
  evaluations : List Evaluation

inductive SnapshotEvent where
  | service (event : Event)
  | store (event : StoreEvent)

def servedEngine (engine : RuleDataEngine) : PolicyEngine :=
  ruleDataEngine engine.active engine.evaluationBudget

def evaluationOf : Call → Option Evaluation
  | .refill request (.evaluate createdId facts) => some ⟨createdId, request, facts⟩
  | _ => none

/-- The service never swaps its engine by itself; the store does. -/
def snapshotStep (lockKey : String → Int64) (json : JsonLayer) (policySetId : String)
    (world : SnapshotWorld) : SnapshotEvent → Option SnapshotWorld
  | .service (.swapEngine _) => none
  | .service event =>
      (step lockKey world.service event).map fun next =>
        { world with
          service := next
          evaluations := world.evaluations ++
            ((movingCall world.service event).bind evaluationOf).toList }
  | .store event =>
      (storeStep json policySetId world.store event).map fun next =>
        { world with
          service := { world.service with engine := servedEngine next.engine }
          store := next }

/-- What a rule set decides, within the budget of the process. -/
def yields (world : SnapshotWorld) (ruleSet : RuleSet) (facts : Facts)
    (requestedAmountMicros : Int64) : Decision :=
  evaluateRules facts requestedAmountMicros world.store.engine.evaluationBudget ruleSet
    ruleSet.rules 0

def approves (effect : Effect) : Bool :=
  effect = .autoApprove ∨ effect = .autoApproveCapped

/-- The amount a decision leaves on a request row. -/
def recordedAmount (decision : Decision) : Option Int64 :=
  if approves decision.effect then some decision.approvedAmountMicros else none

/-- The row records the decision of the revision it names, on the facts loaded
for it, and the revision offers the amount the row asks for. -/
def RowFromSnapshot (json : JsonLayer) (policySetId : String) (world : SnapshotWorld)
    (row : AugmentationRequest) (policyRevision : String) : Prop :=
  ∃ ruleSet, RevisionRuleSet json policySetId world.store.db policyRevision ruleSet ∧
    row.requestedAmountMicros ∈ ruleSet.allowedAmountsMicros ∧
    ∃ evaluation ∈ world.evaluations, evaluation.requestId = row.id ∧
      ∃ decision, decision = yields world ruleSet evaluation.facts row.requestedAmountMicros ∧
        row.policyEffect = some decision.effect ∧
        row.policyReasonCodes = some decision.reasonCodes ∧
        row.matchedRuleIds = some decision.matchedRuleIds ∧
        row.approvedAmountMicros = recordedAmount decision

/-- The grant is what the revision it names approved for some evaluated refill,
whose amount that revision offers. -/
def GrantFromSnapshot (json : JsonLayer) (policySetId : String) (world : SnapshotWorld)
    (grant : BudgetGrant) : Prop :=
  ∃ policyRevision ruleSet, grant.policyRevision = some policyRevision ∧
    RevisionRuleSet json policySetId world.store.db policyRevision ruleSet ∧
    ∃ evaluation ∈ world.evaluations,
      evaluation.request.requestedAmountMicros ∈ ruleSet.allowedAmountsMicros ∧
      grant.budgetAccountId = evaluation.request.budgetAccountId ∧
      grant.accountId = evaluation.request.accountId ∧
      grant.period = evaluation.request.period ∧
      ∃ decision, decision = yields world ruleSet evaluation.facts
          evaluation.request.requestedAmountMicros ∧
        approves decision.effect = true ∧
        grant.amountMicros = decision.approvedAmountMicros ∧
        grant.matchedRuleIds = some decision.matchedRuleIds

structure OneSnapshot (json : JsonLayer) (policySetId : String) (world : SnapshotWorld) :
    Prop where
  rows : ∀ row ∈ world.service.db.requests, ∀ policyRevision,
    row.policyRevision = some policyRevision →
    RowFromSnapshot json policySetId world row policyRevision
  grants : ∀ grant ∈ world.service.db.grants, grant.source = .selfService →
    GrantFromSnapshot json policySetId world grant
  revisions : UniqueKeys revisionName world.store.db.revisions

/-- The points between the check of the amount and the evaluation. -/
def awaitsEvaluation : RefillPoint → Bool
  | .create _ => true
  | .readEffectiveBalance _ => true
  | .readGrantCount _ _ => true
  | .readSpendThisPeriod _ _ _ => true
  | .readSpendLastPeriod _ _ _ _ => true
  | .evaluate _ _ => true
  | _ => false

/-- A refill that has passed the check and waits for its evaluation. -/
def awaitingRefill : Call → Option RefillRequest
  | .refill request point => if awaitsEvaluation point then some request else none
  | _ => none

def creatingRefill : Call → Option RefillRequest
  | .refill request (.create _) => some request
  | _ => none

/-- The rule set a call of the store is about to swap in. -/
def loadingRuleSet (json : JsonLayer) : StoreOperation × StorePoint → Option RuleSet
  | (_, .load _ _ text) => (validateRuleData json.parse text).toOption
  | _ => none

/-- A swap goes on offering what the refills that wait for their evaluation have
asked for; a refill whose key is taken when it creates its row finds a row of its
own amount. -/
def KeepsSnapshot (json : JsonLayer) (world : SnapshotWorld) : SnapshotEvent → Prop
  | .store (.advance swapper _) =>
      ∀ ruleSet ∈ (world.store.calls swapper).bind (loadingRuleSet json),
        ∀ caller, ∀ request ∈ (world.service.calls caller).bind awaitingRefill,
          request.requestedAmountMicros ∈ ruleSet.allowedAmountsMicros
  | .service (.advance caller _) =>
      ∀ request ∈ (world.service.calls caller).bind creatingRefill,
        ∀ key ∈ request.idempotencyKey, ∀ row ∈ world.service.db.requests,
          row.idempotencyKey = some key →
          row.requestedAmountMicros = request.requestedAmountMicros
  | _ => True

/-- A process at its start: no calls, no requests and no grants yet, and the
engine serving a stored revision. The columns name what the rule data says, and
no two revisions have one name. -/
structure SnapshotStart (json : JsonLayer) (policySetId : String) (world : SnapshotWorld) :
    Prop where
  service : ∃ accounts projects, world.service =
    World.initial accounts projects (servedEngine world.store.engine)
  named : RevisionsNamed json world.store.db
  agrees : ∃ row ∈ world.store.db.revisions, row.policySetId = policySetId ∧
    validateRuleData json.parse row.ruleDataJson = .ok world.store.engine.active
  noCalls : ∀ caller, world.store.calls caller = none

theorem evaluate_rules_revision (facts : Facts) (requestedAmountMicros : Int64)
    (evaluationBudget : Nat) (ruleSet : RuleSet) (rules : List Rule) (nodesEvaluated : Nat) :
    (evaluateRules facts requestedAmountMicros evaluationBudget ruleSet rules
      nodesEvaluated).policyRevision = ruleSet.policyRevision := by
  induction rules generalizing nodesEvaluated with
  | nil => rfl
  | cons rule rest ih =>
      simp only [evaluateRules]
      split
      · rfl
      · exact ih _
      · rename_i abort _
        cases abort with
        | budgetExceeded => rfl
        | fieldUnavailable => rfl

/-- The decision comes from the evaluation of this refill with the revision it
names, which offers the amount. -/
def Evidence (json : JsonLayer) (policySetId : String) (world : SnapshotWorld) (id : String)
    (request : RefillRequest) (decision : Decision) : Prop :=
  ∃ ruleSet, RevisionRuleSet json policySetId world.store.db decision.policyRevision ruleSet ∧
    request.requestedAmountMicros ∈ ruleSet.allowedAmountsMicros ∧
    ∃ facts, ⟨id, request, facts⟩ ∈ world.evaluations ∧
      decision = yields world ruleSet facts request.requestedAmountMicros

/-- What `record_decision` is about to write of a decision. -/
structure Records (recorded : DecomposedDecision) (decision : Decision) : Prop where
  policyEffect : recorded.policyEffect = decision.effect
  policyReasonCodes : recorded.policyReasonCodes = decision.reasonCodes
  matchedRuleIds : recorded.matchedRuleIds = decision.matchedRuleIds
  policyRevision : recorded.policyRevision = decision.policyRevision
  approvedAmountMicros : recorded.approvedAmountMicros = recordedAmount decision

structure SnapshotInvariant (json : JsonLayer) (policySetId : String)
    (world : SnapshotWorld) : Prop where
  backed : RefillsBacked world.service
  engine : world.service.engine = servedEngine world.store.engine
  named : RevisionsNamed json world.store.db
  serving : RevisionRuleSet json policySetId world.store.db
    world.store.engine.active.policyRevision world.store.engine.active
  sourced : ∀ caller operation point, world.store.calls caller = some (operation, point) →
    Sourced json policySetId world.store.db operation point
  offered : ∀ caller request point, world.service.calls caller = some (.refill request point) →
    awaitsEvaluation point = true →
    request.requestedAmountMicros ∈ world.store.engine.active.allowedAmountsMicros
  amounts : ∀ caller request point id,
    world.service.calls caller = some (.refill request point) → createdId point = some id →
    ∀ row ∈ world.service.db.requests, row.id = id →
      row.requestedAmountMicros = request.requestedAmountMicros
  granting : ∀ caller request id facts decision,
    world.service.calls caller = some (.refill request (.grant id facts decision)) →
    Evidence json policySetId world id request decision ∧ approves decision.effect = true
  deciding : ∀ caller request id recorded,
    world.service.calls caller = some (.refill request (.recordDecision id recorded)) →
    ∃ decision, Evidence json policySetId world id request decision ∧
      Records recorded.decompose decision
  rows : ∀ row ∈ world.service.db.requests, ∀ policyRevision,
    row.policyRevision = some policyRevision →
    RowFromSnapshot json policySetId world row policyRevision
  grants : ∀ grant ∈ world.service.db.grants, grant.source = .selfService →
    GrantFromSnapshot json policySetId world grant

/-- Nothing that was stored or evaluated is lost, and the budget stays. -/
structure Extends (world next : SnapshotWorld) : Prop where
  revisions : ∀ row ∈ world.store.db.revisions, row ∈ next.store.db.revisions
  evaluations : ∀ evaluation ∈ world.evaluations, evaluation ∈ next.evaluations
  budget : next.store.engine.evaluationBudget = world.store.engine.evaluationBudget

section Kept

variable {json : JsonLayer} {policySetId : String} {world next : SnapshotWorld}

theorem yields_kept (grown : Extends world next) (ruleSet : RuleSet) (facts : Facts)
    (requestedAmountMicros : Int64) :
    yields next ruleSet facts requestedAmountMicros =
      yields world ruleSet facts requestedAmountMicros := by
  unfold yields
  rw [grown.budget]

theorem evidence_kept (grown : Extends world next) {id : String} {request : RefillRequest}
    {decision : Decision} (evidence : Evidence json policySetId world id request decision) :
    Evidence json policySetId next id request decision := by
  obtain ⟨ruleSet, stored, offers, facts, evaluated, isDecision⟩ := evidence
  refine ⟨ruleSet, revision_rule_set_kept grown.revisions stored, offers, facts,
    grown.evaluations _ evaluated, ?_⟩
  rw [yields_kept grown]
  exact isDecision

theorem row_from_snapshot_kept (grown : Extends world next) {row : AugmentationRequest}
    {policyRevision : String}
    (decided : RowFromSnapshot json policySetId world row policyRevision) :
    RowFromSnapshot json policySetId next row policyRevision := by
  obtain ⟨ruleSet, stored, offers, evaluation, evaluated, isRow, decision, isDecision, rest⟩ :=
    decided
  refine ⟨ruleSet, revision_rule_set_kept grown.revisions stored, offers, evaluation,
    grown.evaluations _ evaluated, isRow, decision, ?_, rest⟩
  rw [yields_kept grown]
  exact isDecision

theorem grant_from_snapshot_kept (grown : Extends world next) {grant : BudgetGrant}
    (granted : GrantFromSnapshot json policySetId world grant) :
    GrantFromSnapshot json policySetId next grant := by
  obtain ⟨policyRevision, ruleSet, names, stored, evaluation, evaluated, offers,
    budgetAccount, account, period, decision, isDecision, rest⟩ := granted
  refine ⟨policyRevision, ruleSet, names, revision_rule_set_kept grown.revisions stored,
    evaluation, grown.evaluations _ evaluated, offers, budgetAccount, account, period,
    decision, ?_, rest⟩
  rw [yields_kept grown]
  exact isDecision

end Kept

inductive SnapshotOutcome (lockKey : String → Int64) (json : JsonLayer) (policySetId : String)
    (world : SnapshotWorld) : SnapshotEvent → SnapshotWorld → Prop where
  | served {event : Event} {next : World} (notSwap : ∀ engine, event ≠ .swapEngine engine)
      (stepped : step lockKey world.service event = some next) :
      SnapshotOutcome lockKey json policySetId world (.service event)
        { world with
          service := next
          evaluations := world.evaluations ++
            ((movingCall world.service event).bind evaluationOf).toList }
  | stored {event : StoreEvent} {next : StoreWorld}
      (stepped : storeStep json policySetId world.store event = some next) :
      SnapshotOutcome lockKey json policySetId world (.store event)
        { world with
          service := { world.service with engine := servedEngine next.engine }
          store := next }

theorem snapshot_outcome {lockKey : String → Int64} {json : JsonLayer} {policySetId : String}
    {world next : SnapshotWorld} {event : SnapshotEvent}
    (stepped : snapshotStep lockKey json policySetId world event = some next) :
    SnapshotOutcome lockKey json policySetId world event next := by
  unfold snapshotStep at stepped
  split at stepped
  · cases stepped
  · rename_i event notSwap
    obtain ⟨service, ran, isNext⟩ := Option.map_eq_some_iff.mp stepped
    rw [← isNext]
    exact .served notSwap ran
  · obtain ⟨store, ran, isNext⟩ := Option.map_eq_some_iff.mp stepped
    rw [← isNext]
    exact .stored ran

theorem engine_kept {lockKey : String → Int64} {world next : World} {event : Event}
    (notSwap : ∀ engine, event ≠ .swapEngine engine)
    (outcome : StepOutcome lockKey world event next) : next.engine = world.engine := by
  cases outcome with
  | swapped engine => exact absurd rfl (notSwap engine)
  | _ => rfl

/-- The check lets an amount pass only if the engine of that moment offers it. -/
theorem check_offered_step {lockKey : String → Int64} {world next : World} {caller : Nat}
    {input : StepInput} {request : RefillRequest} {requestedTier : BudgetTier}
    (was : world.calls caller = some (.refill request .checkOffered))
    (stepped : step lockKey world (.advance caller input) = some next)
    (passed : next.calls caller = some (.refill request (.create requestedTier))) :
    request.requestedAmountMicros ∈ world.engine.allowedAmountsMicros := by
  simp only [step, was, advanceRefill, refillStep] at stepped
  split at stepped
  · rename_i offered
    exact offered
  · cases stepped
    simp [setCall] at passed

theorem evaluate_step {lockKey : String → Int64} {world next : World} {caller : Nat}
    {input : StepInput} {request : RefillRequest} {id : String} {facts : Facts}
    (was : world.calls caller = some (.refill request (.evaluate id facts)))
    (stepped : step lockKey world (.advance caller input) = some next) :
    next.calls caller = some (.refill request (afterEvaluation id facts
      (world.engine.evaluate facts request.requestedAmountMicros))) := by
  simp only [step, was, advanceRefill, refillStep] at stepped
  cases stepped
  simp [setCall]

theorem stored_invariant {json : JsonLayer} {policySetId : String}
    (faithful : StoresFaithfully json) {world : SnapshotWorld}
    {event : StoreEvent} {next : StoreWorld} (inv : SnapshotInvariant json policySetId world)
    (keeps : KeepsSnapshot json world (.store event))
    (stepped : storeStep json policySetId world.store event = some next) :
    SnapshotInvariant json policySetId
      { world with
        service := { world.service with engine := servedEngine next.engine }
        store := next } := by
  obtain ⟨after, sourced, engine⟩ := store_step_effect faithful inv.named inv.sourced stepped
  have budget : next.engine.evaluationBudget = world.store.engine.evaluationBudget := by
    rcases engine with same | ⟨_, _, _, _, _, _, _, _, _, _, swapped⟩
    · rw [same]
    · rw [swapped]
  have grown : Extends world
      { world with
        service := { world.service with engine := servedEngine next.engine }
        store := next } := ⟨revisions_kept after, fun _ member => member, budget⟩
  constructor
  · exact inv.backed
  · rfl
  · exact revisions_after_named faithful inv.named after
  · rcases engine with same | ⟨caller, _, operation, _, _, _, ruleSet, _, loading, valid,
      swapped⟩
    · rw [same]
      exact revision_rule_set_kept grown.revisions inv.serving
    · rw [swapped]
      exact revision_rule_set_kept grown.revisions
        (loading_stored (inv.sourced _ _ _ loading) ruleSet valid)
  · exact sourced
  · intro caller request point running awaits
    rcases engine with same | ⟨swapper, input, operation, id, policyRevision, text, ruleSet,
      moves, loading, valid, swapped⟩
    · rw [same]
      exact inv.offered caller request point running awaits
    · rw [swapped]
      rw [moves] at keeps
      have calling : world.service.calls caller = some (.refill request point) := running
      apply keeps ruleSet _ caller request
      · simp [calling, awaitingRefill, awaits]
      · simp [loading, loadingRuleSet, valid, Except.toOption]
  · exact inv.amounts
  · intro caller request id facts decision running
    obtain ⟨evidence, approved⟩ := inv.granting caller request id facts decision running
    exact ⟨evidence_kept grown evidence, approved⟩
  · intro caller request id recorded running
    obtain ⟨decision, evidence, records⟩ := inv.deciding caller request id recorded running
    exact ⟨decision, evidence_kept grown evidence, records⟩
  · intro row member policyRevision names
    exact row_from_snapshot_kept grown (inv.rows row member policyRevision names)
  · intro grant member source
    exact grant_from_snapshot_kept grown (inv.grants grant member source)

section Served

variable {lockKey : String → Int64} {json : JsonLayer} {policySetId : String}
  {world : SnapshotWorld} {event : Event} {next : World}

def served (world : SnapshotWorld) (event : Event) (next : World) : SnapshotWorld :=
  { world with
    service := next
    evaluations := world.evaluations ++
      ((movingCall world.service event).bind evaluationOf).toList }

theorem served_extends (world : SnapshotWorld) (event : Event) (next : World) :
    Extends world (served world event next) :=
  ⟨fun _ member => member, fun _ member => List.mem_append_left _ member, rfl⟩

theorem move_awaits {engine : PolicyEngine} {db left : BudgetDb} {request : RefillRequest}
    {input : StepInput} {before point : RefillPoint}
    (move : RefillMove engine db request input before left point)
    (awaits : awaitsEvaluation point = true) :
    awaitsEvaluation before = true ∨
      before = .checkOffered ∧ ∃ requestedTier, point = .create requestedTier := by
  cases move with
  | offered requestedTier => exact Or.inr ⟨rfl, requestedTier, rfl⟩
  | created ran => exact Or.inl rfl
  | balanceRead effectiveBalanceMicros => exact Or.inl rfl
  | countRead => exact Or.inl rfl
  | spendThisRead spend => exact Or.inl rfl
  | spendLastRead spend => exact Or.inl rfl
  | _ => cases awaits

theorem served_offered (inv : SnapshotInvariant json policySetId world)
    (stepped : step lockKey world.service event = some next) {caller : Nat}
    {request : RefillRequest} {point : RefillPoint}
    (running : next.calls caller = some (.refill request point))
    (awaits : awaitsEvaluation point = true) :
    request.requestedAmountMicros ∈ world.store.engine.active.allowedAmountsMicros := by
  rcases refill_after (step_outcome stepped) running with
    ⟨kept, _⟩ | ⟨started, _⟩ | ⟨before, input, moves, was, move⟩
  · exact inv.offered caller request point kept awaits
  · rw [started] at awaits
    cases awaits
  · rcases move_awaits move awaits with awaited | ⟨isCheck, requestedTier, isCreate⟩
    · exact inv.offered caller request before was awaited
    · rw [isCheck] at was
      rw [isCreate] at running
      rw [moves] at stepped
      have offers := check_offered_step was stepped running
      rw [inv.engine] at offers
      exact offers

theorem worked_amount_kept (inv : SnapshotInvariant json policySetId world)
    (outcome : StepOutcome lockKey world.service event next) {caller : Nat}
    {request : RefillRequest} {point : RefillPoint} {id : String}
    (was : world.service.calls caller = some (.refill request point))
    (works : createdId point = some id) {later : AugmentationRequest}
    (member : later ∈ next.db.requests) (isRow : later.id = id) :
    later.requestedAmountMicros = request.requestedAmountMicros := by
  rcases (step_rows_changed inv.backed.1 outcome).backward later member with
    ⟨row, rowMember, change⟩ | ⟨_, _, _, _, _, _, isFresh, freshId, _⟩
  · have same := row_change_same_origin change
    rw [same.requestedAmountMicros]
    exact inv.amounts caller request point id was works row rowMember (same.id.symm.trans isRow)
  · obtain ⟨row, rowMember, rowId, _⟩ := (inv.backed.2 caller request point was).created id works
    rw [isFresh] at isRow
    exact absurd (rowId.trans isRow.symm) (freshId row rowMember)

theorem served_amounts (inv : SnapshotInvariant json policySetId world)
    (keeps : KeepsSnapshot json world (.service event))
    (stepped : step lockKey world.service event = some next) {caller : Nat}
    {request : RefillRequest} {point : RefillPoint} {id : String}
    (running : next.calls caller = some (.refill request point))
    (works : createdId point = some id) {later : AugmentationRequest}
    (member : later ∈ next.db.requests) (isRow : later.id = id) :
    later.requestedAmountMicros = request.requestedAmountMicros := by
  have outcome := step_outcome stepped
  have sound := step_sound inv.backed.1 stepped
  rcases refill_after outcome running with
    ⟨kept, _⟩ | ⟨started, _⟩ | ⟨before, input, moves, was, move⟩
  · exact worked_amount_kept inv outcome kept works member isRow
  · rw [started] at works
    cases works
  · rcases move_created_id move works with worked | ⟨requestedTier, row, isCreate, rowId, ran⟩
    · exact worked_amount_kept inv outcome was worked member isRow
    · rw [isCreate] at was
      rw [moves] at keeps
      have sameId : row.id = later.id := rowId.trans isRow.symm
      generalize next.db = left at ran sound member
      cases create_outcome ran with
      | @found key _ keyed stored =>
          obtain ⟨rowMember, rowKey⟩ := find_key_some stored
          rw [← request_eq_of_id sound.requests rowMember member sameId]
          exact keeps request (by simp [was, creatingRefill]) key keyed row rowMember rowKey
      | inserted freshKey freshId =>
          have rowMember := List.mem_append_right world.service.db.requests
            (List.mem_singleton_self (requestRow (newRequest request requestedTier) input.stamp))
          rw [← request_eq_of_id sound.requests rowMember member sameId]
          rfl

theorem evaluated_evidence (inv : SnapshotInvariant json policySetId world) {caller : Nat}
    {input : StepInput} {request : RefillRequest} {id : String} {facts : Facts}
    (moves : event = .advance caller input)
    (was : world.service.calls caller = some (.refill request (.evaluate id facts)))
    {decision : Decision}
    (evaluated : world.service.engine.evaluate facts request.requestedAmountMicros =
      .ok decision) :
    Evidence json policySetId (served world event next) id request decision := by
  rw [inv.engine] at evaluated
  have isDecision : yields world world.store.engine.active facts
      request.requestedAmountMicros = decision := Except.ok.inj evaluated
  have revision : decision.policyRevision = world.store.engine.active.policyRevision := by
    rw [← isDecision]
    exact evaluate_rules_revision _ _ _ _ _ _
  refine ⟨world.store.engine.active, ?_, inv.offered caller request _ was rfl, facts, ?_,
    isDecision.symm⟩
  · rw [revision]
    exact inv.serving
  · apply List.mem_append_right
    simp [movingCall, moves, was, evaluationOf]

theorem served_granting (inv : SnapshotInvariant json policySetId world)
    (stepped : step lockKey world.service event = some next) {caller : Nat}
    {request : RefillRequest} {id : String} {facts : Facts} {decision : Decision}
    (running : next.calls caller = some (.refill request (.grant id facts decision))) :
    Evidence json policySetId (served world event next) id request decision ∧
      approves decision.effect = true := by
  rcases refill_after (step_outcome stepped) running with
    ⟨kept, _⟩ | ⟨started, _⟩ | ⟨before, input, moves, was, move⟩
  · obtain ⟨evidence, approved⟩ := inv.granting caller request id facts decision kept
    exact ⟨evidence_kept (served_extends world event next) evidence, approved⟩
  · cases started
  · generalize next.db = left at move
    cases move with
    | approved evaluated approved =>
        exact ⟨evaluated_evidence inv moves was evaluated, by simpa [approves] using approved⟩

theorem unapproved_records {decision : Decision} (withheld : approves decision.effect = false)
    (status : AugmentationStatus) :
    Records ((unapproved decision).decompose status) decision where
  policyEffect := rfl
  policyReasonCodes := rfl
  matchedRuleIds := rfl
  policyRevision := rfl
  approvedAmountMicros := by simp [UnapprovedDecision.decompose, recordedAmount, withheld]

theorem approval_records {decision : Decision} (approved : approves decision.effect = true)
    (grantId : String) : Records (approval decision grantId).decompose decision := by
  have amount : recordedAmount decision = some decision.approvedAmountMicros := by
    simp [recordedAmount, approved]
  unfold approval
  split
  · exact ⟨rfl, rfl, rfl, rfl, amount.symm⟩
  · exact ⟨rfl, rfl, rfl, rfl, amount.symm⟩

theorem deferred_records {id createdId : String} {facts : Facts} {decision : Decision}
    {recorded : RecordedDecision}
    (deferred : afterEvaluation createdId facts (.ok decision) =
      .recordDecision id recorded) : Records recorded.decompose decision := by
  simp only [afterEvaluation] at deferred
  cases effect : decision.effect with
  | autoApprove => simp [effect] at deferred
  | autoApproveCapped => simp [effect] at deferred
  | manualReview =>
      simp only [effect, RefillPoint.recordDecision.injEq] at deferred
      rw [← deferred.2]
      exact unapproved_records (by simp [approves, effect]) _
  | deny =>
      simp only [effect, RefillPoint.recordDecision.injEq] at deferred
      rw [← deferred.2]
      exact unapproved_records (by simp [approves, effect]) _
  | noAction =>
      simp only [effect, RefillPoint.recordDecision.injEq] at deferred
      rw [← deferred.2]
      exact unapproved_records (by simp [approves, effect]) _

theorem served_deciding (inv : SnapshotInvariant json policySetId world)
    (stepped : step lockKey world.service event = some next) {caller : Nat}
    {request : RefillRequest} {id : String} {recorded : RecordedDecision}
    (running : next.calls caller = some (.refill request (.recordDecision id recorded))) :
    ∃ decision, Evidence json policySetId (served world event next) id request decision ∧
      Records recorded.decompose decision := by
  rcases refill_after (step_outcome stepped) running with
    ⟨kept, _⟩ | ⟨started, _⟩ | ⟨before, input, moves, was, move⟩
  · obtain ⟨decision, evidence, records⟩ := inv.deciding caller request id recorded kept
    exact ⟨decision, evidence_kept (served_extends world event next) evidence, records⟩
  · cases started
  · generalize next.db = left at move
    cases move with
    | @deferred _ facts _ unpaid withheld =>
        have evaluated : world.service.engine.evaluate facts request.requestedAmountMicros =
            .ok (yields world world.store.engine.active facts
              request.requestedAmountMicros) := by
          rw [inv.engine]
          rfl
        have after := stepped
        rw [moves] at after
        have reached := evaluate_step was after
        rw [running, evaluated] at reached
        refine ⟨_, evaluated_evidence inv moves was evaluated, ?_⟩
        simp only [Option.some.injEq, Call.refill.injEq, true_and] at reached
        exact deferred_records reached.symm
    | @granted _ facts decision _ row ran =>
        obtain ⟨evidence, approved⟩ := inv.granting caller request id facts decision was
        exact ⟨decision, evidence_kept (served_extends world event next) evidence,
          approval_records approved row.id⟩

theorem decided_from_snapshot (inv : SnapshotInvariant json policySetId world) {caller : Nat}
    {request : RefillRequest} {recorded : RecordedDecision} {row : AugmentationRequest}
    (member : row ∈ world.service.db.requests)
    (running : world.service.calls caller =
      some (.refill request (.recordDecision row.id recorded))) :
    RowFromSnapshot json policySetId world (decided recorded.decompose row)
      recorded.decompose.policyRevision := by
  obtain ⟨decision, ⟨ruleSet, stored, offers, facts, evaluated, isDecision⟩, records⟩ :=
    inv.deciding caller request row.id recorded running
  have amount : row.requestedAmountMicros = request.requestedAmountMicros :=
    inv.amounts caller request _ row.id running rfl row member rfl
  rw [← amount] at offers isDecision
  refine ⟨ruleSet, ?_, offers, ⟨row.id, request, facts⟩, evaluated, rfl, decision, isDecision,
    ?_, ?_, ?_, ?_⟩
  · rw [records.policyRevision]
    exact stored
  · exact congrArg some records.policyEffect
  · exact congrArg some records.policyReasonCodes
  · exact congrArg some records.matchedRuleIds
  · exact records.approvedAmountMicros

theorem served_rows (inv : SnapshotInvariant json policySetId world)
    (stepped : step lockKey world.service event = some next) {later : AugmentationRequest}
    (member : later ∈ next.db.requests) {policyRevision : String}
    (names : later.policyRevision = some policyRevision) :
    RowFromSnapshot json policySetId (served world event next) later policyRevision := by
  apply row_from_snapshot_kept (served_extends world event next)
  rcases (step_rows_changed inv.backed.1 (step_outcome stepped)).backward later member with
    ⟨row, rowMember, change⟩ | ⟨_, _, _, _, _, _, isFresh, _⟩
  · cases change with
    | kept => exact inv.rows later rowMember policyRevision names
    | decided moves running =>
        rw [← Option.some.inj names]
        exact decided_from_snapshot inv rowMember running
    | approved moves running named approves pending =>
        exact inv.rows row rowMember policyRevision names
    | rejected moves running named rejects pending =>
        exact inv.rows row rowMember policyRevision names
  · rw [isFresh] at names
    cases names

theorem served_grants (inv : SnapshotInvariant json policySetId world)
    (stepped : step lockKey world.service event = some next) {grant : BudgetGrant}
    (member : grant ∈ next.db.grants) (source : grant.source = .selfService) :
    GrantFromSnapshot json policySetId (served world event next) grant := by
  apply grant_from_snapshot_kept (served_extends world event next)
  rcases grant_row_origin (step_outcome stepped) member with old | ⟨_, fresh⟩
  · exact inv.grants grant old source
  · cases fresh with
    | @refill caller input request id facts decision moves running isRow =>
        obtain ⟨⟨ruleSet, stored, offers, evaluatedFacts, evaluated, isDecision⟩, approved⟩ :=
          inv.granting caller request id facts decision running
        rw [isRow]
        exact ⟨decision.policyRevision, ruleSet, rfl, stored, ⟨id, request, evaluatedFacts⟩,
          evaluated, offers, rfl, rfl, rfl, decision, isDecision, approved, rfl, rfl⟩
    | review moves running isRow =>
        rw [isRow] at source
        cases source
    | admin moves isRow =>
        rw [isRow] at source
        cases source
    | correction moves isRow =>
        rw [isRow] at source
        cases source

theorem served_invariant (inv : SnapshotInvariant json policySetId world)
    (keeps : KeepsSnapshot json world (.service event))
    (notSwap : ∀ engine, event ≠ .swapEngine engine)
    (stepped : step lockKey world.service event = some next) :
    SnapshotInvariant json policySetId (served world event next) where
  backed := step_refills_backed inv.backed stepped
  engine := (engine_kept notSwap (step_outcome stepped)).trans inv.engine
  named := inv.named
  serving := inv.serving
  sourced := inv.sourced
  offered := fun _ _ _ running awaits => served_offered inv stepped running awaits
  amounts := fun _ _ _ _ running works _ member isRow =>
    served_amounts inv keeps stepped running works member isRow
  granting := fun _ _ _ _ _ running => served_granting inv stepped running
  deciding := fun _ _ _ _ running => served_deciding inv stepped running
  rows := fun _ member _ names => served_rows inv stepped member names
  grants := fun _ member source => served_grants inv stepped member source

end Served

theorem step_snapshot_invariant {lockKey : String → Int64} {json : JsonLayer}
    (faithful : StoresFaithfully json) {policySetId : String} {world next : SnapshotWorld}
    {event : SnapshotEvent} (inv : SnapshotInvariant json policySetId world)
    (keeps : KeepsSnapshot json world event)
    (stepped : snapshotStep lockKey json policySetId world event = some next) :
    SnapshotInvariant json policySetId next := by
  cases snapshot_outcome stepped with
  | served notSwap ran => exact served_invariant inv keeps notSwap ran
  | stored ran => exact stored_invariant faithful inv keeps ran

theorem start_snapshot_invariant {json : JsonLayer} {policySetId : String}
    {world : SnapshotWorld} (start : SnapshotStart json policySetId world) :
    SnapshotInvariant json policySetId world := by
  obtain ⟨accounts, projects, isInitial⟩ := start.service
  have idle : ∀ caller, world.service.calls caller = none := by
    intro caller
    rw [isInitial]
    rfl
  have noRefill : ∀ caller request point,
      world.service.calls caller ≠ some (.refill request point) := by
    intro caller request point running
    rw [idle caller] at running
    cases running
  have noRequests : world.service.db.requests = [] := by
    rw [isInitial]
    rfl
  have noGrants : world.service.db.grants = [] := by
    rw [isInitial]
    rfl
  constructor
  · rw [isInitial]
    exact initial_refills_backed accounts projects _
  · rw [isInitial]
    rfl
  · exact start.named
  · obtain ⟨row, member, inSet, valid⟩ := start.agrees
    exact ⟨row, member, inSet, (start.named.column row member _ valid).symm, valid⟩
  · intro caller operation point running
    rw [start.noCalls caller] at running
    cases running
  · intro caller request point running
    exact absurd running (noRefill caller request point)
  · intro caller request point id running
    exact absurd running (noRefill caller request point)
  · intro caller request id facts decision running
    exact absurd running (noRefill caller request _)
  · intro caller request id recorded running
    exact absurd running (noRefill caller request _)
  · intro row member
    rw [noRequests] at member
    cases member
  · intro grant member
    rw [noGrants] at member
    cases member

/-- Along every run of refills and whatever else the service does, with
activations, rollbacks and their swaps in between, in which a swap goes on
offering what the refills in flight have asked for and no refill falls back to a
row of another amount, every decision uses one snapshot of the policy. -/
theorem decisions_use_one_snapshot (lockKey : String → Int64) (json : JsonLayer)
    (faithful : StoresFaithfully json) (policySetId : String) (start : SnapshotWorld)
    (starts : SnapshotStart json policySetId start) (events : List SnapshotEvent)
    (keeps : Meets (snapshotStep lockKey json policySetId) (KeepsSnapshot json) start events)
    (world : SnapshotWorld)
    (ran : runFrom (snapshotStep lockKey json policySetId) start events = some world) :
    OneSnapshot json policySetId world := by
  have inv := run_preserves_of_meets (SnapshotInvariant json policySetId)
    (fun _ _ _ inv keeps stepped => step_snapshot_invariant faithful inv keeps stepped)
    (start_snapshot_invariant starts) keeps ran
  exact ⟨inv.rows, inv.grants, inv.named.unique⟩

/-- Rule data that decides by default and offers the amounts given, as `jsonb`
prints it. -/
def offerText (policyRevision defaultEffect amounts : String) : String :=
  "\x7b\"rules\": [], \"default_effect\": \"" ++ defaultEffect ++
    "\", \"policy_revision\": \"" ++ policyRevision ++
    "\", \"default_reason_code\": \"by_default\", " ++
    "\"allowed_amounts_micros\": [" ++ amounts ++ "], \"starting_amount_micros\": 15000000, " ++
    "\"fail_closed_floor_micros\": 6000000\x7d"

def offerRuleSet (policyRevision : String) (defaultEffect : Effect) (amounts : List Int64) :
    RuleSet :=
  { bareRuleSet policyRevision defaultEffect with allowedAmountsMicros := amounts }

def oldText : String := offerText "v1" "manual_review" "6000000, 15000000"

def newText : String := offerText "v2" "auto_approve" "6000000"

def oldRuleSet : RuleSet := offerRuleSet "v1" .manualReview [6000000, 15000000]

def newRuleSet : RuleSet := offerRuleSet "v2" .autoApprove [6000000]

def offerJson : JsonLayer where
  parse text :=
    if text = oldText then .ok oldRuleSet
    else if text = newText then .ok newRuleSet
    else .error "expected value at line 1 column 1"
  jsonb text := .ok text

theorem offer_json_faithful : StoresFaithfully offerJson := by
  intro text stored ruleSet cast parsed
  cases cast
  exact parsed

theorem old_text_valid : validateRuleData offerJson.parse oldText = .ok oldRuleSet := by
  have parsed : offerJson.parse oldText = .ok oldRuleSet := by
    simp only [offerJson, if_true]
  have valid : validate oldRuleSet = .ok () := by rfl
  simp [validateRuleData, parsed, valid, Except.map]

def offerWorld : SnapshotWorld where
  service := World.initial ["acct"] [] (servedEngine ⟨oldRuleSet, 10000⟩)
  store :=
    { db :=
        { sets := [⟨"budget-refill", some "r1"⟩]
          revisions := [⟨"r1", "budget-refill", "v1", oldText, none⟩] }
      engine := ⟨oldRuleSet, 10000⟩
      calls := fun _ => none }
  evaluations := []

theorem offer_world_starts : SnapshotStart offerJson "budget-refill" offerWorld where
  service := ⟨["acct"], [], rfl⟩
  named := by
    constructor
    · exact List.pairwise_singleton _ _
    · intro row member ruleSet valid
      rw [List.mem_singleton.mp member] at valid ⊢
      rw [old_text_valid] at valid
      rw [← Except.ok.inj valid]
      rfl
  agrees := ⟨_, List.mem_singleton_self _, rfl, old_text_valid⟩
  noCalls := fun _ => rfl

def keylessRefill (requestedAmountMicros : Int64) : RefillRequest :=
  { keyedRefill "acct" with
    idempotencyKey := none
    requestedAmountMicros := requestedAmountMicros }

/-- A refill passes the check of the old policy; the new one is activated while it
reads its facts. -/
def swappedRun (requestedAmountMicros : Int64) : List SnapshotEvent :=
  [.service (.arrive 0 (.refill (keylessRefill requestedAmountMicros))),
    .service (.advance 0 (plainStep "" 1)), .service (.advance 0 (plainStep "" 2)),
    .service (.advance 0 (plainStep "request" 3)), .service (.advance 0 (plainStep "" 4)),
    .store (.arrive 1 (.activate newText none)), .store (.advance 1 (faultless "")),
    .store (.advance 1 (faultless "r2")), .store (.advance 1 (faultless "")),
    .service (.advance 0 (plainStep "" 5)), .service (.advance 0 (plainStep "" 6)),
    .service (.advance 0 (plainStep "" 7)), .service (.advance 0 (plainStep "" 8)),
    .service (.advance 0 (plainStep "grant" 9)), .service (.advance 0 (plainStep "" 10))]

/-- Whether no revision of that name offers the amount. -/
def offeredNowhere (json : JsonLayer) (db : PolicyDb) (policyRevision : String)
    (amountMicros : Int64) : Bool :=
  db.revisions.all fun row => row.policyRevision ≠ policyRevision ||
    (validateRuleData json.parse row.ruleDataJson).toOption.all fun ruleSet =>
      amountMicros ∉ ruleSet.allowedAmountsMicros

theorem not_offered {json : JsonLayer} {db : PolicyDb} {policySetId policyRevision : String}
    {amountMicros : Int64} {ruleSet : RuleSet}
    (nowhere : offeredNowhere json db policyRevision amountMicros = true)
    (stored : RevisionRuleSet json policySetId db policyRevision ruleSet) :
    amountMicros ∉ ruleSet.allowedAmountsMicros := by
  obtain ⟨row, member, _, isRevision, valid⟩ := stored
  have checked := List.all_eq_true.mp nowhere row member
  simpa [isRevision, valid, Except.toOption] using checked

/-- $15 are approved under a revision that offers only $6. -/
theorem swap_mixes_two_policies :
    ¬ ∀ (lockKey : String → Int64) (json : JsonLayer) (policySetId : String)
        (start : SnapshotWorld) (events : List SnapshotEvent) (world : SnapshotWorld),
        StoresFaithfully json → SnapshotStart json policySetId start →
        runFrom (snapshotStep lockKey json policySetId) start events = some world →
        OneSnapshot json policySetId world := by
  intro claimed
  have reached : reaches (snapshotStep (fun _ => 0) offerJson "budget-refill") offerWorld
      (swappedRun 15000000) (fun world => (∃ row ∈ world.service.db.requests,
        row.policyRevision = some "v2" ∧ row.requestedAmountMicros = 15000000) ∧
        offeredNowhere offerJson world.store.db "v2" 15000000 = true) = true := by
    decide +kernel
  obtain ⟨world, ran, found⟩ := exists_of_reaches reached
  obtain ⟨⟨row, member, names, amount⟩, nowhere⟩ := of_decide_eq_true found
  have snapshot := claimed _ offerJson "budget-refill" offerWorld (swappedRun 15000000) world
    offer_json_faithful offer_world_starts ran
  obtain ⟨ruleSet, stored, offers, _⟩ := snapshot.rows row member "v2" names
  rw [amount] at offers
  exact not_offered nowhere stored offers

/-- Only the first caller has a call of the service. -/
def Solo (world : SnapshotWorld) : Prop :=
  ∀ caller, caller ≠ 0 → world.service.calls caller = none

/-- Only the first caller arrives, without a key, and a swap goes on offering what
it has asked for. -/
def soloKeeps (json : JsonLayer) (world : SnapshotWorld) : SnapshotEvent → Bool
  | .service (.arrive caller _) => caller == 0
  | .service (.advance caller _) =>
      ((world.service.calls caller).bind creatingRefill).all fun request =>
        request.idempotencyKey.isNone
  | .store (.advance swapper _) =>
      ((world.store.calls swapper).bind (loadingRuleSet json)).all fun ruleSet =>
        ((world.service.calls 0).bind awaitingRefill).all fun request =>
          request.requestedAmountMicros ∈ ruleSet.allowedAmountsMicros
  | _ => true

theorem solo_keeps {json : JsonLayer} {world : SnapshotWorld} {event : SnapshotEvent}
    (solo : Solo world) (keeps : soloKeeps json world event = true) :
    KeepsSnapshot json world event := by
  unfold KeepsSnapshot
  split
  · rename_i swapper input
    intro ruleSet loading caller request awaiting
    by_cases first : caller = 0
    · rw [first] at awaiting
      simp only [soloKeeps, Option.all_eq_true] at keeps
      exact of_decide_eq_true (keeps ruleSet loading request awaiting)
    · rw [solo caller first] at awaiting
      cases awaiting
  · rename_i caller input
    intro request creating key keyed
    simp only [soloKeeps, Option.all_eq_true] at keeps
    have keyless := keeps request creating
    rw [Option.mem_def.mp keyed] at keyless
    cases keyless
  · trivial

theorem solo_step {lockKey : String → Int64} {json : JsonLayer} {policySetId : String}
    {world next : SnapshotWorld} {event : SnapshotEvent} (solo : Solo world)
    (keeps : soloKeeps json world event = true)
    (stepped : snapshotStep lockKey json policySetId world event = some next) : Solo next := by
  intro caller other
  have absent := solo caller other
  cases snapshot_outcome stepped with
  | stored ran => exact absent
  | served notSwap ran =>
      apply absent_after (step_outcome ran) absent
      intro operation arrives
      rw [arrives] at keeps
      exact other (of_decide_eq_true keeps)

/-- A refill of $6, which both policies offer, is decided by the new one alone. -/
theorem swapped_refill_one_snapshot :
    ∃ world, runFrom (snapshotStep (fun _ => 0) offerJson "budget-refill") offerWorld
        (swappedRun 6000000) = some world ∧
      (∃ grant ∈ world.service.db.grants, grant.policyRevision = some "v2") ∧
      OneSnapshot offerJson "budget-refill" world := by
  have reached : reaches (snapshotStep (fun _ => 0) offerJson "budget-refill") offerWorld
      (swappedRun 6000000) (fun world => ∃ grant ∈ world.service.db.grants,
        grant.policyRevision = some "v2") = true := by
    decide +kernel
  obtain ⟨world, ran, found⟩ := exists_of_reaches reached
  have solo : Meets (snapshotStep (fun _ => 0) offerJson "budget-refill")
      (fun current event => soloKeeps offerJson current event = true) offerWorld
      (swappedRun 6000000) := by
    decide +kernel
  have keeps : Meets (snapshotStep (fun _ => 0) offerJson "budget-refill")
      (KeepsSnapshot offerJson) offerWorld (swappedRun 6000000) :=
    meets_of_invariant Solo (fun _ _ _ alone keeps stepped => solo_step alone keeps stepped)
      (fun _ _ alone keeps => solo_keeps alone keeps) (fun _ _ => rfl) solo
  exact ⟨world, ran, of_decide_eq_true found,
    decisions_use_one_snapshot _ offerJson offer_json_faithful "budget-refill" offerWorld
      offer_world_starts (swappedRun 6000000) keeps world ran⟩

end LightbridgeAuthz.Budget.PolicySnapshot
