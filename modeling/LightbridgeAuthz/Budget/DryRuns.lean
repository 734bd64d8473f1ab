import LightbridgeAuthz.Budget.PolicyFleet
import LightbridgeAuthz.Budget.PolicySnapshot
import LightbridgeAuthz.Budget.StoredColumns
import LightbridgeAuthz.Budget.StoredRules
import LightbridgeAuthz.Sessions.TokenGrants

/-!
# Dry runs of the policy

`simulateBudgetPolicy` decides on three texts: rule data, the facts as a JSON document,
and an amount. Nothing is read from the database and nothing is written. Here it is
compared with the refills of a process whose policies are activated, rolled back and
swapped at any moment: in every state that is reached, a dry run of the revision that a
request row or a grant names, on the facts of its evaluation, answers what was recorded.
-/

namespace LightbridgeAuthz.Budget.DryRuns

open Library.CheckedInt Library.EventRun Library.KeyedRows
open Access.ModelPolicies
open Sessions.TokenGrants (trim)
open Sessions.RefreshTokens (parseI64)
open Domain GrantLedger AugmentationRequests RuleData RuleDocuments StoredRules
open ServiceWorld ServiceSteps ServiceWrites PolicyStore PolicyRevisions PolicySnapshot
open PolicyFleet (budgetPolicyEvaluationBudget)
open StoredColumns (effectToDb)

set_option autoImplicit false

section Scenarios

inductive SpendStatus where
  | known
  | unavailable
  deriving DecidableEq, Repr

def statusNamed (name : String) : Option SpendStatus :=
  if name = "known" then some .known
  else if name = "unavailable" then some .unavailable
  else none

/-- The content beside the status: an unavailable spend has none, or a null. -/
def spendOf : SpendStatus → Option Json → Option Spend
  | .known, some amount => (readI64 amount).map .known
  | .unavailable, none => some .unavailable
  | .unavailable, some .null => some .unavailable
  | _, _ => none

/-- `Spend` is tagged beside its content: in an object of the two keys in any order, or
in an array of both. -/
def readSpend : Json → Option Spend
  | .object entries => do
      let status ← readVariant statusNamed (← ← fieldOf "status" entries)
      spendOf status (← fieldOf "amount_micros" entries)
  | .array [status, amount] => do
      let status ← readVariant statusNamed status
      spendOf status (some amount)
  | _ => none

def readI32 : Json → Option Int32
  | .integer value => toInteger value
  | _ => none

def factsFields : List String :=
  ["effective_balance_micros", "self_service_grant_count", "spend_this_period",
    "spend_last_period"]

/-- `serde_json::from_str::<Facts>`, from the document on. -/
def readFacts (document : Json) : Option Facts := do
  match ← structFields factsFields document with
  | [some balance, some grantCount, some thisPeriod, some lastPeriod] =>
      let balance ← readI64 balance
      let grantCount ← readI32 grantCount
      let thisPeriod ← readSpend thisPeriod
      let lastPeriod ← readSpend lastPeriod
      some ⟨balance, grantCount, thisPeriod, lastPeriod⟩
  | _ => none

def spendDocument : Spend → Json
  | .known micros =>
      .object [("status", .string "known"), ("amount_micros", .integer micros.toInt)]
  | .unavailable => .object [("status", .string "unavailable")]

/-- `serde_json::to_string` of facts, up to the document. -/
def factsDocument (facts : Facts) : Json :=
  .object
    [("effective_balance_micros", .integer facts.effectiveBalanceMicros.toInt),
      ("self_service_grant_count", .integer facts.selfServiceGrantCount.toInt),
      ("spend_this_period", spendDocument facts.spendThisPeriod),
      ("spend_last_period", spendDocument facts.spendLastPeriod)]

theorem read_i64_integer (value : Int64) : readI64 (.integer value.toInt) = some value :=
  to_bigint_some.mpr rfl

theorem read_i32_integer (value : Int32) : readI32 (.integer value.toInt) = some value :=
  to_integer_some.mpr rfl

theorem read_spend_document (spend : Spend) : readSpend (spendDocument spend) = some spend := by
  cases spend with
  | known micros =>
      have amount := read_i64_integer micros
      simp [spendDocument, readSpend, fieldOf, valuesOf, readVariant, statusNamed, spendOf, amount]
  | unavailable => rfl

theorem read_facts_document (facts : Facts) : readFacts (factsDocument facts) = some facts := by
  have fields : structFields factsFields (factsDocument facts) =
      some [some (.integer facts.effectiveBalanceMicros.toInt),
        some (.integer facts.selfServiceGrantCount.toInt),
        some (spendDocument facts.spendThisPeriod),
        some (spendDocument facts.spendLastPeriod)] := by
    rfl
  unfold readFacts
  rw [fields]
  simp [read_i64_integer, read_i32_integer, read_spend_document]

end Scenarios

section Procedure

/-- `notAllowed` stands for the refusal of an `@allow` clause. -/
inductive CratestackError where
  | notAllowed
  | badRequest (text : String)
  | unauthorized (text : String)
  | forbidden (text : String)
  | conflict (text : String)
  | notFound (text : String)
  | internal (failure : StorageFailure)
  deriving DecidableEq, Repr

def budgetErrorToCratestackError : BudgetError → CratestackError
  | .invalidRuleData reason => .badRequest reason
  | .invalidAmount amountMicros =>
      .badRequest ("amount must be positive micro-USD, got " ++ toString amountMicros.toInt)
  | .invalidPeriod text => .badRequest ("invalid period, expected YYYY-MM: " ++ text)
  | .unknownSource text => .badRequest ("unknown grant source: " ++ text)
  | .unknownTier text => .badRequest ("unknown budget tier: " ++ text)
  | .unknownStatus text => .badRequest ("unknown augmentation request status: " ++ text)
  | .invalidReviewOutcome status =>
      .badRequest ("'" ++ status ++ "' is not a legitimate review outcome")
  | .missingRejectionReason =>
      .badRequest "a rejection must carry a non-empty rejection reason"
  | .amountNotOffered amountMicros =>
      .badRequest (toString amountMicros.toInt ++
        " is not a currently offered refill amount (micro-USD)")
  | .alreadyGranted => .conflict "a grant already exists for this idempotency key"
  | .alreadyReviewed requestId =>
      .conflict ("augmentation request '" ++ requestId ++
        "' is not pending review (already reviewed, or does not exist)")
  | .policyDenied reason => .forbidden ("policy denied this request: " ++ reason)
  | .notFound subject => .notFound subject
  | .storageFailed failure => .internal failure

structure SimulationContext where
  authenticated : Bool
  id : Option String
  rpcScope : String
  permBudgetPolicySimulate : Bool
  deriving DecidableEq, Repr

/-- The `@allow` clause of `simulateBudgetPolicy`. -/
def allowsSimulation (context : SimulationContext) : Bool :=
  context.authenticated && context.rpcScope == "budget" && context.permBudgetPolicySimulate

structure SimulateBudgetPolicyInput where
  ruleDataJson : String
  scenarioJson : String
  requestedAmountMicros : String
  deriving DecidableEq, Repr

/-- The schema's `Decision`; of its obligations there is one kind. -/
structure SchemaDecision where
  effect : String
  approvedAmountMicros : String
  maximumAmountMicros : String
  reasonCodes : List String
  matchedRuleIds : List String
  policyRevision : String
  requiredApproverRole : Option String
  deriving DecidableEq, Repr

def toSchemaDecision (decision : Decision) : SchemaDecision where
  effect := effectToDb decision.effect
  approvedAmountMicros := toString decision.approvedAmountMicros.toInt
  maximumAmountMicros := toString decision.maximumAmountMicros.toInt
  reasonCodes := decision.reasonCodes
  matchedRuleIds := decision.matchedRuleIds
  policyRevision := decision.policyRevision
  requiredApproverRole := decision.requiredApproverRole

/-- `serde_json::from_str::<Facts>` with the text of its error. -/
abbrev ParseFacts := String → Except String Facts

/-- `Procedures::simulate_budget_policy`. The amount is quoted untrimmed. -/
def simulateBudgetPolicy (json : JsonLayer) (parseFacts : ParseFacts)
    (context : SimulationContext) (input : SimulateBudgetPolicyInput) :
    Except CratestackError SchemaDecision :=
  if allowsSimulation context = false then .error .notAllowed
  else
    match context.id with
    | none => .error (.unauthorized "missing subject")
    | some _subject =>
        match parseI64 (trim input.requestedAmountMicros) with
        | none =>
            .error (.badRequest ("requestedAmountMicros must be a valid integer, got '" ++
              input.requestedAmountMicros ++ "'"))
        | some requestedAmountMicros =>
            match parseFacts input.scenarioJson with
            | .error reason => .error (.badRequest ("invalid scenarioJson: " ++ reason))
            | .ok facts =>
                match RuleDataEngine.new json input.ruleDataJson
                    budgetPolicyEvaluationBudget with
                | .error error => .error (budgetErrorToCratestackError error)
                | .ok engine =>
                    match (servedEngine engine).evaluate facts requestedAmountMicros with
                    | .error error => .error (budgetErrorToCratestackError error)
                    | .ok decision => .ok (toSchemaDecision decision)

/-- Scenarios are read from the document of their text, which `serde_json` finds in it. -/
def ReadsScenarios (documentOf : String → Option Json) (parseFacts : ParseFacts) : Prop :=
  ∀ text facts, parseFacts text = .ok facts ↔ (documentOf text).bind readFacts = some facts

structure MaySimulate (context : SimulationContext) : Prop where
  allowed : allowsSimulation context = true
  subject : context.id.isSome = true

/-- A dry run for an evaluation: the rule data is that of the revision, from the column or
as it was submitted, the scenario is written from the facts, and the amount is the one
that was asked for. -/
structure Resubmits (json : JsonLayer) (documentOf : String → Option Json)
    (revision : PolicyRevision) (evaluation : Evaluation) (input : SimulateBudgetPolicyInput) :
    Prop where
  ruleData : input.ruleDataJson = revision.ruleDataJson ∨
    json.jsonb input.ruleDataJson = .ok revision.ruleDataJson ∧
      ∃ ruleSet, validateRuleData json.parse input.ruleDataJson = .ok ruleSet
  scenario : documentOf input.scenarioJson = some (factsDocument evaluation.facts)
  amount : parseI64 (trim input.requestedAmountMicros) =
    some evaluation.request.requestedAmountMicros

theorem validated_stored {json : JsonLayer} (faithful : StoresFaithfully json)
    {text stored : String} {ruleSet : RuleSet} (cast : json.jsonb text = .ok stored)
    (valid : validateRuleData json.parse text = .ok ruleSet) :
    validateRuleData json.parse stored = .ok ruleSet := by
  obtain ⟨parsed, checked⟩ := validated_parts valid
  have read := faithful text stored ruleSet cast parsed
  simp only [validateRuleData, read, checked, Except.map]

theorem simulation_answers {json : JsonLayer} {documentOf : String → Option Json}
    {parseFacts : ParseFacts} (faithful : StoresFaithfully json)
    (scenarios : ReadsScenarios documentOf parseFacts)
    {context : SimulationContext} (may : MaySimulate context) {revision : PolicyRevision}
    {ruleSet : RuleSet} (valid : validateRuleData json.parse revision.ruleDataJson = .ok ruleSet)
    {evaluation : Evaluation} {input : SimulateBudgetPolicyInput}
    (resubmits : Resubmits json documentOf revision evaluation input) :
    simulateBudgetPolicy json parseFacts context input =
      .ok (toSchemaDecision (evaluateRules evaluation.facts
        evaluation.request.requestedAmountMicros budgetPolicyEvaluationBudget ruleSet
        ruleSet.rules 0)) := by
  have accepted : validateRuleData json.parse input.ruleDataJson = .ok ruleSet := by
    rcases resubmits.ruleData with same | ⟨cast, submitted, isValid⟩
    · rw [same]
      exact valid
    · have stored := validated_stored faithful cast isValid
      rw [valid] at stored
      rw [isValid, Except.ok.inj stored]
  have facts : parseFacts input.scenarioJson = .ok evaluation.facts := by
    rw [scenarios, resubmits.scenario, Option.bind_some]
    exact read_facts_document evaluation.facts
  obtain ⟨subject, isSubject⟩ := Option.isSome_iff_exists.mp may.subject
  have engine : RuleDataEngine.new json input.ruleDataJson budgetPolicyEvaluationBudget =
      .ok ⟨ruleSet, budgetPolicyEvaluationBudget⟩ := by
    simp [RuleDataEngine.new, accepted, Except.map]
  simp only [simulateBudgetPolicy, may.allowed, isSubject, resubmits.amount, facts, engine]
  rfl

end Procedure

section Runs

variable (json : JsonLayer) (policySetId : String)

/-- The decision is what the rule set of its revision yields on facts that were
evaluated for the row. -/
def Yielded (world : SnapshotWorld) (id : String) (request : RefillRequest)
    (decision : Decision) : Prop :=
  ∃ ruleSet, RevisionRuleSet json policySetId world.store.db decision.policyRevision ruleSet ∧
    ∃ facts, ⟨id, request, facts⟩ ∈ world.evaluations ∧
      decision = yields world ruleSet facts request.requestedAmountMicros

structure RowRecords (row : AugmentationRequest) (decision : Decision) : Prop where
  policyEffect : row.policyEffect = some decision.effect
  policyReasonCodes : row.policyReasonCodes = some decision.reasonCodes
  matchedRuleIds : row.matchedRuleIds = some decision.matchedRuleIds
  policyRevision : row.policyRevision = some decision.policyRevision
  approvedAmountMicros : row.approvedAmountMicros = recordedAmount decision

/-- What a grant of a refill has of the request and its decision. -/
structure GrantRecords (grant : BudgetGrant) (request : RefillRequest) (decision : Decision) :
    Prop where
  budgetAccountId : grant.budgetAccountId = request.budgetAccountId
  accountId : grant.accountId = request.accountId
  period : grant.period = request.period
  approved : approves decision.effect = true
  amountMicros : grant.amountMicros = decision.approvedAmountMicros
  matchedRuleIds : grant.matchedRuleIds = some decision.matchedRuleIds
  policyRevision : grant.policyRevision = some decision.policyRevision

def RowYielded (world : SnapshotWorld) (row : AugmentationRequest) : Prop :=
  ∃ request decision, Yielded json policySetId world row.id request decision ∧
    RowRecords row decision

def GrantYielded (world : SnapshotWorld) (grant : BudgetGrant) : Prop :=
  ∃ id request decision, Yielded json policySetId world id request decision ∧
    GrantRecords grant request decision

/-- Whatever a refill carries of a decision, or has recorded of one, was yielded by a
stored revision. Nothing is asked of the swaps. -/
structure YieldedInvariant (world : SnapshotWorld) : Prop where
  sound : TablesSound world.service.db
  engine : world.service.engine = servedEngine world.store.engine
  budget : world.store.engine.evaluationBudget = budgetPolicyEvaluationBudget
  named : RevisionsNamed json world.store.db
  serving : RevisionRuleSet json policySetId world.store.db
    world.store.engine.active.policyRevision world.store.engine.active
  sourced : ∀ caller operation point, world.store.calls caller = some (operation, point) →
    Sourced json policySetId world.store.db operation point
  granting : ∀ caller request id facts decision,
    world.service.calls caller = some (.refill request (.grant id facts decision)) →
    Yielded json policySetId world id request decision ∧ approves decision.effect = true
  deciding : ∀ caller request id recorded,
    world.service.calls caller = some (.refill request (.recordDecision id recorded)) →
    ∃ decision, Yielded json policySetId world id request decision ∧
      Records recorded.decompose decision
  rows : ∀ row ∈ world.service.db.requests, row.policyRevision.isSome = true →
    RowYielded json policySetId world row
  grants : ∀ grant ∈ world.service.db.grants, grant.source = .selfService →
    GrantYielded json policySetId world grant

variable {json policySetId} {world next : SnapshotWorld}

theorem yielded_kept (grown : Extends world next) {id : String} {request : RefillRequest}
    {decision : Decision} (yielded : Yielded json policySetId world id request decision) :
    Yielded json policySetId next id request decision := by
  obtain ⟨ruleSet, stored, facts, evaluated, isDecision⟩ := yielded
  refine ⟨ruleSet, revision_rule_set_kept grown.revisions stored, facts,
    grown.evaluations _ evaluated, ?_⟩
  rw [yields_kept grown]
  exact isDecision

theorem row_yielded_kept (grown : Extends world next) {row : AugmentationRequest}
    (decided : RowYielded json policySetId world row) :
    RowYielded json policySetId next row := by
  obtain ⟨request, decision, yielded, records⟩ := decided
  exact ⟨request, decision, yielded_kept grown yielded, records⟩

theorem grant_yielded_kept (grown : Extends world next) {grant : BudgetGrant}
    (granted : GrantYielded json policySetId world grant) :
    GrantYielded json policySetId next grant := by
  obtain ⟨id, request, decision, yielded, records⟩ := granted
  exact ⟨id, request, decision, yielded_kept grown yielded, records⟩

theorem stored_yielded (faithful : StoresFaithfully json) {event : StoreEvent}
    {after : StoreWorld} (inv : YieldedInvariant json policySetId world)
    (stepped : storeStep json policySetId world.store event = some after) :
    YieldedInvariant json policySetId
      { world with
        service := { world.service with engine := servedEngine after.engine }
        store := after } := by
  obtain ⟨revisions, sourced, engine⟩ :=
    store_step_effect faithful inv.named inv.sourced stepped
  have budget : after.engine.evaluationBudget = world.store.engine.evaluationBudget := by
    rcases engine with same | ⟨_, _, _, _, _, _, _, _, _, _, swapped⟩
    · rw [same]
    · rw [swapped]
  have grown : Extends world
      { world with
        service := { world.service with engine := servedEngine after.engine }
        store := after } := ⟨revisions_kept revisions, fun _ member => member, budget⟩
  constructor
  · exact inv.sound
  · rfl
  · exact budget.trans inv.budget
  · exact revisions_after_named faithful inv.named revisions
  · rcases engine with same | ⟨_, _, _, _, _, _, ruleSet, _, loading, valid, swapped⟩
    · rw [same]
      exact revision_rule_set_kept grown.revisions inv.serving
    · rw [swapped]
      exact revision_rule_set_kept grown.revisions
        (loading_stored (inv.sourced _ _ _ loading) ruleSet valid)
  · exact sourced
  · intro caller request id facts decision running
    obtain ⟨yielded, approved⟩ := inv.granting caller request id facts decision running
    exact ⟨yielded_kept grown yielded, approved⟩
  · intro caller request id recorded running
    obtain ⟨decision, yielded, records⟩ := inv.deciding caller request id recorded running
    exact ⟨decision, yielded_kept grown yielded, records⟩
  · intro row member isDecided
    exact row_yielded_kept grown (inv.rows row member isDecided)
  · intro grant member source
    exact grant_yielded_kept grown (inv.grants grant member source)

section Served

variable {lockKey : String → Int64} {event : Event} {after : World}

theorem evaluated_yielded (inv : YieldedInvariant json policySetId world) {caller : Nat}
    {input : StepInput} {request : RefillRequest} {id : String} {facts : Facts}
    (moves : event = .advance caller input)
    (was : world.service.calls caller = some (.refill request (.evaluate id facts)))
    {decision : Decision}
    (evaluated : world.service.engine.evaluate facts request.requestedAmountMicros =
      .ok decision) :
    Yielded json policySetId (served world event after) id request decision := by
  rw [inv.engine] at evaluated
  have isDecision : yields world world.store.engine.active facts
      request.requestedAmountMicros = decision := Except.ok.inj evaluated
  have revision : decision.policyRevision = world.store.engine.active.policyRevision := by
    rw [← isDecision]
    exact evaluate_rules_revision _ _ _ _ _ _
  refine ⟨world.store.engine.active, ?_, facts, ?_, isDecision.symm⟩
  · rw [revision]
    exact inv.serving
  · apply List.mem_append_right
    simp [movingCall, moves, was, evaluationOf]

theorem granting_yielded (inv : YieldedInvariant json policySetId world)
    (stepped : step lockKey world.service event = some after) {caller : Nat}
    {request : RefillRequest} {id : String} {facts : Facts} {decision : Decision}
    (running : after.calls caller = some (.refill request (.grant id facts decision))) :
    Yielded json policySetId (served world event after) id request decision ∧
      approves decision.effect = true := by
  rcases refill_after (step_outcome stepped) running with
    ⟨kept, _⟩ | ⟨started, _⟩ | ⟨before, input, moves, was, move⟩
  · obtain ⟨yielded, approved⟩ := inv.granting caller request id facts decision kept
    exact ⟨yielded_kept (served_extends world event after) yielded, approved⟩
  · cases started
  · generalize after.db = left at move
    cases move with
    | approved evaluated approved =>
        exact ⟨evaluated_yielded inv moves was evaluated, by simpa [approves] using approved⟩

theorem deciding_yielded (inv : YieldedInvariant json policySetId world)
    (stepped : step lockKey world.service event = some after) {caller : Nat}
    {request : RefillRequest} {id : String} {recorded : RecordedDecision}
    (running : after.calls caller = some (.refill request (.recordDecision id recorded))) :
    ∃ decision, Yielded json policySetId (served world event after) id request decision ∧
      Records recorded.decompose decision := by
  rcases refill_after (step_outcome stepped) running with
    ⟨kept, _⟩ | ⟨started, _⟩ | ⟨before, input, moves, was, move⟩
  · obtain ⟨decision, yielded, records⟩ := inv.deciding caller request id recorded kept
    exact ⟨decision, yielded_kept (served_extends world event after) yielded, records⟩
  · cases started
  · generalize after.db = left at move
    cases move with
    | @deferred _ facts _ unpaid withheld =>
        have evaluated : world.service.engine.evaluate facts request.requestedAmountMicros =
            .ok (yields world world.store.engine.active facts
              request.requestedAmountMicros) := by
          rw [inv.engine]
          rfl
        have moved := stepped
        rw [moves] at moved
        have reached := evaluate_step was moved
        rw [running, evaluated] at reached
        refine ⟨_, evaluated_yielded inv moves was evaluated, ?_⟩
        simp only [Option.some.injEq, Call.refill.injEq, true_and] at reached
        exact deferred_records reached.symm
    | @granted _ facts decision _ row ran =>
        obtain ⟨yielded, approved⟩ := inv.granting caller request id facts decision was
        exact ⟨decision, yielded_kept (served_extends world event after) yielded,
          approval_records approved row.id⟩

theorem decided_records {recorded : DecomposedDecision} {decision : Decision}
    (records : Records recorded decision) (row : AugmentationRequest) :
    RowRecords (decided recorded row) decision where
  policyEffect := congrArg some records.policyEffect
  policyReasonCodes := congrArg some records.policyReasonCodes
  matchedRuleIds := congrArg some records.matchedRuleIds
  policyRevision := congrArg some records.policyRevision
  approvedAmountMicros := records.approvedAmountMicros

theorem reviewed_records {row : AugmentationRequest} {decision : Decision}
    (records : RowRecords row decision) (status : AugmentationStatus) (reviewedBy : String)
    (rejectionReason grantId : Option String) (now : Instant) :
    RowRecords (reviewed status reviewedBy rejectionReason grantId now row) decision where
  policyEffect := records.policyEffect
  policyReasonCodes := records.policyReasonCodes
  matchedRuleIds := records.matchedRuleIds
  policyRevision := records.policyRevision
  approvedAmountMicros := records.approvedAmountMicros

theorem rows_yielded (inv : YieldedInvariant json policySetId world)
    (stepped : step lockKey world.service event = some after) {later : AugmentationRequest}
    (member : later ∈ after.db.requests) (isDecided : later.policyRevision.isSome = true) :
    RowYielded json policySetId (served world event after) later := by
  apply row_yielded_kept (served_extends world event after)
  rcases (step_rows_changed inv.sound (step_outcome stepped)).backward later member with
    ⟨row, rowMember, change⟩ | ⟨_, _, _, _, _, _, isFresh, _⟩
  · cases change with
    | kept => exact inv.rows later rowMember isDecided
    | decided moves running =>
        obtain ⟨decision, yielded, records⟩ := inv.deciding _ _ _ _ running
        exact ⟨_, decision, yielded, decided_records records row⟩
    | approved moves running named approves pending =>
        obtain ⟨request, decision, yielded, records⟩ := inv.rows row rowMember isDecided
        exact ⟨request, decision, yielded, reviewed_records records _ _ _ _ _⟩
    | rejected moves running named rejects pending =>
        obtain ⟨request, decision, yielded, records⟩ := inv.rows row rowMember isDecided
        exact ⟨request, decision, yielded, reviewed_records records _ _ _ _ _⟩
  · rw [isFresh] at isDecided
    cases isDecided

theorem grants_yielded (inv : YieldedInvariant json policySetId world)
    (stepped : step lockKey world.service event = some after) {grant : BudgetGrant}
    (member : grant ∈ after.db.grants) (source : grant.source = .selfService) :
    GrantYielded json policySetId (served world event after) grant := by
  apply grant_yielded_kept (served_extends world event after)
  rcases grant_row_origin (step_outcome stepped) member with old | ⟨_, fresh⟩
  · exact inv.grants grant old source
  · cases fresh with
    | @refill caller input request id facts decision moves running isRow =>
        obtain ⟨yielded, approved⟩ := inv.granting caller request id facts decision running
        rw [isRow]
        exact ⟨id, request, decision, yielded, rfl, rfl, rfl, approved, rfl, rfl, rfl⟩
    | review moves running isRow =>
        rw [isRow] at source
        cases source
    | admin moves isRow =>
        rw [isRow] at source
        cases source
    | correction moves isRow =>
        rw [isRow] at source
        cases source

theorem served_yielded (inv : YieldedInvariant json policySetId world)
    (notSwap : ∀ engine, event ≠ .swapEngine engine)
    (stepped : step lockKey world.service event = some after) :
    YieldedInvariant json policySetId (served world event after) where
  sound := step_sound inv.sound stepped
  engine := (engine_kept notSwap (step_outcome stepped)).trans inv.engine
  budget := inv.budget
  named := inv.named
  serving := inv.serving
  sourced := inv.sourced
  granting := fun _ _ _ _ _ running => granting_yielded inv stepped running
  deciding := fun _ _ _ _ running => deciding_yielded inv stepped running
  rows := fun _ member isDecided => rows_yielded inv stepped member isDecided
  grants := fun _ member source => grants_yielded inv stepped member source

end Served

theorem step_yielded {lockKey : String → Int64} (faithful : StoresFaithfully json)
    {event : SnapshotEvent} (inv : YieldedInvariant json policySetId world)
    (stepped : snapshotStep lockKey json policySetId world event = some next) :
    YieldedInvariant json policySetId next := by
  cases snapshot_outcome stepped with
  | served notSwap ran => exact served_yielded inv notSwap ran
  | stored ran => exact stored_yielded faithful inv ran

theorem start_yielded (start : SnapshotStart json policySetId world)
    (budget : world.store.engine.evaluationBudget = budgetPolicyEvaluationBudget) :
    YieldedInvariant json policySetId world := by
  have inv := start_snapshot_invariant start
  obtain ⟨accounts, projects, isInitial⟩ := start.service
  constructor
  · exact inv.backed.1
  · exact inv.engine
  · exact budget
  · exact inv.named
  · exact inv.serving
  · exact inv.sourced
  · intro caller request id facts decision running
    rw [isInitial] at running
    cases running
  · intro caller request id recorded running
    rw [isInitial] at running
    cases running
  · intro row member
    rw [isInitial] at member
    cases member
  · intro grant member
    rw [isInitial] at member
    cases member

end Runs

section Agreement

variable (json : JsonLayer) (documentOf : String → Option Json) (parseFacts : ParseFacts)
  (policySetId : String)

/-- The revision is stored, and whoever may simulate gets this answer from every dry run
of it for the evaluation. -/
structure DryRunAnswers (world : SnapshotWorld) (policyRevision : String)
    (evaluation : Evaluation) (answer : SchemaDecision) : Prop where
  stored : ∃ revision ∈ world.store.db.revisions, revision.policySetId = policySetId ∧
    revision.policyRevision = policyRevision
  answers : ∀ revision ∈ world.store.db.revisions, revision.policySetId = policySetId →
    revision.policyRevision = policyRevision →
    ∀ context, MaySimulate context → ∀ input,
      Resubmits json documentOf revision evaluation input →
      simulateBudgetPolicy json parseFacts context input = .ok answer

/-- The row says what the answer says, as far as it has columns for it. -/
structure AnswersRow (row : AugmentationRequest) (answer : SchemaDecision) : Prop where
  effect : row.policyEffect.map effectToDb = some answer.effect
  reasonCodes : row.policyReasonCodes = some answer.reasonCodes
  matchedRuleIds : row.matchedRuleIds = some answer.matchedRuleIds
  policyRevision : row.policyRevision = some answer.policyRevision
  approvedAmountMicros : ∀ approvedAmountMicros,
    row.approvedAmountMicros = some approvedAmountMicros →
    answer.approvedAmountMicros = toString approvedAmountMicros.toInt

/-- The grant is of the answered amount, to the budget that asked, and the effect lets it
be made. -/
structure AnswersGrant (grant : BudgetGrant) (request : RefillRequest)
    (answer : SchemaDecision) : Prop where
  budgetAccountId : grant.budgetAccountId = request.budgetAccountId
  accountId : grant.accountId = request.accountId
  period : grant.period = request.period
  effect : answer.effect = effectToDb .autoApprove ∨
    answer.effect = effectToDb .autoApproveCapped
  approvedAmountMicros : answer.approvedAmountMicros = toString grant.amountMicros.toInt
  matchedRuleIds : grant.matchedRuleIds = some answer.matchedRuleIds
  policyRevision : grant.policyRevision = some answer.policyRevision

/-- Every decision that a refill has recorded or paid out is what dry runs answer. -/
structure DryRunsAgree (world : SnapshotWorld) : Prop where
  rows : ∀ row ∈ world.service.db.requests, ∀ policyRevision,
    row.policyRevision = some policyRevision →
    ∃ evaluation ∈ world.evaluations, evaluation.requestId = row.id ∧
      ∃ answer, AnswersRow row answer ∧
        DryRunAnswers json documentOf parseFacts policySetId world policyRevision evaluation answer
  grants : ∀ grant ∈ world.service.db.grants, grant.source = .selfService →
    ∃ evaluation ∈ world.evaluations, ∃ answer, AnswersGrant grant evaluation.request answer ∧
      DryRunAnswers json documentOf parseFacts policySetId world answer.policyRevision evaluation
        answer

theorem answers_row {row : AugmentationRequest} {decision : Decision}
    (records : RowRecords row decision) : AnswersRow row (toSchemaDecision decision) where
  effect := by
    rw [records.policyEffect]
    rfl
  reasonCodes := records.policyReasonCodes
  matchedRuleIds := records.matchedRuleIds
  policyRevision := records.policyRevision
  approvedAmountMicros := by
    intro approvedAmountMicros isApproved
    rw [records.approvedAmountMicros, recordedAmount] at isApproved
    split_ifs at isApproved
    rw [← Option.some.inj isApproved]
    rfl

theorem answers_grant {grant : BudgetGrant} {request : RefillRequest} {decision : Decision}
    (records : GrantRecords grant request decision) :
    AnswersGrant grant request (toSchemaDecision decision) where
  budgetAccountId := records.budgetAccountId
  accountId := records.accountId
  period := records.period
  effect := by
    have approved := of_decide_eq_true records.approved
    exact approved.imp (congrArg effectToDb) (congrArg effectToDb)
  approvedAmountMicros := by
    rw [records.amountMicros]
    rfl
  matchedRuleIds := records.matchedRuleIds
  policyRevision := records.policyRevision

variable {json documentOf parseFacts policySetId} {world : SnapshotWorld}

theorem yielded_answers (faithful : StoresFaithfully json)
    (scenarios : ReadsScenarios documentOf parseFacts)
    (inv : YieldedInvariant json policySetId world) {id : String} {request : RefillRequest}
    {decision : Decision} (yielded : Yielded json policySetId world id request decision) :
    ∃ facts, ⟨id, request, facts⟩ ∈ world.evaluations ∧
      DryRunAnswers json documentOf parseFacts policySetId world decision.policyRevision
        ⟨id, request, facts⟩ (toSchemaDecision decision) := by
  obtain ⟨ruleSet, ⟨stored, isStored, inSet, name, valid⟩, facts, evaluated, isDecision⟩ :=
    yielded
  refine ⟨facts, evaluated, ⟨⟨stored, isStored, inSet, name⟩, ?_⟩⟩
  intro revision isRevision ofSet ofName context may input resubmits
  have same : revision = stored :=
    unique_keys_eq inv.named.unique isRevision isStored
      (by rw [revisionName, ofSet, ofName]) (by rw [revisionName, inSet, name])
  rw [same] at resubmits
  rw [simulation_answers faithful scenarios may valid resubmits, isDecision, yields, inv.budget]

/-- Refills, reviews and activations in any order, swaps between any two statements of a
refill included: a dry run of the revision that a row or a grant names, on the facts and
the amount of its evaluation, answers what was recorded. -/
theorem dry_runs_agree (lockKey : String → Int64) (json : JsonLayer)
    (faithful : StoresFaithfully json) (documentOf : String → Option Json)
    (parseFacts : ParseFacts) (scenarios : ReadsScenarios documentOf parseFacts)
    (policySetId : String) (start : SnapshotWorld) (starts : SnapshotStart json policySetId start)
    (budget : start.store.engine.evaluationBudget = budgetPolicyEvaluationBudget)
    (events : List SnapshotEvent) (world : SnapshotWorld)
    (ran : runFrom (snapshotStep lockKey json policySetId) start events = some world) :
    DryRunsAgree json documentOf parseFacts policySetId world := by
  have inv := run_preserves (YieldedInvariant json policySetId)
    (fun _ _ _ inv stepped => step_yielded faithful inv stepped) (start_yielded starts budget)
    ran
  constructor
  · intro row member policyRevision names
    obtain ⟨request, decision, yielded, records⟩ :=
      inv.rows row member (Option.isSome_iff_exists.mpr ⟨policyRevision, names⟩)
    obtain ⟨facts, evaluated, answers⟩ :=
      yielded_answers faithful scenarios inv yielded
    have name : policyRevision = decision.policyRevision :=
      Option.some.inj (names.symm.trans records.policyRevision)
    rw [name]
    exact ⟨_, evaluated, rfl, _, answers_row records, answers⟩
  · intro grant member source
    obtain ⟨id, request, decision, yielded, records⟩ := inv.grants grant member source
    obtain ⟨facts, evaluated, answers⟩ :=
      yielded_answers faithful scenarios inv yielded
    exact ⟨_, evaluated, _, answers_grant records, answers⟩

end Agreement

section Sample

def untouchedFacts : Facts := ⟨0, 0, .known 0, .known 0⟩

def untouchedScenario : String :=
  "\x7b\"effective_balance_micros\":0,\"self_service_grant_count\":0," ++
    "\"spend_this_period\":\x7b\"status\":\"known\",\"amount_micros\":0\x7d," ++
    "\"spend_last_period\":\x7b\"status\":\"known\",\"amount_micros\":0\x7d\x7d"

/-- The scenario as `jsonb` prints it. -/
def storedScenario : String :=
  "\x7b\"spend_last_period\": \x7b\"status\": \"known\", \"amount_micros\": 0\x7d, " ++
    "\"spend_this_period\": \x7b\"status\": \"known\", \"amount_micros\": 0\x7d, " ++
    "\"effective_balance_micros\": 0, \"self_service_grant_count\": 0\x7d"

/-- The outside as it behaves on the two policies and the scenario. -/
def rehearsalJson : JsonLayer where
  parse := offerJson.parse
  jsonb text := .ok (if text = untouchedScenario then storedScenario else text)

def scenarioDocument : String → Option Json := fun text =>
  if text = untouchedScenario then some (factsDocument untouchedFacts) else none

def offerScenarios : ParseFacts := fun text =>
  match (scenarioDocument text).bind readFacts with
  | some facts => .ok facts
  | none => .error "expected value at line 1 column 1"

theorem offer_scenarios_read : ReadsScenarios scenarioDocument offerScenarios := by
  intro text facts
  unfold offerScenarios
  cases (scenarioDocument text).bind readFacts with
  | none => simp
  | some found => simp

theorem rehearsal_json_faithful : StoresFaithfully rehearsalJson := by
  intro text stored ruleSet cast parsed
  obtain ⟨isOld, isNew⟩ : untouchedScenario ≠ oldText ∧ untouchedScenario ≠ newText := by
    decide +kernel
  have apart : text ≠ untouchedScenario := by
    rintro rfl
    simp [rehearsalJson, offerJson, isOld, isNew] at parsed
  simp only [rehearsalJson, if_neg apart, Except.ok.injEq] at cast
  rw [← cast]
  exact parsed

theorem offer_world_rehearses : SnapshotStart rehearsalJson "budget-refill" offerWorld where
  service := offer_world_starts.service
  named := ⟨offer_world_starts.named.unique, offer_world_starts.named.column⟩
  agrees := offer_world_starts.agrees
  noCalls := offer_world_starts.noCalls

/-- $15 were approved under a revision that offers only $6: the amount was checked against
another one. The dry run answers the same. -/
theorem mixed_refill_rehearsed :
    ∃ world, runFrom (snapshotStep (fun _ => 0) rehearsalJson "budget-refill") offerWorld
        (swappedRun 15000000) = some world ∧
      (∃ grant ∈ world.service.db.grants, grant.policyRevision = some "v2" ∧
        grant.amountMicros = 15000000) ∧
      DryRunsAgree rehearsalJson scenarioDocument offerScenarios "budget-refill" world ∧
      simulateBudgetPolicy rehearsalJson offerScenarios ⟨true, some "operator", "budget", true⟩
          ⟨newText, untouchedScenario, " 15000000"⟩ =
        .ok ⟨"auto_approve", "15000000", "15000000", ["by_default"], [], "v2", none⟩ := by
  have reached : reaches (snapshotStep (fun _ => 0) rehearsalJson "budget-refill") offerWorld
      (swappedRun 15000000) (fun world => ∃ grant ∈ world.service.db.grants,
        grant.policyRevision = some "v2" ∧ grant.amountMicros = 15000000) = true := by
    decide +kernel
  obtain ⟨world, ran, found⟩ := exists_of_reaches reached
  have answered : simulateBudgetPolicy rehearsalJson offerScenarios
      ⟨true, some "operator", "budget", true⟩ ⟨newText, untouchedScenario, " 15000000"⟩ =
        .ok ⟨"auto_approve", "15000000", "15000000", ["by_default"], [], "v2", none⟩ := by
    decide +kernel
  exact ⟨world, ran, of_decide_eq_true found,
    dry_runs_agree _ rehearsalJson rehearsal_json_faithful scenarioDocument offerScenarios
      offer_scenarios_read "budget-refill" offerWorld offer_world_rehearses rfl
      (swappedRun 15000000) world ran, answered⟩

end Sample

end LightbridgeAuthz.Budget.DryRuns
