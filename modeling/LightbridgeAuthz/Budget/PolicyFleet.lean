import LightbridgeAuthz.Budget.PolicyStore

/-!
# Many processes, one active policy

Every process of the deployment reads the active revision once, at start-up, and
an activation swaps the engine of the process that served the call and of no
other. Here any number of processes start and stop over one database while
activations, one at a time, are handled by any of them. Along every run in which
a revision is made active only when every other process that is up already
serves its rule data, all processes serve the active revision whenever no
activation is in progress.
-/

namespace LightbridgeAuthz.Budget.PolicyFleet

open Library.EventRun Library.KeyedRows
open Domain RuleData PolicyStore

set_option autoImplicit false

def budgetPolicySetId : String := "budget-refill"

def budgetPolicyEvaluationBudget : Nat := 10000

inductive RpcError where
  | unauthorized (text : String)
  | badRequest (text : String)
  deriving DecidableEq, Repr

structure ActivateArgs where
  policySetId : String
  ruleDataJson : Option String
  revisionId : Option String
  deriving DecidableEq, Repr

/-- What `activateBudgetPolicy` asks of its policy store. -/
def activateBudgetPolicy (subject : Option String) (args : ActivateArgs) :
    Except RpcError StoreOperation :=
  match subject with
  | none => .error (.unauthorized "missing subject")
  | some subject =>
      if args.policySetId ≠ budgetPolicySetId then
        .error (.badRequest ("unknown policySetId '" ++ args.policySetId ++ "' -- only '" ++
          budgetPolicySetId ++ "' exists today"))
      else
        match args.ruleDataJson, args.revisionId with
        | some json, none => .ok (.activate json (some subject))
        | none, some revisionId => .ok (.activateByRevisionId revisionId)
        | some _, some _ =>
            .error (.badRequest
              "exactly one of ruleDataJson or revisionId must be provided, not both")
        | none, none =>
            .error (.badRequest "exactly one of ruleDataJson or revisionId must be provided")

/-- What `getBudgetPolicyStatus` reports. -/
def activePolicyRevision (engine : RuleDataEngine) : String := engine.active.policyRevision

def failClosedFloorMicros (engine : RuleDataEngine) : Int64 :=
  engine.active.failClosedFloorMicros

/-- A process between its `SELECT` and its engine, or up. -/
inductive Process where
  | starting (ruleDataJson : String)
  | serving (engine : RuleDataEngine)

structure Activation where
  handler : Nat
  operation : StoreOperation
  point : StorePoint

structure Fleet where
  db : PolicyDb
  processes : Nat → Option Process
  activation : Option Activation

inductive FleetEvent where
  | select (process : Nat) (fault : Option Fault)
  | construct (process : Nat)
  | stop (process : Nat)
  | call (process : Nat) (subject : Option String) (args : ActivateArgs)
  | advance (input : StoreInput)

def setProcess (processes : Nat → Option Process) (process : Nat) (state : Option Process) :
    Nat → Option Process :=
  fun other => if other = process then state else processes other

/-- The row `LOAD_ACTIVE_REVISION_SQL` selects. -/
def activeRow (db : PolicyDb) : Option PolicyRevision :=
  (activeRevisionId db budgetPolicySetId).bind (findKey revisionId db.revisions)

/-- An activation that has moved to `point`, or has returned. -/
def Activation.moveTo (activation : Activation) (point : StorePoint) : Option Activation :=
  match point with
  | .returned _ => none
  | point => some { activation with point := point }

def fleetStep (json : JsonLayer) (fleet : Fleet) : FleetEvent → Option Fleet
  | .select process fault =>
      match fleet.processes process with
      | some _ => none
      | none =>
          match attemptRead fault (.ok (activeRow fleet.db)) with
          | .ok (some row) =>
              some { fleet with
                processes := setProcess fleet.processes process
                  (some (.starting row.ruleDataJson)) }
          | _ => some fleet
  | .construct process =>
      match fleet.processes process with
      | some (.starting ruleDataJson) =>
          some { fleet with
            processes := setProcess fleet.processes process
              ((RuleDataEngine.new json ruleDataJson
                budgetPolicyEvaluationBudget).toOption.map .serving) }
      | _ => none
  | .stop process =>
      some { fleet with
        processes := setProcess fleet.processes process none
        activation := fleet.activation.filter fun activation => activation.handler ≠ process }
  | .call process subject args =>
      match fleet.processes process, fleet.activation with
      | some (.serving _), none =>
          match activateBudgetPolicy subject args with
          | .error _ => some fleet
          | .ok operation =>
              some { fleet with activation := some ⟨process, operation, operation.start⟩ }
      | _, _ => none
  | .advance input =>
      match fleet.activation with
      | none => none
      | some activation =>
          match fleet.processes activation.handler with
          | some (.serving engine) =>
              match storeMove json budgetPolicySetId fleet.db engine input activation.operation
                  activation.point with
              | (db, swapped, later) =>
                  some
                    { db := db
                      processes := setProcess fleet.processes activation.handler
                        (some (.serving swapped))
                      activation := activation.moveTo later }
          | _ => none

/-- The rule set of the revision `active_revision_id` names. -/
def ActiveRuleSet (json : JsonLayer) (db : PolicyDb) (ruleSet : RuleSet) : Prop :=
  ∃ row, activeRow db = some row ∧
    validateRuleData json.parse row.ruleDataJson = .ok ruleSet

/-- The process evaluates refills, reports its status and computes the floor with
the active revision. -/
def ServesActive (json : JsonLayer) (db : PolicyDb) (engine : RuleDataEngine) : Prop :=
  ∃ ruleSet, ActiveRuleSet json db ruleSet ∧
    (ruleDataEngine engine.active engine.evaluationBudget).allowedAmountsMicros =
      ruleSet.allowedAmountsMicros ∧
    (∀ facts requestedAmountMicros,
      (ruleDataEngine engine.active engine.evaluationBudget).evaluate facts
          requestedAmountMicros =
        .ok (evaluateRules facts requestedAmountMicros engine.evaluationBudget ruleSet
          ruleSet.rules 0)) ∧
    activePolicyRevision engine = ruleSet.policyRevision ∧
    failClosedFloorMicros engine = ruleSet.failClosedFloorMicros

/-- With no activation in progress, every process that is up serves the active
revision. -/
def InStep (json : JsonLayer) (fleet : Fleet) : Prop :=
  fleet.activation = none → ∀ process engine,
    fleet.processes process = some (.serving engine) → ServesActive json fleet.db engine

/-- The rule data that the next statement of an activation makes active, if the
database accepts the statement. -/
def repoints (json : JsonLayer) (db : PolicyDb) (newId : String) (activation : Activation) :
    Option String :=
  match activation.operation, activation.point with
  | .activate text actorId, .commit ruleSet =>
      (commitActivation json db budgetPolicySetId newId ruleSet text actorId).toOption.map
        fun _ => text
  | .activateByRevisionId id, .repoint _ text =>
      (activateRevision db budgetPolicySetId id).toOption.map fun _ => text
  | _, _ => none

def HasRuleSet (json : JsonLayer) (ruleSet : RuleSet) : Process → Prop
  | .starting text => validateRuleData json.parse text = .ok ruleSet
  | .serving engine => engine.active = ruleSet

/-- Rule data is made active only if it is valid, the reply of the statement is
not lost, and every process but the handler that is up has it already. -/
def ReachesAll (json : JsonLayer) (fleet : Fleet) : FleetEvent → Prop
  | .advance input =>
      ∀ activation ∈ fleet.activation,
        ∀ text ∈ repoints json fleet.db input.newId activation,
          (∀ fault ∈ input.fault, fault.committed = false) ∧
          ∃ ruleSet, validateRuleData json.parse text = .ok ruleSet ∧
            ∀ other, other ≠ activation.handler → ∀ process ∈ fleet.processes other,
              HasRuleSet json ruleSet process
  | _ => True

/-- A process serves the active revision, or will once it is constructed. -/
def CurrentProcess (json : JsonLayer) (db : PolicyDb) : Process → Prop
  | .starting text => ∀ ruleSet, validateRuleData json.parse text = .ok ruleSet →
      ActiveRuleSet json db ruleSet
  | .serving engine => ActiveRuleSet json db engine.active

/-- The process has made a revision active and still has to swap its engine. -/
def Loads (fleet : Fleet) (process : Nat) : Prop :=
  ∃ activation ∈ fleet.activation, activation.handler = process ∧
    ∃ id policyRevision text, activation.point = .load id policyRevision text

structure FleetInvariant (json : JsonLayer) (fleet : Fleet) : Prop where
  present : ∃ row, findKey setId fleet.db.sets budgetPolicySetId = some row
  activates : ∀ activation ∈ fleet.activation, ∀ text actorId,
    activation.operation ≠ .createRevision text actorId
  handled : ∀ activation ∈ fleet.activation,
    ∃ engine, fleet.processes activation.handler = some (.serving engine)
  carries : ∀ activation ∈ fleet.activation,
    Carries json fleet.db activation.operation activation.point
  loading : ∀ activation ∈ fleet.activation, ∀ id policyRevision text,
    activation.point = .load id policyRevision text →
    ∃ ruleSet, validateRuleData json.parse text = .ok ruleSet ∧
      ActiveRuleSet json fleet.db ruleSet
  current : ∀ process state, fleet.processes process = some state →
    Loads fleet process ∨ CurrentProcess json fleet.db state

theorem current_of_has_rule_set {json : JsonLayer} {db : PolicyDb} {ruleSet : RuleSet}
    {process : Process} (active : ActiveRuleSet json db ruleSet)
    (has : HasRuleSet json ruleSet process) : CurrentProcess json db process := by
  cases process with
  | starting text =>
      intro found valid
      have same : validateRuleData json.parse text = .ok ruleSet := has
      rw [same] at valid
      rw [← Except.ok.inj valid]
      exact active
  | serving engine =>
      have same : engine.active = ruleSet := has
      rw [CurrentProcess, same]
      exact active

theorem active_rule_set_kept {json : JsonLayer} {db next : PolicyDb}
    (sameSets : next.sets = db.sets)
    (grown : ∀ id row, findKey revisionId db.revisions id = some row →
      findKey revisionId next.revisions id = some row)
    {ruleSet : RuleSet} (active : ActiveRuleSet json db ruleSet) :
    ActiveRuleSet json next ruleSet := by
  obtain ⟨row, isActive, valid⟩ := active
  obtain ⟨id, pointer, found⟩ := Option.bind_eq_some_iff.mp isActive
  refine ⟨row, ?_, valid⟩
  apply Option.bind_eq_some_iff.mpr
  refine ⟨id, ?_, grown id row found⟩
  unfold activeRevisionId at pointer ⊢
  rw [sameSets]
  exact pointer

theorem current_process_kept {json : JsonLayer} {db next : PolicyDb}
    (kept : ∀ ruleSet, ActiveRuleSet json db ruleSet → ActiveRuleSet json next ruleSet)
    {process : Process} (current : CurrentProcess json db process) :
    CurrentProcess json next process := by
  cases process with
  | starting text => exact fun ruleSet valid => kept ruleSet (current ruleSet valid)
  | serving engine => exact kept engine.active current

theorem unlost_attempt {db : PolicyDb} {fault : Fault} {outcome : Except BudgetError PolicyDb}
    (unlost : ∀ written, outcome = .ok written → fault.committed = false) :
    attempt (some fault) db (PolicyStore.committed db outcome) =
      (db, .error (.storageFailed fault.failure)) := by
  cases outcome with
  | error error => simp only [attempt, PolicyStore.committed, ite_self]
  | ok written => simp [attempt, unlost written rfl]

theorem unlost_store_move {json : JsonLayer} {db next : PolicyDb}
    {engine swapped : RuleDataEngine} {input : StoreInput} {activation : Activation}
    {later : StorePoint}
    (activates : ∀ text actorId, activation.operation ≠ .createRevision text actorId)
    (unlost : ∀ text ∈ repoints json db input.newId activation,
      ∀ fault ∈ input.fault, fault.committed = false)
    (ran : storeMove json budgetPolicySetId db engine input activation.operation
      activation.point = (next, swapped, later)) :
    StoreMove json budgetPolicySetId db engine input activation.operation activation.point
      next swapped later := by
  cases failed : input.fault with
  | none => exact store_move failed ran
  | some fault =>
      obtain ⟨handler, operation, point⟩ := activation
      cases operation with
      | createRevision text actorId => exact absurd rfl (activates text actorId)
      | activate text actorId =>
          cases point with
          | commit ruleSet =>
              have uncommitted : ∀ written, commitActivation json db budgetPolicySetId
                  input.newId ruleSet text actorId = .ok written → fault.committed = false := by
                intro written committing
                exact unlost text (by simp [repoints, committing, Except.toOption]) fault failed
              simp only [storeMove, failed, unlost_attempt uncommitted] at ran
              cases ran
              exact .refused _ (by simp)
          | validate =>
              simp only [storeMove] at ran
              split at ran
              · cases ran
                exact .refused _ (by simp)
              · rename_i valid
                cases ran
                exact .validatedActivate valid
          | load id policyRevision loaded => exact hot_swap_move input _ ran
          | _ =>
              cases ran
              exact .idle
      | activateByRevisionId id =>
          cases point with
          | select =>
              simp only [storeMove, failed, attemptRead] at ran
              cases ran
              exact .refused _ (by simp)
          | repoint policyRevision text =>
              have uncommitted : ∀ written,
                  activateRevision db budgetPolicySetId id = .ok written →
                  fault.committed = false := by
                intro written pointing
                exact unlost text (by simp [repoints, pointing, Except.toOption]) fault failed
              simp only [storeMove, failed, unlost_attempt uncommitted] at ran
              cases ran
              exact .refused _ (by simp)
          | load revisionId policyRevision loaded => exact hot_swap_move input _ ran
          | _ =>
              cases ran
              exact .idle

theorem set_process_some {processes : Nat → Option Process} {process other : Nat}
    {state : Option Process} {found : Process}
    (running : setProcess processes process state other = some found) :
    (other = process ∧ state = some found) ∨
      (other ≠ process ∧ processes other = some found) := by
  unfold setProcess at running
  split at running
  · rename_i same
    exact Or.inl ⟨same, running⟩
  · rename_i different
    exact Or.inr ⟨different, running⟩

theorem move_to_some {activation moved : Activation} {point : StorePoint}
    (isMoved : moved ∈ activation.moveTo point) :
    moved = { activation with point := point } := by
  unfold Activation.moveTo at isMoved
  split at isMoved
  · cases isMoved
  · exact (Option.some.inj isMoved).symm

theorem unpointed_current {json : JsonLayer} {fleet : Fleet} (inv : FleetInvariant json fleet)
    {activation : Activation} (active : fleet.activation = some activation)
    {engine : RuleDataEngine}
    (serving : fleet.processes activation.handler = some (.serving engine))
    (notLoading : ∀ id policyRevision text, activation.point ≠ .load id policyRevision text)
    {next : PolicyDb} (sameSets : next.sets = fleet.db.sets)
    (grown : ∀ id row, findKey revisionId fleet.db.revisions id = some row →
      findKey revisionId next.revisions id = some row) {process : Nat} {state : Process}
    (running : setProcess fleet.processes activation.handler (some (.serving engine)) process =
      some state) : CurrentProcess json next state := by
  have was : fleet.processes process = some state := by
    rcases set_process_some running with ⟨same, isState⟩ | ⟨_, other⟩
    · rw [same, ← isState]
      exact serving
    · exact other
  have kept : ∀ ruleSet, ActiveRuleSet json fleet.db ruleSet → ActiveRuleSet json next ruleSet :=
    fun ruleSet isActive => active_rule_set_kept sameSets grown isActive
  rcases inv.current process state was with ⟨loader, isLoader, _, id, revision, text, loads⟩ |
    current
  · rw [active] at isLoader
    cases isLoader
    exact absurd loads (notLoading id revision text)
  · exact current_process_kept kept current

theorem pointed_active {json : JsonLayer} {db : PolicyDb} {operation : StoreOperation}
    {id policyRevision text : String} {ruleSet : RuleSet}
    (pointer : activeRevisionId db budgetPolicySetId = some id)
    (carries : Carries json db operation (.load id policyRevision text))
    (valid : validateRuleData json.parse text = .ok ruleSet) :
    ActiveRuleSet json db ruleSet := by
  have held : ∃ row, findKey revisionId db.revisions id = some row ∧
      validateRuleData json.parse text = validateRuleData json.parse row.ruleDataJson := by
    cases operation <;> exact carries
  obtain ⟨row, found, same⟩ := held
  refine ⟨row, ?_, same.symm.trans valid⟩
  rw [activeRow, pointer, Option.bind_some, found]

/-- What a move of an activation makes of the processes. -/
structure Advanced (json : JsonLayer) (fleet : Fleet) (activation : Activation)
    (next : PolicyDb) (swapped : RuleDataEngine) (later : StorePoint) : Prop where
  loading : ∀ id policyRevision text, later = .load id policyRevision text →
    ∃ ruleSet, validateRuleData json.parse text = .ok ruleSet ∧ ActiveRuleSet json next ruleSet
  current : ∀ process state,
    setProcess fleet.processes activation.handler (some (.serving swapped)) process =
      some state →
    (process = activation.handler ∧
      ∃ id policyRevision text, later = .load id policyRevision text) ∨
    CurrentProcess json next state

section Advance

variable {json : JsonLayer} {fleet : Fleet} {activation : Activation} {engine : RuleDataEngine}

theorem advanced_pointed {next : PolicyDb}
    {id policyRevision text : String}
    (pointer : activeRevisionId next budgetPolicySetId = some id)
    (carries : Carries json next activation.operation (.load id policyRevision text))
    {ruleSet : RuleSet} (valid : validateRuleData json.parse text = .ok ruleSet)
    (others : ∀ other, other ≠ activation.handler → ∀ process ∈ fleet.processes other,
      HasRuleSet json ruleSet process) :
    Advanced json fleet activation next engine (.load id policyRevision text) := by
  have isActive : ActiveRuleSet json next ruleSet := pointed_active pointer carries valid
  constructor
  · intro loadId revision loaded isLoad
    cases isLoad
    exact ⟨ruleSet, valid, isActive⟩
  · intro process state running
    rcases set_process_some running with ⟨same, _⟩ | ⟨different, was⟩
    · exact Or.inl ⟨same, id, policyRevision, text, rfl⟩
    · exact Or.inr (current_of_has_rule_set isActive (others process different state was))

theorem advanced_unpointed (inv : FleetInvariant json fleet)
    (active : fleet.activation = some activation)
    (serving : fleet.processes activation.handler = some (.serving engine))
    (notLoading : ∀ id policyRevision text, activation.point ≠ .load id policyRevision text)
    {next : PolicyDb} (sameSets : next.sets = fleet.db.sets)
    (grown : ∀ id row, findKey revisionId fleet.db.revisions id = some row →
      findKey revisionId next.revisions id = some row) {later : StorePoint}
    (notLater : ∀ id policyRevision text, later ≠ .load id policyRevision text) :
    Advanced json fleet activation next engine later where
  loading := fun id policyRevision text isLoad =>
    absurd isLoad (notLater id policyRevision text)
  current := fun _ _ running =>
    Or.inr (unpointed_current inv active serving notLoading sameSets grown running)

theorem advanced_loaded (inv : FleetInvariant json fleet)
    (active : fleet.activation = some activation) {id policyRevision text : String}
    (loads : activation.point = .load id policyRevision text) {ruleSet : RuleSet}
    (valid : validateRuleData json.parse text = .ok ruleSet)
    (result : Except BudgetError StoreAnswer) :
    Advanced json fleet activation fleet.db { engine with active := ruleSet }
      (.returned result) := by
  obtain ⟨found, foundValid, isActive⟩ :=
    inv.loading activation (by simp [active]) id policyRevision text loads
  rw [valid] at foundValid
  rw [← Except.ok.inj foundValid] at isActive
  constructor
  · intro loadId revision loaded isLoad
    cases isLoad
  · intro process state running
    right
    rcases set_process_some running with ⟨_, isState⟩ | ⟨different, was⟩
    · rw [← Option.some.inj isState]
      exact isActive
    · rcases inv.current process state was with ⟨loader, isLoader, handles, _⟩ | current
      · rw [active] at isLoader
        cases isLoader
        exact absurd handles.symm different
      · exact current

theorem advanced_idle (inv : FleetInvariant json fleet)
    (active : fleet.activation = some activation)
    (serving : fleet.processes activation.handler = some (.serving engine)) :
    Advanced json fleet activation fleet.db engine activation.point := by
  by_cases loads : ∃ id policyRevision text, activation.point = .load id policyRevision text
  · constructor
    · exact inv.loading activation (by simp [active])
    · intro process state running
      rcases set_process_some running with ⟨same, _⟩ | ⟨different, was⟩
      · exact Or.inl ⟨same, loads⟩
      · rcases inv.current process state was with ⟨loader, isLoader, handles, _⟩ | current
        · rw [active] at isLoader
          cases isLoader
          exact absurd handles.symm different
        · exact Or.inr current
  · have notLoading : ∀ id policyRevision text,
        activation.point ≠ .load id policyRevision text :=
      fun id policyRevision text isLoad => loads ⟨id, policyRevision, text, isLoad⟩
    exact advanced_unpointed inv active serving notLoading rfl (fun _ _ found => found)
      notLoading

theorem advance_effect (faithful : StoresFaithfully json) (inv : FleetInvariant json fleet)
    (active : fleet.activation = some activation)
    (serving : fleet.processes activation.handler = some (.serving engine))
    {input : StoreInput} (reaches : ReachesAll json fleet (.advance input))
    {next : PolicyDb} {swapped : RuleDataEngine} {later : StorePoint}
    (move : StoreMove json budgetPolicySetId fleet.db engine input activation.operation
      activation.point next swapped later) :
    Advanced json fleet activation next swapped later := by
  have held : activation ∈ fleet.activation := active
  have activates := inv.activates activation held
  have carries := move_carries faithful (inv.carries activation held) move
  have grown := revisions_grow move
  obtain ⟨handler, operation, point⟩ := activation
  cases move with
  | refused error notLoading =>
      exact advanced_unpointed inv active serving notLoading rfl grown (by simp)
  | validatedActivate valid =>
      exact advanced_unpointed inv active serving (by simp) rfl grown (by simp)
  | validatedCreate valid =>
      exact advanced_unpointed inv active serving (by simp) rfl grown (by simp)
  | selected stored =>
      exact advanced_unpointed inv active serving (by simp) rfl grown (by simp)
  | inserted ran => exact absurd rfl (activates _ _)
  | @committed text actorId ruleSet inserted _ ran pointed =>
      obtain ⟨_, found, valid, others⟩ := reaches _ held text
        (by simp [repoints, commitActivation, ran, pointed, Except.toOption])
      obtain ⟨fresh, _, _, _, isInserted⟩ := insert_revision_ok ran
      rw [isInserted] at pointed
      have pointer := (activate_revision_active (by exact inv.present) pointed).1
      exact advanced_pointed pointer carries valid others
  | @repointed id policyRevision text _ ran =>
      obtain ⟨_, found, valid, others⟩ := reaches _ held text
        (by simp [repoints, ran, Except.toOption])
      have pointer := (activate_revision_active inv.present ran).1
      exact advanced_pointed pointer carries valid others
  | loaded valid => exact advanced_loaded inv active rfl valid _
  | loadFailed invalid =>
      obtain ⟨ruleSet, valid, _⟩ := inv.loading _ held _ _ _ rfl
      rw [invalid] at valid
      cases valid
  | idle => exact advanced_idle inv active serving

theorem advance_invariant (faithful : StoresFaithfully json) (inv : FleetInvariant json fleet)
    (active : fleet.activation = some activation)
    (serving : fleet.processes activation.handler = some (.serving engine))
    {input : StoreInput} (reaches : ReachesAll json fleet (.advance input))
    {next : PolicyDb} {swapped : RuleDataEngine} {later : StorePoint}
    (ran : storeMove json budgetPolicySetId fleet.db engine input activation.operation
      activation.point = (next, swapped, later)) :
    FleetInvariant json
      { db := next
        processes := setProcess fleet.processes activation.handler (some (.serving swapped))
        activation := activation.moveTo later } := by
  have held : activation ∈ fleet.activation := active
  have move := unlost_store_move (inv.activates activation held)
    (fun text repointing => (reaches activation held text repointing).1) ran
  have advanced := advance_effect faithful inv active serving reaches move
  constructor
  · exact move_present inv.present move
  · intro moved isMoved
    rw [move_to_some isMoved]
    exact inv.activates activation held
  · intro moved isMoved
    rw [move_to_some isMoved]
    exact ⟨swapped, by simp [setProcess]⟩
  · intro moved isMoved
    rw [move_to_some isMoved]
    exact move_carries faithful (inv.carries activation held) move
  · intro moved isMoved id policyRevision text loads
    rw [move_to_some isMoved] at loads
    exact advanced.loading id policyRevision text loads
  · intro process state running
    rcases advanced.current process state running with
      ⟨isHandler, id, policyRevision, text, loads⟩ | current
    · left
      refine ⟨{ activation with point := later }, ?_, isHandler.symm, id, policyRevision, text,
        loads⟩
      simp [Activation.moveTo, loads]
    · exact Or.inr current

end Advance

theorem process_invariant {json : JsonLayer} {fleet : Fleet} (inv : FleetInvariant json fleet)
    {process : Nat} (notHandler : ∀ activation ∈ fleet.activation,
      activation.handler ≠ process) {state : Option Process}
    (current : ∀ started ∈ state, CurrentProcess json fleet.db started) :
    FleetInvariant json
      { fleet with processes := setProcess fleet.processes process state } where
  present := inv.present
  activates := inv.activates
  handled := by
    intro activation held
    obtain ⟨engine, serving⟩ := inv.handled activation held
    exact ⟨engine, by simpa [setProcess, notHandler activation held] using serving⟩
  carries := inv.carries
  loading := inv.loading
  current := by
    intro other found running
    rcases set_process_some running with ⟨_, isState⟩ | ⟨_, was⟩
    · exact Or.inr (current found isState)
    · exact inv.current other found was

/-- The handler of an activation is up, so a process in any other state handles
nothing. -/
theorem not_handler {json : JsonLayer} {fleet : Fleet} (inv : FleetInvariant json fleet)
    {process : Nat} (notServing : ∀ engine,
      fleet.processes process ≠ some (.serving engine)) :
    ∀ activation ∈ fleet.activation, activation.handler ≠ process := by
  intro activation held same
  obtain ⟨engine, serving⟩ := inv.handled activation held
  rw [same] at serving
  exact notServing engine serving

theorem select_invariant {json : JsonLayer} {fleet next : Fleet}
    (inv : FleetInvariant json fleet) {process : Nat} {fault : Option Fault}
    (stepped : fleetStep json fleet (.select process fault) = some next) :
    FleetInvariant json next := by
  simp only [fleetStep] at stepped
  split at stepped
  · cases stepped
  · rename_i absent
    split at stepped
    · rename_i row read
      cases stepped
      have isActive : activeRow fleet.db = some row := by
        cases fault with
        | none => exact Except.ok.inj read
        | some fault => cases read
      apply process_invariant inv (not_handler inv (by simp [absent]))
      intro started isStarted
      rw [← Option.some.inj isStarted]
      exact fun ruleSet valid => ⟨row, isActive, valid⟩
    · cases stepped
      exact inv

theorem construct_invariant {json : JsonLayer} {fleet next : Fleet}
    (inv : FleetInvariant json fleet) {process : Nat}
    (stepped : fleetStep json fleet (.construct process) = some next) :
    FleetInvariant json next := by
  simp only [fleetStep] at stepped
  split at stepped
  · rename_i text starting
    cases stepped
    have notServing : ∀ engine, fleet.processes process ≠ some (.serving engine) := by
      simp [starting]
    have notHandler := not_handler inv notServing
    apply process_invariant inv notHandler
    intro started isStarted
    have current : CurrentProcess json fleet.db (.starting text) := by
      rcases inv.current process _ starting with ⟨activation, held, handles, _⟩ | current
      · exact absurd handles (notHandler activation held)
      · exact current
    cases valid : validateRuleData json.parse text with
    | error error => simp [RuleDataEngine.new, valid, Except.map, Except.toOption] at isStarted
    | ok ruleSet =>
        simp only [RuleDataEngine.new, valid, Except.map, Except.toOption, Option.map_some,
          Option.mem_def, Option.some.injEq] at isStarted
        rw [← isStarted]
        exact current ruleSet valid
  · cases stepped

theorem stop_invariant {json : JsonLayer} {fleet next : Fleet}
    (inv : FleetInvariant json fleet) {process : Nat}
    (stepped : fleetStep json fleet (.stop process) = some next) :
    FleetInvariant json next := by
  cases stepped
  have kept : ∀ activation ∈ fleet.activation.filter (fun activation =>
      activation.handler ≠ process),
      activation ∈ fleet.activation ∧ activation.handler ≠ process := by
    intro activation isKept
    have filtered := Option.filter_eq_some_iff.mp isKept
    exact ⟨filtered.1, by simpa using filtered.2⟩
  constructor
  · exact inv.present
  · exact fun activation isKept => inv.activates activation (kept activation isKept).1
  · intro activation isKept
    obtain ⟨held, different⟩ := kept activation isKept
    obtain ⟨engine, serving⟩ := inv.handled activation held
    exact ⟨engine, by simpa [setProcess, different] using serving⟩
  · exact fun activation isKept => inv.carries activation (kept activation isKept).1
  · exact fun activation isKept => inv.loading activation (kept activation isKept).1
  · intro other state running
    rcases set_process_some running with ⟨_, gone⟩ | ⟨different, was⟩
    · cases gone
    · rcases inv.current other state was with ⟨activation, held, handles, loads⟩ | current
      · left
        refine ⟨activation, Option.filter_eq_some_iff.mpr ⟨held, ?_⟩, handles, loads⟩
        simpa [handles] using different
      · exact Or.inr current

theorem activate_operation {subject : Option String} {args : ActivateArgs}
    {operation : StoreOperation} (accepted : activateBudgetPolicy subject args = .ok operation) :
    ∀ text actorId, operation ≠ .createRevision text actorId := by
  unfold activateBudgetPolicy at accepted
  split at accepted
  · cases accepted
  · split at accepted
    · cases accepted
    · split at accepted <;> cases accepted <;> simp

theorem call_invariant {json : JsonLayer} {fleet next : Fleet}
    (inv : FleetInvariant json fleet) {process : Nat} {subject : Option String}
    {args : ActivateArgs}
    (stepped : fleetStep json fleet (.call process subject args) = some next) :
    FleetInvariant json next := by
  simp only [fleetStep] at stepped
  split at stepped
  · rename_i engine serving idle
    split at stepped
    · cases stepped
      exact inv
    · rename_i operation accepted
      cases stepped
      have isNew : ∀ activation ∈ some (Activation.mk process operation operation.start),
          activation = ⟨process, operation, operation.start⟩ := by
        intro activation held
        exact (Option.some.inj held).symm
      constructor
      · exact inv.present
      · intro activation held
        rw [isNew activation held]
        exact activate_operation accepted
      · intro activation held
        rw [isNew activation held]
        exact ⟨engine, serving⟩
      · intro activation held
        rw [isNew activation held]
        cases operation <;> trivial
      · intro activation held id policyRevision text loads
        rw [isNew activation held] at loads
        cases operation <;> cases loads
      · intro other state running
        rcases inv.current other state running with ⟨activation, held, _⟩ | current
        · rw [idle] at held
          cases held
        · exact Or.inr current
  · cases stepped

theorem step_fleet_invariant {json : JsonLayer} (faithful : StoresFaithfully json)
    {fleet next : Fleet} {event : FleetEvent} (inv : FleetInvariant json fleet)
    (reaches : ReachesAll json fleet event)
    (stepped : fleetStep json fleet event = some next) : FleetInvariant json next := by
  cases event with
  | select process fault => exact select_invariant inv stepped
  | construct process => exact construct_invariant inv stepped
  | stop process => exact stop_invariant inv stepped
  | call process subject args => exact call_invariant inv stepped
  | advance input =>
      simp only [fleetStep] at stepped
      split at stepped
      · cases stepped
      · rename_i activation active
        split at stepped
        · rename_i engine serving
          rcases ran : storeMove json budgetPolicySetId fleet.db engine input
            activation.operation activation.point with ⟨db, swapped, later⟩
          rw [ran] at stepped
          cases stepped
          exact advance_invariant faithful inv active serving reaches ran
        · cases stepped

/-- A deployment before its first process: the policy set exists. -/
structure FleetStart (fleet : Fleet) : Prop where
  present : ∃ row, findKey setId fleet.db.sets budgetPolicySetId = some row
  noProcess : ∀ process, fleet.processes process = none
  idle : fleet.activation = none

theorem start_fleet_invariant (json : JsonLayer) {fleet : Fleet} (start : FleetStart fleet) :
    FleetInvariant json fleet := by
  have noActivation : ∀ activation, activation ∉ fleet.activation := by
    intro activation held
    rw [start.idle] at held
    cases held
  constructor
  · exact start.present
  · exact fun activation held => absurd held (noActivation activation)
  · exact fun activation held => absurd held (noActivation activation)
  · exact fun activation held => absurd held (noActivation activation)
  · exact fun activation held => absurd held (noActivation activation)
  · intro process state running
    rw [start.noProcess process] at running
    cases running

theorem serves_active {json : JsonLayer} {db : PolicyDb} {engine : RuleDataEngine}
    (active : ActiveRuleSet json db engine.active) : ServesActive json db engine :=
  ⟨engine.active, active, rfl, fun _ _ => rfl, rfl, rfl⟩

/-- Along every run of processes that start and stop at any time and of
activations handled by any of them, in which a revision is made active only when
every other process that is up already has its rule data, all processes serve the
active revision whenever no activation is in progress. -/
theorem processes_serve_active_policy (json : JsonLayer) (faithful : StoresFaithfully json)
    (start : Fleet) (starts : FleetStart start) (events : List FleetEvent)
    (reaches : Meets (fleetStep json) (ReachesAll json) start events) (fleet : Fleet)
    (ran : runFrom (fleetStep json) start events = some fleet) : InStep json fleet := by
  have inv := run_preserves_of_meets (FleetInvariant json)
    (fun _ _ _ inv reaches stepped => step_fleet_invariant faithful inv reaches stepped)
    (start_fleet_invariant json starts) reaches ran
  intro idle process engine serving
  rcases inv.current process _ serving with ⟨activation, held, _⟩ | current
  · rw [idle] at held
    cases held
  · exact serves_active current

def reportedRevision (fleet : Fleet) (process : Nat) : Option String :=
  match fleet.processes process with
  | some (.serving engine) => some (activePolicyRevision engine)
  | _ => none

def namedRevision (json : JsonLayer) (db : PolicyDb) : Option String :=
  (activeRow db).bind fun row =>
    (validateRuleData json.parse row.ruleDataJson).toOption.map RuleSet.policyRevision

theorem reported_of_in_step {json : JsonLayer} {fleet : Fleet} (inStep : InStep json fleet)
    (idle : fleet.activation.isNone = true) {process : Nat} {policyRevision : String}
    (reports : reportedRevision fleet process = some policyRevision) :
    namedRevision json fleet.db = some policyRevision := by
  unfold reportedRevision at reports
  split at reports
  · rename_i engine serving
    obtain ⟨ruleSet, ⟨row, isActive, valid⟩, _, _, status, _⟩ :=
      inStep (Option.isNone_iff_eq_none.mp idle) process engine serving
    rw [← Option.some.inj reports, status]
    simp [namedRevision, isActive, valid, Except.toOption]
  · cases reports

def sampleFleet : Fleet where
  db := sampleStore.db
  processes := fun _ => none
  activation := none

theorem sample_fleet_starts : FleetStart sampleFleet where
  present := ⟨⟨"budget-refill", some "budget-refill-v1"⟩, by decide⟩
  noProcess := fun _ => rfl
  idle := rfl

def startProcess (process : Nat) : List FleetEvent :=
  [.select process none, .construct process]

/-- An activation of new rule data, from the call to its return. -/
def activateOn (process : Nat) (ruleDataJson newId : String) : List FleetEvent :=
  [.call process (some "admin") ⟨"budget-refill", some ruleDataJson, none⟩,
    .advance (faultless ""), .advance (faultless newId), .advance (faultless "")]

/-- Of two processes the one that did not handle the activation serves the old
revision. -/
theorem other_process_serves_old_policy :
    ¬ ∀ (json : JsonLayer) (start : Fleet) (events : List FleetEvent) (fleet : Fleet),
        StoresFaithfully json → FleetStart start →
        runFrom (fleetStep json) start events = some fleet → InStep json fleet := by
  intro claimed
  have reached : reaches (fleetStep sampleJson) sampleFleet
      (startProcess 0 ++ startProcess 1 ++ activateOn 0 (ruleText "v2" "deny") "r2")
      (fun fleet => fleet.activation.isNone && reportedRevision fleet 1 == some "v1" &&
        namedRevision sampleJson fleet.db == some "v2") = true := by
    decide +kernel
  obtain ⟨fleet, ran, found⟩ := exists_of_reaches reached
  simp only [Bool.and_eq_true, beq_iff_eq] at found
  obtain ⟨⟨idle, reports⟩, named⟩ := found
  have same := reported_of_in_step
    (claimed sampleJson sampleFleet _ fleet sample_json_faithful sample_fleet_starts ran) idle
    reports
  rw [named] at same
  simp at same

/-- At most two processes, and an activation finds no other up. -/
def aloneReaches (json : JsonLayer) (fleet : Fleet) : FleetEvent → Bool
  | .select process _ => process < 2
  | .advance input =>
      fleet.activation.all fun activation =>
        (repoints json fleet.db input.newId activation).all fun text =>
          input.fault.isNone && (validateRuleData json.parse text).toOption.isSome &&
            (List.range 2).all fun other =>
              other == activation.handler || (fleet.processes other).isNone
  | _ => true

def AtMostTwo (fleet : Fleet) : Prop := ∀ process, 2 ≤ process → fleet.processes process = none

theorem alone_reaches {json : JsonLayer} {fleet : Fleet} {event : FleetEvent}
    (two : AtMostTwo fleet) (alone : aloneReaches json fleet event = true) :
    ReachesAll json fleet event := by
  cases event with
  | advance input =>
      intro activation held text repointing
      simp only [aloneReaches, Option.all_eq_true, Bool.and_eq_true] at alone
      obtain ⟨⟨unfailed, valid⟩, others⟩ := alone activation held text repointing
      have accepted : ∃ ruleSet, validateRuleData json.parse text = .ok ruleSet := by
        cases outcome : validateRuleData json.parse text with
        | error error => simp [outcome, Except.toOption] at valid
        | ok ruleSet => exact ⟨ruleSet, rfl⟩
      obtain ⟨ruleSet, isRuleSet⟩ := accepted
      refine ⟨by simp [Option.isNone_iff_eq_none.mp unfailed], ruleSet, isRuleSet, ?_⟩
      intro other different process running
      by_cases early : other < 2
      · have absent := List.all_eq_true.mp others other (List.mem_range.mpr early)
        simp only [beq_iff_eq, Bool.or_eq_true, different, false_or,
          Option.isNone_iff_eq_none] at absent
        rw [absent] at running
        cases running
      · rw [two other (Nat.le_of_not_lt early)] at running
        cases running
  | _ => trivial

theorem at_most_two_step {json : JsonLayer} {fleet next : Fleet} {event : FleetEvent}
    (two : AtMostTwo fleet) (alone : aloneReaches json fleet event = true)
    (stepped : fleetStep json fleet event = some next) : AtMostTwo next := by
  intro other late
  have absent := two other late
  have kept : ∀ process state, (fleet.processes process).isSome = true ∨ state = none ∨
      process < 2 → setProcess fleet.processes process state other = none := by
    intro process state
    unfold setProcess
    split
    · rename_i same
      rintro (present | gone | early)
      · rw [← same, absent] at present
        cases present
      · exact gone
      · omega
    · exact fun _ => absent
  cases event with
  | select process fault =>
      have early : process < 2 := of_decide_eq_true alone
      simp only [fleetStep] at stepped
      split at stepped
      · cases stepped
      · split at stepped
        · cases stepped
          exact kept process _ (Or.inr (Or.inr early))
        · cases stepped
          exact absent
  | construct process =>
      simp only [fleetStep] at stepped
      split at stepped
      · rename_i starting
        cases stepped
        exact kept process _ (Or.inl (by simp [starting]))
      · cases stepped
  | stop process =>
      cases stepped
      exact kept process none (Or.inr (Or.inl rfl))
  | call process subject args =>
      simp only [fleetStep] at stepped
      split at stepped
      · split at stepped <;> cases stepped <;> exact absent
      · cases stepped
  | advance input =>
      simp only [fleetStep] at stepped
      split at stepped
      · cases stepped
      · split at stepped
        · rename_i serving
          cases stepped
          exact kept _ _ (Or.inl (by simp [serving]))
        · cases stepped

/-- A process that starts after the activation serves what its handler
serves. -/
theorem later_process_serves_new_policy :
    ∃ fleet, runFrom (fleetStep sampleJson) sampleFleet
        (startProcess 0 ++ activateOn 0 (ruleText "v2" "deny") "r2" ++ startProcess 1) =
          some fleet ∧
      reportedRevision fleet 0 = some "v2" ∧ reportedRevision fleet 1 = some "v2" ∧
      InStep sampleJson fleet := by
  have reached : reaches (fleetStep sampleJson) sampleFleet
      (startProcess 0 ++ activateOn 0 (ruleText "v2" "deny") "r2" ++ startProcess 1)
      (fun fleet => reportedRevision fleet 0 == some "v2" &&
        reportedRevision fleet 1 == some "v2") = true := by
    decide +kernel
  obtain ⟨fleet, ran, found⟩ := exists_of_reaches reached
  simp only [Bool.and_eq_true, beq_iff_eq] at found
  have alone : Meets (fleetStep sampleJson)
      (fun current event => aloneReaches sampleJson current event = true) sampleFleet
      (startProcess 0 ++ activateOn 0 (ruleText "v2" "deny") "r2" ++ startProcess 1) := by
    decide +kernel
  have reaching : Meets (fleetStep sampleJson) (ReachesAll sampleJson) sampleFleet
      (startProcess 0 ++ activateOn 0 (ruleText "v2" "deny") "r2" ++ startProcess 1) :=
    meets_of_invariant AtMostTwo
      (fun _ _ _ two alone stepped => at_most_two_step two alone stepped)
      (fun _ _ two alone => alone_reaches two alone) (fun _ _ => rfl) alone
  exact ⟨fleet, ran, found.1, found.2,
    processes_serve_active_policy sampleJson sample_json_faithful sampleFleet
      sample_fleet_starts _ reaching fleet ran⟩

end LightbridgeAuthz.Budget.PolicyFleet
