import LightbridgeAuthz.Library.EventRun
import LightbridgeAuthz.Library.KeyedRows
import LightbridgeAuthz.Budget.RuleData

/-!
# The policy store

One policy set in the database and one engine in memory. An activation repoints
`active_revision_id` in one statement and swaps the engine's rule set in a later
one, with no lock around the two, so the last repoint and the last swap may
belong to different calls. Along every run in which no swap overtakes the
activation that is current, the engine and the database agree whenever no call
is in progress.
-/

namespace LightbridgeAuthz.Budget.PolicyStore

open Library.EventRun Library.KeyedRows
open Domain RuleData

set_option autoImplicit false

/-- What lies outside: `serde_json::from_str` with the text of its error, and what
`::text` gives back of a text cast to `jsonb`. -/
structure JsonLayer where
  parse : String → Except String RuleSet
  jsonb : String → Except StorageFailure String

/-- Rule data reads the same from the column as from the text that was
submitted. -/
def StoresFaithfully (json : JsonLayer) : Prop :=
  ∀ text stored ruleSet, json.jsonb text = .ok stored → json.parse text = .ok ruleSet →
    json.parse stored = .ok ruleSet

structure PolicyRevision where
  id : String
  policySetId : String
  policyRevision : String
  ruleDataJson : String
  createdBy : Option String
  deriving DecidableEq, Repr

structure PolicySet where
  id : String
  activeRevisionId : Option String
  deriving DecidableEq, Repr

structure PolicyDb where
  sets : List PolicySet
  revisions : List PolicyRevision

def setId (row : PolicySet) : Option String := some row.id

def revisionId (row : PolicyRevision) : Option String := some row.id

/-- The columns of the table's `UNIQUE (policy_set_id, policy_revision)`. -/
def revisionName (row : PolicyRevision) : Option (String × String) :=
  some (row.policySetId, row.policyRevision)

def activeRevisionId (db : PolicyDb) (policySetId : String) : Option String :=
  (findKey setId db.sets policySetId).bind PolicySet.activeRevisionId

/-- `INSERT_REVISION_SQL`. -/
def insertRevision (json : JsonLayer) (db : PolicyDb) (policySetId newId : String)
    (ruleSet : RuleSet) (newRuleDataJson : String) (actorId : Option String) :
    Except BudgetError PolicyDb :=
  match json.jsonb newRuleDataJson with
  | .error failure => .error (.storageFailed failure)
  | .ok stored =>
      if conflicts revisionId db.revisions (some newId) then
        .error (.storageFailed (.uniqueViolation "budget_policy_revisions_pkey"))
      else if conflicts revisionName db.revisions (some (policySetId, ruleSet.policyRevision)) then
        .error (.storageFailed (.uniqueViolation
          "budget_policy_revisions_policy_set_id_policy_revision_key"))
      else if (findKey setId db.sets policySetId).isNone then
        .error (.storageFailed (.foreignKeyViolation
          "budget_policy_revisions_policy_set_id_fkey"))
      else
        .ok { db with
          revisions := db.revisions ++
            [{ id := newId
               policySetId := policySetId
               policyRevision := ruleSet.policyRevision
               ruleDataJson := stored
               createdBy := actorId }] }

/-- `ACTIVATE_REVISION_SQL`. No row of that id is no error. -/
def activateRevision (db : PolicyDb) (policySetId newId : String) :
    Except BudgetError PolicyDb :=
  if (findKey setId db.sets policySetId).isSome ∧
      (findKey revisionId db.revisions newId).isNone then
    .error (.storageFailed (.foreignKeyViolation "budget_policy_sets_active_revision_fk"))
  else
    .ok { db with
      sets := updateKey setId db.sets policySetId fun row =>
        { row with activeRevisionId := some newId } }

structure RuleDataEngine where
  active : RuleSet
  evaluationBudget : Nat

def RuleDataEngine.new (json : JsonLayer) (initialRuleDataJson : String)
    (evaluationBudget : Nat) : Except BudgetError RuleDataEngine :=
  (validateRuleData json.parse initialRuleDataJson).map fun ruleSet =>
    ⟨ruleSet, evaluationBudget⟩

def RuleDataEngine.load (json : JsonLayer) (engine : RuleDataEngine)
    (newRuleDataJson : String) : RuleDataEngine × Except BudgetError Unit :=
  match validateRuleData json.parse newRuleDataJson with
  | .error error => (engine, .error error)
  | .ok ruleSet => ({ engine with active := ruleSet }, .ok ())

def loadActiveFromDb (json : JsonLayer) (db : PolicyDb) (policySetId : String)
    (evaluationBudget : Nat) : Except BudgetError RuleDataEngine :=
  match (activeRevisionId db policySetId).bind (findKey revisionId db.revisions) with
  | none =>
      .error (.storageFailed (.message ("no active policy revision found for policy set '" ++
        policySetId ++ "' -- either the policy set does not exist, or it has no " ++
        "active_revision_id set")))
  | some row => RuleDataEngine.new json row.ruleDataJson evaluationBudget

structure NewRevision where
  id : String
  policyRevision : String
  deriving DecidableEq, Repr

inductive StoreOperation where
  | activate (newRuleDataJson : String) (actorId : Option String)
  | activateByRevisionId (revisionId : String)
  | createRevision (newRuleDataJson : String) (actorId : Option String)
  deriving DecidableEq, Repr

inductive StoreAnswer where
  | activated (policyRevision : String)
  | created (revision : NewRevision)
  deriving DecidableEq, Repr

inductive StorePoint where
  | validate
  | commit (ruleSet : RuleSet)
  | insert (ruleSet : RuleSet)
  | select
  | repoint (policyRevision ruleDataJson : String)
  | load (revisionId policyRevision ruleDataJson : String)
  | returned (result : Except BudgetError StoreAnswer)

structure StoreInput where
  newId : String
  fault : Option Fault

/-- The text of an error of `load`. `validate_rule_data` raises no other. -/
def loadErrorText : BudgetError → String
  | .invalidRuleData reason => "invalid rule data: " ++ reason
  | error => reprStr error

def diverged (policySetId revisionId policyRevision : String) (loadErr : BudgetError) :
    BudgetError :=
  .storageFailed (.message ("DB and engine now disagree on the active policy revision: " ++
    "revision '" ++ policyRevision ++ "' (id '" ++ revisionId ++ "') committed to the " ++
    "database for policy set '" ++ policySetId ++ "' but the in-memory engine failed to " ++
    "hot-swap to it (" ++ loadErrorText loadErr ++ ") -- this is a serious, unusual state " ++
    "that needs manual reconciliation, not a retry"))

/-- The transaction of `activate`: both statements or neither. -/
def commitActivation (json : JsonLayer) (db : PolicyDb) (policySetId newId : String)
    (ruleSet : RuleSet) (newRuleDataJson : String) (actorId : Option String) :
    Except BudgetError PolicyDb :=
  match insertRevision json db policySetId newId ruleSet newRuleDataJson actorId with
  | .error error => .error error
  | .ok inserted => activateRevision inserted policySetId newId

/-- A refused statement leaves the tables as they were. -/
def committed (db : PolicyDb) : Except BudgetError PolicyDb →
    PolicyDb × Except BudgetError Unit
  | .error error => (db, .error error)
  | .ok next => (next, .ok ())

def hotSwap (json : JsonLayer) (policySetId : String) (db : PolicyDb)
    (engine : RuleDataEngine) (id policyRevision ruleDataJson : String) :
    PolicyDb × RuleDataEngine × StorePoint :=
  match engine.load json ruleDataJson with
  | (next, .error error) =>
      (db, next, .returned (.error (diverged policySetId id policyRevision error)))
  | (next, .ok ()) => (db, next, .returned (.ok (.activated policyRevision)))

def storeMove (json : JsonLayer) (policySetId : String) (db : PolicyDb)
    (engine : RuleDataEngine) (input : StoreInput) :
    StoreOperation → StorePoint → PolicyDb × RuleDataEngine × StorePoint
  | .activate newRuleDataJson _, .validate =>
      match validateRuleData json.parse newRuleDataJson with
      | .error error => (db, engine, .returned (.error error))
      | .ok ruleSet => (db, engine, .commit ruleSet)
  | .createRevision newRuleDataJson _, .validate =>
      match validateRuleData json.parse newRuleDataJson with
      | .error error => (db, engine, .returned (.error error))
      | .ok ruleSet => (db, engine, .insert ruleSet)
  | .activate newRuleDataJson actorId, .commit ruleSet =>
      match attempt input.fault db (committed db (commitActivation json db policySetId
          input.newId ruleSet newRuleDataJson actorId)) with
      | (next, .error error) => (next, engine, .returned (.error error))
      | (next, .ok ()) =>
          (next, engine, .load input.newId ruleSet.policyRevision newRuleDataJson)
  | .createRevision newRuleDataJson actorId, .insert ruleSet =>
      match attempt input.fault db (committed db (insertRevision json db policySetId
          input.newId ruleSet newRuleDataJson actorId)) with
      | (next, .error error) => (next, engine, .returned (.error error))
      | (next, .ok ()) =>
          (next, engine, .returned (.ok (.created ⟨input.newId, ruleSet.policyRevision⟩)))
  | .activateByRevisionId id, .select =>
      match attemptRead input.fault (.ok ((findKey revisionId db.revisions id).filter fun row =>
          row.policySetId = policySetId)) with
      | .error error => (db, engine, .returned (.error error))
      | .ok none =>
          (db, engine, .returned (.error (.storageFailed (.message ("no revision '" ++ id ++
            "' found for policy set '" ++ policySetId ++ "' -- cannot roll back to a " ++
            "revision that does not exist")))))
      | .ok (some row) => (db, engine, .repoint row.policyRevision row.ruleDataJson)
  | .activateByRevisionId id, .repoint policyRevision ruleDataJson =>
      match attempt input.fault db (committed db (activateRevision db policySetId id)) with
      | (next, .error error) => (next, engine, .returned (.error error))
      | (next, .ok ()) => (next, engine, .load id policyRevision ruleDataJson)
  | .activate _ _, .load id policyRevision ruleDataJson =>
      hotSwap json policySetId db engine id policyRevision ruleDataJson
  | .activateByRevisionId _, .load id policyRevision ruleDataJson =>
      hotSwap json policySetId db engine id policyRevision ruleDataJson
  | _, point => (db, engine, point)

def StoreOperation.start : StoreOperation → StorePoint
  | .activateByRevisionId _ => .select
  | _ => .validate

structure StoreWorld where
  db : PolicyDb
  engine : RuleDataEngine
  calls : Nat → Option (StoreOperation × StorePoint)

inductive StoreEvent where
  | arrive (caller : Nat) (operation : StoreOperation)
  | advance (caller : Nat) (input : StoreInput)

def setStoreCall (calls : Nat → Option (StoreOperation × StorePoint)) (caller : Nat)
    (call : StoreOperation × StorePoint) : Nat → Option (StoreOperation × StorePoint) :=
  fun other => if other = caller then some call else calls other

def storeStep (json : JsonLayer) (policySetId : String) (world : StoreWorld) :
    StoreEvent → Option StoreWorld
  | .arrive caller operation =>
      match world.calls caller with
      | some _ => none
      | none =>
          some { world with
            calls := setStoreCall world.calls caller (operation, operation.start) }
  | .advance caller input =>
      match world.calls caller with
      | none => none
      | some (_, .returned _) => none
      | some (operation, point) =>
          match storeMove json policySetId world.db world.engine input operation point with
          | (db, engine, later) =>
              some
                { db := db
                  engine := engine
                  calls := setStoreCall world.calls caller (operation, later) }

theorem insert_revision_ok {json : JsonLayer} {db next : PolicyDb} {policySetId newId : String}
    {ruleSet : RuleSet} {newRuleDataJson : String} {actorId : Option String}
    (ran : insertRevision json db policySetId newId ruleSet newRuleDataJson actorId =
      .ok next) :
    ∃ row, json.jsonb newRuleDataJson = .ok row.ruleDataJson ∧ row.id = newId ∧
      findKey revisionId db.revisions newId = none ∧
      next = { db with revisions := db.revisions ++ [row] } := by
  unfold insertRevision at ran
  split at ran
  · cases ran
  · rename_i stored cast
    split at ran
    · cases ran
    · rename_i freshId
      split at ran
      · cases ran
      · split at ran
        · cases ran
        · cases ran
          exact ⟨_, cast, rfl, by simpa [conflicts] using freshId, rfl⟩

theorem activate_revision_ok {db next : PolicyDb} {policySetId newId : String}
    (ran : activateRevision db policySetId newId = .ok next) :
    next = { db with
      sets := updateKey setId db.sets policySetId fun row =>
        { row with activeRevisionId := some newId } } := by
  unfold activateRevision at ran
  split at ran
  · cases ran
  · cases ran
    rfl

inductive StoreMove (json : JsonLayer) (policySetId : String) (db : PolicyDb)
    (engine : RuleDataEngine) (input : StoreInput) :
    StoreOperation → StorePoint → PolicyDb → RuleDataEngine → StorePoint → Prop where
  | refused {operation : StoreOperation} {point : StorePoint} (error : BudgetError)
      (notLoading : ∀ id policyRevision text, point ≠ .load id policyRevision text) :
      StoreMove json policySetId db engine input operation point db engine
        (.returned (.error error))
  | validatedActivate {text : String} {actorId : Option String} {ruleSet : RuleSet}
      (valid : validateRuleData json.parse text = .ok ruleSet) :
      StoreMove json policySetId db engine input (.activate text actorId) .validate db engine
        (.commit ruleSet)
  | validatedCreate {text : String} {actorId : Option String} {ruleSet : RuleSet}
      (valid : validateRuleData json.parse text = .ok ruleSet) :
      StoreMove json policySetId db engine input (.createRevision text actorId) .validate db
        engine (.insert ruleSet)
  | committed {text : String} {actorId : Option String} {ruleSet : RuleSet}
      {inserted next : PolicyDb}
      (ran : insertRevision json db policySetId input.newId ruleSet text actorId =
        .ok inserted)
      (pointed : activateRevision inserted policySetId input.newId = .ok next) :
      StoreMove json policySetId db engine input (.activate text actorId) (.commit ruleSet)
        next engine (.load input.newId ruleSet.policyRevision text)
  | inserted {text : String} {actorId : Option String} {ruleSet : RuleSet} {next : PolicyDb}
      {answer : StoreAnswer}
      (ran : insertRevision json db policySetId input.newId ruleSet text actorId = .ok next) :
      StoreMove json policySetId db engine input (.createRevision text actorId)
        (.insert ruleSet) next engine (.returned (.ok answer))
  | selected {id : String} {row : PolicyRevision}
      (stored : findKey revisionId db.revisions id = some row) :
      StoreMove json policySetId db engine input (.activateByRevisionId id) .select db engine
        (.repoint row.policyRevision row.ruleDataJson)
  | repointed {id policyRevision text : String} {next : PolicyDb}
      (ran : activateRevision db policySetId id = .ok next) :
      StoreMove json policySetId db engine input (.activateByRevisionId id)
        (.repoint policyRevision text) next engine (.load id policyRevision text)
  | loaded {operation : StoreOperation} {id policyRevision text : String} {ruleSet : RuleSet}
      {answer : StoreAnswer} (valid : validateRuleData json.parse text = .ok ruleSet) :
      StoreMove json policySetId db engine input operation (.load id policyRevision text) db
        { engine with active := ruleSet } (.returned (.ok answer))
  | loadFailed {operation : StoreOperation} {id policyRevision text : String}
      {error failure : BudgetError} (invalid : validateRuleData json.parse text = .error error) :
      StoreMove json policySetId db engine input operation (.load id policyRevision text) db
        engine (.returned (.error failure))
  | idle {operation : StoreOperation} {point : StorePoint} :
      StoreMove json policySetId db engine input operation point db engine point

theorem hot_swap_move {json : JsonLayer} {policySetId : String} {db next : PolicyDb}
    {engine swapped : RuleDataEngine} {later : StorePoint} {id policyRevision text : String}
    (input : StoreInput) (operation : StoreOperation)
    (ran : hotSwap json policySetId db engine id policyRevision text =
      (next, swapped, later)) :
    StoreMove json policySetId db engine input operation (.load id policyRevision text) next
      swapped later := by
  simp only [hotSwap, RuleDataEngine.load] at ran
  cases valid : validateRuleData json.parse text with
  | error error =>
      simp only [valid] at ran
      cases ran
      exact .loadFailed valid
  | ok ruleSet =>
      simp only [valid] at ran
      cases ran
      exact .loaded valid

theorem activate_move {json : JsonLayer} {policySetId : String} {db next : PolicyDb}
    {engine swapped : RuleDataEngine} {input : StoreInput} {submitted : String}
    {actorId : Option String} {point later : StorePoint} (noFault : input.fault = none)
    (ran : storeMove json policySetId db engine input (.activate submitted actorId) point =
      (next, swapped, later)) :
    StoreMove json policySetId db engine input (.activate submitted actorId) point next
      swapped later := by
  cases point with
  | validate =>
      simp only [storeMove] at ran
      split at ran
      · cases ran
        exact .refused _ (by simp)
      · rename_i valid
        cases ran
        exact .validatedActivate valid
  | commit ruleSet =>
      simp only [storeMove, noFault, attempt, commitActivation] at ran
      cases inserting : insertRevision json db policySetId input.newId ruleSet submitted
          actorId with
      | error error =>
          simp only [inserting, PolicyStore.committed] at ran
          cases ran
          exact .refused _ (by simp)
      | ok inserted =>
          simp only [inserting] at ran
          cases pointing : activateRevision inserted policySetId input.newId with
          | error error =>
              simp only [pointing, PolicyStore.committed] at ran
              cases ran
              exact .refused _ (by simp)
          | ok pointed =>
              simp only [pointing, PolicyStore.committed] at ran
              cases ran
              exact .committed inserting pointing
  | load id policyRevision text => exact hot_swap_move input _ ran
  | _ =>
      cases ran
      exact .idle

theorem rollback_move {json : JsonLayer} {policySetId : String} {db next : PolicyDb}
    {engine swapped : RuleDataEngine} {input : StoreInput} {id : String}
    {point later : StorePoint} (noFault : input.fault = none)
    (ran : storeMove json policySetId db engine input (.activateByRevisionId id) point =
      (next, swapped, later)) :
    StoreMove json policySetId db engine input (.activateByRevisionId id) point next swapped
      later := by
  cases point with
  | select =>
      simp only [storeMove, noFault, attemptRead] at ran
      split at ran
      · cases ran
        exact .refused _ (by simp)
      · cases ran
        exact .refused _ (by simp)
      · rename_i row found
        cases ran
        have selected := Except.ok.inj found
        exact .selected (Option.eq_some_of_filter_eq_some selected)
  | repoint policyRevision text =>
      simp only [storeMove, noFault, attempt] at ran
      cases pointing : activateRevision db policySetId id with
      | error error =>
          simp only [pointing, PolicyStore.committed] at ran
          cases ran
          exact .refused _ (by simp)
      | ok pointed =>
          simp only [pointing, PolicyStore.committed] at ran
          cases ran
          exact .repointed pointing
  | load revisionId policyRevision text => exact hot_swap_move input _ ran
  | _ =>
      cases ran
      exact .idle

theorem create_move {json : JsonLayer} {policySetId : String} {db next : PolicyDb}
    {engine swapped : RuleDataEngine} {input : StoreInput} {submitted : String}
    {actorId : Option String} {point later : StorePoint} (noFault : input.fault = none)
    (ran : storeMove json policySetId db engine input (.createRevision submitted actorId)
      point = (next, swapped, later)) :
    StoreMove json policySetId db engine input (.createRevision submitted actorId) point next
      swapped later := by
  cases point with
  | validate =>
      simp only [storeMove] at ran
      split at ran
      · cases ran
        exact .refused _ (by simp)
      · rename_i valid
        cases ran
        exact .validatedCreate valid
  | insert ruleSet =>
      simp only [storeMove, noFault, attempt] at ran
      cases inserting : insertRevision json db policySetId input.newId ruleSet submitted
          actorId with
      | error error =>
          simp only [inserting, PolicyStore.committed] at ran
          cases ran
          exact .refused _ (by simp)
      | ok inserted =>
          simp only [inserting, PolicyStore.committed] at ran
          cases ran
          exact .inserted inserting
  | _ =>
      cases ran
      exact .idle

theorem store_move {json : JsonLayer} {policySetId : String} {db next : PolicyDb}
    {engine swapped : RuleDataEngine} {input : StoreInput} {operation : StoreOperation}
    {point later : StorePoint} (noFault : input.fault = none)
    (ran : storeMove json policySetId db engine input operation point =
      (next, swapped, later)) :
    StoreMove json policySetId db engine input operation point next swapped later := by
  cases operation with
  | activate submitted actorId => exact activate_move noFault ran
  | activateByRevisionId id => exact rollback_move noFault ran
  | createRevision submitted actorId => exact create_move noFault ran

/-- What an event can do to the world, without faults. -/
inductive StoreOutcome (json : JsonLayer) (policySetId : String) (world : StoreWorld) :
    StoreEvent → StoreWorld → Prop where
  | arrived {caller : Nat} {operation : StoreOperation} (free : world.calls caller = none) :
      StoreOutcome json policySetId world (.arrive caller operation)
        { world with calls := setStoreCall world.calls caller (operation, operation.start) }
  | moved {caller : Nat} {input : StoreInput} {operation : StoreOperation}
      {point later : StorePoint} {db : PolicyDb} {engine : RuleDataEngine}
      (running : world.calls caller = some (operation, point))
      (move : StoreMove json policySetId world.db world.engine input operation point db engine
        later) :
      StoreOutcome json policySetId world (.advance caller input)
        { db := db
          engine := engine
          calls := setStoreCall world.calls caller (operation, later) }

def NoFault : StoreEvent → Prop
  | .arrive _ _ => True
  | .advance _ input => input.fault = none

theorem store_step_cases {json : JsonLayer} {policySetId : String} {world next : StoreWorld}
    {event : StoreEvent} (stepped : storeStep json policySetId world event = some next) :
    (∃ caller operation, event = .arrive caller operation ∧ world.calls caller = none ∧
      next = { world with
        calls := setStoreCall world.calls caller (operation, operation.start) }) ∨
    ∃ caller input operation point db engine later, event = .advance caller input ∧
      world.calls caller = some (operation, point) ∧
      storeMove json policySetId world.db world.engine input operation point =
        (db, engine, later) ∧
      next = ⟨db, engine, setStoreCall world.calls caller (operation, later)⟩ := by
  cases event with
  | arrive caller operation =>
      simp only [storeStep] at stepped
      split at stepped
      · cases stepped
      · rename_i free
        cases stepped
        exact Or.inl ⟨caller, operation, rfl, free, rfl⟩
  | advance caller input =>
      simp only [storeStep] at stepped
      split at stepped
      · cases stepped
      · cases stepped
      · rename_i operation point _ running
        cases stepped
        exact Or.inr ⟨caller, input, operation, point, _, _, _, rfl, running, rfl, rfl⟩

theorem store_outcome {json : JsonLayer} {policySetId : String} {world next : StoreWorld}
    {event : StoreEvent} (noFault : NoFault event)
    (stepped : storeStep json policySetId world event = some next) :
    StoreOutcome json policySetId world event next := by
  rcases store_step_cases stepped with ⟨caller, operation, rfl, free, rfl⟩ |
    ⟨caller, input, operation, point, db, engine, later, rfl, running, ran, rfl⟩
  · exact .arrived free
  · exact .moved running (store_move noFault ran)

theorem set_store_call_some {calls : Nat → Option (StoreOperation × StorePoint)}
    {caller other : Nat} {entry call : StoreOperation × StorePoint}
    (running : setStoreCall calls caller entry other = some call) :
    (other = caller ∧ entry = call) ∨ (other ≠ caller ∧ calls other = some call) := by
  unfold setStoreCall at running
  split at running
  · rename_i same
    exact Or.inl ⟨same, Option.some.inj running⟩
  · rename_i different
    exact Or.inr ⟨different, running⟩

theorem set_store_call_self (calls : Nat → Option (StoreOperation × StorePoint))
    (caller : Nat) (entry : StoreOperation × StorePoint) :
    setStoreCall calls caller entry caller = some entry := by
  simp [setStoreCall]

theorem set_store_call_same {calls : Nat → Option (StoreOperation × StorePoint)}
    {caller : Nat} {entry : StoreOperation × StorePoint}
    (running : calls caller = some entry) : setStoreCall calls caller entry = calls := by
  funext other
  unfold setStoreCall
  split
  · rename_i same
    rw [same, running]
  · rfl

/-- A call that has activated the revision and still has to swap the engine. -/
def PendingLoad (world : StoreWorld) (id : String) : Prop :=
  ∃ caller operation policyRevision text,
    world.calls caller = some (operation, .load id policyRevision text)

/-- What a call carries from one statement to the next. -/
def Carries (json : JsonLayer) (db : PolicyDb) : StoreOperation → StorePoint → Prop
  | .activate text _, .commit ruleSet => validateRuleData json.parse text = .ok ruleSet
  | .createRevision text _, .insert ruleSet => validateRuleData json.parse text = .ok ruleSet
  | .activateByRevisionId id, .repoint _ text =>
      ∃ row, findKey revisionId db.revisions id = some row ∧ row.ruleDataJson = text
  | _, .load id _ text => ∃ row, findKey revisionId db.revisions id = some row ∧
      validateRuleData json.parse text = validateRuleData json.parse row.ruleDataJson
  | _, _ => True

def Agrees (json : JsonLayer) (policySetId : String) (world : StoreWorld) : Prop :=
  loadActiveFromDb json world.db policySetId world.engine.evaluationBudget = .ok world.engine

/-- The invariant: the engine agrees with the database, or the call whose
activation is current has yet to swap it. -/
structure StoreInvariant (json : JsonLayer) (policySetId : String) (world : StoreWorld) :
    Prop where
  present : ∃ row, findKey setId world.db.sets policySetId = some row
  carries : ∀ caller operation point, world.calls caller = some (operation, point) →
    Carries json world.db operation point
  current : Agrees json policySetId world ∨
    ∃ id, activeRevisionId world.db policySetId = some id ∧ PendingLoad world id

/-- A swap finds its own activation current, or leaves the current one still to
swap. -/
def LoadsCurrent (policySetId : String) (world : StoreWorld) : StoreEvent → Prop
  | .arrive _ _ => True
  | .advance caller _ =>
      ∀ operation id policyRevision text,
        world.calls caller = some (operation, .load id policyRevision text) →
        activeRevisionId world.db policySetId = some id ∨
          ∃ active, activeRevisionId world.db policySetId = some active ∧
            PendingLoad world active

def loadingText : StoreOperation × StorePoint → Option String
  | (_, .load _ _ text) => some text
  | _ => none

/-- A swap does not fail: the rule data it loads is still valid. -/
def LoadSucceeds (json : JsonLayer) (world : StoreWorld) : StoreEvent → Prop
  | .arrive _ _ => True
  | .advance caller _ =>
      ∀ text ∈ (world.calls caller).bind loadingText,
        (world.engine.load json text).2.isOk = true

instance (json : JsonLayer) (world : StoreWorld) :
    ∀ event, Decidable (LoadSucceeds json world event)
  | .arrive _ _ => isTrue trivial
  | .advance _ _ => inferInstanceAs (Decidable (∀ text ∈ _, _))

theorem find_revision_append {db : PolicyDb} {id : String} {row fresh : PolicyRevision}
    (found : findKey revisionId db.revisions id = some row) :
    findKey revisionId (db.revisions ++ [fresh]) id = some row := by
  rw [find_key_append, found]
  rfl

theorem carries_append {json : JsonLayer} {db next : PolicyDb}
    (grown : ∀ id row, findKey revisionId db.revisions id = some row →
      findKey revisionId next.revisions id = some row)
    {operation : StoreOperation} {point : StorePoint} (carries : Carries json db operation point) :
    Carries json next operation point := by
  cases operation <;> cases point <;>
    first
      | exact carries
      | (obtain ⟨row, found, same⟩ := carries
         exact ⟨row, grown _ row found, same⟩)

theorem activate_revision_active {db next : PolicyDb} {policySetId id : String}
    (present : ∃ row, findKey setId db.sets policySetId = some row)
    (ran : activateRevision db policySetId id = .ok next) :
    activeRevisionId next policySetId = some id ∧ next.revisions = db.revisions ∧
      ∃ row, findKey setId next.sets policySetId = some row := by
  obtain ⟨row, found⟩ := present
  have keyed : setId { row with activeRevisionId := some id } = some policySetId :=
    (find_key_some found).2
  have after := find_key_update_same
    (fun row => { row with activeRevisionId := some id }) found keyed
  rw [activate_revision_ok ran]
  exact ⟨by simp [activeRevisionId, after], rfl, _, after⟩

theorem stored_valid {json : JsonLayer} (faithful : StoresFaithfully json)
    {text stored : String} {ruleSet : RuleSet}
    (valid : validateRuleData json.parse text = .ok ruleSet)
    (cast : json.jsonb text = .ok stored) :
    validateRuleData json.parse stored = .ok ruleSet := by
  unfold validateRuleData at valid ⊢
  cases parsed : json.parse text with
  | error message =>
      rw [parsed] at valid
      cases valid
  | ok parsedSet =>
      rw [faithful text stored parsedSet cast parsed]
      rw [parsed] at valid
      exact valid

section Step

variable {json : JsonLayer} {policySetId : String}

theorem revisions_grow {db next : PolicyDb} {engine swapped : RuleDataEngine}
    {input : StoreInput} {operation : StoreOperation} {point later : StorePoint}
    (move : StoreMove json policySetId db engine input operation point next swapped later) :
    ∀ id row, findKey revisionId db.revisions id = some row →
      findKey revisionId next.revisions id = some row := by
  intro id row found
  cases move with
  | committed ran pointed =>
      obtain ⟨fresh, _, _, _, isInserted⟩ := insert_revision_ok ran
      rw [activate_revision_ok pointed, isInserted]
      exact find_revision_append found
  | inserted ran =>
      obtain ⟨fresh, _, _, _, isInserted⟩ := insert_revision_ok ran
      rw [isInserted]
      exact find_revision_append found
  | repointed ran =>
      rw [activate_revision_ok ran]
      exact found
  | _ => exact found

theorem move_present {db next : PolicyDb} {engine swapped : RuleDataEngine}
    {input : StoreInput} {operation : StoreOperation} {point later : StorePoint}
    (present : ∃ row, findKey setId db.sets policySetId = some row)
    (move : StoreMove json policySetId db engine input operation point next swapped later) :
    ∃ row, findKey setId next.sets policySetId = some row := by
  cases move with
  | committed ran pointed =>
      obtain ⟨fresh, _, _, _, isInserted⟩ := insert_revision_ok ran
      rw [isInserted] at pointed
      refine (activate_revision_active ?_ pointed).2.2
      exact present
  | inserted ran =>
      obtain ⟨fresh, _, _, _, isInserted⟩ := insert_revision_ok ran
      rw [isInserted]
      exact present
  | repointed ran => exact (activate_revision_active present ran).2.2
  | _ => exact present

theorem move_carries (faithful : StoresFaithfully json) {db next : PolicyDb}
    {engine swapped : RuleDataEngine} {input : StoreInput} {operation : StoreOperation}
    {point later : StorePoint} (carries : Carries json db operation point)
    (move : StoreMove json policySetId db engine input operation point next swapped later) :
    Carries json next operation later := by
  cases move with
  | refused error notLoading => cases operation <;> trivial
  | validatedActivate valid => exact valid
  | validatedCreate valid => exact valid
  | committed ran pointed =>
      obtain ⟨fresh, cast, freshId, unused, isInserted⟩ := insert_revision_ok ran
      rw [activate_revision_ok pointed, isInserted]
      refine ⟨fresh, ?_, ?_⟩
      · rw [find_key_append, unused]
        simp [revisionId, freshId]
      · have submitted : validateRuleData json.parse _ = .ok _ := carries
        rw [submitted, stored_valid faithful submitted cast]
  | inserted ran => trivial
  | selected stored => exact ⟨_, stored, rfl⟩
  | repointed ran =>
      obtain ⟨row, found, same⟩ := carries
      rw [activate_revision_ok ran]
      exact ⟨row, found, by rw [same]⟩
  | loaded valid => cases operation <;> trivial
  | loadFailed invalid => cases operation <;> trivial
  | idle => exact carries

theorem agrees_kept {world : StoreWorld} (agrees : Agrees json policySetId world)
    {next : StoreWorld} (sameEngine : next.engine = world.engine)
    (samePointer : activeRevisionId next.db policySetId =
      activeRevisionId world.db policySetId)
    (grown : ∀ id row, findKey revisionId world.db.revisions id = some row →
      findKey revisionId next.db.revisions id = some row) :
    Agrees json policySetId next := by
  unfold Agrees loadActiveFromDb at agrees ⊢
  rw [sameEngine, samePointer]
  cases pointer : activeRevisionId world.db policySetId with
  | none =>
      rw [pointer] at agrees
      cases agrees
  | some id =>
      rw [pointer] at agrees
      cases found : findKey revisionId world.db.revisions id with
      | none =>
          rw [Option.bind_some, found] at agrees
          cases agrees
      | some row =>
          rw [Option.bind_some, found] at agrees
          rw [Option.bind_some, grown id row found]
          exact agrees

theorem current_kept {world next : StoreWorld} {caller : Nat} {operation : StoreOperation}
    {point : StorePoint} {entry : StoreOperation × StorePoint}
    (current : Agrees json policySetId world ∨
      ∃ id, activeRevisionId world.db policySetId = some id ∧ PendingLoad world id)
    (running : world.calls caller = some (operation, point))
    (notLoading : ∀ id policyRevision text, point ≠ .load id policyRevision text)
    (calls : next.calls = setStoreCall world.calls caller entry)
    (sameEngine : next.engine = world.engine) (sameSets : next.db.sets = world.db.sets)
    (grown : ∀ id row, findKey revisionId world.db.revisions id = some row →
      findKey revisionId next.db.revisions id = some row) :
    Agrees json policySetId next ∨
      ∃ id, activeRevisionId next.db policySetId = some id ∧ PendingLoad next id := by
  have samePointer : activeRevisionId next.db policySetId =
      activeRevisionId world.db policySetId := by
    unfold activeRevisionId
    rw [sameSets]
  rcases current with agrees | ⟨id, active, loader, loading, policyRevision, text, pending⟩
  · exact Or.inl (agrees_kept agrees sameEngine samePointer grown)
  · right
    refine ⟨id, samePointer.trans active, loader, loading, policyRevision, text, ?_⟩
    have different : loader ≠ caller := by
      intro same
      rw [same, running] at pending
      cases pending
      exact notLoading _ _ _ rfl
    rw [calls]
    simpa [setStoreCall, different] using pending

theorem loaded_agrees {world : StoreWorld} {operation : StoreOperation}
    {id policyRevision text : String} {ruleSet : RuleSet} {next : StoreWorld}
    (carries : Carries json world.db operation (.load id policyRevision text))
    (valid : validateRuleData json.parse text = .ok ruleSet)
    (active : activeRevisionId world.db policySetId = some id)
    (sameDb : next.db = world.db)
    (swapped : next.engine = { world.engine with active := ruleSet }) :
    Agrees json policySetId next := by
  have held : ∃ row, findKey revisionId world.db.revisions id = some row ∧
      validateRuleData json.parse text = validateRuleData json.parse row.ruleDataJson := by
    cases operation <;> exact carries
  obtain ⟨row, found, same⟩ := held
  rw [valid] at same
  unfold Agrees loadActiveFromDb
  rw [sameDb, swapped, active, Option.bind_some, found]
  simp [RuleDataEngine.new, ← same, Except.map]

theorem move_current {world : StoreWorld}
    (inv : StoreInvariant json policySetId world) {caller : Nat} {input : StoreInput}
    {operation : StoreOperation} {point later : StorePoint} {db : PolicyDb}
    {engine : RuleDataEngine} (running : world.calls caller = some (operation, point))
    (loads : LoadsCurrent policySetId world (.advance caller input))
    (succeeds : LoadSucceeds json world (.advance caller input))
    (move : StoreMove json policySetId world.db world.engine input operation point db engine
      later) :
    Agrees json policySetId ⟨db, engine, setStoreCall world.calls caller (operation, later)⟩ ∨
      ∃ id, activeRevisionId db policySetId = some id ∧
        PendingLoad ⟨db, engine, setStoreCall world.calls caller (operation, later)⟩ id := by
  have carries := inv.carries caller operation point running
  have grown := revisions_grow move
  cases move with
  | refused error notLoading =>
      exact current_kept inv.current running notLoading rfl rfl rfl grown
  | validatedActivate valid =>
      exact current_kept inv.current running (by simp) rfl rfl rfl grown
  | validatedCreate valid =>
      exact current_kept inv.current running (by simp) rfl rfl rfl grown
  | selected stored => exact current_kept inv.current running (by simp) rfl rfl rfl grown
  | idle =>
      rw [set_store_call_same running]
      exact inv.current
  | inserted ran =>
      obtain ⟨fresh, _, _, _, isInserted⟩ := insert_revision_ok ran
      have sameSets : db.sets = world.db.sets := by rw [isInserted]
      exact current_kept inv.current running (by simp) rfl rfl sameSets grown
  | committed ran pointed =>
      obtain ⟨fresh, _, _, _, isInserted⟩ := insert_revision_ok ran
      rw [isInserted] at pointed
      have active := activate_revision_active (by exact inv.present) pointed
      exact Or.inr ⟨_, active.1, caller, _, _, _, set_store_call_self _ _ _⟩
  | repointed ran =>
      have active := activate_revision_active inv.present ran
      exact Or.inr ⟨_, active.1, caller, _, _, _, set_store_call_self _ _ _⟩
  | @loaded _ id policyRevision text ruleSet _ valid =>
      have own := loads operation id policyRevision text running
      by_cases active : activeRevisionId world.db policySetId = some id
      · exact Or.inl (loaded_agrees carries valid active rfl rfl)
      · rcases own with isActive |
          ⟨other, otherActive, loader, loading, otherRevision, otherText, pending⟩
        · exact absurd isActive active
        · right
          refine ⟨other, otherActive, loader, loading, otherRevision, otherText, ?_⟩
          have different : loader ≠ caller := by
            intro same
            rw [same, running] at pending
            cases pending
            exact active otherActive
          simpa [setStoreCall, different] using pending
  | @loadFailed _ id policyRevision text error _ invalid =>
      have loaded := succeeds text (by simp [running, loadingText])
      simp only [RuleDataEngine.load, invalid] at loaded
      cases loaded

theorem step_store_invariant (faithful : StoresFaithfully json) {world next : StoreWorld}
    {event : StoreEvent} (inv : StoreInvariant json policySetId world)
    (noFault : NoFault event) (loads : LoadsCurrent policySetId world event)
    (succeeds : LoadSucceeds json world event)
    (stepped : storeStep json policySetId world event = some next) :
    StoreInvariant json policySetId next := by
  cases store_outcome noFault stepped with
  | @arrived caller operation free =>
      constructor
      · exact inv.present
      · intro other otherOperation point running
        rcases set_store_call_some running with ⟨_, started⟩ | ⟨_, kept⟩
        · cases started
          cases operation <;> trivial
        · exact inv.carries other otherOperation point kept
      · rcases inv.current with agrees | ⟨id, active, loader, loading, name, text, pending⟩
        · exact Or.inl agrees
        · refine Or.inr ⟨id, active, loader, loading, name, text, ?_⟩
          have different : loader ≠ caller := by
            intro same
            rw [same, free] at pending
            cases pending
          simpa [setStoreCall, different] using pending
  | @moved caller input operation point later db engine running move =>
      have carries := inv.carries caller operation point running
      constructor
      · exact move_present inv.present move
      · intro other otherOperation otherPoint otherRunning
        rcases set_store_call_some otherRunning with ⟨_, moved⟩ | ⟨_, kept⟩
        · cases moved
          exact move_carries faithful carries move
        · exact carries_append (revisions_grow move)
            (inv.carries other otherOperation otherPoint kept)
      · exact move_current inv running loads succeeds move

end Step

/-- A store as `load_active_from_db` leaves it. -/
structure StoreAtRest (json : JsonLayer) (policySetId : String) (world : StoreWorld) :
    Prop where
  agrees : Agrees json policySetId world
  noCalls : ∀ caller, world.calls caller = none

theorem at_rest_store_invariant {json : JsonLayer} {policySetId : String}
    {world : StoreWorld} (rest : StoreAtRest json policySetId world) :
    StoreInvariant json policySetId world where
  present := by
    cases found : findKey setId world.db.sets policySetId with
    | some row => exact ⟨row, rfl⟩
    | none =>
        have agrees := rest.agrees
        simp [Agrees, loadActiveFromDb, activeRevisionId, found] at agrees
  carries := by
    intro caller operation point running
    rw [rest.noCalls caller] at running
    cases running
  current := Or.inl rest.agrees

def AllReturned (world : StoreWorld) : Prop :=
  ∀ caller operation point, world.calls caller = some (operation, point) →
    ∃ result, point = .returned result

theorem insert_keeps_sets (json : JsonLayer) (db : PolicyDb) (policySetId newId : String)
    (ruleSet : RuleSet) (newRuleDataJson : String) (actorId : Option String)
    (fault : Option Fault) :
    (attempt fault db (PolicyStore.committed db (insertRevision json db policySetId newId
      ruleSet newRuleDataJson actorId))).1.sets = db.sets := by
  have written : (PolicyStore.committed db (insertRevision json db policySetId newId ruleSet
      newRuleDataJson actorId)).1.sets = db.sets := by
    cases inserting : insertRevision json db policySetId newId ruleSet newRuleDataJson
        actorId with
    | error error => rfl
    | ok inserted =>
        obtain ⟨fresh, _, _, _, isInserted⟩ := insert_revision_ok inserting
        rw [isInserted]
        rfl
  unfold attempt
  split
  · exact written
  · split
    · exact written
    · rfl

theorem create_move_frame {json : JsonLayer} {policySetId : String} {db next : PolicyDb}
    {engine swapped : RuleDataEngine} {input : StoreInput} {newRuleDataJson : String}
    {actorId : Option String} {point later : StorePoint}
    (ran : storeMove json policySetId db engine input
      (.createRevision newRuleDataJson actorId) point = (next, swapped, later)) :
    swapped = engine ∧ next.sets = db.sets := by
  cases point with
  | validate =>
      simp only [storeMove] at ran
      split at ran
      · cases ran
        exact ⟨rfl, rfl⟩
      · cases ran
        exact ⟨rfl, rfl⟩
  | insert ruleSet =>
      have kept := insert_keeps_sets json db policySetId input.newId ruleSet newRuleDataJson
        actorId input.fault
      simp only [storeMove] at ran
      split at ran
      · rename_i failed
        cases ran
        rw [failed] at kept
        exact ⟨rfl, kept⟩
      · rename_i succeeded
        cases ran
        rw [succeeded] at kept
        exact ⟨rfl, kept⟩
  | _ =>
      cases ran
      exact ⟨rfl, rfl⟩

theorem create_changes_neither {json : JsonLayer} {policySetId : String}
    {world next : StoreWorld} {caller : Nat} {input : StoreInput} {newRuleDataJson : String}
    {actorId : Option String} {point : StorePoint}
    (running : world.calls caller = some (.createRevision newRuleDataJson actorId, point))
    (stepped : storeStep json policySetId world (.advance caller input) = some next) :
    next.engine = world.engine ∧ next.db.sets = world.db.sets := by
  simp only [storeStep, running] at stepped
  split at stepped
  · cases stepped
  · cases stepped
  · rename_i operation active notReturned isRunning
    cases isRunning
    cases stepped
    exact create_move_frame rfl

/-- In every run whose swaps are current and do not fail, once every call has
returned a restart loads exactly the engine that is serving; and no step of `create_revision`
changes the engine or the pointer. -/
theorem store_agrees_with_restart (json : JsonLayer) (faithful : StoresFaithfully json)
    (policySetId : String) (start : StoreWorld) (rest : StoreAtRest json policySetId start)
    (events : List StoreEvent) (noFaults : ∀ event ∈ events, NoFault event)
    (succeeds : Meets (storeStep json policySetId) (LoadSucceeds json) start events)
    (current : Meets (storeStep json policySetId) (LoadsCurrent policySetId) start events)
    (world : StoreWorld)
    (ran : runFrom (storeStep json policySetId) start events = some world) :
    (AllReturned world →
      loadActiveFromDb json world.db policySetId world.engine.evaluationBudget =
        .ok world.engine) ∧
    ∀ caller input newRuleDataJson actorId point next,
      world.calls caller = some (.createRevision newRuleDataJson actorId, point) →
      storeStep json policySetId world (.advance caller input) = some next →
      next.engine = world.engine ∧
        activeRevisionId next.db policySetId = activeRevisionId world.db policySetId := by
  have faultless : Meets (storeStep json policySetId) (fun _ event => NoFault event) start
      events := by
    apply meets_of_forall_mem
    intro event member _
    exact noFaults event member
  have inv := run_preserves_of_meets (StoreInvariant json policySetId)
    (fun _ _ _ inv condition stepped =>
      step_store_invariant faithful inv condition.1 condition.2.1 condition.2.2 stepped)
    (at_rest_store_invariant rest) (meets_and faultless (meets_and current succeeds)) ran
  constructor
  · intro allReturned
    rcases inv.current with agrees | ⟨id, _, caller, operation, _, _, pending⟩
    · exact agrees
    · obtain ⟨result, returned⟩ := allReturned caller operation _ pending
      cases returned
  · intro caller input newRuleDataJson actorId point next running stepped
    obtain ⟨sameEngine, sameSets⟩ := create_changes_neither running stepped
    refine ⟨sameEngine, ?_⟩
    unfold activeRevisionId
    rw [sameSets]

/-- Rule data without rules, as `jsonb` prints it. -/
def ruleText (policyRevision defaultEffect : String) : String :=
  "\x7b\"rules\": [], \"default_effect\": \"" ++ defaultEffect ++
    "\", \"policy_revision\": \"" ++ policyRevision ++
    "\", \"default_reason_code\": \"by_default\", " ++
    "\"allowed_amounts_micros\": [6000000], \"starting_amount_micros\": 15000000, " ++
    "\"fail_closed_floor_micros\": 6000000\x7d"

def bareRuleSet (policyRevision : String) (defaultEffect : Effect) : RuleSet where
  policyRevision := policyRevision
  rules := []
  defaultEffect := defaultEffect
  defaultReasonCode := "by_default"
  allowedAmountsMicros := [6000000]
  startingAmountMicros := 15000000
  failClosedFloorMicros := 6000000

/-- The outside as it behaves on three such texts. -/
def sampleJson : JsonLayer where
  parse text :=
    if text = ruleText "v1" "manual_review" then .ok (bareRuleSet "v1" .manualReview)
    else if text = ruleText "v2" "deny" then .ok (bareRuleSet "v2" .deny)
    else if text = ruleText "v3" "auto_approve" then .ok (bareRuleSet "v3" .autoApprove)
    else .error "expected value at line 1 column 1"
  jsonb text := .ok text

theorem sample_json_faithful : StoresFaithfully sampleJson := by
  intro text stored ruleSet cast parsed
  cases cast
  exact parsed

def sampleStore : StoreWorld where
  db :=
    { sets := [⟨"budget-refill", some "budget-refill-v1"⟩]
      revisions := [⟨"budget-refill-v1", "budget-refill", "v1",
        ruleText "v1" "manual_review", none⟩] }
  engine := ⟨bareRuleSet "v1" .manualReview, 10000⟩
  calls := fun _ => none

theorem sample_revision_valid :
    validateRuleData sampleJson.parse (ruleText "v1" "manual_review") =
      .ok (bareRuleSet "v1" .manualReview) := by
  have parsed : sampleJson.parse (ruleText "v1" "manual_review") =
      .ok (bareRuleSet "v1" .manualReview) := by
    simp only [sampleJson, if_true]
  have valid : validate (bareRuleSet "v1" .manualReview) = .ok () := by rfl
  simp [validateRuleData, parsed, valid, Except.map]

theorem sample_store_at_rest : StoreAtRest sampleJson "budget-refill" sampleStore where
  agrees := by
    have active : (activeRevisionId sampleStore.db "budget-refill").bind
        (findKey revisionId sampleStore.db.revisions) =
          some ⟨"budget-refill-v1", "budget-refill", "v1", ruleText "v1" "manual_review",
            none⟩ := by
      simp [sampleStore, activeRevisionId, findKey, setId, revisionId]
    simp only [Agrees, loadActiveFromDb, active, RuleDataEngine.new, sample_revision_valid]
    rfl
  noCalls := fun _ => rfl

theorem unarrived_absent {json : JsonLayer} {policySetId : String} {start world : StoreWorld}
    {events : List StoreEvent} {caller : Nat} (absent : start.calls caller = none)
    (unarrived : ∀ event ∈ events, ∀ operation, event ≠ .arrive caller operation)
    (ran : runFrom (storeStep json policySetId) start events = some world) :
    world.calls caller = none := by
  have elsewhere : Meets (storeStep json policySetId)
      (fun _ event => ∀ operation, event ≠ .arrive caller operation) start events := by
    apply meets_of_forall_mem
    intro event member _
    exact unarrived event member
  refine run_preserves_of_meets (fun current => current.calls caller = none) ?_ absent
    elsewhere ran
  intro current event next none otherwise stepped
  have kept : ∀ other entry, other ≠ caller →
      setStoreCall current.calls other entry caller = Option.none := by
    intro other entry different
    simpa [setStoreCall, different.symm] using none
  rcases store_step_cases stepped with ⟨other, operation, rfl, _, rfl⟩ |
    ⟨other, input, operation, point, db, engine, later, rfl, running, _, rfl⟩
  · apply kept
    intro same
    rw [same] at otherwise
    exact otherwise operation rfl
  · apply kept
    intro same
    rw [same, none] at running
    cases running

def hasReturned (world : StoreWorld) (caller : Nat) : Bool :=
  match world.calls caller with
  | some (_, .returned _) => true
  | _ => false

theorem all_returned_of_two {json : JsonLayer} {policySetId : String}
    {start world : StoreWorld} {events : List StoreEvent}
    (absent : ∀ caller, start.calls caller = none)
    (two : ∀ event ∈ events, ∀ caller operation,
      event = .arrive caller operation → caller = 0 ∨ caller = 1)
    (ran : runFrom (storeStep json policySetId) start events = some world)
    (first : hasReturned world 0 = true) (second : hasReturned world 1 = true) :
    AllReturned world := by
  have returned : ∀ caller, hasReturned world caller = true → ∀ operation point,
      world.calls caller = some (operation, point) → ∃ result, point = .returned result := by
    intro caller has operation point running
    simp only [hasReturned, running] at has
    split at has
    · rename_i isReturned
      cases isReturned
      exact ⟨_, rfl⟩
    · cases has
  intro caller operation point running
  by_cases isFirst : caller = 0
  · rw [isFirst] at running
    exact returned 0 first operation point running
  · by_cases isSecond : caller = 1
    · rw [isSecond] at running
      exact returned 1 second operation point running
    · have none : world.calls caller = none := by
        apply unarrived_absent (absent caller) _ ran
        intro event member other arrives
        rcases two event member caller other arrives with same | same
        · exact isFirst same
        · exact isSecond same
      rw [none] at running
      cases running

def faultless (newId : String) : StoreInput where
  newId := newId
  fault := none

/-- The second activation commits and swaps between the first one's commit and
its swap. -/
def overtakenRun : List StoreEvent :=
  [.arrive 0 (.activate (ruleText "v2" "deny") none),
    .arrive 1 (.activate (ruleText "v3" "auto_approve") none),
    .advance 0 (faultless ""), .advance 1 (faultless ""), .advance 0 (faultless "r2"),
    .advance 1 (faultless "r3"), .advance 1 (faultless ""), .advance 0 (faultless "")]

/-- The database says `v3`, the engine keeps serving `v2`. -/
theorem overtaken_activation_diverges :
    ¬ ∀ (json : JsonLayer) (policySetId : String) (start : StoreWorld)
        (events : List StoreEvent) (world : StoreWorld),
        StoresFaithfully json → StoreAtRest json policySetId start →
        (∀ event ∈ events, NoFault event) →
        Meets (storeStep json policySetId) (LoadSucceeds json) start events →
        runFrom (storeStep json policySetId) start events = some world →
        AllReturned world →
        loadActiveFromDb json world.db policySetId world.engine.evaluationBudget =
          .ok world.engine := by
  intro claimed
  have reached : reaches (storeStep sampleJson "budget-refill") sampleStore overtakenRun
      (fun world => hasReturned world 0 && hasReturned world 1 &&
        world.engine.active.policyRevision == "v2" &&
        (((loadActiveFromDb sampleJson world.db "budget-refill" 10000).toOption.map fun
          engine => engine.active.policyRevision) == some "v3") &&
        world.engine.evaluationBudget == 10000) = true := by
    decide +kernel
  obtain ⟨world, ran, found⟩ := exists_of_reaches reached
  simp only [Bool.and_eq_true, beq_iff_eq] at found
  obtain ⟨⟨⟨⟨first, second⟩, serves⟩, restarts⟩, budget⟩ := found
  have returned : AllReturned world := by
    apply all_returned_of_two (fun _ => rfl) _ ran first second
    simp [overtakenRun]
  have agrees := claimed sampleJson "budget-refill" sampleStore overtakenRun world
    sample_json_faithful sample_store_at_rest (by simp [overtakenRun, NoFault, faultless])
    (by decide +kernel) ran returned
  rw [budget] at agrees
  rw [agrees] at restarts
  simp [Except.toOption, serves] at restarts

/-- Whether a swap finds its own activation current. -/
def swapsOwn (policySetId : String) (world : StoreWorld) : StoreEvent → Bool
  | .arrive _ _ => true
  | .advance caller _ =>
      match world.calls caller with
      | some (_, .load id _ _) => activeRevisionId world.db policySetId == some id
      | _ => true

theorem swaps_own_loads_current {policySetId : String} {world : StoreWorld}
    {event : StoreEvent} (own : swapsOwn policySetId world event = true) :
    LoadsCurrent policySetId world event := by
  cases event with
  | arrive caller operation => trivial
  | advance caller input =>
      intro operation id policyRevision text running
      simp only [swapsOwn, running, beq_iff_eq] at own
      exact Or.inl own

/-- The tables as the migrations leave them: the seeded revision lacks the amounts
and is no longer valid, the one that is active replaced it. -/
def migratedStore : StoreWorld where
  db :=
    { sets := [⟨"budget-refill", some "budget-refill-v2-adr0015"⟩]
      revisions :=
        [⟨"budget-refill-v1", "budget-refill", "budget-policy-v1",
            "\x7b\"rules\": [], \"default_effect\": \"manual_review\", " ++
              "\"policy_revision\": \"budget-policy-v1\", " ++
              "\"default_reason_code\": \"by_default\"\x7d", none⟩,
          ⟨"budget-refill-v2-adr0015", "budget-refill", "v1", ruleText "v1" "manual_review",
            none⟩] }
  engine := ⟨bareRuleSet "v1" .manualReview, 10000⟩
  calls := fun _ => none

theorem migrated_store_at_rest : StoreAtRest sampleJson "budget-refill" migratedStore where
  agrees := by
    have active : (activeRevisionId migratedStore.db "budget-refill").bind
        (findKey revisionId migratedStore.db.revisions) =
          some ⟨"budget-refill-v2-adr0015", "budget-refill", "v1",
            ruleText "v1" "manual_review", none⟩ := by
      simp [migratedStore, activeRevisionId, findKey, setId, revisionId]
    simp only [Agrees, loadActiveFromDb, active, RuleDataEngine.new, sample_revision_valid]
    rfl
  noCalls := fun _ => rfl

/-- An activation, and a rollback that begins before it has ended but repoints
after its swap. -/
def orderlyRun : List StoreEvent :=
  [.arrive 0 (.activate (ruleText "v2" "deny") none),
    .arrive 1 (.activateByRevisionId "budget-refill-v2-adr0015"), .advance 0 (faultless ""),
    .advance 1 (faultless ""), .advance 0 (faultless "r2"), .advance 0 (faultless ""),
    .advance 1 (faultless ""), .advance 1 (faultless "")]

theorem orderly_run_agrees :
    ∃ world, runFrom (storeStep sampleJson "budget-refill") migratedStore orderlyRun =
        some world ∧ AllReturned world ∧
      loadActiveFromDb sampleJson world.db "budget-refill" world.engine.evaluationBudget =
        .ok world.engine := by
  have reached : reaches (storeStep sampleJson "budget-refill") migratedStore orderlyRun
      (fun world => hasReturned world 0 && hasReturned world 1) = true := by
    decide +kernel
  obtain ⟨world, ran, found⟩ := exists_of_reaches reached
  obtain ⟨first, second⟩ := Bool.and_eq_true_iff.mp found
  have returned : AllReturned world := by
    apply all_returned_of_two (fun _ => rfl) _ ran first second
    simp [orderlyRun]
  have own : Meets (storeStep sampleJson "budget-refill")
      (fun current event => swapsOwn "budget-refill" current event = true) migratedStore
      orderlyRun := by
    decide +kernel
  have agreement := store_agrees_with_restart sampleJson sample_json_faithful "budget-refill"
    migratedStore migrated_store_at_rest orderlyRun
    (by simp [orderlyRun, NoFault, faultless]) (by decide +kernel)
    (meets_mono (fun _ _ own => swaps_own_loads_current own) own) world ran
  exact ⟨world, ran, returned, agreement.1 returned⟩

end LightbridgeAuthz.Budget.PolicyStore
