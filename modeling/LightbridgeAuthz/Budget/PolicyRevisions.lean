import LightbridgeAuthz.Budget.PolicyStore

/-!
# The history of policy revisions

What a decision recorded under a revision's name can be compared with: the rows
of `budget_policy_revisions`, one for a name, only ever appended, and never
served by an engine before they are stored. This holds of every step of the
policy store, also of statements that fail or whose reply is lost.
-/

namespace LightbridgeAuthz.Budget.PolicyRevisions

open Library.KeyedRows
open Domain RuleData PolicyStore

set_option autoImplicit false

def RevisionRuleSet (json : JsonLayer) (policySetId : String) (db : PolicyDb)
    (policyRevision : String) (ruleSet : RuleSet) : Prop :=
  ∃ row ∈ db.revisions, row.policySetId = policySetId ∧ row.policyRevision = policyRevision ∧
    validateRuleData json.parse row.ruleDataJson = .ok ruleSet

structure RevisionsNamed (json : JsonLayer) (db : PolicyDb) : Prop where
  unique : UniqueKeys revisionName db.revisions
  column : ∀ row ∈ db.revisions, ∀ ruleSet,
    validateRuleData json.parse row.ruleDataJson = .ok ruleSet →
    ruleSet.policyRevision = row.policyRevision

/-- The rule data is stored as a revision of the set. -/
def Stored (json : JsonLayer) (policySetId : String) (db : PolicyDb) (text : String) : Prop :=
  ∀ ruleSet, validateRuleData json.parse text = .ok ruleSet →
    RevisionRuleSet json policySetId db ruleSet.policyRevision ruleSet

/-- What a call of the store carries from one statement to the next. -/
def Sourced (json : JsonLayer) (policySetId : String) (db : PolicyDb) :
    StoreOperation → StorePoint → Prop
  | .activate text _, .commit ruleSet => validateRuleData json.parse text = .ok ruleSet
  | .createRevision text _, .insert ruleSet => validateRuleData json.parse text = .ok ruleSet
  | _, .repoint _ text => Stored json policySetId db text
  | _, .load _ _ text => Stored json policySetId db text
  | _, _ => True

/-- The revisions after a statement: as before, or with one more row, of
validated rule data under a fresh name. -/
inductive RevisionsAfter (json : JsonLayer) (policySetId : String) (db : PolicyDb) :
    PolicyDb → Prop where
  | same {next : PolicyDb} (kept : next.revisions = db.revisions) :
      RevisionsAfter json policySetId db next
  | inserted {next : PolicyDb} {text stored newId : String} {ruleSet : RuleSet}
      {actorId : Option String}
      (valid : validateRuleData json.parse text = .ok ruleSet)
      (cast : json.jsonb text = .ok stored)
      (fresh : findKey revisionName db.revisions (policySetId, ruleSet.policyRevision) = none)
      (grown : next.revisions = db.revisions ++
        [⟨newId, policySetId, ruleSet.policyRevision, stored, actorId⟩]) :
      RevisionsAfter json policySetId db next

section Store

variable {json : JsonLayer} {policySetId : String}

theorem insert_revision_row {db next : PolicyDb} {newId text : String} {ruleSet : RuleSet}
    {actorId : Option String}
    (ran : insertRevision json db policySetId newId ruleSet text actorId = .ok next) :
    ∃ stored, json.jsonb text = .ok stored ∧
      findKey revisionName db.revisions (policySetId, ruleSet.policyRevision) = none ∧
      next = { db with
        revisions := db.revisions ++
          [⟨newId, policySetId, ruleSet.policyRevision, stored, actorId⟩] } := by
  unfold insertRevision at ran
  split at ran
  · cases ran
  · rename_i stored cast
    split at ran
    · cases ran
    · split at ran
      · cases ran
      · rename_i freshName
        split at ran
        · cases ran
        · cases ran
          exact ⟨stored, cast, by simpa [conflicts] using freshName, rfl⟩

theorem insert_revisions_after {db next : PolicyDb} {newId text : String} {ruleSet : RuleSet}
    {actorId : Option String} (valid : validateRuleData json.parse text = .ok ruleSet)
    (ran : insertRevision json db policySetId newId ruleSet text actorId = .ok next) :
    RevisionsAfter json policySetId db next := by
  obtain ⟨stored, cast, fresh, isNext⟩ := insert_revision_row ran
  rw [isNext]
  exact .inserted valid cast fresh rfl

theorem commit_revisions_after {db next : PolicyDb} {newId text : String} {ruleSet : RuleSet}
    {actorId : Option String} (valid : validateRuleData json.parse text = .ok ruleSet)
    (ran : commitActivation json db policySetId newId ruleSet text actorId = .ok next) :
    RevisionsAfter json policySetId db next := by
  unfold commitActivation at ran
  split at ran
  · cases ran
  · rename_i inserted inserting
    rw [activate_revision_ok ran]
    cases insert_revisions_after valid inserting with
    | same kept => exact .same kept
    | inserted valid cast fresh grown => exact .inserted valid cast fresh grown

/-- A statement that was attempted left the tables alone or was committed, and
succeeded only if it was committed. -/
theorem attempt_committed {fault : Option Fault} {db next : PolicyDb}
    {outcome : Except BudgetError PolicyDb} {answer : Except BudgetError Unit}
    (ran : attempt fault db (PolicyStore.committed db outcome) = (next, answer)) :
    (next = db ∨ outcome = .ok next) ∧ (answer = .ok () → outcome = .ok next) := by
  cases outcome with
  | error error =>
      cases fault with
      | none =>
          simp only [attempt, PolicyStore.committed] at ran
          cases ran
          exact ⟨Or.inl rfl, by simp⟩
      | some fault =>
          simp only [attempt, PolicyStore.committed, ite_self] at ran
          cases ran
          exact ⟨Or.inl rfl, by simp⟩
  | ok written =>
      cases fault with
      | none =>
          simp only [attempt, PolicyStore.committed] at ran
          cases ran
          exact ⟨Or.inr rfl, fun _ => rfl⟩
      | some fault =>
          simp only [attempt, PolicyStore.committed] at ran
          cases ran
          refine ⟨?_, by simp⟩
          split
          · exact Or.inr rfl
          · exact Or.inl rfl

theorem revisions_kept {db next : PolicyDb} (after : RevisionsAfter json policySetId db next) :
    ∀ row ∈ db.revisions, row ∈ next.revisions := by
  intro row member
  cases after with
  | same kept => rwa [kept]
  | inserted valid cast fresh grown =>
      rw [grown]
      exact List.mem_append_left _ member

theorem revision_rule_set_kept {db next : PolicyDb}
    (kept : ∀ row ∈ db.revisions, row ∈ next.revisions) {policyRevision : String}
    {ruleSet : RuleSet} (stored : RevisionRuleSet json policySetId db policyRevision ruleSet) :
    RevisionRuleSet json policySetId next policyRevision ruleSet := by
  obtain ⟨row, member, rest⟩ := stored
  exact ⟨row, kept row member, rest⟩

theorem stored_kept {db next : PolicyDb} (kept : ∀ row ∈ db.revisions, row ∈ next.revisions)
    {text : String} (stored : Stored json policySetId db text) :
    Stored json policySetId next text :=
  fun ruleSet valid => revision_rule_set_kept kept (stored ruleSet valid)

theorem sourced_kept {db next : PolicyDb} (kept : ∀ row ∈ db.revisions, row ∈ next.revisions)
    {operation : StoreOperation} {point : StorePoint}
    (sourced : Sourced json policySetId db operation point) :
    Sourced json policySetId next operation point := by
  cases operation <;> cases point <;>
    first
      | exact sourced
      | exact stored_kept kept sourced

theorem loading_stored {db : PolicyDb} {operation : StoreOperation}
    {id policyRevision text : String}
    (sourced : Sourced json policySetId db operation (.load id policyRevision text)) :
    Stored json policySetId db text := by
  cases operation <;> exact sourced

theorem revisions_after_named (faithful : StoresFaithfully json) {db next : PolicyDb}
    (named : RevisionsNamed json db) (after : RevisionsAfter json policySetId db next) :
    RevisionsNamed json next := by
  cases after with
  | same kept =>
      constructor
      · rw [kept]
        exact named.unique
      · rw [kept]
        exact named.column
  | @inserted text stored newId ruleSet actorId valid cast fresh grown =>
      constructor
      · rw [grown]
        apply unique_keys_append named.unique
        intro name isName row member rowName
        cases isName
        exact find_key_none.mp fresh row member rowName
      · intro row member found rowValid
        rw [grown] at member
        rcases List.mem_append.mp member with old | isFresh
        · exact named.column row old found rowValid
        · rw [List.mem_singleton.mp isFresh] at rowValid ⊢
          rw [stored_valid faithful valid cast] at rowValid
          rw [← Except.ok.inj rowValid]

theorem committed_stored (faithful : StoresFaithfully json) {db next : PolicyDb}
    {newId text : String} {ruleSet : RuleSet} {actorId : Option String}
    (valid : validateRuleData json.parse text = .ok ruleSet)
    (ran : commitActivation json db policySetId newId ruleSet text actorId = .ok next) :
    Stored json policySetId next text := by
  intro found foundValid
  rw [valid] at foundValid
  cases foundValid
  unfold commitActivation at ran
  split at ran
  · cases ran
  · rename_i inserted inserting
    obtain ⟨stored, cast, _, isInserted⟩ := insert_revision_row inserting
    rw [activate_revision_ok ran, isInserted]
    exact ⟨_, List.mem_append_right _ (List.mem_singleton_self _), rfl, rfl,
      stored_valid faithful valid cast⟩

/-- What a step of the store does, also when its statement fails. -/
structure StoreEffect (json : JsonLayer) (policySetId : String) (db : PolicyDb)
    (engine : RuleDataEngine) (operation : StoreOperation) (point : StorePoint)
    (next : PolicyDb) (swapped : RuleDataEngine) (later : StorePoint) : Prop where
  revisions : RevisionsAfter json policySetId db next
  sourced : Sourced json policySetId next operation later
  engine : swapped = engine ∨
    ∃ id policyRevision text ruleSet, point = .load id policyRevision text ∧
      validateRuleData json.parse text = .ok ruleSet ∧
      swapped = { engine with active := ruleSet }

theorem hot_swap_effect {db next : PolicyDb} {engine swapped : RuleDataEngine}
    {later : StorePoint} {id policyRevision text : String} (operation : StoreOperation)
    (ran : hotSwap json policySetId db engine id policyRevision text =
      (next, swapped, later)) :
    StoreEffect json policySetId db engine operation (.load id policyRevision text) next
      swapped later := by
  simp only [hotSwap, RuleDataEngine.load] at ran
  cases valid : validateRuleData json.parse text with
  | error error =>
      simp only [valid] at ran
      cases ran
      exact ⟨.same rfl, by cases operation <;> trivial, Or.inl rfl⟩
  | ok ruleSet =>
      simp only [valid] at ran
      cases ran
      exact ⟨.same rfl, by cases operation <;> trivial,
        Or.inr ⟨id, policyRevision, text, ruleSet, rfl, valid, rfl⟩⟩

theorem activate_effect (faithful : StoresFaithfully json) {db next : PolicyDb}
    {engine swapped : RuleDataEngine} {input : StoreInput} {submitted : String}
    {actorId : Option String} {point later : StorePoint}
    (sourced : Sourced json policySetId db (.activate submitted actorId) point)
    (ran : storeMove json policySetId db engine input (.activate submitted actorId) point =
      (next, swapped, later)) :
    StoreEffect json policySetId db engine (.activate submitted actorId) point next swapped
      later := by
  cases point with
  | validate =>
      simp only [storeMove] at ran
      split at ran
      · cases ran
        exact ⟨.same rfl, trivial, Or.inl rfl⟩
      · rename_i ruleSet valid
        cases ran
        exact ⟨.same rfl, valid, Or.inl rfl⟩
  | commit ruleSet =>
      simp only [storeMove] at ran
      split at ran
      · rename_i left error attempted
        cases ran
        refine ⟨?_, trivial, Or.inl rfl⟩
        rcases (attempt_committed attempted).1 with same | written
        · rw [same]
          exact .same rfl
        · exact commit_revisions_after sourced written
      · rename_i left attempted
        cases ran
        have written := (attempt_committed attempted).2 rfl
        exact ⟨commit_revisions_after sourced written,
          committed_stored faithful sourced written, Or.inl rfl⟩
  | load id policyRevision text => exact hot_swap_effect _ ran
  | _ =>
      cases ran
      exact ⟨.same rfl, sourced, Or.inl rfl⟩

theorem rollback_effect {db next : PolicyDb} (named : RevisionsNamed json db)
    {engine swapped : RuleDataEngine} {input : StoreInput} {id : String}
    {point later : StorePoint}
    (sourced : Sourced json policySetId db (.activateByRevisionId id) point)
    (ran : storeMove json policySetId db engine input (.activateByRevisionId id) point =
      (next, swapped, later)) :
    StoreEffect json policySetId db engine (.activateByRevisionId id) point next swapped
      later := by
  cases point with
  | select =>
      simp only [storeMove] at ran
      split at ran
      · cases ran
        exact ⟨.same rfl, trivial, Or.inl rfl⟩
      · cases ran
        exact ⟨.same rfl, trivial, Or.inl rfl⟩
      · rename_i row read
        cases ran
        cases fault : input.fault with
        | some fault => simp [fault, attemptRead] at read
        | none =>
            simp only [fault, attemptRead, Except.ok.injEq] at read
            obtain ⟨found, inSet⟩ := Option.filter_eq_some_iff.mp read
            obtain ⟨member, _⟩ := find_key_some found
            refine ⟨.same rfl, ?_, Or.inl rfl⟩
            intro ruleSet valid
            exact ⟨row, member, of_decide_eq_true inSet,
              (named.column row member ruleSet valid).symm, valid⟩
  | repoint policyRevision text =>
      simp only [storeMove] at ran
      split at ran
      · rename_i left error attempted
        cases ran
        refine ⟨?_, trivial, Or.inl rfl⟩
        rcases (attempt_committed attempted).1 with same | written
        · rw [same]
          exact .same rfl
        · rw [activate_revision_ok written]
          exact .same rfl
      · rename_i left attempted
        cases ran
        have written := (attempt_committed attempted).2 rfl
        rw [activate_revision_ok written]
        exact ⟨.same rfl, sourced, Or.inl rfl⟩
  | load revisionId policyRevision text => exact hot_swap_effect _ ran
  | _ =>
      cases ran
      exact ⟨.same rfl, sourced, Or.inl rfl⟩

theorem create_effect {db next : PolicyDb} {engine swapped : RuleDataEngine}
    {input : StoreInput} {submitted : String} {actorId : Option String}
    {point later : StorePoint}
    (sourced : Sourced json policySetId db (.createRevision submitted actorId) point)
    (ran : storeMove json policySetId db engine input (.createRevision submitted actorId)
      point = (next, swapped, later)) :
    StoreEffect json policySetId db engine (.createRevision submitted actorId) point next
      swapped later := by
  cases point with
  | validate =>
      simp only [storeMove] at ran
      split at ran
      · cases ran
        exact ⟨.same rfl, trivial, Or.inl rfl⟩
      · rename_i ruleSet valid
        cases ran
        exact ⟨.same rfl, valid, Or.inl rfl⟩
  | insert ruleSet =>
      simp only [storeMove] at ran
      split at ran
      · rename_i left error attempted
        cases ran
        refine ⟨?_, trivial, Or.inl rfl⟩
        rcases (attempt_committed attempted).1 with same | written
        · rw [same]
          exact .same rfl
        · exact insert_revisions_after sourced written
      · rename_i left attempted
        cases ran
        have written := (attempt_committed attempted).2 rfl
        exact ⟨insert_revisions_after sourced written, trivial, Or.inl rfl⟩
  | _ =>
      cases ran
      exact ⟨.same rfl, sourced, Or.inl rfl⟩

theorem store_effect (faithful : StoresFaithfully json) {db next : PolicyDb}
    (named : RevisionsNamed json db) {engine swapped : RuleDataEngine} {input : StoreInput}
    {operation : StoreOperation} {point later : StorePoint}
    (sourced : Sourced json policySetId db operation point)
    (ran : storeMove json policySetId db engine input operation point =
      (next, swapped, later)) :
    StoreEffect json policySetId db engine operation point next swapped later := by
  cases operation with
  | activate submitted actorId => exact activate_effect faithful sourced ran
  | activateByRevisionId id => exact rollback_effect named sourced ran
  | createRevision submitted actorId => exact create_effect sourced ran

theorem store_step_effect (faithful : StoresFaithfully json) {world next : StoreWorld}
    {event : StoreEvent} (named : RevisionsNamed json world.db)
    (sourced : ∀ caller operation point, world.calls caller = some (operation, point) →
      Sourced json policySetId world.db operation point)
    (stepped : storeStep json policySetId world event = some next) :
    RevisionsAfter json policySetId world.db next.db ∧
      (∀ caller operation point, next.calls caller = some (operation, point) →
        Sourced json policySetId next.db operation point) ∧
      (next.engine = world.engine ∨
        ∃ caller input operation id policyRevision text ruleSet,
          event = .advance caller input ∧
          world.calls caller = some (operation, .load id policyRevision text) ∧
          validateRuleData json.parse text = .ok ruleSet ∧
          next.engine = { world.engine with active := ruleSet }) := by
  rcases store_step_cases stepped with ⟨caller, operation, rfl, _, rfl⟩ |
    ⟨caller, input, operation, point, db, engine, later, rfl, running, ran, rfl⟩
  · refine ⟨.same rfl, ?_, Or.inl rfl⟩
    intro other called point running
    rcases set_store_call_some running with ⟨_, isNew⟩ | ⟨_, old⟩
    · cases isNew
      cases operation <;> trivial
    · exact sourced other called point old
  · have effect := store_effect faithful named (sourced _ _ _ running) ran
    refine ⟨effect.revisions, ?_, ?_⟩
    · intro other called active calling
      rcases set_store_call_some calling with ⟨_, isNew⟩ | ⟨_, old⟩
      · cases isNew
        exact effect.sourced
      · exact sourced_kept (revisions_kept effect.revisions)
          (sourced other called active old)
    · refine effect.engine.imp_right ?_
      rintro ⟨id, policyRevision, text, ruleSet, isLoad, valid, swapped⟩
      rw [isLoad] at running
      exact ⟨caller, input, operation, id, policyRevision, text, ruleSet, rfl, running,
        valid, swapped⟩

end Store

end LightbridgeAuthz.Budget.PolicyRevisions
