import LightbridgeAuthz.Access.TenancyOps
import LightbridgeAuthz.Library.CallSlots
import LightbridgeAuthz.Library.EventRun

/-!
# Model lists and model policies

`setProjectAllowedModels` replaces a project's model list in one statement.
`setProjectModelPolicy` reads the row under a lock, refuses `allowlist` while the
list is empty, and writes the policy before it commits. The lock keeps the list
as it was read until the commit; nothing keeps a later call from emptying it.
-/

namespace LightbridgeAuthz.Access.ModelPolicies

open Library.KeyedRows Library.CallSlots Library.EventRun
open Tenancy TenancyOps

set_option autoImplicit false

/-- `cratestack::Value`. A float without a finite value is `none`. -/
inductive Value where
  | null
  | bool (value : Bool)
  | int (value : Int)
  | float (value : Option Rat)
  | string (value : String)
  | list (items : List Value)
  | map (entries : List (String × Value))
  | bytes (value : List UInt8)

/-- `serde_json::Value`. -/
inductive Json where
  | null
  | bool (value : Bool)
  | integer (value : Int)
  | real (value : Rat)
  | string (value : String)
  | array (items : List Json)
  | object (entries : List (String × Json))

mutual

def cratestackValueToJson : Value → Json
  | .null => .null
  | .bool value => .bool value
  | .int value => .integer value
  | .float (some value) => .real value
  | .float none => .null
  | .string value => .string value
  | .list items => .array (cratestackItemsToJson items)
  | .map entries => .object (cratestackEntriesToJson entries)
  | .bytes _ => .null

def cratestackItemsToJson : List Value → List Json
  | [] => []
  | item :: rest => cratestackValueToJson item :: cratestackItemsToJson rest

def cratestackEntriesToJson : List (String × Value) → List (String × Json)
  | [] => []
  | entry :: rest => cratestackEntryToJson entry :: cratestackEntriesToJson rest

def cratestackEntryToJson : String × Value → String × Json
  | (key, value) => (key, cratestackValueToJson value)

end

def stringItem : Json → Option String
  | .string value => some value
  | _ => none

/-- An absent argument, `null` and every shape but an array are `none`; entries of
an array that are not strings are dropped. -/
def allowedModelsFromJsonArg : Option Value → Option (List String)
  | none => none
  | some value =>
      match cratestackValueToJson value with
      | .array items => some (items.filterMap stringItem)
      | _ => none

structure ModelCatalogEntry where
  id : String
  name : String
  deriving DecidableEq, Repr

def modelIds (catalog : List ModelCatalogEntry) : List String :=
  catalog.map ModelCatalogEntry.id

/-- The entries that are not configured, each once and in the caller's order. An
empty catalogue accepts everything. -/
def invalidIds (catalog : List ModelCatalogEntry) : Option (List String) → List String
  | none => []
  | some models =>
      if catalog.isEmpty then []
      else
        models.foldl (fun invalid id =>
          if !(modelIds catalog).contains id && !invalid.contains id then invalid ++ [id]
          else invalid) []

def unknownModels (catalog : List ModelCatalogEntry) (invalid : List String) : AccessError :=
  .badRequest
    ("unknown allowedModels entr" ++ (if invalid.length = 1 then "y" else "ies") ++ " [" ++
      String.intercalate ", " invalid ++ "]: must each be one of the configured models [" ++
      String.intercalate ", " (modelIds catalog) ++ "]")

def parseStrict (text : String) : Option ModelPolicy :=
  if text = "allow_all" then some .allowAll
  else if text = "allowlist" then some .allowlist
  else if text = "deny_all" then some .denyAll
  else none

def unknownPolicy (text : String) : AccessError :=
  .badRequest
    ("unknown modelPolicy '" ++ text ++ "': must be one of allow_all, allowlist, deny_all")

inductive ModelRequest where
  | setProjectAllowedModels (projectId : String) (allowedModels : Option Value)
  | setProjectModelPolicy (projectId modelPolicy : String)

/-- Where a call stands. From `updateModelPolicy` to the end of its transaction
it holds the lock on the project's row. -/
inductive ModelPoint where
  | updateAllowedModels (models : Option (List String))
  | selectForUpdate (policy : ModelPolicy)
  | updateModelPolicy (policy : ModelPolicy)
  | commit (policy : ModelPolicy)
  | rollback (error : AccessError)
  | returned (result : Except AccessError Project)

structure ModelCall where
  subject : String
  projectId : String
  point : ModelPoint

structure ModelWorld where
  tenancy : TenancyDb
  calls : List ModelCall

inductive ModelEvent where
  | arrive (subject : String) (request : ModelRequest)
  | advance (caller : Nat)
  | fail (caller : Nat)

/-- The handlers' checks before the first statement. -/
def startCall (catalog : List ModelCatalogEntry) (subject : String) : ModelRequest → ModelCall
  | .setProjectAllowedModels projectId allowedModels =>
      match invalidIds catalog (allowedModelsFromJsonArg allowedModels) with
      | [] => ⟨subject, projectId, .updateAllowedModels (allowedModelsFromJsonArg allowedModels)⟩
      | invalid => ⟨subject, projectId, .returned (.error (unknownModels catalog invalid))⟩
  | .setProjectModelPolicy projectId modelPolicy =>
      match parseStrict modelPolicy with
      | none => ⟨subject, projectId, .returned (.error (unknownPolicy modelPolicy))⟩
      | some policy => ⟨subject, projectId, .selectForUpdate policy⟩

def ModelPoint.holdsRow : ModelPoint → Bool
  | .updateModelPolicy _ => true
  | .commit _ => true
  | .rollback _ => true
  | _ => false

def rowFree (calls : List ModelCall) (projectId : String) : Bool :=
  calls.all fun call => !(call.projectId == projectId && call.point.holdsRow)

/-- The next statement of a call: the tables after it and where the call stands
then. A statement that needs a locked row waits. -/
def advanceCall (world : ModelWorld) (call : ModelCall) : Option (TenancyDb × ModelPoint) :=
  match call.point with
  | .updateAllowedModels models =>
      match visibleProject world.tenancy call.subject call.projectId with
      | none => some (world.tenancy, .returned (.error .notFound))
      | some project =>
          if rowFree world.calls call.projectId then
            some (updateProject world.tenancy call.projectId (withModels models),
              .returned (.ok (withModels models project)))
          else none
  | .selectForUpdate policy =>
      match visibleProject world.tenancy call.subject call.projectId with
      | none => some (world.tenancy, .returned (.error .notFound))
      | some project =>
          if rowFree world.calls call.projectId then
            if policy = .allowlist ∧ namesNoModel project.allowedModels = true then
              some (world.tenancy, .rollback emptyAllowlist)
            else some (world.tenancy, .updateModelPolicy policy)
          else none
  | .updateModelPolicy policy => some (world.tenancy, .commit policy)
  | .commit policy =>
      match getProjectById world.tenancy call.projectId with
      | none => some (world.tenancy, .returned (.error .notFound))
      | some project =>
          some (updateProject world.tenancy call.projectId (withPolicy policy),
            .returned (.ok (withPolicy policy project)))
  | .rollback error => some (world.tenancy, .returned (.error error))
  | .returned _ => none

def modelStep (catalog : List ModelCatalogEntry) (world : ModelWorld) :
    ModelEvent → Option ModelWorld
  | .arrive subject request =>
      some { world with calls := world.calls ++ [startCall catalog subject request] }
  | .advance caller =>
      match world.calls[caller]? with
      | none => none
      | some call =>
          (advanceCall world call).map fun result =>
            { tenancy := result.1
              calls := world.calls.set caller { call with point := result.2 } }
  | .fail caller =>
      match world.calls[caller]? with
      | none => none
      | some ⟨_, _, .returned _⟩ => none
      | some call =>
          some { world with
            calls := world.calls.set caller
              { call with point := .returned (.error (.sqlx .connectionLost)) } }

/-- Under `allowlist` with no model named, every model is denied. -/
def lockedOut (tenancy : TenancyDb) (projectId : String) : Bool :=
  (getProjectById tenancy projectId).any fun project =>
    project.modelPolicy == .allowlist && namesNoModel project.allowedModels

/-- The statement about to run takes the last model off a list that is in force. -/
def emptiesAllowlist (projectId : String) (world : ModelWorld) : ModelEvent → Bool
  | .advance caller =>
      match world.calls[caller]? with
      | some ⟨subject, target, .updateAllowedModels models⟩ =>
          target == projectId && namesNoModel models &&
            (visibleProject world.tenancy subject target).any fun project =>
              project.modelPolicy == .allowlist
      | _ => false
  | _ => false

/-- The points from which a call goes on to write `allowlist`. -/
def ModelPoint.writesAllowlist : ModelPoint → Bool
  | .updateModelPolicy policy => policy == .allowlist
  | .commit policy => policy == .allowlist
  | _ => false

def moveCall (world : ModelWorld) (tenancy : TenancyDb) (caller : Nat) (call : ModelCall)
    (point : ModelPoint) : ModelWorld :=
  ⟨tenancy, world.calls.set caller { call with point := point }⟩

inductive ModelChange (world : ModelWorld) : ModelEvent → ModelWorld → Prop where
  | arrived (subject : String) (request : ModelRequest) (call : ModelCall)
      (harmless : call.point.writesAllowlist = false) :
      ModelChange world (.arrive subject request) { world with calls := world.calls ++ [call] }
  | listed (caller : Nat) (call : ModelCall) (models : Option (List String)) (project : Project)
      (result : ModelPoint) (running : world.calls[caller]? = some call)
      (stands : call.point = .updateAllowedModels models)
      (visible : visibleProject world.tenancy call.subject call.projectId = some project)
      (free : rowFree world.calls call.projectId = true)
      (harmless : result.writesAllowlist = false) :
      ModelChange world (.advance caller)
        (moveCall world (updateProject world.tenancy call.projectId (withModels models))
          caller call result)
  | checked (caller : Nat) (call : ModelCall) (policy : ModelPolicy) (project : Project)
      (running : world.calls[caller]? = some call)
      (stands : call.point = .selectForUpdate policy)
      (visible : visibleProject world.tenancy call.subject call.projectId = some project)
      (passed : ¬ (policy = .allowlist ∧ namesNoModel project.allowedModels = true)) :
      ModelChange world (.advance caller)
        (moveCall world world.tenancy caller call (.updateModelPolicy policy))
  | committed (caller : Nat) (call : ModelCall) (policy : ModelPolicy) (project : Project)
      (result : ModelPoint) (running : world.calls[caller]? = some call)
      (stands : call.point = .commit policy)
      (found : getProjectById world.tenancy call.projectId = some project)
      (harmless : result.writesAllowlist = false) :
      ModelChange world (.advance caller)
        (moveCall world (updateProject world.tenancy call.projectId (withPolicy policy))
          caller call result)
  | moved (event : ModelEvent) (caller : Nat) (call : ModelCall) (point : ModelPoint)
      (running : world.calls[caller]? = some call)
      (harmless : point.writesAllowlist = true → call.point.writesAllowlist = true)
      (quiet : ∀ projectId, emptiesAllowlist projectId world event = false) :
      ModelChange world event (moveCall world world.tenancy caller call point)

theorem start_call_harmless (catalog : List ModelCatalogEntry) (subject : String)
    (request : ModelRequest) :
    (startCall catalog subject request).point.writesAllowlist = false := by
  cases request with
  | setProjectAllowedModels projectId allowedModels =>
      simp only [startCall]
      split <;> rfl
  | setProjectModelPolicy projectId modelPolicy =>
      simp only [startCall]
      split <;> rfl

theorem advance_change {world next : ModelWorld} {caller : Nat} {call : ModelCall}
    (running : world.calls[caller]? = some call)
    (moved : (advanceCall world call).map (fun result =>
      moveCall world result.1 caller call result.2) = some next) :
    ModelChange world (.advance caller) next := by
  obtain ⟨⟨tenancy, point⟩, advanced, isNext⟩ := Option.map_eq_some_iff.mp moved
  subst isNext
  obtain ⟨subject, projectId, stands⟩ := call
  cases stands with
  | updateAllowedModels models =>
      simp only [advanceCall] at advanced
      split at advanced
      · rename_i hidden
        cases advanced
        refine .moved _ caller _ _ running (fun writes => by cases writes) ?_
        intro target
        simp [emptiesAllowlist, running, hidden]
      · rename_i project visible
        split at advanced
        · rename_i free
          cases advanced
          exact .listed caller _ models project _ running rfl visible free rfl
        · cases advanced
  | selectForUpdate policy =>
      have quiet : ∀ target, emptiesAllowlist target world (.advance caller) = false := by
        intro target
        simp [emptiesAllowlist, running]
      simp only [advanceCall] at advanced
      split at advanced
      · cases advanced
        exact .moved _ caller _ _ running (fun writes => by cases writes) quiet
      · rename_i project visible
        split at advanced
        · split at advanced
          · cases advanced
            exact .moved _ caller _ _ running (fun writes => by cases writes) quiet
          · rename_i passed
            cases advanced
            exact .checked caller _ policy project running rfl visible passed
        · cases advanced
  | updateModelPolicy policy =>
      cases advanced
      refine .moved _ caller _ _ running (fun writes => writes) ?_
      intro target
      simp [emptiesAllowlist, running]
  | commit policy =>
      simp only [advanceCall] at advanced
      split at advanced
      · cases advanced
        refine .moved _ caller _ _ running (fun writes => by cases writes) ?_
        intro target
        simp [emptiesAllowlist, running]
      · rename_i project found
        cases advanced
        exact .committed caller _ policy project _ running rfl found rfl
  | rollback error =>
      cases advanced
      refine .moved _ caller _ _ running (fun writes => by cases writes) ?_
      intro target
      simp [emptiesAllowlist, running]
  | returned result => cases advanced

theorem step_change {catalog : List ModelCatalogEntry} {world next : ModelWorld}
    {event : ModelEvent} (stepped : modelStep catalog world event = some next) :
    ModelChange world event next := by
  cases event with
  | arrive subject request =>
      cases stepped
      exact .arrived subject request _ (start_call_harmless catalog subject request)
  | advance caller =>
      simp only [modelStep] at stepped
      split at stepped
      · cases stepped
      · rename_i call running
        exact advance_change running stepped
  | fail caller =>
      simp only [modelStep] at stepped
      split at stepped
      · cases stepped
      · cases stepped
      · rename_i call _ running
        cases stepped
        exact .moved _ caller call _ running (fun writes => by cases writes) fun _ => rfl

theorem locked_out_of_found {tenancy : TenancyDb} {projectId : String} {project : Project}
    (found : getProjectById tenancy projectId = some project) :
    lockedOut tenancy projectId =
      (project.modelPolicy == .allowlist && namesNoModel project.allowedModels) := by
  simp [lockedOut, found]

/-- A call that goes on to write `allowlist` has a list that names a model. -/
def WritersListed (projectId : String) (tenancy : TenancyDb) (calls : List ModelCall) : Prop :=
  ∀ (caller : Nat) (call : ModelCall) (project : Project), calls[caller]? = some call →
    call.projectId = projectId → call.point.writesAllowlist = true →
    getProjectById tenancy projectId = some project →
    namesNoModel project.allowedModels = false

structure Guarded (projectId : String) (world : ModelWorld) : Prop where
  unlocked : lockedOut world.tenancy projectId = false
  listed : WritersListed projectId world.tenancy world.calls

theorem free_row_no_writer {calls : List ModelCall} {projectId : String}
    (free : rowFree calls projectId = true) {caller : Nat} {call : ModelCall}
    (running : calls[caller]? = some call) (targets : call.projectId = projectId) :
    call.point.writesAllowlist = false := by
  have apart := List.all_eq_true.mp free call (List.mem_of_getElem? running)
  have unheld : call.point.holdsRow = false := by simpa [targets] using apart
  revert unheld
  cases call.point with
  | updateModelPolicy policy => intro held; cases held
  | commit policy => intro held; cases held
  | _ => intro _; rfl

theorem writers_listed_set {projectId : String} {tenancy : TenancyDb} {calls : List ModelCall}
    {caller : Nat} {call : ModelCall} {point : ModelPoint}
    (listed : WritersListed projectId tenancy calls) (running : calls[caller]? = some call)
    (harmless : point.writesAllowlist = true → call.point.writesAllowlist = true) :
    WritersListed projectId tenancy (calls.set caller { call with point := point }) := by
  intro slot found project there targets writes row
  rcases slot_of_set there with ⟨_, isNew⟩ | ⟨_, old⟩
  · subst isNew
    exact listed caller call project running targets (harmless writes) row
  · exact listed slot found project old targets writes row

theorem committed_models {tenancy : TenancyDb} {projectId target : String}
    {policy : ModelPolicy} {old project : Project}
    (found : getProjectById tenancy target = some old)
    (row : getProjectById (updateProject tenancy target (withPolicy policy)) projectId =
      some project) :
    ∃ before, getProjectById tenancy projectId = some before ∧
      project.allowedModels = before.allowedModels := by
  by_cases same : projectId = target
  · subst same
    rw [get_project_update_same (withPolicy policy) found rfl] at row
    cases row
    exact ⟨old, found, rfl⟩
  · rw [get_project_update_other tenancy (withPolicy policy) (fun _ => rfl) same] at row
    exact ⟨project, row, rfl⟩

theorem guarded_step {catalog : List ModelCatalogEntry} {projectId : String}
    {world next : ModelWorld} {event : ModelEvent} (inv : Guarded projectId world)
    (keeps : emptiesAllowlist projectId world event = false)
    (stepped : modelStep catalog world event = some next) : Guarded projectId next := by
  cases step_change stepped with
  | arrived subject request call harmless =>
      refine ⟨inv.unlocked, ?_⟩
      intro slot found project there targets writes row
      rcases slot_of_append there with old | isNew
      · exact inv.listed slot found project old targets writes row
      · rw [isNew, harmless] at writes
        cases writes
  | listed caller call models project result running stands visible free harmless =>
      have found := visible_project_found visible
      by_cases same : projectId = call.projectId
      · subst same
        have row := get_project_update_same (withModels models) found rfl
        refine ⟨?_, ?_⟩
        · obtain ⟨subject, target, point⟩ := call
          cases stands
          have apart : namesNoModel models = true → project.modelPolicy ≠ .allowlist := by
            simpa [emptiesAllowlist, running, visible] using keeps
          simp only [moveCall]
          rw [locked_out_of_found row]
          cases named : namesNoModel models with
          | false => simp [withModels, named]
          | true => simp [withModels, apart named]
        · intro slot other row there targets writes _
          rcases slot_of_set there with ⟨_, isNew⟩ | ⟨_, old⟩
          · subst isNew
            rw [harmless] at writes
            cases writes
          · rw [free_row_no_writer free old targets] at writes
            cases writes
      · have other := get_project_update_other world.tenancy (withModels models)
          (fun _ => rfl) same
        refine ⟨?_, writers_listed_set ?_ running fun writes => by simp [harmless] at writes⟩
        · simp only [moveCall, lockedOut, other]
          exact inv.unlocked
        · unfold WritersListed
          simp only [moveCall, other]
          exact inv.listed
  | checked caller call policy project running stands visible passed =>
      have found := visible_project_found visible
      refine ⟨inv.unlocked, ?_⟩
      intro slot other row there targets writes isRow
      rcases slot_of_set there with ⟨_, isNew⟩ | ⟨_, old⟩
      · subst isNew
        rw [← targets] at isRow
        have same : project = row := Option.some.inj (found.symm.trans isRow)
        have isAllowlist : policy = .allowlist := by
          simpa [ModelPoint.writesAllowlist] using writes
        rw [← same]
        simpa [isAllowlist] using passed
      · exact inv.listed slot other row old targets writes isRow
  | committed caller call policy project result running stands found harmless =>
      refine ⟨?_, writers_listed_set ?_ running fun writes => by simp [harmless] at writes⟩
      · by_cases same : projectId = call.projectId
        · subst same
          simp only [moveCall]
          rw [locked_out_of_found (get_project_update_same (withPolicy policy) found rfl)]
          by_cases isAllowlist : policy = .allowlist
          · have writes : call.point.writesAllowlist = true := by
              rw [stands, isAllowlist]
              rfl
            have named := inv.listed caller call project running rfl writes found
            simp [withPolicy, named]
          · simp [withPolicy, isAllowlist]
        · have other := get_project_update_other world.tenancy (withPolicy policy)
            (fun _ => rfl) same
          simp only [moveCall, lockedOut, other]
          exact inv.unlocked
      · intro slot other row there targets writes isRow
        obtain ⟨before, was, sameModels⟩ := committed_models found isRow
        rw [sameModels]
        exact inv.listed slot other before there targets writes was
  | moved _ caller call point running harmless quiet =>
      exact ⟨inv.unlocked, writers_listed_set inv.listed running harmless⟩

theorem emptied_locked_out {catalog : List ModelCatalogEntry} {projectId : String}
    {world next : ModelWorld} {event : ModelEvent}
    (empties : emptiesAllowlist projectId world event = true)
    (stepped : modelStep catalog world event = some next) :
    lockedOut next.tenancy projectId = true := by
  cases step_change stepped with
  | arrived subject request call harmless => cases empties
  | listed caller call models project result running stands visible free harmless =>
      obtain ⟨subject, target, point⟩ := call
      cases stands
      obtain ⟨⟨isTarget, names⟩, policy⟩ : (target = projectId ∧ namesNoModel models = true) ∧
          project.modelPolicy = .allowlist := by
        simpa [emptiesAllowlist, running, visible] using empties
      subst isTarget
      have row := get_project_update_same (withModels models) (visible_project_found visible) rfl
      simp only [moveCall]
      rw [locked_out_of_found row]
      simp [withModels, policy, names]
  | checked caller call policy project running stands visible passed =>
      obtain ⟨subject, target, point⟩ := call
      cases stands
      simp [emptiesAllowlist, running] at empties
  | committed caller call policy project result running stands found harmless =>
      obtain ⟨subject, target, point⟩ := call
      cases stands
      simp [emptiesAllowlist, running] at empties
  | moved _ caller call point running harmless quiet =>
      rw [quiet projectId] at empties
      cases empties

/-- A run that starts from `allow_all` and no calls never locks the project out
exactly when no statement of it empties the list of a project whose stored policy
is `allowlist`. -/
theorem never_locked_out_iff (catalog : List ModelCatalogEntry) {start last : ModelWorld}
    {events : List ModelEvent} {projectId : String} {project : Project}
    (idle : start.calls = [])
    (found : getProjectById start.tenancy projectId = some project)
    (allowsAll : project.modelPolicy = .allowAll)
    (ran : runFrom (modelStep catalog) start events = some last) :
    (∀ front back middle, events = front ++ back →
        runFrom (modelStep catalog) start front = some middle →
        lockedOut middle.tenancy projectId = false) ↔
      Meets (modelStep catalog)
        (fun world event => emptiesAllowlist projectId world event = false) start events := by
  constructor
  · intro never
    apply meets_of_prefixes
    intro front event back middle isRun before
    cases empties : emptiesAllowlist projectId middle event with
    | false => rfl
    | true =>
        rw [isRun] at ran
        obtain ⟨_, sameBefore, tail⟩ := run_append_some ran
        cases before.symm.trans sameBefore
        obtain ⟨next, stepped, _⟩ := run_cons_some tail
        have upTo : runFrom (modelStep catalog) start (front ++ [event]) = some next := by
          apply run_append before
          simp [runFrom, stepped]
        have unlocked := never (front ++ [event]) back next (by simp [isRun]) upTo
        rw [emptied_locked_out empties stepped] at unlocked
        cases unlocked
  · intro met front back middle isRun before
    rw [isRun] at met
    have guarded : Guarded projectId start := by
      refine ⟨?_, ?_⟩
      · simp [locked_out_of_found found, allowsAll]
      · intro caller call _ running
        simp [idle] at running
    have invariant := run_preserves_of_meets (Guarded projectId)
      (fun _ _ _ inv keeps stepped => guarded_step inv keeps stepped) guarded
      (meets_append_some met before).1 before
    exact invariant.unlocked

def openProject : Project :=
  ⟨"project", "owner", .active, true, none, .allowAll⟩

def openWorld : ModelWorld := ⟨⟨[⟨"owner", .active⟩], [openProject], []⟩, []⟩

def restrictModels : List ModelEvent :=
  [.arrive "owner" (.setProjectAllowedModels "project" (some (.list [.string "small"]))),
    .advance 0,
    .arrive "owner" (.setProjectModelPolicy "project" "allowlist"),
    .advance 1, .advance 1, .advance 1]

def clearModels : List ModelEvent :=
  [.arrive "owner" (.setProjectAllowedModels "project" (some .null)), .advance 2]

theorem restrict_models_never_locked_out :
    ∃ last, runFrom (modelStep []) openWorld restrictModels = some last ∧
      lockedOut last.tenancy "project" = false := by
  have passed : reaches (modelStep []) openWorld restrictModels
      (fun last => (getProjectById last.tenancy "project").any fun project =>
        project.modelPolicy == .allowlist) = true := by
    decide +kernel
  obtain ⟨last, ran, _⟩ := exists_of_reaches passed
  have found : getProjectById openWorld.tenancy "project" = some openProject := by
    decide +kernel
  refine ⟨last, ran, ?_⟩
  refine (never_locked_out_iff [] rfl found rfl ran).mpr ?_ restrictModels [] last
    (List.append_nil _).symm ran
  decide +kernel

/-- Clearing the list of a project whose policy is `allowlist` succeeds. -/
theorem clear_models_locks_out :
    openWorld.calls = [] ∧ getProjectById openWorld.tenancy "project" = some openProject ∧
      openProject.modelPolicy = .allowAll ∧
      ∃ last, runFrom (modelStep []) openWorld (restrictModels ++ clearModels) = some last ∧
        lockedOut last.tenancy "project" = true := by
  refine ⟨rfl, by decide +kernel, rfl, ?_⟩
  apply exists_of_reaches
  decide +kernel

end LightbridgeAuthz.Access.ModelPolicies
