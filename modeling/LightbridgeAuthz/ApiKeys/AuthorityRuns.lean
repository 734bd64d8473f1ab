import LightbridgeAuthz.Access.Standings
import LightbridgeAuthz.ApiKeys.StoreSides
import LightbridgeAuthz.Library.Handovers

/-!
# Authority over a project descends from its owner

Along every run of the store service, whoever sees a project has been named by someone who
saw it, back to the account that created it; whoever manages it, by someone who managed it,
as long as no plain member moves the project to another account.
-/

namespace LightbridgeAuthz.ApiKeys.AuthorityRuns

open Library.EventRun Library.Handovers Library.KeyedRows Library.Separation
open Access.Tenancy Access.TenancyOps Access.ModelPolicies Access.Standings
open StoreCalls StoreSides

set_option autoImplicit false

/-- The operation on the three tables that a call runs. -/
def tenancyOp : StoreRequest → Option TenancyOp
  | .createAccount _ => some .createAccount
  | .setAccountStatus accountId status => some (.setAccountStatus accountId status)
  | .deleteAccountPermanently accountId => some (.deleteAccountPermanently accountId)
  | .createProject input => some (.createProject input.id input.accountId)
  | .updateProject projectId input => some (.updateProject projectId input.accountId)
  | .deleteProject projectId => some (.deleteProject projectId)
  | .setProjectStatus projectId status => some (.setProjectStatus projectId status)
  | .setDefaultProject projectId => some (.setDefaultProject projectId)
  | .setProjectAllowedModels projectId models => some (.setProjectAllowedModels projectId models)
  | .setProjectModelPolicy projectId modelPolicy =>
      (parseStrict modelPolicy).map (.setProjectModelPolicy projectId)
  | .changeRoster projectId target request => some (.roster projectId target request)
  | _ => none

/-- The caller owns the project, or is on its roster in a role that `may` asks for. -/
def Stands (may : ProjectRole → Bool) (projectId : String) (store : AuthzStore)
    (agent : String) : Prop :=
  ∃ owner, ownerOf store.tenancy projectId = some owner ∧
    (owner = agent ∨ (projectMemberRole store.tenancy projectId agent).any may = true)

/-- The call creates the project for the agent who makes it. -/
def Founds (projectId : String) (call : StoreCall) (agent : String) : Prop :=
  call.subject = agent ∧ tenancyOp call.request = some (.createProject projectId agent)

/-- The caller names the agent on the project: in a roster row with such a role, or as the
account that the project moves to. -/
inductive Gives (may : ProjectRole → Bool) (projectId : String) (call : StoreCall)
    (giver agent : String) : Prop where
  | roster {request : RosterRequest} {role : ProjectRole} (isGiver : call.subject = giver)
      (named : tenancyOp call.request = some (.roster projectId agent request))
      (grants : grantedRole request = some role) (admitted : may role = true)
  | moved (isGiver : call.subject = giver)
      (named : tenancyOp call.request = some (.updateProject projectId (some agent)))

/-- Whoever moves the project to an account, and sees it, has the standing. -/
def MovedInStanding (may : ProjectRole → Bool) (projectId : String) (store : AuthzStore)
    (call : StoreCall) : Prop :=
  ∀ accountId, tenancyOp call.request = some (.updateProject projectId (some accountId)) →
    seesProject store.tenancy call.subject projectId = true →
    Stands may projectId store call.subject

def anyRole (_ : ProjectRole) : Bool := true

def leadOnly (role : ProjectRole) : Bool := decide (role = .lead)

theorem stands_any_iff {projectId agent : String} {store : AuthzStore} :
    Stands anyRole projectId store agent ↔
      seesProject store.tenancy agent projectId = true := by
  have anyIs : (projectMemberRole store.tenancy projectId agent).any anyRole =
      (projectMemberRole store.tenancy projectId agent).isSome := by
    cases projectMemberRole store.tenancy projectId agent <;> rfl
  rw [Stands, anyIs, sees_project_of_owner]

theorem stands_lead_iff {projectId agent : String} {store : AuthzStore} :
    Stands leadOnly projectId store agent ↔ Manages store.tenancy projectId agent := by
  have anyIs : (projectMemberRole store.tenancy projectId agent).any leadOnly = true ↔
      projectMemberRole store.tenancy projectId agent = some .lead := by
    cases projectMemberRole store.tenancy projectId agent with
    | none => simp
    | some role => simp [leadOnly]
  rw [Stands, anyIs, manages_iff]

def storeStep (config : StoreConfig) (store : AuthzStore) (call : StoreCall) :
    Option AuthzStore :=
  some (serve config store call).1

theorem run_is_final (config : StoreConfig) (store : AuthzStore) (calls : List StoreCall) :
    runFrom (storeStep config) store calls = some (finalState (serve config) store calls) := by
  induction calls generalizing store with
  | nil => rfl
  | cons call rest induction => exact induction _

section Writes

variable {config : StoreConfig} {store next : AuthzStore} {subject : String}

theorem map_pair_ok {issued : Option KeyTable.ApiKeyRow} {done : Except AccessError AuthzStore}
    (mapped : done.map (·, (none : Option KeyTable.ApiKeyRow)) = .ok (next, issued)) :
    done = .ok next := by
  cases done with
  | error error => cases mapped
  | ok found =>
      cases mapped
      rfl

theorem map_tables_ok {issued : Option KeyTable.ApiKeyRow} {rows : TenancyDb → AuthzStore}
    {done : Except AccessError TenancyDb}
    (mapped : done.map (fun tenancy => (rows tenancy, (none : Option KeyTable.ApiKeyRow))) =
      .ok (next, issued)) : ∃ tenancy, done = .ok tenancy ∧ next = rows tenancy := by
  cases done with
  | error error => cases mapped
  | ok tenancy =>
      cases mapped
      exact ⟨tenancy, rfl, rfl⟩

theorem map_rows_ok {issued : Option KeyTable.ApiKeyRow} {rows : TenancyDb → AuthzStore}
    (isTenancy : ∀ tenancy, (rows tenancy).tenancy = tenancy)
    {done : Except AccessError TenancyDb}
    (mapped : done.map (fun tenancy => (rows tenancy, (none : Option KeyTable.ApiKeyRow))) =
      .ok (next, issued)) :
    done = .ok next.tenancy := by
  obtain ⟨tenancy, ran, same⟩ := map_tables_ok mapped
  rw [same, isTenancy]
  exact ran

theorem set_allowed_models_ok {projectId : String} {models : Option (List String)}
    {tenancy after : TenancyDb}
    (done : setProjectAllowedModels config tenancy subject projectId models = .ok after) :
    setProjectColumn tenancy subject projectId (withModels models) = .ok after := by
  unfold setProjectAllowedModels at done
  split at done
  · exact done
  · cases done

theorem create_account_row_ok {defaultQuota : Option String}
    (done : createAccountWithQuota config store subject defaultQuota = .ok next) :
    createAccount store.tenancy subject = .ok next.tenancy := by
  unfold createAccountWithQuota at done
  split_ifs at done
  cases created : createAccount store.tenancy subject with
  | error error => simp [created, Except.map] at done
  | ok tenancy =>
      rw [created] at done
      cases done
      rfl

theorem update_quota_rows_ok {accountId : String} {defaultQuota : Option String}
    (done : updateAccountDefaultQuota config store subject accountId defaultQuota = .ok next) :
    next.tenancy = store.tenancy := by
  unfold updateAccountDefaultQuota at done
  split_ifs at done
  cases done
  rfl

theorem set_quota_rows_ok {projectId : String} {projectQuota : Option String}
    (done : setProjectQuota config store subject projectId projectQuota = .ok next) :
    next.tenancy = store.tenancy := by
  unfold setProjectQuota at done
  split_ifs at done
  split at done
  · cases done
  · cases done
    rfl

theorem selected_key_rows_ok {id : String} {keys : List KeyTable.ApiKeyRow}
    (done : withSelectedKey store subject id keys = .ok next) :
    next.tenancy = store.tenancy := by
  unfold withSelectedKey at done
  split at done
  · cases done
  · cases done
    rfl

theorem issued_rows_ok {issue : Except AccessError (List KeyTable.ApiKeyRow × KeyTable.ApiKeyRow)}
    {issued : Option KeyTable.ApiKeyRow}
    (done : issue.map (fun answer => (store.withKeys answer.1, some answer.2)) =
      .ok (next, issued)) : next.tenancy = store.tenancy := by
  cases issue with
  | error error => cases done
  | ok answer =>
      cases done
      rfl

theorem write_request_tenancy {request : StoreRequest} {issued : Option KeyTable.ApiKeyRow}
    (done : writeRequest config store subject request = .ok (next, issued)) :
    next.tenancy = store.tenancy ∨
      ∃ op, tenancyOp request = some op ∧
        operate config.quotaTiers store.tenancy subject op = .ok next.tenancy := by
  cases request with
  | createAccount defaultQuota =>
      exact Or.inr ⟨.createAccount, rfl, create_account_row_ok (map_pair_ok done)⟩
  | updateAccountDefaultQuota accountId defaultQuota =>
      exact Or.inl (update_quota_rows_ok (map_pair_ok done))
  | setAccountStatus accountId status =>
      exact Or.inr ⟨_, rfl, map_rows_ok (fun _ => rfl) done⟩
  | deleteAccountPermanently accountId =>
      exact Or.inr ⟨_, rfl, map_rows_ok (fun _ => rfl) done⟩
  | createProject input =>
      obtain ⟨tenancy, created, rows⟩ := create_project_row_ok (map_pair_ok done)
      rw [rows]
      exact Or.inr ⟨_, rfl, created⟩
  | updateProject projectId input =>
      obtain ⟨tenancy, updated, rows⟩ := update_project_row_ok (map_pair_ok done)
      rw [rows]
      exact Or.inr ⟨_, rfl, updated⟩
  | deleteProject projectId => exact Or.inr ⟨_, rfl, map_rows_ok (fun _ => rfl) done⟩
  | setProjectStatus projectId status =>
      exact Or.inr ⟨_, rfl, map_rows_ok (fun _ => rfl) done⟩
  | setDefaultProject projectId => exact Or.inr ⟨_, rfl, map_rows_ok (fun _ => rfl) done⟩
  | setProjectQuota projectId projectQuota =>
      exact Or.inl (set_quota_rows_ok (map_pair_ok done))
  | setProjectAllowedModels projectId models =>
      exact Or.inr ⟨_, rfl, set_allowed_models_ok (map_rows_ok (fun _ => rfl) done)⟩
  | setProjectModelPolicy projectId modelPolicy =>
      have set := map_rows_ok (fun _ => rfl) done
      unfold setModelPolicy at set
      cases parsed : parseStrict modelPolicy with
      | none => simp [parsed] at set
      | some policy =>
          rw [parsed] at set
          refine Or.inr ⟨.setProjectModelPolicy projectId policy, ?_, set⟩
          rw [tenancyOp, parsed]
          rfl
  | changeRoster projectId target request =>
      exact Or.inr ⟨_, rfl, map_rows_ok (fun _ => rfl) done⟩
  | createApiKey projectId input issue => exact Or.inl (issued_rows_ok done)
  | rotateApiKey id input issue => exact Or.inl (issued_rows_ok done)
  | revokeApiKey id now =>
      have revoked := map_pair_ok done
      unfold StoreCalls.revokeApiKey at revoked
      cases set : KeyTable.setApiKeyStatus store.tenancy store.keys subject id .revoked (some now)
          none with
      | error error => simp [set, Except.map] at revoked
      | ok keys =>
          rw [set] at revoked
          cases revoked
          exact Or.inl rfl
  | updateApiKey id name => exact Or.inl (selected_key_rows_ok (map_pair_ok done))
  | deleteApiKey id now => exact Or.inl (selected_key_rows_ok (map_pair_ok done))
  | _ =>
      cases done
      exact Or.inl rfl

theorem serve_tenancy (config : StoreConfig) (store : AuthzStore) (call : StoreCall) :
    (serve config store call).1.tenancy = store.tenancy ∨
      ∃ op, tenancyOp call.request = some op ∧
        operate config.quotaTiers store.tenancy call.subject op =
          .ok (serve config store call).1.tenancy := by
  unfold serve
  cases readRequest store call.subject call.request with
  | some reply => exact Or.inl rfl
  | none =>
      cases written : writeRequest config store call.subject call.request with
      | error error => exact Or.inl rfl
      | ok done => exact write_request_tenancy written

theorem stands_of_manages {may : ProjectRole → Bool} (leads : may .lead = true)
    {projectId agent : String} (manages : Manages store.tenancy projectId agent) :
    Stands may projectId store agent := by
  obtain ⟨owner, owns, theirs | lead⟩ := manages_iff.mp manages
  · exact ⟨owner, owns, Or.inl theirs⟩
  · exact ⟨owner, owns, Or.inr (by rw [lead]; exact leads)⟩

theorem owner_of_role {may : ProjectRole → Bool} {projectId agent : String}
    (rostered : Rostered store.tenancy)
    (role : (projectMemberRole store.tenancy projectId agent).any may = true) :
    ∃ owner, ownerOf store.tenancy projectId = some owner := by
  obtain ⟨found, isRole, _⟩ := (Option.any_eq_true _ _).mp role
  obtain ⟨member, isRow, _⟩ := Option.map_eq_some_iff.mp isRole
  obtain ⟨stored, keyed⟩ := find_key_some isRow
  have stands := rostered.stand member stored
  rw [(Prod.mk.inj (Option.some.inj keyed)).1] at stands
  exact Option.isSome_iff_exists.mp stands

theorem standing_gained {may : ProjectRole → Bool} (leads : may .lead = true)
    {projectId : String} {call : StoreCall} {agent : String} (rostered : Rostered store.tenancy)
    (inStanding : MovedInStanding may projectId store call)
    (stands : Stands may projectId (serve config store call).1 agent) :
    Stands may projectId store agent ∨ Founds projectId call agent ∨
      ∃ giver, Stands may projectId store giver ∧ Gives may projectId call giver agent := by
  rcases serve_tenancy config store call with same | ⟨op, isOp, done⟩
  · refine Or.inl ?_
    unfold Stands at stands ⊢
    rw [← same]
    exact stands
  obtain ⟨owner, owns, standing⟩ := stands
  have roleFrom : (projectMemberRole (serve config store call).1.tenancy projectId agent).any
      may = true → (projectMemberRole store.tenancy projectId agent).any may = true ∨
        ∃ giver, Stands may projectId store giver ∧ Gives may projectId call giver agent := by
    intro role
    cases role_change done projectId agent with
    | kept sameRole => exact Or.inl (sameRole ▸ role)
    | gone absent => simp [absent] at role
    | granted manages grants has =>
        rw [has, Option.any_some] at role
        exact Or.inr ⟨call.subject, stands_of_manages leads manages,
          .roster rfl isOp grants role⟩
  cases owner_change rostered.unique done projectId with
  | kept sameOwner =>
      rw [sameOwner] at owns
      rcases standing with theirs | role
      · exact Or.inl ⟨owner, owns, Or.inl theirs⟩
      · rcases roleFrom role with before | given
        · exact Or.inl ⟨owner, owns, Or.inr before⟩
        · exact Or.inr (Or.inr given)
  | gone absent => cases absent.symm.trans owns
  | created fresh ownsNow =>
      rcases standing with theirs | role
      · have isSubject : call.subject = agent := by
          rw [← theirs]
          exact Option.some.inj (ownsNow.symm.trans owns)
        exact Or.inr (Or.inl ⟨isSubject, isSubject ▸ isOp⟩)
      · rcases roleFrom role with before | given
        · obtain ⟨stored, ownsBefore⟩ := owner_of_role rostered before
          cases fresh.symm.trans ownsBefore
        · exact Or.inr (Or.inr given)
  | moved sees ownsNow =>
      rcases standing with theirs | role
      · have isNamed : _ = agent := (Option.some.inj (ownsNow.symm.trans owns)).trans theirs
        exact Or.inr (Or.inr ⟨call.subject, inStanding _ isOp sees, .moved rfl (isNamed ▸ isOp)⟩)
      · rcases roleFrom role with before | given
        · obtain ⟨stored, ownsBefore⟩ := owner_of_role rostered before
          exact Or.inl ⟨stored, ownsBefore, Or.inr before⟩
        · exact Or.inr (Or.inr given)

theorem serve_rostered (call : StoreCall) (rostered : Rostered store.tenancy) :
    Rostered (serve config store call).1.tenancy := by
  rcases serve_tenancy config store call with same | ⟨op, _, done⟩
  · rw [same]
    exact rostered
  · exact operate_rostered rostered done

end Writes

theorem standing_hands_over (config : StoreConfig) {may : ProjectRole → Bool}
    (leads : may .lead = true) (projectId : String) :
    HandsOver (storeStep config) (fun store => Rostered store.tenancy)
      (MovedInStanding may projectId) (Stands may projectId) (Founds projectId)
      (Gives may projectId) where
  keeps := by
    intro store call next rostered stepped
    cases stepped
    exact serve_rostered call rostered
  gained := by
    intro store call next agent rostered inStanding stepped stands
    cases stepped
    exact standing_gained leads rostered inStanding stands

/-- The call after these others gives the agent sight of the project. -/
abbrev LetsSee (config : StoreConfig) (store : AuthzStore) (projectId : String) :
    List StoreCall → StoreCall → String → Prop :=
  Enters (storeStep config) (Stands anyRole projectId) store

/-- What holds of a project at the end of a run of calls. -/
structure AuthorityDescends (config : StoreConfig) (store : AuthzStore) (calls : List StoreCall)
    (projectId : String) : Prop where
  seen : ∀ agent,
    seesProject (finalState (serve config) store calls).tenancy agent projectId = true ↔
      Descends (storeStep config) (Stands anyRole projectId) (Founds projectId)
        (Gives anyRole projectId) store calls agent
  managed : Meets (storeStep config) (MovedInStanding leadOnly projectId) store calls →
    ∀ agent, Manages (finalState (serve config) store calls).tenancy projectId agent ↔
      Descends (storeStep config) (Stands leadOnly projectId) (Founds projectId)
        (Gives leadOnly projectId) store calls agent
  closed : ∀ inside : String → Prop,
    (∀ agent, seesProject store.tenancy agent projectId = true → inside agent) →
    (∀ before call after agent, calls = before ++ call :: after →
      LetsSee config store projectId before call agent → Founds projectId call agent →
      inside agent) →
    (∀ before call after agent, calls = before ++ call :: after →
      LetsSee config store projectId before call agent → inside call.subject →
      Gives anyRole projectId call call.subject agent → inside agent) →
    ∀ agent, seesProject (finalState (serve config) store calls).tenancy agent projectId = true →
      inside agent

/-- Whoever sees a project was named by someone who saw it, and whoever manages it by
someone who managed it, back to its creator or to the start of the run. -/
theorem authority_descends (config : StoreConfig) (store : AuthzStore) (calls : List StoreCall)
    (projectId : String) (rostered : Rostered store.tenancy) :
    AuthorityDescends config store calls projectId := by
  have ran := run_is_final config store calls
  have seen : ∀ agent,
      seesProject (finalState (serve config) store calls).tenancy agent projectId = true →
        Descends (storeStep config) (Stands anyRole projectId) (Founds projectId)
          (Gives anyRole projectId) store calls agent := by
    intro agent sees
    have met : Meets (storeStep config) (MovedInStanding anyRole projectId) store calls :=
      meets_of_forall_mem fun _ _ _ _ _ => stands_any_iff.mpr
    exact standing_descends (standing_hands_over config rfl projectId) rostered met ran
      (stands_any_iff.mpr sees)
  refine ⟨fun agent => ⟨seen agent, fun descends => ?_⟩, fun met agent => ⟨?_, ?_⟩, ?_⟩
  · exact stands_any_iff.mp (descends_holds descends ran)
  · intro manages
    exact standing_descends (standing_hands_over config rfl projectId) rostered met ran
      (stands_lead_iff.mpr manages)
  · intro descends
    exact stands_lead_iff.mp (descends_holds descends ran)
  · intro inside holders founders closed agent sees
    refine descends_within (seen agent sees) (fun agent stands => holders agent
      (stands_any_iff.mp stands)) founders ?_
    intro before call after giver agent split enters insideGiver given
    have isGiver : call.subject = giver := by
      cases given with
      | roster isGiver => exact isGiver
      | moved isGiver => exact isGiver
    subst isGiver
    exact closed before call after agent split enters insideGiver given

section Sample

def untieredConfig : StoreConfig where
  quotaTiers := []
  models := []
  apiKeys := { hashApiKey := id, maxLifetimeDays := 90, billingPlans := ["free"] }

def threeAccounts : AuthzStore where
  tenancy :=
    { accounts := [⟨"alice", .active⟩, ⟨"bob", .active⟩, ⟨"carol", .active⟩]
      projects := []
      members := [] }
  accountTerms := []
  projectTerms := []
  keys := []

/-- Alice makes Bob a lead of her project, and he names Carol, who tried to create the
project for herself and to name herself. -/
def namingCalls : List StoreCall :=
  [⟨"alice", .createProject ⟨"app", "alice", "app", .null, "free", "billing"⟩⟩,
    ⟨"carol", .createProject ⟨"app", "carol", "app", .null, "free", "other"⟩⟩,
    ⟨"carol", .changeRoster "app" "carol" (.addProjectMember (some "lead"))⟩,
    ⟨"alice", .changeRoster "app" "bob" (.addProjectMember (some "lead"))⟩,
    ⟨"bob", .changeRoster "app" "carol" (.addProjectMember none)⟩]

/-- Bob manages the project and Carol sees it; neither does before they are named. -/
theorem naming_calls_descend :
    AuthorityDescends untieredConfig threeAccounts namingCalls "app" ∧
      authorizeProjectLead (finalState (serve untieredConfig) threeAccounts namingCalls).tenancy
        "app" "bob" = .ok () ∧
      ["alice", "bob", "carol"].map (fun agent => seesProject
        (finalState (serve untieredConfig) threeAccounts namingCalls).tenancy agent "app") =
          [true, true, true] ∧
      ["alice", "bob", "carol"].map (fun agent => seesProject
        (finalState (serve untieredConfig) threeAccounts (namingCalls.take 3)).tenancy
          agent "app") = [true, false, false] :=
  ⟨authority_descends untieredConfig threeAccounts namingCalls "app"
    ⟨by decide, by
      intro member isMember
      cases isMember⟩, by decide, by decide, by decide⟩

end Sample

end LightbridgeAuthz.ApiKeys.AuthorityRuns
