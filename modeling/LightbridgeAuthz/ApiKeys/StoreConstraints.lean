import LightbridgeAuthz.Access.TenancyConstraints
import LightbridgeAuthz.ApiKeys.AuthorityRuns

/-!
# The constraints of the whole store

The tables of accounts, projects, rosters and API keys keep the schema's indexes and
foreign keys along every run of calls: no call leaves a row without the rows it refers to,
and none enters a second row under an index.
-/

namespace LightbridgeAuthz.ApiKeys.StoreConstraints

open Library.KeyedRows Library.References Library.Separation
open Access.Tenancy Access.TenancyOps Access.TenantSides Access.ModelPolicies
open Access.TenancyConstraints
open KeyTable RosterCalls StoreCalls StoreSides AuthorityRuns

set_option autoImplicit false

/-- The constraints of `api_keys`. -/
structure KeyIntegrity (tenancy : TenancyDb) (keys : List ApiKeyRow) : Prop where
  ids : UniqueKeys keyId keys
  hashes : UniqueKeys keyHash keys
  projects : Refers ApiKeyRow.projectId (projectIds tenancy) keys
  owners : Refers ApiKeyRow.ownerAccountId (accountIds tenancy) keys
  expiring : ∀ row ∈ keys, row.expiresAt ≠ none

/-- The columns that `Account` and `Project` leave out stand in rows of their own, one for
each account and project. -/
structure StoreIntegrity (store : AuthzStore) : Prop where
  tenancy : TenancyIntegrity store.tenancy
  accountTerms : store.accountTerms.map AccountTerms.accountId = accountIds store.tenancy
  projectTerms : store.projectTerms.map ProjectTerms.projectId = projectIds store.tenancy
  billing : UniqueKeys billingKey store.projectTerms
  keys : KeyIntegrity store.tenancy store.keys

section Keys

variable {tenancy next : TenancyDb} {keys written : List ApiKeyRow}

theorem key_integrity_mono (integral : KeyIntegrity tenancy keys)
    (accounts : accountIds tenancy ⊆ accountIds next)
    (projects : projectIds tenancy ⊆ projectIds next) : KeyIntegrity next keys where
  ids := integral.ids
  hashes := integral.hashes
  projects := refers_mono integral.projects projects
  owners := refers_mono integral.owners accounts
  expiring := integral.expiring

structure KeepsKey (change : ApiKeyRow → ApiKeyRow) : Prop where
  id : ∀ row, (change row).id = row.id
  hash : ∀ row, (change row).keyHash = row.keyHash
  project : ∀ row, (change row).projectId = row.projectId
  owner : ∀ row, (change row).ownerAccountId = row.ownerAccountId
  expiring : ∀ row, row.expiresAt ≠ none → (change row).expiresAt ≠ none

theorem key_integrity_update (integral : KeyIntegrity tenancy keys) (id : String)
    {change : ApiKeyRow → ApiKeyRow} (keeps : KeepsKey change) :
    KeyIntegrity tenancy (updateKey keyId keys id change) where
  ids := unique_keys_update integral.ids fun row => by rw [keyId, keeps.id, keyId]
  hashes := unique_keys_update integral.hashes fun row => by rw [keyHash, keeps.hash, keyHash]
  projects := refers_update integral.projects fun row member => by
    rw [keeps.project]
    exact integral.projects row member
  owners := refers_update integral.owners fun row member => by
    rw [keeps.owner]
    exact integral.owners row member
  expiring := by
    intro row member
    obtain ⟨old, stored, same⟩ := mem_update_key.mp member
    rw [← same]
    split
    · exact keeps.expiring old (integral.expiring old stored)
    · exact integral.expiring old stored

theorem keeps_key_status (status : ApiKeyStatus) (revokedAt expiresAt : Option Int) :
    KeepsKey (withStatus status revokedAt expiresAt) where
  id := fun _ => rfl
  hash := fun _ => rfl
  project := fun _ => rfl
  owner := fun _ => rfl
  expiring := by
    intro row expires
    cases expiresAt with
    | none => exact expires
    | some instant => simp [withStatus]

theorem keeps_key_name (name : String) : KeepsKey fun row => { row with name := name } where
  id := fun _ => rfl
  hash := fun _ => rfl
  project := fun _ => rfl
  owner := fun _ => rfl
  expiring := fun _ expires => expires

theorem keeps_key_deleted (now : Int) : KeepsKey fun row => { row with deletedAt := some now } where
  id := fun _ => rfl
  hash := fun _ => rfl
  project := fun _ => rfl
  owner := fun _ => rfl
  expiring := fun _ expires => expires

theorem keeps_key_guarded {change : ApiKeyRow → ApiKeyRow} (keeps : KeepsKey change)
    (selects : ApiKeyRow → Bool) :
    KeepsKey fun row => if selects row then change row else row where
  id := fun row => by split <;> simp [keeps.id]
  hash := fun row => by split <;> simp [keeps.hash]
  project := fun row => by split <;> simp [keeps.project]
  owner := fun row => by split <;> simp [keeps.owner]
  expiring := fun row expires => by
    split
    · exact keeps.expiring row expires
    · exact expires

theorem key_integrity_insert (integral : KeyIntegrity tenancy keys) {row : ApiKeyRow}
    (done : insertKey tenancy keys row = .ok written) : KeyIntegrity tenancy written := by
  unfold insertKey at done
  split_ifs at done with unexpiring takenId takenHash noProject noOwner
  cases done
  exact
    { ids := unique_keys_append integral.ids (apart_of_not_conflicts takenId)
      hashes := unique_keys_append integral.hashes (apart_of_not_conflicts takenHash)
      projects := refers_append integral.projects (by
        rw [← project_listed_iff]
        simpa [Option.isSome_iff_ne_none] using noProject)
      owners := refers_append integral.owners (by
        rw [← account_listed_iff]
        simpa [Option.isSome_iff_ne_none] using noOwner)
      expiring := by
        intro other member
        rcases List.mem_append.mp member with stored | fresh
        · exact integral.expiring other stored
        · rw [List.mem_singleton.mp fresh]
          simpa using unexpiring }

theorem key_integrity_cascade (integral : KeyIntegrity tenancy keys) (next : TenancyDb) :
    KeyIntegrity next (cascadeKeys next keys) where
  ids := unique_keys_filter integral.ids _
  hashes := unique_keys_filter integral.hashes _
  projects := by
    intro row member
    have stands := (Bool.and_eq_true_iff.mp (List.mem_filter.mp member).2).1
    exact project_listed_iff.mp stands
  owners := by
    intro row member
    have stands := (Bool.and_eq_true_iff.mp (List.mem_filter.mp member).2).2
    exact account_listed_iff.mp stands
  expiring := fun row member => integral.expiring row (List.mem_filter.mp member).1

theorem set_key_status_integrity (integral : KeyIntegrity tenancy keys) {subject id : String}
    {status : ApiKeyStatus} {revokedAt expiresAt : Option Int}
    (done : setApiKeyStatus tenancy keys subject id status revokedAt expiresAt = .ok written) :
    KeyIntegrity tenancy written := by
  unfold setApiKeyStatus at done
  split at done
  · cases done
  · cases done
    exact key_integrity_update integral id (keeps_key_status status revokedAt expiresAt)

theorem rotation_integrity (integral : KeyIntegrity tenancy keys) {subject id : String}
    {status : ApiKeyStatus} {revokedAt expiresAt : Option Int} {newKey : ApiKeyRow}
    (done : rotateApiKeyTransaction tenancy keys subject id status revokedAt expiresAt newKey =
      .ok written) : KeyIntegrity tenancy written := by
  unfold rotateApiKeyTransaction at done
  split at done
  · cases done
  · rename_i updated isUpdated
    split at done
    · exact key_integrity_insert (set_key_status_integrity integral isUpdated) done
    · cases done

end Keys

section Rows

variable {tiers : List String} {tenancy next : TenancyDb} {subject : String}

structure SameIds (tenancy next : TenancyDb) : Prop where
  accounts : accountIds next = accountIds tenancy
  projects : projectIds next = projectIds tenancy

theorem key_integrity_same {keys : List ApiKeyRow} (integral : KeyIntegrity tenancy keys)
    (same : SameIds tenancy next) : KeyIntegrity next keys := by
  apply key_integrity_mono integral
  · rw [same.accounts]
    exact List.Subset.refl _
  · rw [same.projects]
    exact List.Subset.refl _

theorem same_ids_update (projectId : String) (change : Project → Project)
    (keepsId : ∀ project, (change project).id = project.id) :
    SameIds tenancy (updateProject tenancy projectId change) where
  accounts := rfl
  projects := update_key_ids change keepsId

theorem same_ids_column {projectId : String} (change : Project → Project)
    (keepsId : ∀ project, (change project).id = project.id)
    (done : setProjectColumn tenancy subject projectId change = .ok next) :
    SameIds tenancy next := by
  rw [set_project_column_ok done]
  exact same_ids_update projectId change keepsId

theorem same_ids_status {accountId : String} {status : ResourceStatus}
    (done : setAccountStatus tenancy subject accountId status = .ok next) :
    SameIds tenancy next := by
  rw [set_account_status_rows done]
  exact ⟨update_key_ids (fun account : Account => { account with status := status }) fun _ => rfl, rfl⟩

theorem same_ids_default {projectId : String}
    (done : setDefaultProject tenancy subject projectId = .ok next) : SameIds tenancy next := by
  obtain ⟨promoted, _, rows⟩ := set_default_project_ok done
  rw [rows]
  refine ⟨rfl, ?_⟩
  rw [projectIds, List.map_map]
  exact List.map_congr_left fun project _ => (with_default_row _ _ project).1

theorem same_ids_verb {projectId : String} {accountId : Option String}
    (done : updateProjectVerb tenancy subject projectId accountId = .ok next) :
    SameIds tenancy next := by
  rcases update_project_verb_ok done with same | ⟨_, other, _, _, rows⟩
  · rw [same]
    exact ⟨rfl, rfl⟩
  · rw [rows]
    exact same_ids_update projectId (fun stored : Project => { stored with accountId := other }) fun _ => rfl

theorem same_ids_roster {projectId target : String} {request : RosterRequest}
    (done : rosterOperation tiers tenancy subject projectId target request = .ok next) :
    SameIds tenancy next := by
  obtain ⟨write, _, _, applied⟩ := roster_operation_ok done
  refine ⟨?_, by rw [projectIds, roster_operation_projects done]; rfl⟩
  cases write with
  | insert role =>
      rcases insert_member_ok applied with same | appended
      · rw [same]
      · rw [appended]
        rfl
  | delete =>
      cases applied
      rfl
  | setRole role =>
      rw [update_member_ok applied]
      rfl
  | setTier tier =>
      rw [update_member_ok applied]
      rfl

end Rows

section Writes

variable {config : StoreConfig} {store next : AuthzStore} {subject : String}

theorem integrity_with_tenancy (integral : StoreIntegrity store) {tenancy : TenancyDb}
    (tables : TenancyIntegrity tenancy) (same : SameIds store.tenancy tenancy) :
    StoreIntegrity (store.withTenancy tenancy) where
  tenancy := tables
  accountTerms := integral.accountTerms.trans same.accounts.symm
  projectTerms := integral.projectTerms.trans same.projects.symm
  billing := integral.billing
  keys := key_integrity_same integral.keys same

theorem integrity_with_keys (integral : StoreIntegrity store) {keys : List ApiKeyRow}
    (written : KeyIntegrity store.tenancy keys) : StoreIntegrity (store.withKeys keys) where
  tenancy := integral.tenancy
  accountTerms := integral.accountTerms
  projectTerms := integral.projectTerms
  billing := integral.billing
  keys := written

theorem integrity_after_deletion (integral : StoreIntegrity store) {tenancy : TenancyDb}
    (tables : TenancyIntegrity tenancy)
    (accounts : ∃ stays, tenancy.accounts = store.tenancy.accounts.filter stays)
    (projects : ∃ stays, tenancy.projects = store.tenancy.projects.filter stays) :
    StoreIntegrity (store.afterDeletion tenancy) where
  tenancy := tables
  accountTerms := by
    obtain ⟨stays, isPart⟩ := accounts
    have listed : ∀ terms : AccountTerms, (getAccountById tenancy terms.accountId).isSome =
        decide (terms.accountId ∈ accountIds tenancy) := fun terms =>
      (Bool.eq_iff_iff.mpr (account_listed_iff.trans decide_eq_true_iff.symm))
    simp only [AuthzStore.afterDeletion, listed]
    rw [accountIds, isPart]
    exact part_ids integral.accountTerms (nodup_of_unique integral.tenancy.accounts) stays
  projectTerms := by
    obtain ⟨stays, isPart⟩ := projects
    have listed : ∀ terms : ProjectTerms, (getProjectById tenancy terms.projectId).isSome =
        decide (terms.projectId ∈ projectIds tenancy) := fun terms =>
      (Bool.eq_iff_iff.mpr (project_listed_iff.trans decide_eq_true_iff.symm))
    simp only [AuthzStore.afterDeletion, listed]
    rw [projectIds, isPart]
    exact part_ids integral.projectTerms (nodup_of_unique integral.tenancy.projects) stays
  billing := unique_keys_filter integral.billing _
  keys := key_integrity_cascade integral.keys tenancy

theorem create_account_integrity (integral : StoreIntegrity store) {defaultQuota : Option String}
    (done : createAccountWithQuota config store subject defaultQuota = .ok next) :
    StoreIntegrity next := by
  unfold createAccountWithQuota at done
  split_ifs at done
  cases created : createAccount store.tenancy subject with
  | error error => simp [created, Except.map] at done
  | ok tenancy =>
      rw [created] at done
      cases done
      have ran : operate config.quotaTiers store.tenancy subject .createAccount = .ok tenancy :=
        created
      have ids : accountIds tenancy = accountIds store.tenancy ++ [subject] := by
        rw [create_account_ok created, accountIds, List.map_append]
        rfl
      have sameProjects : projectIds tenancy = projectIds store.tenancy := by
        rw [create_account_ok created]
        rfl
      exact
        { tenancy := operate_integrity integral.tenancy ran
          accountTerms := by
            rw [ids, List.map_append, integral.accountTerms]
            rfl
          projectTerms := integral.projectTerms.trans sameProjects.symm
          billing := integral.billing
          keys := key_integrity_mono integral.keys
            (by rw [ids]; exact List.subset_append_left _ _)
            (by rw [sameProjects]; exact List.Subset.refl _) }

theorem update_account_integrity (integral : StoreIntegrity store) {accountId : String}
    {defaultQuota : Option String}
    (done : updateAccountDefaultQuota config store subject accountId defaultQuota = .ok next) :
    StoreIntegrity next := by
  unfold updateAccountDefaultQuota at done
  split_ifs at done
  cases done
  exact
    { tenancy := integral.tenancy
      accountTerms :=
        (update_key_ids (fun terms : AccountTerms => { terms with defaultQuota := defaultQuota })
          fun _ => rfl).trans integral.accountTerms
      projectTerms := integral.projectTerms
      billing := integral.billing
      keys := integral.keys }

theorem create_project_integrity (integral : StoreIntegrity store) {input : CreateProjectInput}
    (done : createProjectRow store subject input = .ok next) : StoreIntegrity next := by
  unfold createProjectRow at done
  split at done
  · cases done
  · rename_i tenancy created
    split_ifs at done with taken
    cases done
    have ran : operate [] store.tenancy subject
        (.createProject input.id input.accountId) = .ok tenancy := created
    obtain ⟨theirs, absent, rows⟩ := Access.Standings.create_project_row created
    have ids : projectIds tenancy = projectIds store.tenancy ++ [input.id] := by
      rw [rows, projectIds, List.map_append]
      rfl
    have sameAccounts : accountIds tenancy = accountIds store.tenancy := by
      rw [rows]
      rfl
    exact
      { tenancy := operate_integrity integral.tenancy ran
        accountTerms := integral.accountTerms.trans sameAccounts.symm
        projectTerms := by
          rw [ids, List.map_append, integral.projectTerms]
          rfl
        billing := unique_keys_append integral.billing (apart_of_not_conflicts taken)
        keys := key_integrity_mono integral.keys (by rw [sameAccounts]; exact List.Subset.refl _)
          (by rw [ids]; exact List.subset_append_left _ _) }

theorem project_terms_unique (integral : StoreIntegrity store) :
    UniqueKeys projectTermsKey store.projectTerms := by
  have nodup : (store.projectTerms.map ProjectTerms.projectId).Nodup := by
    rw [integral.projectTerms]
    exact nodup_of_unique integral.tenancy.projects
  refine (List.pairwise_map.mp nodup).imp ?_
  intro left right apart
  exact Or.inr fun same => apart (Option.some.inj same)

theorem update_project_integrity (integral : StoreIntegrity store) {projectId : String}
    {input : UpdateProjectInput}
    (done : updateProjectRow store subject projectId input = .ok next) :
    StoreIntegrity next := by
  unfold updateProjectRow at done
  split at done
  · cases done
  · rename_i tenancy updated
    split_ifs at done with taken
    cases done
    have ran : operate [] store.tenancy subject
        (.updateProject projectId input.accountId) = .ok tenancy := updated
    have same := same_ids_verb updated
    exact
      { tenancy := operate_integrity integral.tenancy ran
        accountTerms := integral.accountTerms.trans same.accounts.symm
        projectTerms :=
          ((update_key_ids input.change fun _ => rfl).trans integral.projectTerms).trans
            same.projects.symm
        billing := by
          refine unique_keys_change (project_terms_unique integral) integral.billing ?_
          intro terms member keyed other isOther otherKey identity isIdentity sameIdentity
          cases given : input.billingIdentity with
          | none =>
              simp only [billingKey, UpdateProjectInput.change, given, Option.getD_none] at isIdentity
              have isOne := unique_keys_eq integral.billing member isOther isIdentity sameIdentity
              exact otherKey (isOne ▸ keyed)
          | some asked =>
              simp only [billingKey, UpdateProjectInput.change, given, Option.getD_some,
                Option.some.injEq] at isIdentity
              apply taken
              rw [billingConflict, given, Option.any_some]
              refine List.any_eq_true.mpr ⟨other, isOther, ?_⟩
              have sameAsked : other.billingIdentity = asked :=
                (Option.some.inj sameIdentity).trans isIdentity.symm
              have apart : other.projectId ≠ projectId := fun same =>
                otherKey (congrArg some same)
              simp [sameAsked, apart]
        keys := key_integrity_same integral.keys same }

theorem set_quota_integrity (integral : StoreIntegrity store) {projectId : String}
    {projectQuota : Option String}
    (done : setProjectQuota config store subject projectId projectQuota = .ok next) :
    StoreIntegrity next := by
  unfold setProjectQuota at done
  split_ifs at done
  split at done
  · cases done
  · cases done
    exact
      { tenancy := integral.tenancy
        accountTerms := integral.accountTerms
        projectTerms :=
          (update_key_ids (fun terms : ProjectTerms => { terms with projectQuota := projectQuota })
            fun _ => rfl).trans integral.projectTerms
        billing := unique_keys_update integral.billing fun _ => rfl
        keys := integral.keys }

theorem create_key_integrity (integral : StoreIntegrity store) {projectId : String}
    {input : CreateApiKey} {issue : Issue} {issued : List ApiKeyRow × ApiKeyRow}
    (done : StoreCalls.createApiKey config store subject projectId input issue = .ok issued) :
    KeyIntegrity store.tenancy issued.1 := by
  simp only [StoreCalls.createApiKey, bind, Except.bind] at done
  split at done
  · cases done
  · split at done
    · cases done
    · split at done
      · cases done
      · rename_i inserted
        cases done
        exact key_integrity_insert integral.keys inserted

theorem rotate_key_integrity (integral : StoreIntegrity store) {id : String}
    {input : RotateApiKey} {issue : Issue} {issued : List ApiKeyRow × ApiKeyRow}
    (done : StoreCalls.rotateApiKey config store subject id input issue = .ok issued) :
    KeyIntegrity store.tenancy issued.1 := by
  simp only [StoreCalls.rotateApiKey, bind, Except.bind] at done
  split at done
  · cases done
  · split at done
    · cases done
    · split at done
      · cases done
      · rename_i rotated
        cases done
        exact rotation_integrity integral.keys rotated

theorem selected_key_integrity (integral : StoreIntegrity store) {id : String}
    {change : ApiKeyRow → ApiKeyRow} (keeps : KeepsKey change)
    (done : withSelectedKey store subject id (updateKey keyId store.keys id change) = .ok next) :
    StoreIntegrity next := by
  unfold withSelectedKey at done
  split at done
  · cases done
  · cases done
    exact integrity_with_keys integral (key_integrity_update integral.keys id keeps)

theorem map_keys_ok {rows : List ApiKeyRow → AuthzStore}
    {done : Except AccessError (List ApiKeyRow)} (mapped : done.map rows = .ok next) :
    ∃ keys, done = .ok keys ∧ next = rows keys := by
  cases done with
  | error error => cases mapped
  | ok keys =>
      cases mapped
      exact ⟨keys, rfl, rfl⟩

theorem map_issue_ok {issued : Option ApiKeyRow}
    {done : Except AccessError (List ApiKeyRow × ApiKeyRow)}
    (mapped : done.map (fun answer => (store.withKeys answer.1, some answer.2)) =
      .ok (next, issued)) : ∃ answer, done = .ok answer ∧ next = store.withKeys answer.1 := by
  cases done with
  | error error => cases mapped
  | ok answer =>
      cases mapped
      exact ⟨answer, rfl, rfl⟩

theorem write_request_integrity (integral : StoreIntegrity store) {request : StoreRequest}
    {issued : Option ApiKeyRow}
    (done : writeRequest config store subject request = .ok (next, issued)) :
    StoreIntegrity next := by
  have tables : ∀ (op : TenancyOp) {tenancy : TenancyDb},
      operate config.quotaTiers store.tenancy subject op = .ok tenancy →
      SameIds store.tenancy tenancy → StoreIntegrity (store.withTenancy tenancy) :=
    fun op _ ran same => integrity_with_tenancy integral (operate_integrity integral.tenancy ran) same
  cases request with
  | createAccount defaultQuota => exact create_account_integrity integral (map_pair_ok done)
  | updateAccountDefaultQuota accountId defaultQuota =>
      exact update_account_integrity integral (map_pair_ok done)
  | setAccountStatus accountId status =>
      obtain ⟨tenancy, ran, rows⟩ := map_tables_ok done
      rw [rows]
      exact tables (.setAccountStatus accountId status) ran (same_ids_status ran)
  | deleteAccountPermanently accountId =>
      obtain ⟨tenancy, ran, rows⟩ := map_tables_ok done
      have kept : operate config.quotaTiers store.tenancy subject
          (.deleteAccountPermanently accountId) = .ok tenancy := ran
      rw [rows]
      refine integrity_after_deletion integral (operate_integrity integral.tenancy kept) ?_ ?_
      · rw [delete_account_ok ran]
        exact ⟨_, rfl⟩
      · rw [delete_account_ok ran]
        exact ⟨_, rfl⟩
  | createProject input => exact create_project_integrity integral (map_pair_ok done)
  | updateProject projectId input => exact update_project_integrity integral (map_pair_ok done)
  | deleteProject projectId =>
      obtain ⟨tenancy, ran, rows⟩ := map_tables_ok done
      have kept : operate config.quotaTiers store.tenancy subject (.deleteProject projectId) =
          .ok tenancy := ran
      rw [rows]
      refine integrity_after_deletion integral (operate_integrity integral.tenancy kept) ?_ ?_
      · rw [(delete_project_ok ran).2]
        exact ⟨fun _ => true, (List.filter_true _).symm⟩
      · rw [(delete_project_ok ran).2]
        exact ⟨_, rfl⟩
  | setProjectStatus projectId status =>
      obtain ⟨tenancy, ran, rows⟩ := map_tables_ok done
      rw [rows]
      exact tables (.setProjectStatus projectId status) ran
        (same_ids_column (withProjectStatus status) (fun _ => rfl) ran)
  | setDefaultProject projectId =>
      obtain ⟨tenancy, ran, rows⟩ := map_tables_ok done
      rw [rows]
      exact tables (.setDefaultProject projectId) ran (same_ids_default ran)
  | setProjectQuota projectId projectQuota =>
      exact set_quota_integrity integral (map_pair_ok done)
  | setProjectAllowedModels projectId models =>
      obtain ⟨tenancy, ran, rows⟩ := map_tables_ok done
      have set := set_allowed_models_ok ran
      rw [rows]
      exact tables (.setProjectAllowedModels projectId models) set
        (same_ids_column (withModels models) (fun _ => rfl) set)
  | setProjectModelPolicy projectId modelPolicy =>
      obtain ⟨tenancy, ran, rows⟩ := map_tables_ok done
      unfold setModelPolicy at ran
      rw [rows]
      split at ran
      · cases ran
      · rename_i policy parsed
        refine tables (.setProjectModelPolicy projectId policy) ran ?_
        rw [set_project_model_policy_ok ran]
        exact same_ids_update projectId (withPolicy policy) fun _ => rfl
  | changeRoster projectId target roster =>
      obtain ⟨tenancy, ran, rows⟩ := map_tables_ok done
      rw [rows]
      exact tables (.roster projectId target roster) ran (same_ids_roster ran)
  | createApiKey projectId input issue =>
      obtain ⟨answer, ran, rows⟩ := map_issue_ok done
      rw [rows]
      exact integrity_with_keys integral (create_key_integrity integral ran)
  | rotateApiKey id input issue =>
      obtain ⟨answer, ran, rows⟩ := map_issue_ok done
      rw [rows]
      exact integrity_with_keys integral (rotate_key_integrity integral ran)
  | revokeApiKey id now =>
      obtain ⟨keys, ran, rows⟩ := map_keys_ok (map_pair_ok done)
      rw [rows]
      exact integrity_with_keys integral (set_key_status_integrity integral.keys ran)
  | updateApiKey id name =>
      exact selected_key_integrity integral (keeps_key_guarded (keeps_key_name name) _)
        (map_pair_ok done)
  | deleteApiKey id now =>
      exact selected_key_integrity integral (keeps_key_guarded (keeps_key_deleted now) _)
        (map_pair_ok done)
  | _ =>
      cases done
      exact integral

theorem serve_integrity (config : StoreConfig) (call : StoreCall)
    (integral : StoreIntegrity store) : StoreIntegrity (serve config store call).1 := by
  unfold serve
  cases readRequest store call.subject call.request with
  | some reply => exact integral
  | none =>
      cases written : writeRequest config store call.subject call.request with
      | error error => exact integral
      | ok done => exact write_request_integrity integral written

end Writes

/-- The schema's constraints hold after every run of calls, accepted or refused. -/
theorem run_keeps_constraints (config : StoreConfig) (store : AuthzStore)
    (calls : List StoreCall) (integral : StoreIntegrity store) :
    StoreIntegrity (finalState (serve config) store calls) :=
  final_state_preserves (fun _ call => serve_integrity config call) integral calls

def emptyStore : AuthzStore := ⟨⟨[], [], []⟩, [], [], []⟩

theorem empty_store_integrity : StoreIntegrity emptyStore := by
  have noRow : ∀ {Row : Type} {holds : Row → Prop}, ∀ row ∈ ([] : List Row), holds row := by
    intro Row holds row member
    cases member
  exact
    { tenancy := ⟨unique_keys_nil, unique_keys_nil, unique_keys_nil, unique_keys_nil,
        noRow, noRow, noRow⟩
      accountTerms := rfl
      projectTerms := rfl
      billing := unique_keys_nil
      keys := ⟨unique_keys_nil, unique_keys_nil, noRow, noRow, noRow⟩ }

def departingCalls : List StoreCall :=
  [⟨"alice", .createAccount none⟩, ⟨"bob", .createAccount none⟩,
    ⟨"alice", .createProject ⟨"app", "alice", "app", .null, "free", "billing"⟩⟩,
    ⟨"alice", .createProject ⟨"other", "alice", "other", .null, "free", "billing"⟩⟩,
    ⟨"alice", .changeRoster "app" "bob" (.addProjectMember (some "lead"))⟩,
    ⟨"bob", .createApiKey "app" ⟨"key", some 1, "free"⟩ ⟨0, "key", fun _ => .ok ⟨"secret", none⟩⟩⟩,
    ⟨"bob", .deleteAccountPermanently "bob"⟩]

/-- The second project is refused for its billing identity; Bob's rows go with him. -/
theorem departing_calls_keep_constraints :
    StoreIntegrity (finalState (serve untieredConfig) emptyStore departingCalls) ∧
      (finalState (serve untieredConfig) emptyStore departingCalls).tenancy.accounts.length = 1 ∧
      (finalState (serve untieredConfig) emptyStore departingCalls).tenancy.projects.length = 1 ∧
      (finalState (serve untieredConfig) emptyStore (departingCalls.take 6)).keys.length = 1 ∧
      (finalState (serve untieredConfig) emptyStore departingCalls).keys.length = 0 :=
  ⟨run_keeps_constraints untieredConfig emptyStore departingCalls empty_store_integrity,
    by decide +kernel, by decide +kernel, by decide +kernel, by decide +kernel⟩

end LightbridgeAuthz.ApiKeys.StoreConstraints
