import LightbridgeAuthz.ApiKeys.StoreConstraints

/-!
# The configured catalogues

Quota tiers, models and billing plans come from the configuration. Along every run of calls
the tables name configured entries only, and the calls that name another entry might as well
not have been made.
-/

namespace LightbridgeAuthz.ApiKeys.CatalogueRuns

open Library.KeyedRows Library.Separation
open Access.Tenancy Access.TenancyOps Access.ModelPolicies Access.Standings Access.TenantSides
open KeyTable RosterCalls StoreCalls StoreSides AuthorityRuns StoreConstraints

set_option autoImplicit false

def ConfiguredTier (tiers : List String) (tier : Option String) : Prop :=
  ∀ id, tier = some id → tiers = [] ∨ id ∈ tiers

def ConfiguredModels (catalog : List ModelCatalogEntry) (models : Option (List String)) : Prop :=
  ∀ ids, models = some ids → catalog = [] ∨ ∀ id ∈ ids, id ∈ modelIds catalog

structure Catalogued (config : StoreConfig) (store : AuthzStore) : Prop where
  accountQuotas : ∀ terms ∈ store.accountTerms,
    ConfiguredTier config.quotaTiers terms.defaultQuota
  projectQuotas : ∀ terms ∈ store.projectTerms,
    ConfiguredTier config.quotaTiers terms.projectQuota
  memberTiers : ∀ member ∈ store.tenancy.members,
    ConfiguredTier config.quotaTiers member.quotaTier
  models : ∀ project ∈ store.tenancy.projects,
    ConfiguredModels config.models project.allowedModels
  plans : ∀ row ∈ store.keys, row.billingPlan ∈ config.apiKeys.billingPlans

theorem tier_allowed_iff {tiers : List String} {tier : Option String} :
    tierAllowed tiers tier = true ↔ ConfiguredTier tiers tier := by
  cases tier with
  | none => simp [tierAllowed, ConfiguredTier]
  | some id => simp [tierAllowed, ConfiguredTier]

theorem invalid_step_mem (configured found : List String) (model id : String) :
    id ∈ (if !configured.contains model && !found.contains model then found ++ [model]
        else found) ↔ id ∈ found ∨ (id = model ∧ id ∉ configured) := by
  by_cases isConfigured : model ∈ configured
  · have skipped : (!configured.contains model && !found.contains model) = false := by
      simp [isConfigured]
    rw [skipped, if_neg Bool.false_ne_true]
    refine (or_iff_left ?_).symm
    rintro ⟨rfl, absent⟩
    exact absent isConfigured
  · by_cases isFound : model ∈ found
    · have skipped : (!configured.contains model && !found.contains model) = false := by
        simp [isFound]
      rw [skipped, if_neg Bool.false_ne_true]
      refine (or_iff_left_of_imp ?_).symm
      rintro ⟨rfl, _⟩
      exact isFound
    · have added : (!configured.contains model && !found.contains model) = true := by
        simp [isConfigured, isFound]
      rw [added, if_pos rfl, List.mem_append, List.mem_singleton]
      refine or_congr_right (and_iff_left_of_imp ?_).symm
      rintro rfl
      exact isConfigured

theorem invalid_fold_mem (configured models found : List String) (id : String) :
    id ∈ models.foldl (fun invalid id =>
        if !configured.contains id && !invalid.contains id then invalid ++ [id] else invalid)
          found ↔
      id ∈ found ∨ (id ∈ models ∧ id ∉ configured) := by
  induction models generalizing found with
  | nil => simp
  | cons model rest induction =>
      rw [List.foldl_cons, induction, invalid_step_mem, List.mem_cons, or_and_right, or_assoc]

theorem invalid_ids_nil_iff {catalog : List ModelCatalogEntry} {models : Option (List String)} :
    invalidIds catalog models = [] ↔ ConfiguredModels catalog models := by
  cases models with
  | none => simp [invalidIds, ConfiguredModels]
  | some ids =>
      by_cases isEmpty : catalog = []
      · simp [invalidIds, ConfiguredModels, isEmpty]
      · have checked : invalidIds catalog (some ids) = ids.foldl (fun invalid id =>
            if !(modelIds catalog).contains id && !invalid.contains id then invalid ++ [id]
            else invalid) [] := by
          rw [invalidIds, if_neg (by simpa using isEmpty)]
        rw [checked, List.eq_nil_iff_forall_not_mem]
        simp only [invalid_fold_mem, List.not_mem_nil, false_or, not_and, not_not]
        constructor
        · intro all listed isListed
          cases isListed
          exact Or.inr all
        · intro configured id member
          exact (configured ids rfl).resolve_left isEmpty id member

section Operation

variable {tiers : List String} {tenancy next : TenancyDb} {subject : String}

theorem update_all {Row Key : Type} [DecidableEq Key] {key : Row → Option Key} {rows : List Row}
    {value : Key} {change : Row → Row} {holds : Row → Prop} (each : ∀ row ∈ rows, holds row)
    (changed : ∀ row ∈ rows, holds row → holds (change row)) :
    ∀ row ∈ updateKey key rows value change, holds row := by
  intro row member
  obtain ⟨old, stored, same⟩ := mem_update_key.mp member
  rw [← same]
  split
  · exact changed old stored (each old stored)
  · exact each old stored

theorem filter_all {Row : Type} {rows : List Row} {selects : Row → Bool} {holds : Row → Prop}
    (each : ∀ row ∈ rows, holds row) : ∀ row ∈ rows.filter selects, holds row :=
  fun row member => each row (List.mem_filter.mp member).1

theorem append_all {Row : Type} {rows : List Row} {fresh : Row} {holds : Row → Prop}
    (each : ∀ row ∈ rows, holds row) (added : holds fresh) :
    ∀ row ∈ rows ++ [fresh], holds row := by
  intro row member
  rcases List.mem_append.mp member with stored | isFresh
  · exact each row stored
  · rw [List.mem_singleton.mp isFresh]
    exact added

theorem no_tier_configured (tiers : List String) : ConfiguredTier tiers none := by
  intro id absent
  cases absent

theorem roster_member_tiers {projectId target : String} {request : RosterRequest}
    (done : rosterOperation tiers tenancy subject projectId target request = .ok next)
    (each : ∀ member ∈ tenancy.members, ConfiguredTier tiers member.quotaTier) :
    ∀ member ∈ next.members, ConfiguredTier tiers member.quotaTier := by
  obtain ⟨write, checked, _, applied⟩ := roster_operation_ok done
  cases write with
  | insert role =>
      rcases insert_member_ok applied with same | appended
      · rw [same]
        exact each
      · rw [appended]
        exact append_all each (no_tier_configured _)
  | delete =>
      cases applied
      exact filter_all each
  | setRole role =>
      rw [update_member_ok applied]
      exact update_all each fun _ _ holds => holds
  | setTier tier =>
      have allowed : ConfiguredTier tiers tier := by
        cases request with
        | setProjectMemberQuotaTier asked =>
            simp only [rosterWrite] at checked
            split_ifs at checked with isAllowed
            cases checked
            exact tier_allowed_iff.mp isAllowed
        | addProjectMember role =>
            simp only [rosterWrite, Except.map] at checked
            split at checked <;> cases checked
        | removeProjectMember => cases checked
        | setProjectMemberRole role =>
            simp only [rosterWrite, Except.map] at checked
            split at checked <;> cases checked
      rw [update_member_ok applied]
      exact update_all each fun _ _ _ => allowed

theorem operate_member_tiers {op : TenancyOp}
    (each : ∀ member ∈ tenancy.members, ConfiguredTier tiers member.quotaTier)
    (done : operate tiers tenancy subject op = .ok next) :
    ∀ member ∈ next.members, ConfiguredTier tiers member.quotaTier := by
  cases op with
  | createAccount =>
      rw [create_account_ok done]
      exact each
  | setAccountStatus accountId status =>
      rw [(set_account_status_ok done).2]
      exact each
  | deleteAccountPermanently accountId =>
      rw [delete_account_ok done]
      exact filter_all (filter_all each)
  | createProject id accountId =>
      rw [(create_project_row done).2.2]
      exact each
  | updateProject projectId accountId =>
      rcases update_project_verb_ok done with same | ⟨_, _, _, _, rows⟩
      · rw [same]
        exact each
      · rw [rows]
        exact each
  | deleteProject projectId =>
      rw [(delete_project_ok done).2]
      exact filter_all each
  | setProjectStatus projectId status =>
      rw [set_project_column_ok done]
      exact each
  | setDefaultProject projectId =>
      obtain ⟨_, _, rows⟩ := set_default_project_ok done
      rw [rows]
      exact each
  | setProjectAllowedModels projectId models =>
      rw [set_project_column_ok done]
      exact each
  | setProjectModelPolicy projectId policy =>
      rw [set_project_model_policy_ok done]
      exact each
  | roster projectId target request => exact roster_member_tiers done each

theorem operate_models {catalog : List ModelCatalogEntry} {op : TenancyOp}
    (each : ∀ project ∈ tenancy.projects, ConfiguredModels catalog project.allowedModels)
    (given : ∀ projectId models, op = .setProjectAllowedModels projectId models →
      ConfiguredModels catalog models)
    (done : operate tiers tenancy subject op = .ok next) :
    ∀ project ∈ next.projects, ConfiguredModels catalog project.allowedModels := by
  cases op with
  | createAccount =>
      rw [create_account_ok done]
      exact each
  | setAccountStatus accountId status =>
      rw [(set_account_status_ok done).1]
      exact each
  | deleteAccountPermanently accountId =>
      rw [delete_account_ok done]
      exact filter_all each
  | createProject id accountId =>
      rw [(create_project_row done).2.2]
      exact append_all each fun _ absent => by cases absent
  | updateProject projectId accountId =>
      rcases update_project_verb_ok done with same | ⟨_, _, _, _, rows⟩
      · rw [same]
        exact each
      · rw [rows]
        exact update_all each fun _ _ holds => holds
  | deleteProject projectId =>
      rw [(delete_project_ok done).2]
      exact filter_all each
  | setProjectStatus projectId status =>
      rw [set_project_column_ok done]
      exact update_all each fun _ _ holds => holds
  | setDefaultProject projectId =>
      obtain ⟨promoted, _, rows⟩ := set_default_project_ok done
      rw [rows]
      intro project member
      obtain ⟨old, stored, same⟩ := List.mem_map.mp member
      have keeps : (withDefault promoted.accountId promoted.id old).allowedModels =
          old.allowedModels := by
        unfold withDefault
        split_ifs <;> rfl
      rw [← same, keeps]
      exact each old stored
  | setProjectAllowedModels projectId models =>
      rw [set_project_column_ok done]
      exact update_all each fun _ _ _ => given projectId models rfl
  | setProjectModelPolicy projectId policy =>
      rw [set_project_model_policy_ok done]
      exact update_all each fun _ _ holds => holds
  | roster projectId target request =>
      rw [roster_operation_projects done]
      exact each

end Operation

section Writes

variable {config : StoreConfig} {store next : AuthzStore} {subject : String}

/-- The call names an entry that its catalogue does not have. -/
def namesUnconfigured (config : StoreConfig) : StoreRequest → Bool
  | .createAccount defaultQuota => !tierAllowed config.quotaTiers defaultQuota
  | .updateAccountDefaultQuota _ defaultQuota => !tierAllowed config.quotaTiers defaultQuota
  | .setProjectQuota _ projectQuota => !tierAllowed config.quotaTiers projectQuota
  | .setProjectAllowedModels _ models => !(invalidIds config.models models).isEmpty
  | .changeRoster _ _ (.setProjectMemberQuotaTier tier) => !tierAllowed config.quotaTiers tier
  | .createApiKey _ input _ => !config.apiKeys.allowsPlan input.billingPlan
  | _ => false

section Tables

variable {tenancy : TenancyDb} {op : TenancyOp}

theorem catalogued_with_tenancy (catalogued : Catalogued config store)
    (done : operate config.quotaTiers store.tenancy subject op = .ok tenancy)
    (given : ∀ projectId models, op = .setProjectAllowedModels projectId models →
      ConfiguredModels config.models models) :
    Catalogued config (store.withTenancy tenancy) where
  accountQuotas := catalogued.accountQuotas
  projectQuotas := catalogued.projectQuotas
  memberTiers := operate_member_tiers catalogued.memberTiers done
  models := operate_models catalogued.models given done
  plans := catalogued.plans

def NoModels (op : TenancyOp) : Prop :=
  ∀ projectId models, op ≠ .setProjectAllowedModels projectId models

theorem given_of_no_models (noModels : NoModels op) :
    ∀ projectId models, op = .setProjectAllowedModels projectId models →
      ConfiguredModels config.models models :=
  fun projectId models same => absurd same (noModels projectId models)

theorem table_write_catalogued (catalogued : Catalogued config store) (noModels : NoModels op)
    {issued : Option ApiKeyRow}
    (done : (operate config.quotaTiers store.tenancy subject op).map
      (fun tenancy => (store.withTenancy tenancy, (none : Option ApiKeyRow))) =
        .ok (next, issued)) : Catalogued config next := by
  obtain ⟨tenancy, ran, rows⟩ := map_tables_ok done
  rw [rows]
  exact catalogued_with_tenancy catalogued ran (given_of_no_models noModels)

theorem deletion_catalogued (catalogued : Catalogued config store) (noModels : NoModels op)
    {issued : Option ApiKeyRow}
    (done : (operate config.quotaTiers store.tenancy subject op).map
      (fun tenancy => (store.afterDeletion tenancy, (none : Option ApiKeyRow))) =
        .ok (next, issued)) : Catalogued config next := by
  obtain ⟨tenancy, ran, rows⟩ := map_tables_ok done
  rw [rows]
  exact
    { accountQuotas := filter_all catalogued.accountQuotas
      projectQuotas := filter_all catalogued.projectQuotas
      memberTiers := operate_member_tiers catalogued.memberTiers ran
      models := operate_models catalogued.models (given_of_no_models noModels) ran
      plans := filter_all catalogued.plans }

end Tables

theorem create_account_catalogued (catalogued : Catalogued config store)
    {defaultQuota : Option String}
    (done : createAccountWithQuota config store subject defaultQuota = .ok next) :
    Catalogued config next := by
  unfold createAccountWithQuota at done
  split_ifs at done with allowed
  cases created : createAccount store.tenancy subject with
  | error error => simp [created, Except.map] at done
  | ok tenancy =>
      have ran : operate config.quotaTiers store.tenancy subject .createAccount = .ok tenancy :=
        created
      rw [created] at done
      cases done
      exact
        { accountQuotas := append_all catalogued.accountQuotas (tier_allowed_iff.mp allowed)
          projectQuotas := catalogued.projectQuotas
          memberTiers := operate_member_tiers catalogued.memberTiers ran
          models := operate_models catalogued.models
            (given_of_no_models fun _ _ other => by cases other) ran
          plans := catalogued.plans }

theorem update_account_catalogued (catalogued : Catalogued config store) {accountId : String}
    {defaultQuota : Option String}
    (done : updateAccountDefaultQuota config store subject accountId defaultQuota = .ok next) :
    Catalogued config next := by
  unfold updateAccountDefaultQuota at done
  split_ifs at done with isAllowed standing
  cases done
  have allowed : ConfiguredTier config.quotaTiers defaultQuota := tier_allowed_iff.mp isAllowed
  exact
    { accountQuotas := update_all catalogued.accountQuotas fun _ _ _ => allowed
      projectQuotas := catalogued.projectQuotas
      memberTiers := catalogued.memberTiers
      models := catalogued.models
      plans := catalogued.plans }

theorem create_project_catalogued (catalogued : Catalogued config store)
    {input : CreateProjectInput} (done : createProjectRow store subject input = .ok next) :
    Catalogued config next := by
  obtain ⟨tenancy, created, rows⟩ := create_project_row_ok done
  have ran : operate config.quotaTiers store.tenancy subject
      (.createProject input.id input.accountId) = .ok tenancy := created
  rw [rows]
  exact
    { accountQuotas := catalogued.accountQuotas
      projectQuotas := append_all catalogued.projectQuotas (no_tier_configured _)
      memberTiers := operate_member_tiers catalogued.memberTiers ran
      models := operate_models catalogued.models
        (given_of_no_models fun _ _ other => by cases other) ran
      plans := catalogued.plans }

theorem update_project_catalogued (catalogued : Catalogued config store) {projectId : String}
    {input : UpdateProjectInput}
    (done : updateProjectRow store subject projectId input = .ok next) :
    Catalogued config next := by
  obtain ⟨tenancy, updated, rows⟩ := update_project_row_ok done
  have ran : operate config.quotaTiers store.tenancy subject
      (.updateProject projectId input.accountId) = .ok tenancy := updated
  rw [rows]
  exact
    { accountQuotas := catalogued.accountQuotas
      projectQuotas := update_all catalogued.projectQuotas fun _ _ holds => holds
      memberTiers := operate_member_tiers catalogued.memberTiers ran
      models := operate_models catalogued.models
        (given_of_no_models fun _ _ other => by cases other) ran
      plans := catalogued.plans }

theorem set_quota_catalogued (catalogued : Catalogued config store) {projectId : String}
    {projectQuota : Option String}
    (done : setProjectQuota config store subject projectId projectQuota = .ok next) :
    Catalogued config next := by
  unfold setProjectQuota at done
  split_ifs at done with isAllowed
  split at done
  · cases done
  · cases done
    have allowed : ConfiguredTier config.quotaTiers projectQuota := tier_allowed_iff.mp isAllowed
    exact
      { accountQuotas := catalogued.accountQuotas
        projectQuotas := update_all catalogued.projectQuotas fun _ _ _ => allowed
        memberTiers := catalogued.memberTiers
        models := catalogued.models
        plans := catalogued.plans }

theorem set_models_catalogued (catalogued : Catalogued config store) {projectId : String}
    {models : Option (List String)} {tenancy : TenancyDb}
    (done : setProjectAllowedModels config store.tenancy subject projectId models = .ok tenancy) :
    Catalogued config (store.withTenancy tenancy) := by
  have ran : operate config.quotaTiers store.tenancy subject
      (.setProjectAllowedModels projectId models) = .ok tenancy := set_allowed_models_ok done
  have configured : ConfiguredModels config.models models := by
    unfold setProjectAllowedModels at done
    split at done
    · rename_i none
      exact invalid_ids_nil_iff.mp none
    · cases done
  refine catalogued_with_tenancy catalogued ran ?_
  intro target listed same
  cases same
  exact configured

theorem set_policy_catalogued (catalogued : Catalogued config store)
    {projectId modelPolicy : String} {tenancy : TenancyDb}
    (done : setModelPolicy store.tenancy subject projectId modelPolicy = .ok tenancy) :
    Catalogued config (store.withTenancy tenancy) := by
  unfold setModelPolicy at done
  split at done
  · cases done
  · rename_i policy parsed
    have ran : operate config.quotaTiers store.tenancy subject
        (.setProjectModelPolicy projectId policy) = .ok tenancy := done
    exact catalogued_with_tenancy catalogued ran
      (given_of_no_models fun _ _ other => by cases other)

theorem catalogued_with_keys (catalogued : Catalogued config store) {keys : List ApiKeyRow}
    (plans : ∀ row ∈ keys, row.billingPlan ∈ config.apiKeys.billingPlans) :
    Catalogued config (store.withKeys keys) where
  accountQuotas := catalogued.accountQuotas
  projectQuotas := catalogued.projectQuotas
  memberTiers := catalogued.memberTiers
  models := catalogued.models
  plans := plans

theorem insert_key_plans {tenancy : TenancyDb} {keys written : List ApiKeyRow} {row : ApiKeyRow}
    {plans : List String} (each : ∀ stored ∈ keys, stored.billingPlan ∈ plans)
    (configured : row.billingPlan ∈ plans) (done : insertKey tenancy keys row = .ok written) :
    ∀ stored ∈ written, stored.billingPlan ∈ plans := by
  unfold insertKey at done
  split_ifs at done
  cases done
  exact append_all each configured

theorem set_key_status_plans {tenancy : TenancyDb} {keys written : List ApiKeyRow}
    {plans : List String} {id : String} {status : ApiKeyStatus} {revokedAt expiresAt : Option Int}
    (each : ∀ stored ∈ keys, stored.billingPlan ∈ plans)
    (done : setApiKeyStatus tenancy keys subject id status revokedAt expiresAt = .ok written) :
    ∀ stored ∈ written, stored.billingPlan ∈ plans := by
  unfold setApiKeyStatus at done
  split at done
  · cases done
  · cases done
    exact update_all each fun _ _ holds => holds

theorem plan_creation_plan {projectId : String} {input : CreateApiKey} {now : Int}
    {newId : String} {issued : Except AccessError IssuedSecret} {row : ApiKeyRow}
    (planned : planCreation config.apiKeys subject projectId input now newId issued = .ok row) :
    row.billingPlan ∈ config.apiKeys.billingPlans := by
  unfold planCreation at planned
  by_cases allowed : config.apiKeys.allowsPlan input.billingPlan = true
  · have configured : input.billingPlan ∈ config.apiKeys.billingPlans := by
      have both := allowed
      simp only [KeyConfig.allowsPlan, Bool.and_eq_true, List.contains_iff_mem] at both
      exact both.2
    rw [if_neg (not_not.mpr allowed)] at planned
    cases valid : validateExpiresAt input.expiresAt now config.apiKeys.maxLifetimeDays with
    | error error => simp [valid, bind, Except.bind] at planned
    | ok requested =>
        cases issued with
        | error error => simp [valid, bind, Except.bind] at planned
        | ok secret =>
            rw [valid] at planned
            cases planned
            exact configured
  · rw [if_pos allowed] at planned
    cases planned

theorem plan_rotation_plan {existing : ApiKeyRow} {input : RotateApiKey} {now : Int}
    {newId : String} {issued : Except AccessError IssuedSecret} {plan : RotationPlan}
    (planned : planRotation config.apiKeys subject existing input now newId issued = .ok plan) :
    plan.newKey.billingPlan = existing.billingPlan := by
  unfold planRotation at planned
  cases outcome : graceOutcome existing input.gracePeriodSeconds now with
  | error error => simp [outcome, bind, Except.bind] at planned
  | ok decided =>
      cases valid : validateExpiresAt (resolveRotatedExpiresAt input.expiresAt existing.expiresAt)
          now config.apiKeys.maxLifetimeDays with
      | error error => simp [outcome, valid, bind, Except.bind] at planned
      | ok requested =>
          cases issued with
          | error error => simp [outcome, valid, bind, Except.bind] at planned
          | ok secret =>
              rw [outcome, valid] at planned
              cases planned
              rfl

theorem create_key_plans (catalogued : Catalogued config store) {projectId : String}
    {input : CreateApiKey} {issue : Issue} {issued : List ApiKeyRow × ApiKeyRow}
    (done : StoreCalls.createApiKey config store subject projectId input issue = .ok issued) :
    ∀ row ∈ issued.1, row.billingPlan ∈ config.apiKeys.billingPlans := by
  simp only [StoreCalls.createApiKey, bind, Except.bind] at done
  split at done
  · cases done
  · rename_i planned
    split at done
    · cases done
    · split at done
      · cases done
      · rename_i inserted
        cases done
        exact insert_key_plans catalogued.plans (plan_creation_plan planned) inserted

theorem rotate_key_plans (catalogued : Catalogued config store) {id : String}
    {input : RotateApiKey} {issue : Issue} {issued : List ApiKeyRow × ApiKeyRow}
    (done : StoreCalls.rotateApiKey config store subject id input issue = .ok issued) :
    ∀ row ∈ issued.1, row.billingPlan ∈ config.apiKeys.billingPlans := by
  simp only [StoreCalls.rotateApiKey, bind, Except.bind] at done
  split at done
  · cases done
  · rename_i existing found
    split at done
    · cases done
    · rename_i plan planned
      split at done
      · cases done
      · rename_i rotated
        cases done
        have stored : existing ∈ store.keys :=
          (find_key_some (Option.filter_eq_some_iff.mp found).1).1
        have configured : plan.newKey.billingPlan ∈ config.apiKeys.billingPlans := by
          rw [plan_rotation_plan planned]
          exact catalogued.plans existing stored
        unfold rotateApiKeyTransaction at rotated
        split at rotated
        · cases rotated
        · rename_i updated isUpdated
          split at rotated
          · exact insert_key_plans (set_key_status_plans catalogued.plans isUpdated) configured
              rotated
          · cases rotated

theorem selected_key_catalogued (catalogued : Catalogued config store) {id : String}
    {keys : List ApiKeyRow} (plans : ∀ row ∈ keys, row.billingPlan ∈ config.apiKeys.billingPlans)
    (done : withSelectedKey store subject id keys = .ok next) : Catalogued config next := by
  unfold withSelectedKey at done
  split at done
  · cases done
  · cases done
    exact catalogued_with_keys catalogued plans

theorem write_request_catalogued (catalogued : Catalogued config store) {request : StoreRequest}
    {issued : Option ApiKeyRow}
    (done : writeRequest config store subject request = .ok (next, issued)) :
    Catalogued config next := by
  cases request with
  | createAccount defaultQuota => exact create_account_catalogued catalogued (map_pair_ok done)
  | updateAccountDefaultQuota accountId defaultQuota =>
      exact update_account_catalogued catalogued (map_pair_ok done)
  | setAccountStatus accountId status =>
      have plain : NoModels (.setAccountStatus accountId status) := fun _ _ other => by cases other
      exact table_write_catalogued catalogued plain done
  | deleteAccountPermanently accountId =>
      have plain : NoModels (.deleteAccountPermanently accountId) := fun _ _ other => by
        cases other
      exact deletion_catalogued catalogued plain done
  | createProject input => exact create_project_catalogued catalogued (map_pair_ok done)
  | updateProject projectId input =>
      exact update_project_catalogued catalogued (map_pair_ok done)
  | deleteProject projectId =>
      have plain : NoModels (.deleteProject projectId) := fun _ _ other => by cases other
      exact deletion_catalogued catalogued plain done
  | setProjectStatus projectId status =>
      have plain : NoModels (.setProjectStatus projectId status) := fun _ _ other => by cases other
      exact table_write_catalogued catalogued plain done
  | setDefaultProject projectId =>
      have plain : NoModels (.setDefaultProject projectId) := fun _ _ other => by cases other
      exact table_write_catalogued catalogued plain done
  | setProjectQuota projectId projectQuota =>
      exact set_quota_catalogued catalogued (map_pair_ok done)
  | setProjectAllowedModels projectId models =>
      obtain ⟨tenancy, ran, rows⟩ := map_tables_ok done
      rw [rows]
      exact set_models_catalogued catalogued ran
  | setProjectModelPolicy projectId modelPolicy =>
      obtain ⟨tenancy, ran, rows⟩ := map_tables_ok done
      rw [rows]
      exact set_policy_catalogued catalogued ran
  | changeRoster projectId target roster =>
      have plain : NoModels (.roster projectId target roster) := fun _ _ other => by cases other
      exact table_write_catalogued catalogued plain done
  | createApiKey projectId input issue =>
      obtain ⟨answer, ran, rows⟩ := map_issue_ok done
      rw [rows]
      exact catalogued_with_keys catalogued (create_key_plans catalogued ran)
  | rotateApiKey id input issue =>
      obtain ⟨answer, ran, rows⟩ := map_issue_ok done
      rw [rows]
      exact catalogued_with_keys catalogued (rotate_key_plans catalogued ran)
  | revokeApiKey id now =>
      obtain ⟨keys, ran, rows⟩ := map_keys_ok (map_pair_ok done)
      rw [rows]
      exact catalogued_with_keys catalogued (set_key_status_plans catalogued.plans ran)
  | updateApiKey id name =>
      refine selected_key_catalogued catalogued (update_all catalogued.plans ?_) (map_pair_ok done)
      intro row _ holds
      split <;> exact holds
  | deleteApiKey id now =>
      refine selected_key_catalogued catalogued (update_all catalogued.plans ?_) (map_pair_ok done)
      intro row _ holds
      split <;> exact holds
  | _ =>
      cases done
      exact catalogued

theorem serve_catalogued (call : StoreCall) (catalogued : Catalogued config store) :
    Catalogued config (serve config store call).1 := by
  unfold serve
  cases readRequest store call.subject call.request with
  | some reply => exact catalogued
  | none =>
      cases written : writeRequest config store call.subject call.request with
      | error error => exact catalogued
      | ok done => exact write_request_catalogued catalogued written

theorem unconfigured_is_refused {request : StoreRequest}
    (unconfigured : namesUnconfigured config request = true) :
    readRequest store subject request = none ∧
      ∃ error, writeRequest config store subject request = .error error := by
  cases request with
  | createAccount defaultQuota =>
      have unknown : ¬ tierAllowed config.quotaTiers defaultQuota = true := by
        simpa [namesUnconfigured] using unconfigured
      refine ⟨rfl, unknownTierOf "defaultQuota" config.quotaTiers defaultQuota, ?_⟩
      rw [writeRequest, createAccountWithQuota, if_neg unknown]
      rfl
  | updateAccountDefaultQuota accountId defaultQuota =>
      have unknown : ¬ tierAllowed config.quotaTiers defaultQuota = true := by
        simpa [namesUnconfigured] using unconfigured
      refine ⟨rfl, unknownTierOf "defaultQuota" config.quotaTiers defaultQuota, ?_⟩
      rw [writeRequest, updateAccountDefaultQuota, if_pos unknown]
      rfl
  | setProjectQuota projectId projectQuota =>
      have unknown : ¬ tierAllowed config.quotaTiers projectQuota = true := by
        simpa [namesUnconfigured] using unconfigured
      refine ⟨rfl, unknownTierOf "projectQuota" config.quotaTiers projectQuota, ?_⟩
      rw [writeRequest, setProjectQuota, if_pos unknown]
      rfl
  | setProjectAllowedModels projectId models =>
      refine ⟨rfl, unknownModels config.models (invalidIds config.models models), ?_⟩
      rw [writeRequest, setProjectAllowedModels]
      cases invalid : invalidIds config.models models with
      | nil => simp [namesUnconfigured, invalid] at unconfigured
      | cons first rest => rfl
  | changeRoster projectId target roster =>
      cases roster with
      | setProjectMemberQuotaTier tier =>
          have unknown : ¬ tierAllowed config.quotaTiers tier = true := by
            simpa [namesUnconfigured] using unconfigured
          refine ⟨rfl, unknownTier config.quotaTiers tier, ?_⟩
          rw [writeRequest, rosterOperation, rosterWrite, if_neg unknown]
          rfl
      | addProjectMember role => cases unconfigured
      | removeProjectMember => cases unconfigured
      | setProjectMemberRole role => cases unconfigured
  | createApiKey projectId input issue =>
      have unknown : ¬ config.apiKeys.allowsPlan input.billingPlan = true := by
        simpa [namesUnconfigured] using unconfigured
      refine ⟨rfl, ?_⟩
      rw [writeRequest, StoreCalls.createApiKey, planCreation, if_pos unknown]
      exact ⟨_, rfl⟩
  | _ => cases unconfigured

theorem unconfigured_call_is_void (call : StoreCall)
    (unconfigured : namesUnconfigured config call.request = true) :
    (serve config store call).1 = store := by
  obtain ⟨notRead, error, refused⟩ := unconfigured_is_refused unconfigured
  rw [serve, notRead, refused]

end Writes

/-- What the catalogues are good for along a run of calls. -/
structure CatalogueEnforced (config : StoreConfig) (store : AuthzStore) (calls : List StoreCall) :
    Prop where
  catalogued : Catalogued config (finalState (serve config) store calls)
  passedOver : finalState (serve config) store calls =
    finalState (serve config) store
      (calls.filter fun call => !namesUnconfigured config call.request)

/-- Whatever the calls, the tables name configured tiers, models and plans only, and the calls
that name others leave no trace. -/
theorem catalogue_enforced (config : StoreConfig) (store : AuthzStore) (calls : List StoreCall)
    (catalogued : Catalogued config store) : CatalogueEnforced config store calls where
  catalogued := final_state_preserves (fun _ call => serve_catalogued call) catalogued calls
  passedOver := final_state_filter fun _ call isVoid =>
    unconfigured_call_is_void call (by simpa using isVoid)

def smallCatalogues : StoreConfig where
  quotaTiers := ["basic"]
  models := [⟨"small", "Small"⟩]
  apiKeys := { hashApiKey := id, maxLifetimeDays := 90, billingPlans := ["free"] }

/-- Alice asks for a tier, a model and a plan that are not configured, then for ones that are. -/
def choosingCalls : List StoreCall :=
  [⟨"alice", .createAccount (some "gold")⟩, ⟨"alice", .createAccount (some "basic")⟩,
    ⟨"alice", .createProject ⟨"app", "alice", "app", .null, "free", "billing"⟩⟩,
    ⟨"alice", .setProjectAllowedModels "app" (some ["small", "large"])⟩,
    ⟨"alice", .setProjectAllowedModels "app" (some ["small"])⟩,
    ⟨"alice", .createApiKey "app" ⟨"key", some 1, "pro"⟩
      ⟨0, "key", fun _ => .ok ⟨"secret", none⟩⟩⟩,
    ⟨"alice", .createApiKey "app" ⟨"key", some 1, "free"⟩
      ⟨0, "key", fun _ => .ok ⟨"secret", none⟩⟩⟩]

theorem choosing_calls_enforced :
    CatalogueEnforced smallCatalogues emptyStore choosingCalls ∧
      (choosingCalls.filter fun call =>
        !namesUnconfigured smallCatalogues call.request).length = 4 ∧
      (finalState (serve smallCatalogues) emptyStore choosingCalls).keys.map
        ApiKeyRow.billingPlan = ["free"] ∧
      (finalState (serve smallCatalogues) emptyStore choosingCalls).tenancy.projects.map
        Project.allowedModels = [some ["small"]] := by
  have empty : Catalogued smallCatalogues emptyStore := by
    constructor <;> intro row member <;> cases member
  exact ⟨catalogue_enforced smallCatalogues emptyStore choosingCalls empty, by decide +kernel,
    by decide +kernel, by decide +kernel⟩

end LightbridgeAuthz.ApiKeys.CatalogueRuns
