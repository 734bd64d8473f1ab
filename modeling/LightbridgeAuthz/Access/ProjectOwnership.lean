import LightbridgeAuthz.Access.TenancyOps
import LightbridgeAuthz.Library.EventRun

/-!
# Who owns a project

Every operation is open to some subject besides the owner of a project's account:
roster members update the row, promote it to default and suspend it. Of all the
columns these operations write, `account_id` is written by `model.Project.update`
alone, whose policy looks at the stored row only. Along every run of other
subjects in which no roster member names another account there, the projects of
an account and its default project stay with it.
-/

namespace LightbridgeAuthz.Access.ProjectOwnership

open Library.KeyedRows Library.EventRun
open Tenancy TenancyOps

set_option autoImplicit false

structure Act where
  subject : String
  op : TenancyOp
  deriving DecidableEq, Repr

/-- One operation; a refused one leaves the tables as they are. -/
def tenancyStep (tiers : List String) (tenancy : TenancyDb) (act : Act) : Option TenancyDb :=
  match operate tiers tenancy act.subject act.op with
  | .error _ => some tenancy
  | .ok next => some next

/-- `model.Project.update` with another account's id, for a project of `owner` that
the caller may update. -/
def takesAway (owner : String) (tenancy : TenancyDb) : Act → Bool
  | ⟨subject, .updateProject projectId (some accountId)⟩ =>
      accountId != owner &&
        (visibleProject tenancy subject projectId).any fun project => project.accountId == owner
  | _ => false

/-- What an operation leaves of the projects of `owner`: each is still there and
still theirs, and one that was default still has a default beside it. -/
structure Keeps (owner : String) (before after : List Project) : Prop where
  owned : ∀ project ∈ before, project.accountId = owner →
    ∃ later ∈ after, later.id = project.id ∧ later.accountId = owner
  default : (∃ project ∈ before, project.accountId = owner ∧ project.isDefault = true) →
    ∃ project ∈ after, project.accountId = owner ∧ project.isDefault = true

theorem keeps_of_rows {owner : String} {before after : List Project}
    (rows : ∀ project ∈ before, project.accountId = owner →
      ∃ later ∈ after, later.id = project.id ∧ later.accountId = owner ∧
        later.isDefault = project.isDefault) : Keeps owner before after := by
  constructor
  · intro project member owned
    obtain ⟨later, laterMember, sameId, sameOwner, _⟩ := rows project member owned
    exact ⟨later, laterMember, sameId, sameOwner⟩
  · rintro ⟨project, member, owned, isDefault⟩
    obtain ⟨later, laterMember, _, sameOwner, sameDefault⟩ := rows project member owned
    exact ⟨later, laterMember, sameOwner, sameDefault.trans isDefault⟩

theorem keeps_refl (owner : String) (projects : List Project) : Keeps owner projects projects :=
  keeps_of_rows fun project member owned => ⟨project, member, rfl, owned, rfl⟩

theorem keeps_update {owner target : String} {projects : List Project}
    {change : Project → Project}
    (same : ∀ project ∈ projects, project.id = target → project.accountId = owner →
      (change project).id = project.id ∧ (change project).accountId = owner ∧
        (change project).isDefault = project.isDefault) :
    Keeps owner projects (updateKey projectKey projects target change) := by
  apply keeps_of_rows
  intro project member owned
  by_cases hit : projectKey project = some target
  · have isTarget : project.id = target := Option.some.inj hit
    exact ⟨change project, mem_update_key.mpr ⟨project, member, if_pos hit⟩,
      same project member isTarget owned⟩
  · exact ⟨project, mem_update_key.mpr ⟨project, member, if_neg hit⟩, rfl, owned, rfl⟩

theorem keeps_filter {owner : String} {projects : List Project} {keep : Project → Bool}
    (kept : ∀ project ∈ projects, project.accountId = owner → keep project = true) :
    Keeps owner projects (projects.filter keep) := by
  apply keeps_of_rows
  intro project member owned
  exact ⟨project, List.mem_filter.mpr ⟨member, kept project member owned⟩, rfl, owned, rfl⟩

theorem keeps_set_default {owner : String} {projects : List Project} {promoted : Project}
    (member : promoted ∈ projects) :
    Keeps owner projects
      (projects.map (withDefault promoted.accountId promoted.id)) := by
  have sameRow := with_default_row promoted.accountId promoted.id
  constructor
  · intro project projectMember owned
    refine ⟨_, List.mem_map_of_mem projectMember, (sameRow project).1, ?_⟩
    rw [(sameRow project).2]
    exact owned
  · rintro ⟨project, projectMember, owned, isDefault⟩
    by_cases theirs : promoted.accountId = owner
    · refine ⟨_, List.mem_map_of_mem member, ?_, ?_⟩
      · rw [(sameRow promoted).2]
        exact theirs
      · simp [withDefault]
    · refine ⟨_, List.mem_map_of_mem projectMember, ?_, ?_⟩
      · rw [(sameRow project).2]
        exact owned
      · have apart : project.accountId ≠ promoted.accountId := by
          rw [owned]
          exact fun same => theirs same.symm
        by_cases same : project.id = promoted.id
        · simp [withDefault, same]
        · simpa [withDefault, same, apart] using isDefault

section Operation

variable {tiers : List String} {tenancy next : TenancyDb} {subject owner : String}

theorem operate_keeps {op : TenancyOp} (unique : UniqueKeys projectKey tenancy.projects)
    (other : subject ≠ owner) (stays : takesAway owner tenancy ⟨subject, op⟩ = false)
    (done : operate tiers tenancy subject op = .ok next) :
    Keeps owner tenancy.projects next.projects := by
  cases op with
  | createAccount =>
      rw [create_account_ok done]
      exact keeps_refl owner _
  | setAccountStatus accountId status =>
      rw [(set_account_status_ok done).1]
      exact keeps_refl owner _
  | deleteAccountPermanently accountId =>
      rw [delete_account_ok done]
      apply keeps_filter
      intro project _ owned
      simp [owned, Ne.symm other]
  | createProject id accountId =>
      obtain ⟨fresh, appended, _⟩ := create_project_ok done
      rw [appended]
      apply keeps_of_rows
      intro project member owned
      exact ⟨project, List.mem_append_left _ member, rfl, owned, rfl⟩
  | updateProject projectId accountId =>
      rcases update_project_verb_ok done with same | ⟨project, moved, visible, isMoved, rows⟩
      · rw [same]
        exact keeps_refl owner _
      · rw [rows]
        apply keeps_update
        intro stored member isTarget owned
        have found : getProjectById tenancy projectId = some stored :=
          find_key_eq_of_unique unique member (congrArg some isTarget)
        have isStored : project = stored :=
          Option.some.inj ((visible_project_found visible).symm.trans found)
        have back : moved = owner := by
          by_contra elsewhere
          simp [takesAway, isMoved, elsewhere, visible, isStored, owned] at stays
        exact ⟨rfl, back, rfl⟩
  | deleteProject projectId =>
      obtain ⟨⟨deleted, found, theirs⟩, rows⟩ := delete_project_ok done
      rw [rows]
      apply keeps_filter
      intro project member owned
      have apart : project.id ≠ projectId := by
        intro same
        have isDeleted : project = deleted := unique_keys_eq unique member
          (find_key_some found).1 (congrArg some same) (find_key_some found).2
        rw [← theirs, ← isDeleted] at other
        exact other owned
      simp [apart]
  | setProjectStatus projectId status =>
      rw [set_project_column_ok done]
      exact keeps_update fun _ _ _ owned => ⟨rfl, owned, rfl⟩
  | setDefaultProject projectId =>
      obtain ⟨promoted, member, rows⟩ := set_default_project_ok done
      rw [rows]
      exact keeps_set_default member
  | setProjectAllowedModels projectId models =>
      rw [set_project_column_ok done]
      exact keeps_update fun _ _ _ owned => ⟨rfl, owned, rfl⟩
  | setProjectModelPolicy projectId policy =>
      rw [set_project_model_policy_ok done]
      exact keeps_update fun _ _ _ owned => ⟨rfl, owned, rfl⟩
  | roster projectId target request =>
      rw [roster_operation_projects done]
      exact keeps_refl owner _

end Operation

/-- A project of `owner`, and whether `owner` has a default project. -/
structure Standing (owner projectId : String) (startedWithDefault : Bool)
    (tenancy : TenancyDb) : Prop where
  unique : UniqueKeys projectKey tenancy.projects
  owned : ∃ project ∈ tenancy.projects, project.id = projectId ∧ project.accountId = owner
  default : startedWithDefault = true →
    ∃ project ∈ tenancy.projects, project.accountId = owner ∧ project.isDefault = true

theorem step_standing {tiers : List String} {owner projectId : String}
    {startedWithDefault : Bool} {tenancy next : TenancyDb} {act : Act}
    (standing : Standing owner projectId startedWithDefault tenancy)
    (other : act.subject ≠ owner) (stays : takesAway owner tenancy act = false)
    (stepped : tenancyStep tiers tenancy act = some next) :
    Standing owner projectId startedWithDefault next := by
  unfold tenancyStep at stepped
  split at stepped
  · cases stepped
    exact standing
  · rename_i written done
    cases stepped
    have keeps := operate_keeps standing.unique other stays done
    obtain ⟨project, member, named, owned⟩ := standing.owned
    obtain ⟨later, laterMember, sameId, laterOwned⟩ := keeps.owned project member owned
    exact
      { unique := operate_unique standing.unique done
        owned := ⟨later, laterMember, sameId.trans named, laterOwned⟩
        default := fun started => keeps.default (standing.default started) }

theorem has_default_iff {tenancy : TenancyDb} {owner : String} :
    hasDefault tenancy owner = true ↔
      ∃ project ∈ tenancy.projects, project.accountId = owner ∧ project.isDefault = true := by
  simp [hasDefault]

/-- Along every run of other subjects' operations in which no roster member names
another account in `model.Project.update`, a project keeps its account and the
account keeps a default project. -/
theorem project_ownership_stable (tiers : List String) {start last : TenancyDb}
    {acts : List Act} {owner projectId : String} {project : Project}
    (unique : UniqueKeys projectKey start.projects)
    (found : getProjectById start projectId = some project) (owned : project.accountId = owner)
    (others : ∀ act ∈ acts, act.subject ≠ owner)
    (met : Meets (tenancyStep tiers) (fun tenancy act => takesAway owner tenancy act = false)
      start acts)
    (ran : runFrom (tenancyStep tiers) start acts = some last) :
    (∃ later, getProjectById last projectId = some later ∧ later.accountId = owner) ∧
      (hasDefault start owner = true → hasDefault last owner = true) := by
  obtain ⟨member, keyed⟩ := find_key_some found
  have start_standing : Standing owner projectId (hasDefault start owner) start :=
    { unique := unique
      owned := ⟨project, member, Option.some.inj keyed, owned⟩
      default := has_default_iff.mp }
  have byOthers : Meets (tenancyStep tiers) (fun _ act => act.subject ≠ owner) start acts :=
    meets_of_forall_mem fun act actMember _ => others act actMember
  have standing := run_preserves_of_meets
    (Standing owner projectId (hasDefault start owner))
    (fun _ _ _ inv now stepped => step_standing inv now.1 now.2 stepped)
    start_standing (meets_and byOthers met) ran
  obtain ⟨later, laterMember, named, laterOwned⟩ := standing.owned
  refine ⟨⟨later, ?_, laterOwned⟩, ?_⟩
  · exact find_key_eq_of_unique standing.unique laterMember (congrArg some named)
  · intro started
    exact has_default_iff.mpr (standing.default started)

/-- An account with a default project and a shared one, and a plain member. -/
def sharedTenancy : TenancyDb :=
  { accounts := [⟨"owner", .active⟩, ⟨"member", .active⟩]
    projects :=
      [⟨"home", "owner", .active, true, none, .allowAll⟩,
        ⟨"shared", "owner", .active, false, none, .allowAll⟩]
    members := [⟨"shared", "member", .member, none⟩] }

/-- What a member may do to a project short of naming its account. -/
def memberActs : List Act :=
  [⟨"member", .setDefaultProject "shared"⟩, ⟨"member", .updateProject "shared" none⟩,
    ⟨"member", .setProjectStatus "shared" .suspended⟩, ⟨"member", .deleteProject "shared"⟩]

theorem member_acts_keep_ownership :
    ∃ last, runFrom (tenancyStep []) sharedTenancy memberActs = some last ∧
      (∃ later, getProjectById last "shared" = some later ∧ later.accountId = "owner") ∧
      (hasDefault sharedTenancy "owner" = true → hasDefault last "owner" = true) := by
  have passed : reaches (tenancyStep []) sharedTenancy memberActs
      (fun last => last.projects.length == 2) = true := by
    decide +kernel
  obtain ⟨last, ran, _⟩ := exists_of_reaches passed
  have found : getProjectById sharedTenancy "shared" =
      some ⟨"shared", "owner", .active, false, none, .allowAll⟩ := by
    decide +kernel
  refine ⟨last, ran, project_ownership_stable [] ?_ found rfl ?_ ?_ ran⟩
  · decide +kernel
  · decide +kernel
  · decide +kernel

/-- A plain member promotes the project and moves it to their own account: the
owner has lost the project and has no default project left. -/
theorem member_takes_project_over :
    UniqueKeys projectKey sharedTenancy.projects ∧
      hasDefault sharedTenancy "owner" = true ∧
      (getProjectById sharedTenancy "shared").any (fun project =>
        project.accountId == "owner") = true ∧
      ∃ last, runFrom (tenancyStep []) sharedTenancy
          [⟨"member", .setDefaultProject "shared"⟩,
            ⟨"member", .updateProject "shared" (some "member")⟩] = some last ∧
        (getProjectById last "shared").any (fun project =>
          project.accountId == "member") = true ∧
        hasDefault last "owner" = false := by
  refine ⟨by decide +kernel, by decide +kernel, by decide +kernel, ?_⟩
  have passed : reaches (tenancyStep []) sharedTenancy
      [⟨"member", .setDefaultProject "shared"⟩,
        ⟨"member", .updateProject "shared" (some "member")⟩]
      (fun last =>
        (getProjectById last "shared").any (fun project => project.accountId == "member") &&
          !hasDefault last "owner") = true := by
    decide +kernel
  obtain ⟨last, ran, ends⟩ := exists_of_reaches passed
  simp only [Bool.and_eq_true, Bool.not_eq_true'] at ends
  exact ⟨last, ran, ends.1, ends.2⟩

end LightbridgeAuthz.Access.ProjectOwnership
