import LightbridgeAuthz.Access.TenantSides

/-!
# Standing on a project

Who owns a project and who is on its roster in what role, and the only ways in which an
operation changes either.
-/

namespace LightbridgeAuthz.Access.Standings

open Library.KeyedRows
open Tenancy TenancyOps TenantSides

set_option autoImplicit false

def ownerOf (tenancy : TenancyDb) (projectId : String) : Option String :=
  (getProjectById tenancy projectId).map Project.accountId

/-- What `authorize_project_lead` asks for. -/
def Manages (tenancy : TenancyDb) (projectId subject : String) : Prop :=
  authorizeProjectLead tenancy projectId subject = .ok ()

/-- The role that a roster request writes into a row. -/
def grantedRole : RosterRequest → Option ProjectRole
  | .addProjectMember role => projectRole (role.getD "member")
  | .setProjectMemberRole role => projectRole role
  | .removeProjectMember => none
  | .setProjectMemberQuotaTier _ => none

/-- Every roster row stands under a project, and no two projects share an id. -/
structure Rostered (tenancy : TenancyDb) : Prop where
  unique : UniqueKeys projectKey tenancy.projects
  stand : ∀ member ∈ tenancy.members, (ownerOf tenancy member.projectId).isSome = true

theorem sees_project_of_owner {tenancy : TenancyDb} {projectId subject : String} :
    seesProject tenancy subject projectId = true ↔
      ∃ owner, ownerOf tenancy projectId = some owner ∧
        (owner = subject ∨ (projectMemberRole tenancy projectId subject).isSome = true) := by
  rw [sees_project_iff]
  simp only [ownerOf, projectMemberRole, Option.map_eq_some_iff, Option.isSome_map]
  constructor
  · rintro ⟨project, found, may⟩
    exact ⟨project.accountId, ⟨project, found, rfl⟩, may⟩
  · rintro ⟨owner, ⟨project, found, isOwner⟩, may⟩
    exact ⟨project, found, isOwner ▸ may⟩

theorem manages_iff {tenancy : TenancyDb} {projectId subject : String} :
    Manages tenancy projectId subject ↔
      ∃ owner, ownerOf tenancy projectId = some owner ∧
        (owner = subject ∨ projectMemberRole tenancy projectId subject = some .lead) := by
  unfold Manages authorizeProjectLead authorizeOwner ownerOf
  cases getProjectById tenancy projectId with
  | none => simp
  | some project =>
      by_cases theirs : project.accountId = subject
      · simp [theirs]
      · simp only [theirs, if_false, authorizeLead, Option.map_some, Option.some.injEq,
          exists_eq_left', false_or]
        cases projectMemberRole tenancy projectId subject with
        | none => simp
        | some role =>
            cases role with
            | lead => simp
            | member => simp

/-- The ways in which an operation of `subject` changes who owns a project. -/
inductive OwnerChange (before after : TenancyDb) (subject projectId : String) :
    TenancyOp → Prop where
  | kept {op : TenancyOp} (same : ownerOf after projectId = ownerOf before projectId) :
      OwnerChange before after subject projectId op
  | gone {op : TenancyOp} (absent : ownerOf after projectId = none) :
      OwnerChange before after subject projectId op
  | created (fresh : ownerOf before projectId = none)
      (owns : ownerOf after projectId = some subject) :
      OwnerChange before after subject projectId (.createProject projectId subject)
  | moved {accountId : String} (sees : seesProject before subject projectId = true)
      (owns : ownerOf after projectId = some accountId) :
      OwnerChange before after subject projectId (.updateProject projectId (some accountId))

/-- The ways in which an operation of `subject` changes a roster role. -/
inductive RoleChange (before after : TenancyDb) (subject projectId target : String) :
    TenancyOp → Prop where
  | kept {op : TenancyOp}
      (same : projectMemberRole after projectId target = projectMemberRole before projectId target) :
      RoleChange before after subject projectId target op
  | gone {op : TenancyOp} (absent : projectMemberRole after projectId target = none) :
      RoleChange before after subject projectId target op
  | granted {request : RosterRequest} {role : ProjectRole}
      (manages : Manages before projectId subject) (grants : grantedRole request = some role)
      (has : projectMemberRole after projectId target = some role) :
      RoleChange before after subject projectId target (.roster projectId target request)

theorem find_project_filter {projects : List Project} (unique : UniqueKeys projectKey projects)
    (selects : Project → Bool) (projectId : String) :
    findKey projectKey (projects.filter selects) projectId =
        findKey projectKey projects projectId ∨
      findKey projectKey (projects.filter selects) projectId = none := by
  cases found : findKey projectKey projects projectId with
  | none =>
      refine Or.inr (find_key_none.mpr fun project member => ?_)
      exact find_key_none.mp found project (List.mem_filter.mp member).1
  | some project =>
      obtain ⟨isProject, keyed⟩ := find_key_some found
      have decides : ∀ row ∈ projects, projectKey row = some projectId →
          selects row = selects project := by
        intro row isRow rowKeyed
        rw [unique_keys_eq unique isRow isProject rowKeyed keyed]
      rw [find_key_part (selects project) decides, found]
      cases selects project with
      | true => exact Or.inl rfl
      | false => exact Or.inr rfl

theorem owner_of_update {tenancy : TenancyDb} {target : String} {change : Project → Project}
    (keepsId : ∀ project, (change project).id = project.id)
    (keepsOwner : ∀ project, (change project).accountId = project.accountId)
    (projectId : String) :
    ownerOf (updateProject tenancy target change) projectId = ownerOf tenancy projectId := by
  unfold ownerOf
  by_cases isTarget : projectId = target
  · subst isTarget
    cases found : getProjectById tenancy projectId with
    | none =>
        have absent : getProjectById (updateProject tenancy projectId change) projectId = none := by
          refine find_key_none.mpr fun project member => ?_
          obtain ⟨old, isOld, same⟩ := mem_update_key.mp member
          rw [← same]
          have apart := find_key_none.mp found old isOld
          rw [if_neg apart]
          exact apart
        rw [absent]
    | some project =>
        rw [get_project_update_same change found (keepsId project)]
        exact congrArg some (keepsOwner project)
  · rw [get_project_update_other tenancy change keepsId isTarget]

theorem owner_of_default {tenancy : TenancyDb} (accountId promoted projectId : String) :
    ownerOf { tenancy with projects := tenancy.projects.map (withDefault accountId promoted) }
      projectId = ownerOf tenancy projectId := by
  have rows := with_default_row accountId promoted
  simp only [ownerOf, getProjectById, findKey, List.find?_map, Option.map_map]
  have sameTest : ((fun row => decide (projectKey row = some projectId)) ∘
      withDefault accountId promoted) = fun row => decide (projectKey row = some projectId) := by
    funext project
    exact decide_eq_decide.mpr (by rw [projectKey, (rows project).1, projectKey])
  have sameOwner : Project.accountId ∘ withDefault accountId promoted = Project.accountId := by
    funext project
    exact (rows project).2
  rw [sameTest, sameOwner]

section Operation

variable {tiers : List String} {tenancy next : TenancyDb} {subject : String}

theorem create_project_row {id accountId : String}
    (done : createProject tenancy subject id accountId = .ok next) :
    accountId = subject ∧ getProjectById tenancy id = none ∧
      next = { tenancy with
        projects := tenancy.projects ++
          [⟨id, accountId, .active,
            !(tenancy.projects.any fun project => project.accountId == accountId), none,
            .allowAll⟩] } := by
  unfold createProject at done
  split_ifs at done with denied taken
  push Not at denied
  exact ⟨denied.1, by simpa using taken, (Except.ok.inj done).symm⟩

theorem owner_change {op : TenancyOp} (unique : UniqueKeys projectKey tenancy.projects)
    (done : operate tiers tenancy subject op = .ok next) (projectId : String) :
    OwnerChange tenancy next subject projectId op := by
  cases op with
  | createAccount =>
      rw [create_account_ok done]
      exact .kept rfl
  | setAccountStatus accountId status =>
      refine .kept ?_
      unfold ownerOf getProjectById
      rw [(set_account_status_ok done).1]
  | deleteAccountPermanently accountId =>
      rw [delete_account_ok done]
      rcases find_project_filter unique (fun project => !(project.accountId == subject)) projectId
        with same | absent
      · exact .kept (congrArg (Option.map Project.accountId) same)
      · exact .gone (congrArg (Option.map Project.accountId) absent)
  | createProject id accountId =>
      obtain ⟨theirs, absent, rows⟩ := create_project_row done
      subst theirs
      by_cases isNew : projectId = id
      · subst isNew
        refine .created ?_ ?_
        · rw [ownerOf, absent]
          rfl
        · rw [rows]
          simp only [ownerOf, getProjectById, find_key_append]
          rw [show findKey projectKey tenancy.projects projectId = none from absent]
          simp [projectKey]
      · refine .kept ?_
        rw [rows]
        simp only [ownerOf, getProjectById, find_key_append]
        simp [projectKey, Ne.symm isNew]
  | updateProject target accountId =>
      rcases update_project_verb_ok done with same | ⟨project, other, visible, isOther, rows⟩
      · rw [same]
        exact .kept rfl
      · subst isOther
        by_cases isTarget : projectId = target
        · subst isTarget
          refine .moved ?_ ?_
          · obtain ⟨found, may⟩ := Option.filter_eq_some_iff.mp visible
            rw [seesProject, found]
            exact may
          · rw [rows, ownerOf,
              get_project_update_same _ (visible_project_found visible) rfl]
            rfl
        · refine .kept ?_
          have apart := get_project_update_other tenancy
            (fun stored => { stored with accountId := other }) (fun _ => rfl) isTarget
          rw [rows, ownerOf, apart]
          rfl
  | deleteProject target =>
      rw [(delete_project_ok done).2]
      rcases find_project_filter unique (fun project => !(project.id == target)) projectId
        with same | absent
      · exact .kept (congrArg (Option.map Project.accountId) same)
      · exact .gone (congrArg (Option.map Project.accountId) absent)
  | setProjectStatus target status =>
      rw [set_project_column_ok done]
      refine .kept (owner_of_update ?_ ?_ projectId) <;> exact fun _ => rfl
  | setDefaultProject target =>
      obtain ⟨promoted, _, rows⟩ := set_default_project_ok done
      rw [rows]
      exact .kept (owner_of_default promoted.accountId promoted.id projectId)
  | setProjectAllowedModels target models =>
      rw [set_project_column_ok done]
      refine .kept (owner_of_update ?_ ?_ projectId) <;> exact fun _ => rfl
  | setProjectModelPolicy target policy =>
      rw [set_project_model_policy_ok done]
      refine .kept (owner_of_update ?_ ?_ projectId) <;> exact fun _ => rfl
  | roster target account request =>
      refine .kept ?_
      unfold ownerOf getProjectById
      rw [roster_operation_projects done]

theorem role_change_of_part {op : TenancyOp} {projectId target : String}
    (selects : ProjectMember → Bool) (side : Bool)
    (decides : ∀ member ∈ tenancy.members, memberKey member = some (projectId, target) →
      selects member = side)
    (isPart : next.members = tenancy.members.filter selects) :
    RoleChange tenancy next subject projectId target op := by
  have row : memberRow next projectId target =
      if side then memberRow tenancy projectId target else none := by
    unfold memberRow
    rw [isPart, find_key_part side decides]
  cases side with
  | true => exact .kept (by simp [projectMemberRole, row])
  | false => exact .gone (by simp [projectMemberRole, row])

theorem role_of_update {tenancy : TenancyDb} {projectId account target : String}
    {change : ProjectMember → ProjectMember} {other : String}
    (keepsKey : ∀ member, memberKey (change member) = memberKey member)
    (apart : (other, target) ≠ (projectId, account)) :
    projectMemberRole
        { tenancy with
          members := updateKey memberKey tenancy.members (projectId, account) change }
        other target = projectMemberRole tenancy other target := by
  unfold projectMemberRole memberRow
  rw [find_key_update_other _ apart]
  intro member _ keyed
  rw [keepsKey]
  exact keyed

theorem update_member_row {projectId target : String} {change : ProjectMember → ProjectMember}
    (done : updateMember tenancy projectId target change = .ok next) :
    ∃ row, memberRow tenancy projectId target = some row ∧
      next = { tenancy with
        members := updateKey memberKey tenancy.members (projectId, target) change } := by
  unfold updateMember at done
  split_ifs at done with missing
  obtain ⟨row, isRow⟩ := Option.ne_none_iff_exists'.mp (mt Option.isNone_iff_eq_none.mpr missing)
  exact ⟨row, isRow, (Except.ok.inj done).symm⟩

theorem validate_project_role_ok {text : String} {role : ProjectRole}
    (valid : validateProjectRole text = .ok role) : projectRole text = some role := by
  unfold validateProjectRole at valid
  cases named : projectRole text with
  | none => simp [named] at valid
  | some found =>
      rw [named] at valid
      exact congrArg some (Except.ok.inj valid)

theorem roster_write_role {request : RosterRequest} {role : ProjectRole}
    (checked : rosterWrite tiers request = .ok (.insert role) ∨
      rosterWrite tiers request = .ok (.setRole role)) : grantedRole request = some role := by
  cases request with
  | addProjectMember text =>
      simp only [rosterWrite, grantedRole] at checked ⊢
      cases valid : validateProjectRole (text.getD "member") with
      | error error => simp [valid, Except.map] at checked
      | ok found =>
          have isRole : found = role := by simpa [valid, Except.map] using checked
          rw [← isRole]
          exact validate_project_role_ok valid
  | removeProjectMember => simp [rosterWrite] at checked
  | setProjectMemberRole text =>
      simp only [rosterWrite, grantedRole] at checked ⊢
      cases valid : validateProjectRole text with
      | error error => simp [valid, Except.map] at checked
      | ok found =>
          have isRole : found = role := by simpa [valid, Except.map] using checked
          rw [← isRole]
          exact validate_project_role_ok valid
  | setProjectMemberQuotaTier tier =>
      simp only [rosterWrite] at checked
      split_ifs at checked <;> simp at checked

theorem roster_role_change {account : String} {request : RosterRequest} {projectId : String}
    (done : rosterOperation tiers tenancy subject projectId account request = .ok next)
    (other target : String) :
    RoleChange tenancy next subject other target (.roster projectId account request) := by
  obtain ⟨write, checked, manages, applied⟩ := roster_operation_ok done
  cases write with
  | insert role =>
      rcases insert_member_ok applied with same | appended
      · rw [same]
        exact .kept rfl
      · have row : memberRow next other target = (memberRow tenancy other target).or
            (if (projectId, account) = (other, target) then
              some ⟨projectId, account, role, none⟩ else none) := by
          rw [appended]
          simp only [memberRow, find_key_append, memberKey, Option.some.injEq]
        by_cases isTarget : (projectId, account) = (other, target)
        · obtain ⟨isProject, isAccount⟩ := Prod.mk.inj isTarget
          subst isProject isAccount
          rw [if_pos rfl] at row
          cases stored : memberRow tenancy projectId account with
          | some member =>
              rw [stored, Option.or_some] at row
              exact .kept (by simp [projectMemberRole, row, stored])
          | none =>
              rw [stored, Option.none_or] at row
              refine .granted manages (roster_write_role (Or.inl checked)) ?_
              rw [projectMemberRole, row]
              rfl
        · rw [if_neg isTarget, Option.or_none] at row
          exact .kept (by simp only [projectMemberRole, row])
  | delete =>
      cases applied
      refine role_change_of_part (fun member => memberKey member ≠ some (projectId, account))
        (decide ((other, target) ≠ (projectId, account))) ?_ rfl
      intro member _ keyed
      simp only [keyed, ne_eq, Option.some.injEq]
  | setRole role =>
      obtain ⟨row, isRow, rows⟩ := update_member_row applied
      rw [rows]
      by_cases isTarget : (other, target) = (projectId, account)
      · obtain ⟨isProject, isAccount⟩ := Prod.mk.inj isTarget
        subst isProject isAccount
        have found := find_key_update_same (withRole role) isRow (find_key_some isRow).2
        refine .granted manages (roster_write_role (Or.inr checked)) ?_
        rw [projectMemberRole, memberRow, found]
        rfl
      · exact .kept (role_of_update (fun _ => rfl) isTarget)
  | setTier tier =>
      obtain ⟨row, isRow, rows⟩ := update_member_row applied
      rw [rows]
      by_cases isTarget : (other, target) = (projectId, account)
      · obtain ⟨isProject, isAccount⟩ := Prod.mk.inj isTarget
        subst isProject isAccount
        have found := find_key_update_same (withTier tier) isRow (find_key_some isRow).2
        refine .kept ?_
        rw [projectMemberRole, memberRow, found, projectMemberRole, isRow]
        rfl
      · exact .kept (role_of_update (fun _ => rfl) isTarget)

theorem role_change {op : TenancyOp} (done : operate tiers tenancy subject op = .ok next)
    (projectId target : String) : RoleChange tenancy next subject projectId target op := by
  cases op with
  | createAccount =>
      rw [create_account_ok done]
      exact .kept rfl
  | setAccountStatus accountId status =>
      refine .kept ?_
      unfold projectMemberRole memberRow
      rw [(set_account_status_ok done).2]
  | deleteAccountPermanently accountId =>
      refine role_change_of_part
        (fun member => (!(getProjectById tenancy member.projectId).any fun project =>
          project.accountId == subject) && decide (member.accountId ≠ subject))
        ((!(getProjectById tenancy projectId).any fun project => project.accountId == subject) &&
          decide (target ≠ subject)) ?_ ?_
      · intro member _ keyed
        obtain ⟨isProject, isAccount⟩ := Prod.mk.inj (Option.some.inj keyed)
        rw [isProject, isAccount]
      · rw [delete_account_ok done]
        simp only [withoutAccount, dropProjects, List.filter_filter]
        exact List.filter_congr fun member _ => Bool.and_comm _ _
  | createProject id accountId =>
      rw [(create_project_row done).2.2]
      exact .kept rfl
  | updateProject project accountId =>
      rcases update_project_verb_ok done with same | ⟨_, other, _, _, rows⟩
      · rw [same]
        exact .kept rfl
      · rw [rows]
        exact .kept rfl
  | deleteProject project =>
      refine role_change_of_part
        (fun member => !(getProjectById tenancy member.projectId).any
          fun stored => stored.id == project)
        (!(getProjectById tenancy projectId).any fun stored => stored.id == project) ?_ ?_
      · intro member _ keyed
        rw [(Prod.mk.inj (Option.some.inj keyed)).1]
      · rw [(delete_project_ok done).2]
        rfl
  | setProjectStatus project status =>
      rw [set_project_column_ok done]
      exact .kept rfl
  | setDefaultProject project =>
      obtain ⟨promoted, _, rows⟩ := set_default_project_ok done
      rw [rows]
      exact .kept rfl
  | setProjectAllowedModels project models =>
      rw [set_project_column_ok done]
      exact .kept rfl
  | setProjectModelPolicy project policy =>
      rw [set_project_model_policy_ok done]
      exact .kept rfl
  | roster project account request => exact roster_role_change done projectId target

theorem owner_stands_iff {rows : TenancyDb} {projectId : String} :
    (ownerOf rows projectId).isSome = true ↔ projectId ∈ rows.projects.map Project.id := by
  simp [ownerOf, getProjectById, findKey, projectKey]

theorem stand_of_ids (rostered : Rostered tenancy)
    (members : ∀ member ∈ next.members, member ∈ tenancy.members)
    (ids : tenancy.projects.map Project.id ⊆ next.projects.map Project.id) :
    ∀ member ∈ next.members, (ownerOf next member.projectId).isSome = true := by
  intro member isMember
  have stands := rostered.stand member (members member isMember)
  exact owner_stands_iff.mpr (ids (owner_stands_iff.mp stands))

theorem stand_of_update (rostered : Rostered tenancy) (target : String)
    (change : Project → Project) (keepsId : ∀ project, (change project).id = project.id) :
    ∀ member ∈ (updateProject tenancy target change).members,
      (ownerOf (updateProject tenancy target change) member.projectId).isSome = true := by
  have sameIds : (updateProject tenancy target change).projects.map Project.id =
      tenancy.projects.map Project.id := by
    simp only [updateProject, updateKey, List.map_map]
    refine List.map_congr_left fun project _ => ?_
    by_cases hit : projectKey project = some target <;> simp [hit, keepsId]
  refine stand_of_ids rostered (fun _ isMember => isMember) ?_
  rw [sameIds]
  exact List.Subset.refl _

theorem stand_of_drop (rostered : Rostered tenancy) (drops : Project → Bool)
    (projects : next.projects = tenancy.projects.filter fun project => !drops project)
    (members : ∀ member ∈ next.members, member ∈ tenancy.members ∧
      (getProjectById tenancy member.projectId).any drops = false) :
    ∀ member ∈ next.members, (ownerOf next member.projectId).isSome = true := by
  intro member isMember
  obtain ⟨stored, notDropped⟩ := members member isMember
  obtain ⟨id, isId, sameId⟩ := List.mem_map.mp (owner_stands_iff.mp (rostered.stand member stored))
  have found : getProjectById tenancy member.projectId = some id :=
    find_key_eq_of_unique rostered.unique isId (congrArg some sameId)
  rw [found] at notDropped
  refine owner_stands_iff.mpr (List.mem_map.mpr ⟨id, ?_, sameId⟩)
  rw [projects]
  exact List.mem_filter.mpr ⟨isId, by simpa using notDropped⟩

theorem updated_member_project {members : List ProjectMember} {key : String × String}
    (change : ProjectMember → ProjectMember) {member : ProjectMember}
    (keeps : ∀ old, (change old).projectId = old.projectId)
    (isMember : member ∈ updateKey memberKey members key change) :
    ∃ old ∈ members, member.projectId = old.projectId := by
  obtain ⟨old, stored, same⟩ := mem_update_key.mp isMember
  refine ⟨old, stored, ?_⟩
  rw [← same]
  split
  · exact keeps old
  · rfl

theorem roster_stand (rostered : Rostered tenancy) {account : String} {request : RosterRequest}
    {projectId : String}
    (done : rosterOperation tiers tenancy subject projectId account request = .ok next) :
    ∀ member ∈ next.members, (ownerOf next member.projectId).isSome = true := by
  obtain ⟨write, _, manages, applied⟩ := roster_operation_ok done
  have sameOwner : ∀ id, ownerOf next id = ownerOf tenancy id := by
    intro id
    rw [ownerOf, getProjectById, roster_operation_projects done]
    rfl
  obtain ⟨owner, isOwner, _⟩ := manages_iff.mp manages
  intro member isMember
  rw [sameOwner]
  cases write with
  | insert role =>
      rcases insert_member_ok applied with same | appended
      · exact rostered.stand member (same ▸ isMember)
      · rw [appended] at isMember
        rcases List.mem_append.mp isMember with stored | fresh
        · exact rostered.stand member stored
        · rw [List.mem_singleton.mp fresh, isOwner]
          rfl
  | delete =>
      cases applied
      exact rostered.stand member (List.mem_filter.mp isMember).1
  | setRole role =>
      rw [update_member_ok applied] at isMember
      obtain ⟨old, stored, sameProject⟩ := updated_member_project (withRole role) (fun _ => rfl) isMember
      rw [sameProject]
      exact rostered.stand old stored
  | setTier tier =>
      rw [update_member_ok applied] at isMember
      obtain ⟨old, stored, sameProject⟩ := updated_member_project (withTier tier) (fun _ => rfl) isMember
      rw [sameProject]
      exact rostered.stand old stored

theorem operate_rostered {op : TenancyOp} (rostered : Rostered tenancy)
    (done : operate tiers tenancy subject op = .ok next) : Rostered next := by
  refine ⟨operate_unique rostered.unique done, ?_⟩
  cases op with
  | createAccount =>
      rw [create_account_ok done]
      exact rostered.stand
  | setAccountStatus accountId status =>
      obtain ⟨sameProjects, sameMembers⟩ := set_account_status_ok done
      exact stand_of_ids rostered (fun _ => by rw [sameMembers]; exact id)
        (by rw [sameProjects]; exact List.Subset.refl _)
  | deleteAccountPermanently accountId =>
      refine stand_of_drop rostered (fun project => project.accountId == subject)
        (by rw [delete_account_ok done]; rfl) ?_
      intro member isMember
      rw [delete_account_ok done] at isMember
      obtain ⟨kept, _⟩ := List.mem_filter.mp isMember
      obtain ⟨stored, notDropped⟩ := List.mem_filter.mp kept
      exact ⟨stored, by simpa using notDropped⟩
  | createProject id accountId =>
      rw [(create_project_row done).2.2]
      refine stand_of_ids rostered (fun _ isMember => isMember) ?_
      rw [List.map_append]
      exact List.subset_append_left _ _
  | updateProject target accountId =>
      rcases update_project_verb_ok done with same | ⟨_, other, _, _, rows⟩
      · rw [same]
        exact rostered.stand
      · rw [rows]
        exact stand_of_update rostered target (fun stored => { stored with accountId := other })
          fun _ => rfl
  | deleteProject target =>
      refine stand_of_drop rostered (fun project => project.id == target)
        (by rw [(delete_project_ok done).2]; rfl) ?_
      intro member isMember
      rw [(delete_project_ok done).2] at isMember
      obtain ⟨stored, notDropped⟩ := List.mem_filter.mp isMember
      exact ⟨stored, by simpa using notDropped⟩
  | setProjectStatus target status =>
      rw [set_project_column_ok done]
      exact stand_of_update rostered target (withProjectStatus status) fun _ => rfl
  | setDefaultProject target =>
      obtain ⟨promoted, _, rows⟩ := set_default_project_ok done
      rw [rows]
      refine stand_of_ids rostered (fun _ isMember => isMember) ?_
      have sameIds : Project.id ∘ withDefault promoted.accountId promoted.id = Project.id := by
        funext project
        exact (with_default_row _ _ project).1
      rw [List.map_map, sameIds]
      exact List.Subset.refl _
  | setProjectAllowedModels target models =>
      rw [set_project_column_ok done]
      exact stand_of_update rostered target (withModels models) fun _ => rfl
  | setProjectModelPolicy target policy =>
      rw [set_project_model_policy_ok done]
      exact stand_of_update rostered target (withPolicy policy) fun _ => rfl
  | roster projectId account request => exact roster_stand rostered done

end Operation

end LightbridgeAuthz.Access.Standings
