import LightbridgeAuthz.Access.Standings
import LightbridgeAuthz.Library.References

/-!
# The constraints of accounts, projects and rosters

The indexes and foreign keys of the three tables, which every operation keeps: each
statement checks its own row against them and a deletion takes the rows that refer to it.
-/

namespace LightbridgeAuthz.Access.TenancyConstraints

open Library.KeyedRows Library.References
open Tenancy TenancyOps TenantSides Standings

set_option autoImplicit false

/-- `projects_account_id_default_uidx`. -/
def defaultKey (project : Project) : Option String :=
  if project.isDefault then some project.accountId else none

def accountIds (tenancy : TenancyDb) : List String := tenancy.accounts.map Account.id

def projectIds (tenancy : TenancyDb) : List String := tenancy.projects.map Project.id

structure TenancyIntegrity (tenancy : TenancyDb) : Prop where
  accounts : UniqueKeys accountKey tenancy.accounts
  projects : UniqueKeys projectKey tenancy.projects
  members : UniqueKeys memberKey tenancy.members
  defaults : UniqueKeys defaultKey tenancy.projects
  owned : Refers Project.accountId (accountIds tenancy) tenancy.projects
  rostered : Refers ProjectMember.projectId (projectIds tenancy) tenancy.members
  joined : Refers ProjectMember.accountId (accountIds tenancy) tenancy.members

theorem account_listed_iff {tenancy : TenancyDb} {accountId : String} :
    (getAccountById tenancy accountId).isSome = true ↔ accountId ∈ accountIds tenancy := by
  simp [accountIds, getAccountById, findKey, accountKey]

theorem project_listed_iff {tenancy : TenancyDb} {projectId : String} :
    (getProjectById tenancy projectId).isSome = true ↔ projectId ∈ projectIds tenancy := by
  simp [projectIds, getProjectById, findKey, projectKey]

theorem rostered_of_integrity {tenancy : TenancyDb} (integral : TenancyIntegrity tenancy) :
    Rostered tenancy where
  unique := integral.projects
  stand := fun member isMember => owner_stands_iff.mpr (integral.rostered member isMember)

section Operation

variable {tiers : List String} {tenancy next : TenancyDb} {subject : String}

theorem create_account_absent (done : createAccount tenancy subject = .ok next) :
    getAccountById tenancy subject = none := by
  unfold createAccount at done
  split_ifs at done with taken
  simpa using taken

theorem set_account_status_rows {accountId : String} {status : ResourceStatus}
    (done : setAccountStatus tenancy subject accountId status = .ok next) :
    next = { tenancy with
      accounts := updateKey accountKey tenancy.accounts accountId fun account =>
        { account with status := status } } := by
  unfold setAccountStatus at done
  split_ifs at done
  exact (Except.ok.inj done).symm

theorem create_project_owned {id accountId : String}
    (done : createProject tenancy subject id accountId = .ok next) :
    accountId ∈ accountIds tenancy := by
  unfold createProject at done
  split_ifs at done with denied
  push Not at denied
  rw [← account_listed_iff]
  simpa [Option.isSome_iff_ne_none] using denied.2

theorem update_project_target {projectId accountId : String}
    (done : updateProjectVerb tenancy subject projectId (some accountId) = .ok next) :
    ∃ project, getProjectById tenancy projectId = some project ∧
      accountId ∈ accountIds tenancy ∧
      (project.isDefault = true → project.accountId = accountId ∨
        hasDefault tenancy accountId = false) ∧
      next = updateProject tenancy projectId
        fun stored => { stored with accountId := accountId } := by
  unfold updateProjectVerb at done
  split at done
  · cases done
  · rename_i absent
    cases absent
  · rename_i project named visible isNamed
    cases isNamed
    split_ifs at done with missing taken
    refine ⟨project, visible_project_found visible, ?_, ?_, (Except.ok.inj done).symm⟩
    · rw [← account_listed_iff]
      simpa [Option.isSome_iff_ne_none] using missing
    · intro isDefault
      simpa [isDefault, or_iff_not_imp_left] using taken

theorem has_default_false {accountId : String} (without : hasDefault tenancy accountId = false) :
    ∀ project ∈ tenancy.projects, defaultKey project ≠ some accountId := by
  intro project member same
  unfold defaultKey at same
  split_ifs at same with isDefault
  have has : hasDefault tenancy accountId = true := by
    refine List.any_eq_true.mpr ⟨project, member, ?_⟩
    simp [Option.some.inj same, isDefault]
  cases has.symm.trans without

theorem integrity_of_update (integral : TenancyIntegrity tenancy) (target : String)
    {change : Project → Project} (keepsId : ∀ project, (change project).id = project.id)
    (keepsOwner : ∀ project, (change project).accountId = project.accountId)
    (keepsDefault : ∀ project, (change project).isDefault = project.isDefault) :
    TenancyIntegrity (updateProject tenancy target change) where
  accounts := integral.accounts
  projects := unique_keys_update integral.projects
    fun project => by rw [projectKey, keepsId, projectKey]
  members := integral.members
  defaults := unique_keys_update integral.defaults
    fun project => by rw [defaultKey, keepsDefault, keepsOwner, defaultKey]
  owned := refers_update integral.owned fun project member => by
    rw [keepsOwner]
    exact integral.owned project member
  rostered := by
    have sameIds : projectIds (updateProject tenancy target change) = projectIds tenancy :=
      update_key_ids change keepsId
    rw [sameIds]
    exact integral.rostered
  joined := integral.joined

theorem integrity_of_move (integral : TenancyIntegrity tenancy) {projectId accountId : String}
    {project : Project} (found : getProjectById tenancy projectId = some project)
    (stands : accountId ∈ accountIds tenancy)
    (single : project.isDefault = true → project.accountId = accountId ∨
      hasDefault tenancy accountId = false) :
    TenancyIntegrity (updateProject tenancy projectId
      fun stored => { stored with accountId := accountId }) where
  accounts := integral.accounts
  projects := unique_keys_update integral.projects fun _ => rfl
  members := integral.members
  defaults := by
    refine unique_keys_change integral.projects integral.defaults ?_
    intro moved isMoved movedKey other isOther otherKey taken isTaken same
    have isProject : moved = project :=
      unique_keys_eq integral.projects isMoved (find_key_some found).1 movedKey
        (find_key_some found).2
    subst isProject
    unfold defaultKey at isTaken
    split_ifs at isTaken with isDefault
    cases isTaken
    rcases single isDefault with stays | without
    · have movedDefault : defaultKey moved = some accountId := by
        rw [defaultKey, if_pos isDefault, stays]
      have isOne := unique_keys_eq integral.defaults isMoved isOther movedDefault same
      rw [isOne] at movedKey
      exact otherKey movedKey
    · exact has_default_false without other isOther same
  owned := refers_update integral.owned fun _ _ => stands
  rostered := by
    have sameIds : projectIds (updateProject tenancy projectId
        fun stored => { stored with accountId := accountId }) = projectIds tenancy :=
      update_key_ids (fun stored : Project => { stored with accountId := accountId }) fun _ => rfl
    rw [sameIds]
    exact integral.rostered
  joined := integral.joined

theorem integrity_of_default (integral : TenancyIntegrity tenancy) {promoted : Project}
    (stored : promoted ∈ tenancy.projects) :
    TenancyIntegrity { tenancy with
      projects := tenancy.projects.map (withDefault promoted.accountId promoted.id) } where
  accounts := integral.accounts
  projects := unique_keys_map integral.projects fun project => by
    rw [projectKey, (with_default_row _ _ project).1, projectKey]
  members := integral.members
  defaults := by
    refine List.pairwise_map.mpr ((integral.projects.and integral.defaults).imp_of_mem ?_)
    rintro left right leftMember rightMember ⟨idsApart, defaultsApart⟩
    have idsDiffer : left.id ≠ right.id := by
      rcases idsApart with absent | differ
      · cases absent
      · exact fun same => differ (congrArg some same)
    have isPromoted : ∀ project ∈ tenancy.projects, project.id = promoted.id →
        project = promoted := fun project member same =>
      unique_keys_eq integral.projects member stored (congrArg some same) rfl
    have demoted : ∀ project, project.id ≠ promoted.id →
        defaultKey (withDefault promoted.accountId promoted.id project) = none ∨
          (defaultKey (withDefault promoted.accountId promoted.id project) = defaultKey project ∧
            project.accountId ≠ promoted.accountId) := by
      intro project apart
      by_cases theirs : project.accountId = promoted.accountId
      · exact Or.inl (by simp [withDefault, apart, theirs, defaultKey])
      · exact Or.inr ⟨by simp [withDefault, apart, theirs], theirs⟩
    have promotedKey : ∀ project ∈ tenancy.projects, project.id = promoted.id →
        defaultKey (withDefault promoted.accountId promoted.id project) =
          some promoted.accountId := by
      intro project member same
      rw [isPromoted project member same]
      simp [withDefault, defaultKey]
    have otherKey : ∀ project, project.id ≠ promoted.id →
        defaultKey (withDefault promoted.accountId promoted.id project) ≠
          some promoted.accountId := by
      intro project apart same
      rcases demoted project apart with absent | ⟨kept, theirs⟩
      · cases absent.symm.trans same
      · rw [kept] at same
        unfold defaultKey at same
        split_ifs at same
        exact theirs (Option.some.inj same)
    by_cases leftIs : left.id = promoted.id
    · have rightIsNot : right.id ≠ promoted.id := fun rightIs =>
        idsDiffer (leftIs.trans rightIs.symm)
      rw [promotedKey left leftMember leftIs]
      exact Or.inr (otherKey right rightIsNot).symm
    · rcases demoted left leftIs with absent | ⟨kept, theirs⟩
      · exact Or.inl absent
      · by_cases rightIs : right.id = promoted.id
        · rw [promotedKey right rightMember rightIs]
          exact Or.inr (otherKey left leftIs)
        · rcases demoted right rightIs with absent | ⟨rightKept, _⟩
          · rw [absent, kept]
            cases stays : defaultKey left with
            | none => exact Or.inl rfl
            | some account => exact Or.inr (by simp)
          · rw [kept, rightKept]
            exact defaultsApart
  owned := by
    intro project member
    obtain ⟨old, isOld, same⟩ := List.mem_map.mp member
    rw [← same, (with_default_row _ _ old).2]
    exact integral.owned old isOld
  rostered := by
    have sameIds : projectIds { tenancy with
        projects := tenancy.projects.map (withDefault promoted.accountId promoted.id) } =
          projectIds tenancy := by
      rw [projectIds, List.map_map]
      exact List.map_congr_left fun project _ => (with_default_row _ _ project).1
    rw [sameIds]
    exact integral.rostered
  joined := integral.joined

theorem integrity_of_members (integral : TenancyIntegrity tenancy) {members : List ProjectMember}
    (unique : UniqueKeys memberKey members)
    (rostered : Refers ProjectMember.projectId (projectIds tenancy) members)
    (joined : Refers ProjectMember.accountId (accountIds tenancy) members) :
    TenancyIntegrity { tenancy with members := members } where
  accounts := integral.accounts
  projects := integral.projects
  members := unique
  defaults := integral.defaults
  owned := integral.owned
  rostered := rostered
  joined := joined

theorem insert_member_checked {projectId target : String} {role : ProjectRole}
    (done : insertMember tenancy projectId target role = .ok next) :
    next = tenancy ∨
      memberRow tenancy projectId target = none ∧ projectId ∈ projectIds tenancy ∧
        target ∈ accountIds tenancy ∧
        next = { tenancy with members := tenancy.members ++ [⟨projectId, target, role, none⟩] } := by
  unfold insertMember at done
  split_ifs at done with stored noProject noAccount
  · exact Or.inl (Except.ok.inj done).symm
  · refine Or.inr ⟨by simpa using stored, ?_, ?_, (Except.ok.inj done).symm⟩
    · rw [← project_listed_iff]
      simpa [Option.isSome_iff_ne_none] using noProject
    · rw [← account_listed_iff]
      simpa [Option.isSome_iff_ne_none] using noAccount

theorem roster_integrity (integral : TenancyIntegrity tenancy) {projectId target : String}
    {write : RosterWrite} (applied : applyRosterWrite tenancy projectId target write = .ok next) :
    TenancyIntegrity next := by
  have updated : ∀ change : ProjectMember → ProjectMember,
      (∀ member, (change member).projectId = member.projectId) →
      (∀ member, (change member).accountId = member.accountId) →
      updateMember tenancy projectId target change = .ok next → TenancyIntegrity next := by
    intro change keepsProject keepsAccount done
    rw [update_member_ok done]
    refine integrity_of_members integral ?_ ?_ ?_
    · exact unique_keys_update integral.members fun member => by
        rw [memberKey, keepsProject, keepsAccount, memberKey]
    · exact refers_update integral.rostered fun member isMember => by
        rw [keepsProject]
        exact integral.rostered member isMember
    · exact refers_update integral.joined fun member isMember => by
        rw [keepsAccount]
        exact integral.joined member isMember
  cases write with
  | insert role =>
      rcases insert_member_checked applied with same | ⟨absent, stands, joins, appended⟩
      · rw [same]
        exact integral
      · rw [appended]
        refine integrity_of_members integral ?_ (refers_append integral.rostered stands)
          (refers_append integral.joined joins)
        refine unique_keys_append integral.members ?_
        intro taken isTaken
        cases isTaken
        exact find_key_none.mp absent
  | delete =>
      cases applied
      exact integrity_of_members integral (unique_keys_filter integral.members _)
        (refers_part integral.rostered (List.filter_subset_self _))
        (refers_part integral.joined (List.filter_subset_self _))
  | setRole role => exact updated (withRole role) (fun _ => rfl) (fun _ => rfl) applied
  | setTier tier => exact updated (withTier tier) (fun _ => rfl) (fun _ => rfl) applied

theorem operate_integrity {op : TenancyOp} (integral : TenancyIntegrity tenancy)
    (done : operate tiers tenancy subject op = .ok next) : TenancyIntegrity next := by
  have rostered : Rostered next := operate_rostered (rostered_of_integrity integral) done
  have rosteredNext : Refers ProjectMember.projectId (projectIds next) next.members :=
    fun member isMember => owner_stands_iff.mp (rostered.stand member isMember)
  cases op with
  | createAccount =>
      have absent := create_account_absent done
      have grows : accountIds tenancy ⊆ accountIds next := by
        rw [create_account_ok done, accountIds, accountIds, List.map_append]
        exact List.subset_append_left _ _
      rw [create_account_ok done] at grows ⊢
      exact
        { accounts := unique_keys_append integral.accounts fun taken isTaken => by
            cases isTaken
            exact find_key_none.mp absent
          projects := integral.projects
          members := integral.members
          defaults := integral.defaults
          owned := refers_mono integral.owned grows
          rostered := integral.rostered
          joined := refers_mono integral.joined grows }
  | setAccountStatus accountId status =>
      have sameIds : accountIds next = accountIds tenancy := by
        rw [set_account_status_rows done]
        exact update_key_ids (fun account : Account => { account with status := status }) fun _ => rfl
      rw [set_account_status_rows done] at sameIds ⊢
      exact
        { accounts := unique_keys_update integral.accounts fun _ => rfl
          projects := integral.projects
          members := integral.members
          defaults := integral.defaults
          owned := sameIds ▸ integral.owned
          rostered := integral.rostered
          joined := sameIds ▸ integral.joined }
  | deleteAccountPermanently accountId =>
      rw [delete_account_ok done] at rosteredNext ⊢
      exact
        { accounts := unique_keys_filter integral.accounts _
          projects := unique_keys_filter integral.projects _
          members := unique_keys_filter (unique_keys_filter integral.members _) _
          defaults := unique_keys_filter integral.defaults _
          owned := refers_filter integral.owned fun project member => by
            obtain ⟨stored, apart⟩ := List.mem_filter.mp member
            refine ⟨stored, fun account _ same => ?_⟩
            rw [decide_eq_true_iff, same]
            simpa using apart
          rostered := rosteredNext
          joined := refers_filter integral.joined fun member isMember => by
            obtain ⟨kept, apart⟩ := List.mem_filter.mp isMember
            refine ⟨(List.mem_filter.mp kept).1, fun account _ same => ?_⟩
            rw [decide_eq_true_iff, same]
            simpa using apart }
  | createProject id accountId =>
      obtain ⟨theirs, absent, rows⟩ := create_project_row done
      have owned := create_project_owned done
      rw [rows] at rosteredNext ⊢
      exact
        { accounts := integral.accounts
          projects := unique_keys_append integral.projects fun taken isTaken => by
            cases isTaken
            exact find_key_none.mp absent
          members := integral.members
          defaults := unique_keys_append integral.defaults fun taken isTaken => by
            unfold defaultKey at isTaken
            split_ifs at isTaken with isFirst
            cases isTaken
            intro project member same
            unfold defaultKey at same
            split_ifs at same
            have noProject : tenancy.projects.any
                (fun stored => stored.accountId == accountId) = false := by
              simpa using isFirst
            have isNot := List.any_eq_false.mp noProject project member
            exact isNot (by simpa using same)
          owned := refers_append integral.owned owned
          rostered := rosteredNext
          joined := integral.joined }
  | updateProject projectId accountId =>
      cases accountId with
      | none =>
          rcases update_project_verb_ok done with same | ⟨_, other, _, isOther, _⟩
          · rw [same]
            exact integral
          · cases isOther
      | some other =>
          obtain ⟨project, found, stands, single, rows⟩ := update_project_target done
          rw [rows]
          exact integrity_of_move integral found stands single
  | deleteProject projectId =>
      rw [(delete_project_ok done).2] at rosteredNext ⊢
      exact
        { accounts := integral.accounts
          projects := unique_keys_filter integral.projects _
          members := unique_keys_filter integral.members _
          defaults := unique_keys_filter integral.defaults _
          owned := refers_part integral.owned (List.filter_subset_self _)
          rostered := rosteredNext
          joined := refers_part integral.joined (List.filter_subset_self _) }
  | setProjectStatus projectId status =>
      rw [set_project_column_ok done]
      exact integrity_of_update integral projectId (fun _ => rfl) (fun _ => rfl) fun _ => rfl
  | setDefaultProject projectId =>
      obtain ⟨promoted, stored, rows⟩ := set_default_project_ok done
      rw [rows]
      exact integrity_of_default integral stored
  | setProjectAllowedModels projectId models =>
      rw [set_project_column_ok done]
      exact integrity_of_update integral projectId (fun _ => rfl) (fun _ => rfl) fun _ => rfl
  | setProjectModelPolicy projectId policy =>
      rw [set_project_model_policy_ok done]
      exact integrity_of_update integral projectId (fun _ => rfl) (fun _ => rfl) fun _ => rfl
  | roster projectId target request =>
      obtain ⟨_, _, _, applied⟩ := roster_operation_ok done
      exact roster_integrity integral applied

end Operation

end LightbridgeAuthz.Access.TenancyConstraints
