import Mathlib.Data.List.Find
import LightbridgeAuthz.Access.TenancyOps

/-!
# Accounts that share no project

Split the accounts in two sides. As long as no roster names an account of the
other side and no project moves to it, each side's accounts, projects and rosters
are a database of their own: the lookups and the operations of one side's
subjects do to that part, and answer, what they would if it were all there is,
and those of the other side leave it alone. What is shared is the names: a
project id is claimed by whoever creates it first, so the sides draw different
ones.
-/

namespace LightbridgeAuthz.Access.TenantSides

open Library.KeyedRows
open Tenancy TenancyOps

set_option autoImplicit false

/-- One side: its accounts, and the project ids that it may use. -/
structure Side where
  accounts : String → Bool
  projects : String → Bool

def Side.tenancy (side : Side) (tenancy : TenancyDb) : TenancyDb where
  accounts := tenancy.accounts.filter fun account => side.accounts account.id
  projects := tenancy.projects.filter fun project => side.projects project.id
  members := tenancy.members.filter fun member => side.projects member.projectId

/-- No project and no roster row crosses the line. -/
structure Side.Apart (side : Side) (tenancy : TenancyDb) : Prop where
  owned : ∀ project ∈ tenancy.projects, side.projects project.id = side.accounts project.accountId
  rostered : ∀ member ∈ tenancy.members,
    side.projects member.projectId = side.accounts member.accountId

variable {side : Side} {tenancy next : TenancyDb} {subject : String}

@[simp]
theorem get_project_part (side : Side) (tenancy : TenancyDb) (projectId : String) :
    getProjectById (side.tenancy tenancy) projectId =
      if side.projects projectId then getProjectById tenancy projectId else none := by
  apply find_key_part
  intro project _ keyed
  rw [← Option.some.inj keyed]

@[simp]
theorem get_account_part (side : Side) (tenancy : TenancyDb) (accountId : String) :
    getAccountById (side.tenancy tenancy) accountId =
      if side.accounts accountId then getAccountById tenancy accountId else none := by
  apply find_key_part
  intro account _ keyed
  rw [← Option.some.inj keyed]

@[simp]
theorem member_row_part (side : Side) (tenancy : TenancyDb) (projectId accountId : String) :
    memberRow (side.tenancy tenancy) projectId accountId =
      if side.projects projectId then memberRow tenancy projectId accountId else none := by
  apply find_key_part
  intro member _ keyed
  rw [← (Prod.mk.inj (Option.some.inj keyed)).1]

theorem found_owned (apart : side.Apart tenancy) {projectId : String} {project : Project}
    (found : getProjectById tenancy projectId = some project) :
    side.projects projectId = side.accounts project.accountId := by
  obtain ⟨member, keyed⟩ := find_key_some found
  rw [← Option.some.inj keyed]
  exact apart.owned project member

theorem member_on_side (apart : side.Apart tenancy) {projectId accountId : String}
    (isMember : (memberRow tenancy projectId accountId).isSome = true) :
    side.projects projectId = side.accounts accountId := by
  obtain ⟨member, found⟩ := Option.isSome_iff_exists.mp isMember
  obtain ⟨stored, keyed⟩ := find_key_some found
  obtain ⟨isProject, isAccount⟩ := Prod.mk.inj (Option.some.inj keyed)
  rw [← isProject, ← isAccount]
  exact apart.rostered member stored

theorem sees_on_side (apart : side.Apart tenancy) {projectId : String} {project : Project}
    (found : getProjectById tenancy projectId = some project)
    (may : sees tenancy subject project = true) :
    side.projects projectId = side.accounts subject := by
  have named : project.id = projectId := Option.some.inj (find_key_some found).2
  rcases Bool.or_eq_true_iff.mp may with owner | isMember
  · rw [found_owned apart found, beq_iff_eq.mp owner]
  · rw [named] at isMember
    exact member_on_side apart isMember

theorem visible_on_side (apart : side.Apart tenancy) {projectId : String} {project : Project}
    (visible : visibleProject tenancy subject projectId = some project) :
    side.projects projectId = side.accounts subject := by
  obtain ⟨found, may⟩ := Option.filter_eq_some_iff.mp visible
  exact sees_on_side apart found may

theorem sees_project_on_side (apart : side.Apart tenancy) {projectId : String}
    (seen : seesProject tenancy subject projectId = true) :
    side.projects projectId = side.accounts subject := by
  unfold seesProject at seen
  rw [Option.any_eq_true] at seen
  obtain ⟨project, found, may⟩ := seen
  exact sees_on_side apart found may

theorem sees_part {project : Project} (inside : side.projects project.id = true) :
    sees (side.tenancy tenancy) subject project = sees tenancy subject project := by
  simp [sees, inside]

section Own

variable (apart : side.Apart tenancy) (own : side.accounts subject = true)

include apart own

theorem unseen_beyond {projectId : String} {project : Project}
    (found : getProjectById tenancy projectId = some project)
    (beyond : side.projects projectId = false) : sees tenancy subject project = false := by
  by_contra may
  have sameSide := sees_on_side apart found (by simpa using may)
  rw [beyond, own] at sameSide
  cases sameSide

theorem visible_project_part (projectId : String) :
    visibleProject (side.tenancy tenancy) subject projectId =
      visibleProject tenancy subject projectId := by
  unfold visibleProject
  rw [get_project_part]
  cases found : getProjectById tenancy projectId with
  | none => simp
  | some project =>
      have named : project.id = projectId := Option.some.inj (find_key_some found).2
      cases inside : side.projects projectId with
      | true => simp [Option.filter, sees_part (named ▸ inside)]
      | false => simp [Option.filter, unseen_beyond apart own found inside]

theorem sees_project_part (projectId : String) :
    seesProject (side.tenancy tenancy) subject projectId =
      seesProject tenancy subject projectId := by
  have same := congrArg Option.isSome (visible_project_part apart own projectId)
  simpa [seesProject, visibleProject, Option.isSome_filter] using same

theorem resolve_context_part (projectId : String) :
    resolveContext (side.tenancy tenancy) subject projectId =
      resolveContext tenancy subject projectId := by
  have same := visible_project_part apart own projectId
  unfold visibleProject at same
  unfold resolveContext
  rw [same]

theorem find_default_part :
    findDefaultProjectId (side.tenancy tenancy) subject =
      findDefaultProjectId tenancy subject := by
  unfold findDefaultProjectId
  rw [Side.tenancy, List.find?_filter]
  congr 1
  apply List.find?_congr
  intro project member
  by_cases theirs : project.accountId = subject
  · simp [theirs, apart.owned project member, own]
  · simp [theirs]

theorem authorize_lead_part (projectId : String) :
    authorizeProjectLead (side.tenancy tenancy) projectId subject =
      authorizeProjectLead tenancy projectId subject := by
  unfold authorizeProjectLead authorizeOwner authorizeLead projectMemberRole
  rw [get_project_part, member_row_part]
  cases inside : side.projects projectId with
  | true => simp
  | false =>
      cases found : getProjectById tenancy projectId with
      | none => simp
      | some project =>
          have unseen := unseen_beyond apart own found inside
          have named : project.id = projectId := Option.some.inj (find_key_some found).2
          simp only [sees, Bool.or_eq_false_iff, beq_eq_false_iff_ne, named,
            Option.isSome_eq_false_iff, Option.isNone_iff_eq_none] at unseen
          simp [unseen.1, unseen.2]

end Own

theorem authorized_on_side (apart : side.Apart tenancy) {projectId : String}
    (authorized : authorizeProjectLead tenancy projectId subject = .ok ()) :
    side.projects projectId = side.accounts subject ∧
      (getProjectById tenancy projectId).isSome = true := by
  unfold authorizeProjectLead authorizeOwner authorizeLead projectMemberRole at authorized
  cases found : getProjectById tenancy projectId with
  | none => simp [found] at authorized
  | some project =>
      refine ⟨?_, rfl⟩
      by_cases owner : project.accountId = subject
      · rw [found_owned apart found, owner]
      · apply member_on_side apart
        cases row : memberRow tenancy projectId subject with
        | none => simp [found, owner, row] at authorized
        | some member => rfl

/-- What the split asks of an operation that `subject` calls: it does not cross the
line, leaves the other side alone, and treats its own side as the whole. -/
structure Side.Separates (side : Side) (tenancy : TenancyDb) (subject : String)
    (operation : TenancyDb → Except AccessError TenancyDb) : Prop where
  keeps : ∀ {next}, operation tenancy = .ok next → side.Apart next
  beyond : ∀ {next}, side.accounts subject = false → operation tenancy = .ok next →
    side.tenancy next = side.tenancy tenancy
  own : side.accounts subject = true →
    operation (side.tenancy tenancy) = (operation tenancy).map side.tenancy

section ProjectColumns

variable {projectId : String} {change : Project → Project}

theorem update_project_part (keepsId : ∀ project, (change project).id = project.id) :
    side.tenancy (updateProject tenancy projectId change) =
      updateProject (side.tenancy tenancy) projectId change := by
  have sameProjects : (updateKey projectKey tenancy.projects projectId change).filter
      (fun project => side.projects project.id) =
        updateKey projectKey (tenancy.projects.filter fun project => side.projects project.id)
          projectId change := by
    apply update_key_filter
    intro project _ _
    rw [keepsId]
  simp only [Side.tenancy, updateProject, sameProjects]

theorem update_project_beyond (keepsId : ∀ project, (change project).id = project.id)
    (beyond : side.projects projectId = false) :
    side.tenancy (updateProject tenancy projectId change) = side.tenancy tenancy := by
  have sameProjects : (updateKey projectKey tenancy.projects projectId change).filter
      (fun project => side.projects project.id) =
        tenancy.projects.filter fun project => side.projects project.id := by
    apply update_key_filter_outside
    · intro project _ keyed
      rw [Option.some.inj keyed, beyond]
    · intro project _ keyed
      rw [keepsId, Option.some.inj keyed, beyond]
  simp only [Side.tenancy, updateProject, sameProjects]

theorem update_project_apart (apart : side.Apart tenancy)
    (keepsId : ∀ project, (change project).id = project.id)
    (stays : ∀ project ∈ tenancy.projects, project.id = projectId →
      side.accounts (change project).accountId = side.accounts project.accountId) :
    side.Apart (updateProject tenancy projectId change) where
  owned := by
    intro project member
    obtain ⟨stored, storedMember, isRow⟩ := mem_update_key.mp member
    subst isRow
    split
    · rename_i hit
      rw [keepsId, stays stored storedMember (Option.some.inj hit)]
      exact apart.owned stored storedMember
    · exact apart.owned stored storedMember
  rostered := apart.rostered

theorem set_project_column_separates (apart : side.Apart tenancy)
    (keepsId : ∀ project, (change project).id = project.id)
    (keepsAccount : ∀ project, (change project).accountId = project.accountId) :
    side.Separates tenancy subject fun rows => setProjectColumn rows subject projectId change where
  keeps := by
    intro next done
    rw [set_project_column_ok done]
    exact update_project_apart apart keepsId fun project _ _ => by rw [keepsAccount]
  beyond := by
    intro next other done
    unfold setProjectColumn at done
    split at done
    · cases done
    · rename_i project visible
      cases done
      exact update_project_beyond keepsId ((visible_on_side apart visible).trans other)
  own := by
    intro own
    unfold setProjectColumn
    rw [visible_project_part apart own]
    cases visibleProject tenancy subject projectId with
    | none => rfl
    | some project => exact congrArg Except.ok (update_project_part keepsId).symm

theorem set_project_model_policy_separates (apart : side.Apart tenancy) (policy : ModelPolicy) :
    side.Separates tenancy subject
      fun rows => setProjectModelPolicy rows subject projectId policy where
  keeps := by
    intro next done
    rw [set_project_model_policy_ok done]
    exact update_project_apart apart (fun _ => rfl) fun _ _ _ => rfl
  beyond := by
    intro next other done
    unfold setProjectModelPolicy at done
    split at done
    · cases done
    · rename_i project visible
      split_ifs at done
      cases done
      exact update_project_beyond (fun _ => rfl) ((visible_on_side apart visible).trans other)
  own := by
    intro own
    unfold setProjectModelPolicy
    rw [visible_project_part apart own]
    cases visibleProject tenancy subject projectId with
    | none => rfl
    | some project =>
        by_cases locks : policy = .allowlist ∧ namesNoModel project.allowedModels = true
        · simp [locks, Except.map]
        · simp only [locks, if_false, Except.map]
          rw [update_project_part]
          exact fun _ => rfl

end ProjectColumns

theorem any_part {rows : List Project} {test : Project → Bool}
    (inside : ∀ project ∈ rows, test project = true → side.projects project.id = true) :
    (rows.filter fun project => side.projects project.id).any test = rows.any test := by
  rw [Bool.eq_iff_iff]
  simp only [List.any_eq_true, List.mem_filter]
  constructor
  · rintro ⟨project, ⟨member, _⟩, holds⟩
    exact ⟨project, member, holds⟩
  · rintro ⟨project, member, holds⟩
    exact ⟨project, ⟨member, inside project member holds⟩, holds⟩

theorem has_default_part (apart : side.Apart tenancy) {accountId : String}
    (inside : side.accounts accountId = true) :
    hasDefault (side.tenancy tenancy) accountId = hasDefault tenancy accountId := by
  apply any_part
  intro project member holds
  rw [Bool.and_eq_true, beq_iff_eq] at holds
  rw [apart.owned project member, holds.1, inside]

theorem update_project_verb_separates (apart : side.Apart tenancy) (projectId : String)
    {accountId : Option String}
    (confined : ∀ target ∈ accountId, side.accounts target = side.accounts subject) :
    side.Separates tenancy subject
      fun rows => updateProjectVerb rows subject projectId accountId where
  keeps := by
    intro next done
    rcases update_project_verb_ok done with same | ⟨project, target, visible, isTarget, rows⟩
    · rw [same]
      exact apart
    · rw [rows]
      refine update_project_apart apart ?_ ?_
      · exact fun _ => rfl
      intro stored storedMember named
      rw [confined target isTarget, ← visible_on_side apart visible, ← named]
      exact apart.owned stored storedMember
  beyond := by
    intro next other done
    rcases update_project_verb_ok done with same | ⟨project, target, visible, isTarget, rows⟩
    · rw [same]
    · rw [rows]
      exact update_project_beyond (fun _ => rfl) ((visible_on_side apart visible).trans other)
  own := by
    intro own
    unfold updateProjectVerb
    rw [visible_project_part apart own]
    cases visibleProject tenancy subject projectId with
    | none => rfl
    | some project =>
        cases accountId with
        | none => rfl
        | some target =>
            have inside : side.accounts target = true := (confined target rfl).trans own
            simp only [get_account_part, has_default_part apart inside, inside, if_true]
            split_ifs
            · rfl
            · rfl
            · rw [Except.map, update_project_part]
              exact fun _ => rfl

theorem set_default_project_separates (apart : side.Apart tenancy) (projectId : String) :
    side.Separates tenancy subject fun rows => setDefaultProject rows subject projectId where
  keeps := by
    intro next done
    obtain ⟨promoted, _, rows⟩ := set_default_project_ok done
    rw [rows]
    refine ⟨?_, apart.rostered⟩
    intro project member
    obtain ⟨stored, storedMember, isRow⟩ := List.mem_map.mp member
    obtain ⟨sameId, sameAccount⟩ := with_default_row promoted.accountId promoted.id stored
    rw [← isRow, sameId, sameAccount]
    exact apart.owned stored storedMember
  beyond := by
    intro next other done
    unfold setDefaultProject at done
    split at done
    · cases done
    · rename_i promoted visible
      cases done
      have beyondId := (visible_on_side apart visible).trans other
      have beyondAccount : side.accounts promoted.accountId = false := by
        rw [← found_owned apart (visible_project_found visible), beyondId]
      simp only [Side.tenancy, TenancyDb.mk.injEq, true_and, and_true, List.filter_map]
      have unmoved : ∀ project ∈ tenancy.projects.filter fun project =>
          side.projects (withDefault promoted.accountId projectId project).id,
          withDefault promoted.accountId projectId project = project := by
        intro project member
        obtain ⟨stored, inside⟩ := List.mem_filter.mp member
        rw [(with_default_row _ _ project).1] at inside
        have differentId : project.id ≠ projectId := by
          rintro rfl
          rw [beyondId] at inside
          cases inside
        have differentAccount : project.accountId ≠ promoted.accountId := by
          intro same
          rw [apart.owned project stored, same, beyondAccount] at inside
          cases inside
        simp [withDefault, differentId, differentAccount]
      rw [show ((fun project : Project => side.projects project.id) ∘
          withDefault promoted.accountId projectId) = fun project =>
            side.projects (withDefault promoted.accountId projectId project).id from rfl,
        List.map_congr_left unmoved, List.map_id']
      exact List.filter_congr fun project _ => by rw [(with_default_row _ _ project).1]
  own := by
    intro own
    unfold setDefaultProject
    rw [visible_project_part apart own]
    cases visibleProject tenancy subject projectId with
    | none => rfl
    | some promoted =>
        simp only [Except.map, Side.tenancy, List.filter_map]
        rw [show ((fun project : Project => side.projects project.id) ∘
            withDefault promoted.accountId projectId) = fun project => side.projects project.id from
          funext fun project => by
            simp only [Function.comp_apply, (with_default_row _ _ project).1]]

theorem create_account_separates (apart : side.Apart tenancy) :
    side.Separates tenancy subject fun rows => createAccount rows subject where
  keeps := by
    intro next done
    rw [create_account_ok done]
    exact ⟨apart.owned, apart.rostered⟩
  beyond := by
    intro next other done
    rw [create_account_ok done]
    simp [Side.tenancy, other]
  own := by
    intro own
    unfold createAccount
    rw [get_account_part, own, if_pos rfl]
    split_ifs
    · rfl
    · simp [Except.map, Side.tenancy, own]

theorem set_account_status_separates (apart : side.Apart tenancy) (accountId : String)
    (status : ResourceStatus) :
    side.Separates tenancy subject
      fun rows => setAccountStatus rows subject accountId status where
  keeps := by
    intro next done
    obtain ⟨sameProjects, sameMembers⟩ := set_account_status_ok done
    constructor
    · rw [sameProjects]
      exact apart.owned
    · rw [sameMembers]
      exact apart.rostered
  beyond := by
    intro next other done
    unfold setAccountStatus at done
    split_ifs at done with allowed
    cases done
    simp only [Side.tenancy, TenancyDb.mk.injEq, and_true]
    apply update_key_filter_outside
    · intro account _ keyed
      rw [Option.some.inj keyed, allowed.1, other]
    · intro account _ keyed
      exact (congrArg side.accounts ((Option.some.inj keyed).trans allowed.1)).trans other
  own := by
    intro own
    unfold setAccountStatus
    rw [get_account_part]
    by_cases theirs : accountId = subject
    · simp only [theirs, own, if_true, true_and]
      split_ifs
      · simp only [Except.map, Side.tenancy, Except.ok.injEq, TenancyDb.mk.injEq, and_true]
        symm
        apply update_key_filter
        exact fun _ _ _ => rfl
      · rfl
    · simp [theirs, Except.map]

theorem create_project_separates (apart : side.Apart tenancy) {id : String} (accountId : String)
    (drawn : side.projects id = side.accounts subject) :
    side.Separates tenancy subject fun rows => createProject rows subject id accountId where
  keeps := by
    intro next done
    unfold createProject at done
    split_ifs at done with denied taken
    cases done
    have theirs : accountId = subject := by
      by_contra different
      exact denied (Or.inl different)
    refine ⟨?_, apart.rostered⟩
    intro project member
    rcases List.mem_append.mp member with stored | created
    · exact apart.owned project stored
    · rw [List.mem_singleton.mp created]
      exact drawn.trans (congrArg side.accounts theirs.symm)
  beyond := by
    intro next other done
    unfold createProject at done
    split_ifs at done
    cases done
    simp [Side.tenancy, drawn.trans other]
  own := by
    intro own
    have inside : side.projects id = true := drawn.trans own
    unfold createProject
    rw [get_account_part, get_project_part, inside, if_pos rfl]
    by_cases theirs : accountId = subject
    · subst theirs
      have sameAny : (side.tenancy tenancy).projects.any
          (fun project => project.accountId == accountId) =
            tenancy.projects.any fun project => project.accountId == accountId := by
        apply any_part
        intro project member holds
        rw [apart.owned project member, beq_iff_eq.mp holds, own]
      rw [own, if_pos rfl, sameAny]
      split_ifs
      · rfl
      · rfl
      · simp [Except.map, Side.tenancy, inside]
    · simp [theirs, Except.map]

theorem kept_members_part (drops : Project → Bool) :
    (tenancy.members.filter fun member =>
        !(getProjectById tenancy member.projectId).any drops).filter
          (fun member => side.projects member.projectId) =
      (tenancy.members.filter fun member => side.projects member.projectId).filter
        fun member => !(getProjectById (side.tenancy tenancy) member.projectId).any drops := by
  rw [List.filter_filter, List.filter_filter]
  apply List.filter_congr
  intro member _
  rw [get_project_part]
  cases side.projects member.projectId with
  | true => simp
  | false => simp

theorem drop_projects_part (drops : Project → Bool) :
    side.tenancy (dropProjects tenancy drops) = dropProjects (side.tenancy tenancy) drops := by
  have sameMembers := @kept_members_part side tenancy drops
  simp only [Side.tenancy, dropProjects, TenancyDb.mk.injEq, true_and] at sameMembers ⊢
  refine ⟨?_, sameMembers⟩
  rw [List.filter_filter, List.filter_filter]
  exact List.filter_congr fun project _ => Bool.and_comm _ _

theorem drop_projects_apart (apart : side.Apart tenancy) (drops : Project → Bool) :
    side.Apart (dropProjects tenancy drops) where
  owned := fun project member => apart.owned project (List.mem_filter.mp member).1
  rostered := fun member isMember => apart.rostered member (List.mem_filter.mp isMember).1

theorem drop_projects_beyond {drops : Project → Bool}
    (beyond : ∀ project ∈ tenancy.projects, drops project = true →
      side.projects project.id = false) :
    side.tenancy (dropProjects tenancy drops) = side.tenancy tenancy := by
  simp only [Side.tenancy, dropProjects, TenancyDb.mk.injEq, true_and, List.filter_filter]
  constructor
  · apply List.filter_congr
    intro project member
    cases dropped : drops project with
    | true => simp [beyond project member dropped]
    | false => simp
  · apply List.filter_congr
    intro member _
    cases found : getProjectById tenancy member.projectId with
    | none => simp
    | some project =>
        obtain ⟨stored, keyed⟩ := find_key_some found
        cases dropped : drops project with
        | true => simp [← Option.some.inj keyed, beyond project stored dropped]
        | false => simp [dropped]

theorem delete_project_separates (apart : side.Apart tenancy) (projectId : String) :
    side.Separates tenancy subject fun rows => deleteProject rows subject projectId where
  keeps := by
    intro next done
    rw [(delete_project_ok done).2]
    exact drop_projects_apart apart _
  beyond := by
    intro next other done
    obtain ⟨⟨project, found, theirs⟩, rows⟩ := delete_project_ok done
    rw [rows]
    apply drop_projects_beyond
    intro dropped _ named
    rw [beq_iff_eq.mp named, found_owned apart found, theirs, other]
  own := by
    intro own
    have sameRow : ((getProjectById (side.tenancy tenancy) projectId).filter fun project =>
        project.accountId == subject && !project.isDefault) =
          (getProjectById tenancy projectId).filter fun project =>
            project.accountId == subject && !project.isDefault := by
      rw [get_project_part]
      cases inside : side.projects projectId with
      | true => rfl
      | false =>
          cases found : getProjectById tenancy projectId with
          | none => rfl
          | some project =>
              have notTheirs : project.accountId ≠ subject := by
                rintro rfl
                rw [found_owned apart found, own] at inside
                cases inside
              simp [Option.filter, notTheirs]
    unfold deleteProject
    rw [sameRow]
    cases (getProjectById tenancy projectId).filter fun project =>
        project.accountId == subject && !project.isDefault with
    | none => rfl
    | some project => exact congrArg Except.ok (drop_projects_part _).symm

/-- `withoutAccount` drops the account's projects, then its own rows. -/
def withoutRows (tenancy : TenancyDb) (accountId : String) : TenancyDb :=
  { tenancy with
    accounts := tenancy.accounts.filter fun account => account.id ≠ accountId
    members := tenancy.members.filter fun member => member.accountId ≠ accountId }

theorem without_account_eq (tenancy : TenancyDb) (accountId : String) :
    withoutAccount tenancy accountId =
      withoutRows (dropProjects tenancy fun project => project.accountId == accountId)
        accountId := rfl

theorem without_rows_part (accountId : String) :
    side.tenancy (withoutRows tenancy accountId) =
      withoutRows (side.tenancy tenancy) accountId := by
  simp only [Side.tenancy, withoutRows, List.filter_filter, Bool.and_comm]

theorem without_rows_beyond (apart : side.Apart tenancy) {accountId : String}
    (beyond : side.accounts accountId = false) :
    side.tenancy (withoutRows tenancy accountId) = side.tenancy tenancy := by
  simp only [Side.tenancy, withoutRows, TenancyDb.mk.injEq, true_and, List.filter_filter]
  constructor
  · apply List.filter_congr
    intro account _
    by_cases deleted : account.id = accountId
    · simp [deleted, beyond]
    · simp [deleted]
  · apply List.filter_congr
    intro member isMember
    by_cases deleted : member.accountId = accountId
    · simp [deleted, apart.rostered member isMember, beyond]
    · simp [deleted]

theorem delete_account_separates (apart : side.Apart tenancy) (accountId : String) :
    side.Separates tenancy subject fun rows => deleteAccount rows subject accountId where
  keeps := by
    intro next done
    rw [delete_account_ok done, without_account_eq]
    have dropped := drop_projects_apart apart fun project => project.accountId == subject
    exact ⟨dropped.owned, fun member isMember =>
      dropped.rostered member (List.mem_filter.mp isMember).1⟩
  beyond := by
    intro next other done
    rw [delete_account_ok done, without_account_eq,
      without_rows_beyond (drop_projects_apart apart _) other]
    apply drop_projects_beyond
    intro project member theirs
    rw [apart.owned project member, beq_iff_eq.mp theirs, other]
  own := by
    intro own
    unfold deleteAccount
    rw [get_account_part]
    by_cases theirs : accountId = subject
    · simp only [theirs, own, if_true, true_and]
      split_ifs
      · simp only [Except.map, without_account_eq, without_rows_part, drop_projects_part]
      · rfl
    · simp [theirs, Except.map]

section Roster

variable {projectId target : String}

theorem delete_member_part :
    side.tenancy (deleteMember tenancy projectId target) =
      deleteMember (side.tenancy tenancy) projectId target := by
  simp only [Side.tenancy, deleteMember, List.filter_filter, Bool.and_comm]

theorem update_member_rows_part {change : ProjectMember → ProjectMember}
    (keeps : ∀ member, (change member).projectId = member.projectId) :
    (updateKey memberKey tenancy.members (projectId, target) change).filter
        (fun member => side.projects member.projectId) =
      updateKey memberKey (tenancy.members.filter fun member => side.projects member.projectId)
        (projectId, target) change := by
  apply update_key_filter
  intro member _ _
  rw [keeps]

theorem update_member_part {change : ProjectMember → ProjectMember}
    (inside : side.projects projectId = true)
    (keeps : ∀ member, (change member).projectId = member.projectId) :
    updateMember (side.tenancy tenancy) projectId target change =
      (updateMember tenancy projectId target change).map side.tenancy := by
  unfold updateMember
  rw [member_row_part, if_pos inside]
  split_ifs
  · rfl
  · simp only [Except.map, Side.tenancy, update_member_rows_part keeps]

theorem apply_roster_write_part {write : RosterWrite} (inside : side.projects projectId = true)
    (confined : ∀ role, write = .insert role → side.accounts target = true) :
    applyRosterWrite (side.tenancy tenancy) projectId target write =
      (applyRosterWrite tenancy projectId target write).map side.tenancy := by
  cases write with
  | insert role =>
      simp only [applyRosterWrite, insertMember]
      rw [member_row_part, get_project_part, get_account_part, inside, confined role rfl,
        if_pos rfl, if_pos rfl, if_pos rfl]
      split_ifs
      · rfl
      · rfl
      · rfl
      · simp [Except.map, Side.tenancy, inside]
  | delete => exact congrArg Except.ok delete_member_part.symm
  | setRole role => exact update_member_part inside fun _ => rfl
  | setTier tier => exact update_member_part inside fun _ => rfl

theorem apply_roster_write_beyond {write : RosterWrite} (beyond : side.projects projectId = false)
    (done : applyRosterWrite tenancy projectId target write = .ok next) :
    side.tenancy next = side.tenancy tenancy := by
  have updated : ∀ {change : ProjectMember → ProjectMember},
      updateMember tenancy projectId target change = .ok next →
      (∀ member, (change member).projectId = member.projectId) →
      side.tenancy next = side.tenancy tenancy := by
    intro change done keeps
    rw [update_member_ok done]
    simp only [Side.tenancy, TenancyDb.mk.injEq, true_and]
    apply update_key_filter_outside
    · intro member _ keyed
      rw [(Prod.mk.inj (Option.some.inj keyed)).1, beyond]
    · intro member _ keyed
      rw [keeps, (Prod.mk.inj (Option.some.inj keyed)).1, beyond]
  cases write with
  | insert role =>
      rcases insert_member_ok done with same | appended
      · rw [same]
      · rw [appended]
        simp [Side.tenancy, beyond]
  | delete =>
      cases done
      simp only [Side.tenancy, deleteMember, TenancyDb.mk.injEq, true_and, List.filter_filter]
      apply List.filter_congr
      intro member _
      by_cases hit : memberKey member = some (projectId, target)
      · simp [hit, (Prod.mk.inj (Option.some.inj hit)).1, beyond]
      · simp [hit]
  | setRole role => exact updated done fun _ => rfl
  | setTier tier => exact updated done fun _ => rfl

theorem apply_roster_write_apart (apart : side.Apart tenancy) {write : RosterWrite}
    (confined : ∀ role, write = .insert role →
      side.projects projectId = side.accounts target)
    (done : applyRosterWrite tenancy projectId target write = .ok next) : side.Apart next := by
  have updated : ∀ {change : ProjectMember → ProjectMember},
      updateMember tenancy projectId target change = .ok next →
      (∀ member, memberKey (change member) = memberKey member) → side.Apart next := by
    intro change done keeps
    rw [update_member_ok done]
    refine ⟨apart.owned, ?_⟩
    intro member isMember
    obtain ⟨stored, storedMember, isRow⟩ := mem_update_key.mp isMember
    subst isRow
    split
    · obtain ⟨sameProject, sameAccount⟩ := Prod.mk.inj (Option.some.inj (keeps stored))
      rw [sameProject, sameAccount]
      exact apart.rostered stored storedMember
    · exact apart.rostered stored storedMember
  cases write with
  | insert role =>
      rcases insert_member_ok done with same | appended
      · rw [same]
        exact apart
      · rw [appended]
        refine ⟨apart.owned, ?_⟩
        intro member isMember
        rcases List.mem_append.mp isMember with stored | created
        · exact apart.rostered member stored
        · rw [List.mem_singleton.mp created]
          exact confined role rfl
  | delete =>
      cases done
      exact ⟨apart.owned, fun member isMember =>
        apart.rostered member (List.mem_filter.mp isMember).1⟩
  | setRole role => exact updated done fun _ => rfl
  | setTier tier => exact updated done fun _ => rfl

end Roster

def RosterRequest.brings (target : String) : RosterRequest → Option String
  | .addProjectMember _ => some target
  | _ => none

theorem roster_write_insert {tiers : List String} {request : RosterRequest} {role : ProjectRole}
    {target : String} (checked : rosterWrite tiers request = .ok (.insert role)) :
    RosterRequest.brings target request = some target := by
  cases request with
  | addProjectMember asked => rfl
  | removeProjectMember => cases checked
  | setProjectMemberRole asked =>
      simp only [rosterWrite, Except.map] at checked
      split at checked <;> cases checked
  | setProjectMemberQuotaTier tier =>
      simp only [rosterWrite] at checked
      split_ifs at checked
      cases checked

theorem roster_operation_ok {tiers : List String} {projectId target : String}
    {request : RosterRequest}
    (done : rosterOperation tiers tenancy subject projectId target request = .ok next) :
    ∃ write, rosterWrite tiers request = .ok write ∧
      authorizeProjectLead tenancy projectId subject = .ok () ∧
      applyRosterWrite tenancy projectId target write = .ok next := by
  simp only [rosterOperation, bind, Except.bind] at done
  split at done
  · cases done
  · rename_i write checked
    split at done
    · cases done
    · rename_i authorized
      exact ⟨write, checked, authorized, done⟩

theorem roster_operation_separates (apart : side.Apart tenancy) (tiers : List String)
    (projectId target : String) {request : RosterRequest}
    (confined : ∀ brought ∈ RosterRequest.brings target request,
      side.accounts brought = side.accounts subject) :
    side.Separates tenancy subject
      fun rows => rosterOperation tiers rows subject projectId target request where
  keeps := by
    intro next done
    obtain ⟨write, checked, authorized, applied⟩ := roster_operation_ok done
    apply apply_roster_write_apart apart _ applied
    rintro role rfl
    rw [(authorized_on_side apart authorized).1,
      confined target (roster_write_insert checked)]
  beyond := by
    intro next other done
    obtain ⟨write, checked, authorized, applied⟩ := roster_operation_ok done
    exact apply_roster_write_beyond ((authorized_on_side apart authorized).1.trans other) applied
  own := by
    intro own
    unfold rosterOperation
    simp only [bind, Except.bind]
    cases checked : rosterWrite tiers request with
    | error error => rfl
    | ok write =>
        simp only [authorize_lead_part apart own]
        cases authorized : authorizeProjectLead tenancy projectId subject with
        | error error => rfl
        | ok done =>
            apply apply_roster_write_part
            · rw [(authorized_on_side apart authorized).1, own]
            · rintro role rfl
              rw [confined target (roster_write_insert checked), own]

end LightbridgeAuthz.Access.TenantSides
