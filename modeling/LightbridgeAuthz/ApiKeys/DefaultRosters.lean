import LightbridgeAuthz.ApiKeys.RosterCalls

/-!
# Rosters of default projects

The schema takes it for granted that a default project has no roster, and none of
its policies looks at the flag. Two operations can put a roster beside the flag:
`addProjectMember` inserts without reading `is_default`, and `setDefaultProject`
promotes a project whatever its roster holds. Along every other step the rule is
kept, and where it holds nobody but the owner gets at a default project.
-/

namespace LightbridgeAuthz.ApiKeys.DefaultRosters

open Library.EventRun Library.KeyedRows
open Access.Tenancy Access.TenancyOps
open KeyTable KeyCalls RosterCalls

set_option autoImplicit false

def NoDefaultRoster (tenancy : TenancyDb) : Prop :=
  ∀ member ∈ tenancy.members, ∀ project ∈ tenancy.projects,
    project.id = member.projectId → project.isDefault = false

instance (tenancy : TenancyDb) : Decidable (NoDefaultRoster tenancy) :=
  inferInstanceAs (Decidable (∀ member ∈ tenancy.members, ∀ project ∈ tenancy.projects,
    project.id = member.projectId → project.isDefault = false))

/-- What the tables' own constraints promise of projects and rosters. -/
structure RostersStored (tenancy : TenancyDb) : Prop where
  unique : UniqueKeys projectKey tenancy.projects
  references : ∀ member ∈ tenancy.members,
    ∃ project ∈ tenancy.projects, project.id = member.projectId

def insertsOnDefault (tenancy : TenancyDb) (call : RosterCall) : Bool :=
  match call.point, call.write with
  | .write, .insert _ =>
      (getProjectById tenancy call.projectId).any Project.isDefault &&
        (memberRow tenancy call.projectId call.target).isNone &&
        (getAccountById tenancy call.target).isSome
  | _, _ => false

def promotesRoster (tenancy : TenancyDb) (subject projectId : String) : Bool :=
  (visibleProject tenancy subject projectId).isSome &&
    tenancy.members.any fun member => member.projectId == projectId

def fillsDefault (world : RosterWorld) : RosterEvent → Bool
  | .operate subject (.setDefaultProject projectId) =>
      promotesRoster world.base.tenancy subject projectId
  | .advance slot => world.calls[slot]?.any (insertsOnDefault world.base.tenancy)
  | _ => false

section Rows

variable {tenancy next : TenancyDb}

theorem get_project_mem {projectId : String} {project : Project}
    (found : getProjectById tenancy projectId = some project) :
    project ∈ tenancy.projects ∧ project.id = projectId :=
  ⟨(find_key_some found).1, Option.some.inj (find_key_some found).2⟩

theorem no_default_roster_of_rows (clear : NoDefaultRoster tenancy)
    (projects : ∀ later ∈ next.projects, ∃ project ∈ tenancy.projects,
      project.id = later.id ∧ (later.isDefault = true → project.isDefault = true))
    (members : ∀ member ∈ next.members,
      ∃ old ∈ tenancy.members, old.projectId = member.projectId) : NoDefaultRoster next := by
  intro member memberIn later laterIn same
  obtain ⟨old, oldIn, oldProject⟩ := members member memberIn
  obtain ⟨project, projectIn, sameId, wasDefault⟩ := projects later laterIn
  have was := clear old oldIn project projectIn (by rw [sameId, same, oldProject])
  by_contra isDefault
  have isTrue : later.isDefault = true := by simpa using isDefault
  rw [wasDefault isTrue] at was
  cases was

theorem stored_of_rows (stored : RostersStored tenancy)
    (unique : UniqueKeys projectKey next.projects)
    (kept : ∀ project ∈ tenancy.projects, ∃ later ∈ next.projects, later.id = project.id)
    (members : ∀ member ∈ next.members,
      ∃ old ∈ tenancy.members, old.projectId = member.projectId) : RostersStored next := by
  refine ⟨unique, ?_⟩
  intro member memberIn
  obtain ⟨old, oldIn, oldProject⟩ := members member memberIn
  obtain ⟨project, projectIn, named⟩ := stored.references old oldIn
  obtain ⟨later, laterIn, sameId⟩ := kept project projectIn
  exact ⟨later, laterIn, by rw [sameId, named, oldProject]⟩

theorem mem_update_project (tenancy : TenancyDb) (projectId : String) {change : Project → Project}
    (keeps : ∀ project, (change project).id = project.id ∧
      (change project).isDefault = project.isDefault) :
    (∀ later ∈ (updateProject tenancy projectId change).projects, ∃ project ∈ tenancy.projects,
        project.id = later.id ∧ (later.isDefault = true → project.isDefault = true)) ∧
      ∀ project ∈ tenancy.projects,
        ∃ later ∈ (updateProject tenancy projectId change).projects, later.id = project.id := by
  constructor
  · intro later laterIn
    obtain ⟨project, projectIn, isLater⟩ := mem_update_key.mp laterIn
    refine ⟨project, projectIn, ?_⟩
    subst isLater
    split_ifs
    · rw [(keeps project).1, (keeps project).2]
      exact ⟨rfl, id⟩
    · exact ⟨rfl, id⟩
  · intro project projectIn
    refine ⟨_, mem_update_key.mpr ⟨project, projectIn, rfl⟩, ?_⟩
    split_ifs
    · exact (keeps project).1
    · rfl

theorem mem_drop_projects (stored : RostersStored tenancy) {drops : Project → Bool}
    {member : ProjectMember} (memberIn : member ∈ (dropProjects tenancy drops).members) :
    member ∈ tenancy.members ∧
      ∃ project ∈ tenancy.projects, drops project = false ∧ project.id = member.projectId := by
  obtain ⟨inTable, notDropped⟩ := List.mem_filter.mp memberIn
  obtain ⟨project, projectIn, named⟩ := stored.references member inTable
  refine ⟨inTable, project, projectIn, ?_, named⟩
  have found : getProjectById tenancy member.projectId = some project :=
    find_key_eq_of_unique stored.unique projectIn (by rw [projectKey, named])
  simpa [found] using notDropped

theorem same_members (member : ProjectMember) (memberIn : member ∈ tenancy.members) :
    ∃ old ∈ tenancy.members, old.projectId = member.projectId :=
  ⟨member, memberIn, rfl⟩

theorem update_project_rosters (stored : RostersStored tenancy) (projectId : String)
    (change : Project → Project)
    (keeps : ∀ project, (change project).id = project.id ∧
      (change project).isDefault = project.isDefault) :
    RostersStored (updateProject tenancy projectId change) ∧
      (NoDefaultRoster tenancy → NoDefaultRoster (updateProject tenancy projectId change)) := by
  obtain ⟨rowsOf, kept⟩ := mem_update_project tenancy projectId keeps
  refine ⟨stored_of_rows stored ?_ kept same_members, ?_⟩
  · exact unique_keys_update stored.unique fun project => by rw [projectKey, (keeps project).1]; rfl
  · intro clear
    exact no_default_roster_of_rows clear rowsOf same_members

theorem drop_projects_rosters (stored : RostersStored tenancy) (drops : Project → Bool) :
    RostersStored (dropProjects tenancy drops) ∧
      (NoDefaultRoster tenancy → NoDefaultRoster (dropProjects tenancy drops)) := by
  refine ⟨⟨List.Pairwise.filter _ stored.unique, ?_⟩, ?_⟩
  · intro member memberIn
    obtain ⟨_, project, projectIn, stays, named⟩ := mem_drop_projects stored memberIn
    exact ⟨project, List.mem_filter.mpr ⟨projectIn, by simp [stays]⟩, named⟩
  · intro clear
    refine no_default_roster_of_rows clear ?_ ?_
    · intro later laterIn
      exact ⟨later, (List.mem_filter.mp laterIn).1, rfl, id⟩
    · intro member memberIn
      exact same_members member (mem_drop_projects stored memberIn).1

theorem delete_account_rosters (stored : RostersStored tenancy) (accountId : String) :
    RostersStored (withoutAccount tenancy accountId) ∧
      (NoDefaultRoster tenancy → NoDefaultRoster (withoutAccount tenancy accountId)) := by
  obtain ⟨droppedStored, droppedClear⟩ :=
    drop_projects_rosters stored fun project => project.accountId == accountId
  refine ⟨⟨droppedStored.unique, ?_⟩, ?_⟩
  · intro member memberIn
    exact droppedStored.references member (List.mem_filter.mp memberIn).1
  · intro clear member memberIn
    exact droppedClear clear member (List.mem_filter.mp memberIn).1

theorem create_project_rosters (stored : RostersStored tenancy) {subject id accountId : String}
    (done : createProject tenancy subject id accountId = .ok next) :
    RostersStored next ∧ (NoDefaultRoster tenancy → NoDefaultRoster next) := by
  obtain ⟨fresh, appended, apart⟩ := create_project_ok done
  have noRoster : ∀ member ∈ tenancy.members, fresh.id ≠ member.projectId := by
    intro member memberIn same
    obtain ⟨project, projectIn, named⟩ := stored.references member memberIn
    exact apart project projectIn (by rw [projectKey, projectKey, named, same])
  subst appended
  refine ⟨⟨?_, ?_⟩, ?_⟩
  · apply unique_keys_append stored.unique
    intro value keyed project member same
    exact apart project member (same.trans keyed.symm)
  · intro member memberIn
    obtain ⟨project, projectIn, named⟩ := stored.references member memberIn
    exact ⟨project, List.mem_append_left _ projectIn, named⟩
  · intro clear member memberIn project projectIn named
    rcases List.mem_append.mp projectIn with old | new
    · exact clear member memberIn project old named
    · rw [List.mem_singleton.mp new] at named
      exact absurd named (noRoster member memberIn)

theorem set_default_rosters (stored : RostersStored tenancy) {subject projectId : String}
    (done : setDefaultProject tenancy subject projectId = .ok next) :
    RostersStored next ∧
      (NoDefaultRoster tenancy → promotesRoster tenancy subject projectId = false →
        NoDefaultRoster next) := by
  unfold setDefaultProject at done
  split at done
  · cases done
  rename_i promoted visible
  cases done
  have row := with_default_row promoted.accountId projectId
  constructor
  · refine stored_of_rows stored ?_ ?_ same_members
    · apply unique_keys_map stored.unique
      intro project
      rw [projectKey, (row project).1, projectKey]
    · intro project projectIn
      exact ⟨_, List.mem_map_of_mem projectIn, (row project).1⟩
  · intro clear quiet member memberIn later laterIn named
    obtain ⟨project, projectIn, rfl⟩ := List.mem_map.mp laterIn
    rw [(row project).1] at named
    have other : project.id ≠ projectId := by
      intro same
      have present : promotesRoster tenancy subject projectId = true := by
        simp only [promotesRoster, visible, Option.isSome_some, Bool.true_and, List.any_eq_true,
          beq_iff_eq]
        exact ⟨member, memberIn, named.symm.trans same⟩
      rw [quiet] at present
      cases present
    have was := clear member memberIn project projectIn named
    simp only [withDefault, if_neg other]
    split_ifs
    · rfl
    · exact was

theorem operate_rosters {tiers : List String} {subject : String} {op : TenancyOp}
    (stored : RostersStored tenancy)
    (notRoster : ∀ projectId target request, op ≠ .roster projectId target request)
    (done : operate tiers tenancy subject op = .ok next) :
    RostersStored next ∧
      (NoDefaultRoster tenancy →
        (∀ projectId, op = .setDefaultProject projectId →
          promotesRoster tenancy subject projectId = false) → NoDefaultRoster next) := by
  have quietly : ∀ later,
      RostersStored later ∧ (NoDefaultRoster tenancy → NoDefaultRoster later) →
        RostersStored later ∧
          (NoDefaultRoster tenancy →
            (∀ projectId, op = .setDefaultProject projectId →
              promotesRoster tenancy subject projectId = false) → NoDefaultRoster later) :=
    fun later holds => ⟨holds.1, fun clear _ => holds.2 clear⟩
  cases op with
  | createAccount =>
      rw [create_account_ok done]
      exact ⟨⟨stored.unique, stored.references⟩, fun clear _ => clear⟩
  | setAccountStatus accountId status =>
      obtain ⟨sameProjects, sameRosters⟩ := set_account_status_ok done
      refine ⟨⟨?_, ?_⟩, fun clear _ => ?_⟩
      · rw [sameProjects]
        exact stored.unique
      · rw [sameProjects, sameRosters]
        exact stored.references
      · unfold NoDefaultRoster
        rw [sameProjects, sameRosters]
        exact clear
  | deleteAccountPermanently accountId =>
      rw [delete_account_ok done]
      exact quietly _ (delete_account_rosters stored subject)
  | createProject id accountId => exact quietly _ (create_project_rosters stored done)
  | updateProject projectId accountId =>
      rcases update_project_verb_ok done with same | ⟨project, moved, visible, isMoved, rows⟩
      · rw [same]
        exact quietly _ ⟨stored, id⟩
      · rw [rows]
        exact quietly _ (update_project_rosters stored projectId _ fun _ => ⟨rfl, rfl⟩)
  | deleteProject projectId =>
      rw [(delete_project_ok done).2]
      exact quietly _ (drop_projects_rosters stored _)
  | setProjectStatus projectId status =>
      rw [set_project_column_ok done]
      exact quietly _ (update_project_rosters stored projectId _ fun _ => ⟨rfl, rfl⟩)
  | setDefaultProject projectId =>
      obtain ⟨still, clears⟩ := set_default_rosters stored done
      exact ⟨still, fun clear quiet => clears clear (quiet projectId rfl)⟩
  | setProjectAllowedModels projectId models =>
      rw [set_project_column_ok done]
      exact quietly _ (update_project_rosters stored projectId _ fun _ => ⟨rfl, rfl⟩)
  | setProjectModelPolicy projectId policy =>
      rw [set_project_model_policy_ok done]
      exact quietly _ (update_project_rosters stored projectId _ fun _ => ⟨rfl, rfl⟩)
  | roster projectId target request => exact absurd rfl (notRoster projectId target request)

theorem update_member_rosters (stored : RostersStored tenancy) {projectId target : String}
    {change : ProjectMember → ProjectMember}
    (done : updateMember tenancy projectId target change = .ok next)
    (keeps : ∀ member, (change member).projectId = member.projectId) :
    RostersStored next ∧ (NoDefaultRoster tenancy → NoDefaultRoster next) := by
  rw [update_member_ok done]
  have members : ∀ member ∈ updateKey memberKey tenancy.members (projectId, target) change,
      ∃ old ∈ tenancy.members, old.projectId = member.projectId := by
    intro member memberIn
    obtain ⟨old, oldIn, isMember⟩ := mem_update_key.mp memberIn
    refine ⟨old, oldIn, ?_⟩
    subst isMember
    split_ifs
    · exact (keeps old).symm
    · rfl
  refine ⟨stored_of_rows stored stored.unique (fun project found => ⟨project, found, rfl⟩) members,
    fun clear => no_default_roster_of_rows clear (fun later found => ⟨later, found, rfl, id⟩)
      members⟩

theorem roster_write_rosters (stored : RostersStored tenancy) {call : RosterCall}
    (stands : call.point = .write)
    (written : applyRosterWrite tenancy call.projectId call.target call.write = .ok next) :
    RostersStored next ∧
      (NoDefaultRoster tenancy → insertsOnDefault tenancy call = false →
        NoDefaultRoster next) := by
  cases isWrite : call.write with
  | insert role =>
      rw [isWrite] at written
      simp only [applyRosterWrite, insertMember] at written
      split_ifs at written with present noProject noAccount
      · cases written
        exact ⟨stored, fun clear _ => clear⟩
      · cases written
        obtain ⟨project, found⟩ : ∃ project, getProjectById tenancy call.projectId = some project :=
          Option.ne_none_iff_exists'.mp (by simpa using noProject)
        obtain ⟨projectIn, named⟩ := get_project_mem found
        refine ⟨⟨stored.unique, ?_⟩, ?_⟩
        · intro member memberIn
          rcases List.mem_append.mp memberIn with old | new
          · exact stored.references member old
          · rw [List.mem_singleton.mp new]
            exact ⟨project, projectIn, named⟩
        · intro clear quiet member memberIn later laterIn same
          rcases List.mem_append.mp memberIn with old | new
          · exact clear member old later laterIn same
          · rw [List.mem_singleton.mp new] at same
            have isProject : later = project :=
              unique_keys_eq stored.unique laterIn projectIn (congrArg some same)
                (congrArg some named)
            have landed : project.isDefault = true → insertsOnDefault tenancy call = true := by
              intro isDefault
              have absent : memberRow tenancy call.projectId call.target = none := by
                simpa using present
              have account : (getAccountById tenancy call.target).isSome = true := by
                simpa [Option.isNone_iff_eq_none, Option.isSome_iff_ne_none] using noAccount
              simp [insertsOnDefault, stands, isWrite, found, isDefault, absent, account]
            rw [isProject]
            by_contra isDefault
            rw [landed (by simpa using isDefault)] at quiet
            cases quiet
  | delete =>
      rw [isWrite] at written
      cases written
      have members : ∀ member ∈ (deleteMember tenancy call.projectId call.target).members,
          ∃ old ∈ tenancy.members, old.projectId = member.projectId := fun member memberIn =>
        ⟨member, (List.mem_filter.mp memberIn).1, rfl⟩
      exact ⟨stored_of_rows stored stored.unique (fun project found => ⟨project, found, rfl⟩) members,
        fun clear _ => no_default_roster_of_rows clear
          (fun later found => ⟨later, found, rfl, id⟩) members⟩
  | setRole role =>
      rw [isWrite, applyRosterWrite] at written
      obtain ⟨still, clears⟩ := update_member_rosters stored written fun _ => rfl
      exact ⟨still, fun clear _ => clears clear⟩
  | setTier tier =>
      rw [isWrite, applyRosterWrite] at written
      obtain ⟨still, clears⟩ := update_member_rosters stored written fun _ => rfl
      exact ⟨still, fun clear _ => clears clear⟩

theorem promoted_roster_breaks (stored : RostersStored tenancy) {subject projectId : String}
    (promotes : promotesRoster tenancy subject projectId = true)
    (done : setDefaultProject tenancy subject projectId = .ok next) : ¬ NoDefaultRoster next := by
  intro clear
  simp only [promotesRoster, Bool.and_eq_true, List.any_eq_true, beq_iff_eq] at promotes
  obtain ⟨_, member, memberIn, onProject⟩ := promotes
  obtain ⟨project, projectIn, named⟩ := stored.references member memberIn
  unfold setDefaultProject at done
  split at done
  · cases done
  rename_i promoted visible
  cases done
  have row := with_default_row promoted.accountId projectId project
  have flag := clear member memberIn _ (List.mem_map_of_mem projectIn) (row.1.trans named)
  simp [withDefault, named.trans onProject] at flag

theorem inserts_on_default_applies {call : RosterCall}
    (inserts : insertsOnDefault tenancy call = true) :
    call.point = .write ∧
      ∃ later, applyRosterWrite tenancy call.projectId call.target call.write = .ok later := by
  unfold insertsOnDefault at inserts
  split at inserts
  case h_1 role stands isWrite =>
    simp only [Bool.and_eq_true, Option.any_eq_true] at inserts
    obtain ⟨⟨⟨project, found, _⟩, absent⟩, account⟩ := inserts
    obtain ⟨row, isRow⟩ := Option.isSome_iff_exists.mp account
    refine ⟨stands, { tenancy with
      members := tenancy.members ++ [⟨call.projectId, call.target, role, none⟩] }, ?_⟩
    rw [isWrite, applyRosterWrite, insertMember]
    simp [Option.isNone_iff_eq_none.mp absent, found, isRow]
  case h_2 => cases inserts

theorem inserted_on_default_breaks {call : RosterCall}
    (inserts : insertsOnDefault tenancy call = true)
    (written : applyRosterWrite tenancy call.projectId call.target call.write = .ok next) :
    ¬ NoDefaultRoster next := by
  intro clear
  unfold insertsOnDefault at inserts
  split at inserts
  case h_1 role stands isWrite =>
    simp only [Bool.and_eq_true, Option.any_eq_true] at inserts
    obtain ⟨⟨⟨project, found, isDefault⟩, absent⟩, account⟩ := inserts
    obtain ⟨projectIn, named⟩ := get_project_mem found
    rw [isWrite] at written
    simp only [applyRosterWrite, insertMember] at written
    split_ifs at written with present noProject noAccount
    · simp [Option.isNone_iff_eq_none.mp absent] at present
    · cases written
      have flag := clear _ (List.mem_append_right _ (List.mem_singleton_self _)) project projectIn
        named
      rw [isDefault] at flag
      cases flag
  case h_2 => cases inserts

/-- Nobody but the account that owns it gets at a default project. -/
structure OwnerOnly (tenancy : TenancyDb) (project : Project) (subject : String) : Prop where
  read : sees tenancy subject project = true → project.accountId = subject
  update : (visibleProject tenancy subject project.id).isSome = true →
    project.accountId = subject
  mint : authorizeProjectLead tenancy project.id subject = .ok () → project.accountId = subject

theorem owner_only (stored : RostersStored tenancy) (clear : NoDefaultRoster tenancy)
    {project : Project} (projectIn : project ∈ tenancy.projects)
    (isDefault : project.isDefault = true) (subject : String) :
    OwnerOnly tenancy project subject := by
  have noRow : memberRow tenancy project.id subject = none := by
    apply find_key_none.mpr
    intro member memberIn keyed
    have onProject : member.projectId = project.id :=
      congrArg Prod.fst (Option.some.inj keyed)
    have flag := clear member memberIn project projectIn onProject.symm
    rw [isDefault] at flag
    cases flag
  have found : getProjectById tenancy project.id = some project :=
    find_key_eq_of_unique stored.unique projectIn rfl
  have read : sees tenancy subject project = true → project.accountId = subject := by
    intro may
    simpa [sees, noRow] using may
  refine ⟨read, ?_, ?_⟩
  · intro visible
    obtain ⟨shown, isShown⟩ := Option.isSome_iff_exists.mp visible
    obtain ⟨same, may⟩ := Option.filter_eq_some_iff.mp isShown
    rw [found] at same
    cases same
    exact read may
  · intro authorized
    by_contra other
    simp [authorizeProjectLead, authorizeOwner, found, other, authorizeLead, projectMemberRole,
      noRow] at authorized

end Rows

section Runs

variable {tiers : List String} {config : KeyConfig} {world next : RosterWorld}
  {event : RosterEvent}

theorem roster_step_rosters (stored : RostersStored world.base.tenancy)
    (stepped : rosterStep tiers config world event = some next) :
    RostersStored next.base.tenancy ∧
      (NoDefaultRoster world.base.tenancy → fillsDefault world event = false →
        NoDefaultRoster next.base.tenancy) := by
  cases roster_change stepped with
  | refused => exact ⟨stored, fun clear _ => clear⟩
  | keyed moved sameTenancy =>
      rw [sameTenancy]
      exact ⟨stored, fun clear _ => clear⟩
  | operated notRoster done =>
      obtain ⟨still, clears⟩ := operate_rosters stored notRoster done
      refine ⟨still, fun clear quiet => clears clear ?_⟩
      intro projectId isPromotion
      subst isPromotion
      exact quiet
  | arrived checked => exact ⟨stored, fun clear _ => clear⟩
  | moved running reads => exact ⟨stored, fun clear _ => clear⟩
  | wrote running stands written =>
      obtain ⟨still, clears⟩ := roster_write_rosters stored stands written
      refine ⟨still, fun clear quiet => clears clear ?_⟩
      simpa [fillsDefault, running] using quiet

theorem filled_default_breaks (stored : RostersStored world.base.tenancy)
    (fills : fillsDefault world event = true)
    (stepped : rosterStep tiers config world event = some next) :
    ¬ NoDefaultRoster next.base.tenancy := by
  cases event with
  | key event => cases fills
  | arrive subject projectId target request => cases fills
  | operate subject op =>
      cases op with
      | setDefaultProject projectId =>
          simp only [rosterStep, operate] at stepped
          split at stepped
          case h_1 refused =>
            have visible := (Bool.and_eq_true_iff.mp fills).1
            obtain ⟨project, seen⟩ := Option.isSome_iff_exists.mp visible
            simp [setDefaultProject, seen] at refused
          case h_2 tenancy done =>
            cases stepped
            exact promoted_roster_breaks stored fills done
      | _ => cases fills
  | advance slot =>
      simp only [fillsDefault, Option.any_eq_true] at fills
      obtain ⟨call, running, inserts⟩ := fills
      obtain ⟨stands, applied⟩ := inserts_on_default_applies inserts
      obtain ⟨tenancy, written⟩ := applied
      simp only [rosterStep, running, rosterMove, stands, written, Option.map_some,
        Option.some.injEq] at stepped
      subst stepped
      exact inserted_on_default_breaks inserts written

/-- Along a run from a state where the rule holds, it holds in every state exactly
when no step inserts a roster row on a default project or promotes a project that
has a roster. -/
theorem no_default_roster_iff {start last : RosterWorld} {events : List RosterEvent}
    (stored : RostersStored start.base.tenancy) (clear : NoDefaultRoster start.base.tenancy)
    (ran : runFrom (rosterStep tiers config) start events = some last) :
    (∀ front back middle, events = front ++ back →
        runFrom (rosterStep tiers config) start front = some middle →
        NoDefaultRoster middle.base.tenancy) ↔
      Meets (rosterStep tiers config) (fun world event => fillsDefault world event = false) start
        events := by
  constructor
  · intro never
    apply meets_of_prefixes
    intro front event back middle isRun before
    cases fills : fillsDefault middle event with
    | false => rfl
    | true =>
        rw [isRun] at ran
        obtain ⟨_, sameBefore, tail⟩ := run_append_some ran
        cases before.symm.trans sameBefore
        obtain ⟨next, stepped, _⟩ := run_cons_some tail
        have upTo : runFrom (rosterStep tiers config) start (front ++ [event]) = some next := by
          apply run_append before
          simp [runFrom, stepped]
        have middleStored := run_preserves (fun world => RostersStored world.base.tenancy)
          (fun _ _ _ still stepped => (roster_step_rosters still stepped).1) stored before
        exact absurd (never (front ++ [event]) back next (by simp [isRun]) upTo)
          (filled_default_breaks middleStored fills stepped)
  · intro met front back middle isRun before
    rw [isRun] at met
    have both := run_preserves_of_meets
      (fun world => RostersStored world.base.tenancy ∧ NoDefaultRoster world.base.tenancy)
      (fun _ _ _ holds quiet stepped =>
        ⟨(roster_step_rosters holds.1 stepped).1,
          (roster_step_rosters holds.1 stepped).2 holds.2 quiet⟩)
      ⟨stored, clear⟩ (meets_append_some met before).1 before
    exact both.2

/-- The rule, and with it that only the owner gets at a default project, holds in
every state of a run exactly when no step of the run fills a default project's
roster. -/
theorem default_projects_have_no_roster_iff (tiers : List String) (config : KeyConfig)
    {start last : RosterWorld} {events : List RosterEvent}
    (stored : RostersStored start.base.tenancy) (clear : NoDefaultRoster start.base.tenancy)
    (ran : runFrom (rosterStep tiers config) start events = some last) :
    (∀ front back middle, events = front ++ back →
        runFrom (rosterStep tiers config) start front = some middle →
        NoDefaultRoster middle.base.tenancy ∧
          ∀ project ∈ middle.base.tenancy.projects, project.isDefault = true →
            ∀ subject, OwnerOnly middle.base.tenancy project subject) ↔
      Meets (rosterStep tiers config) (fun world event => fillsDefault world event = false) start
        events := by
  rw [← no_default_roster_iff stored clear ran]
  constructor
  · intro each front back middle isRun before
    exact (each front back middle isRun before).1
  · intro each front back middle isRun before
    have middleStored := run_preserves (fun world => RostersStored world.base.tenancy)
      (fun _ _ _ still stepped => (roster_step_rosters still stepped).1) stored before
    have middleClear := each front back middle isRun before
    exact ⟨middleClear, fun project projectIn isDefault subject =>
      owner_only middleStored middleClear projectIn isDefault subject⟩

end Runs

def emptyRosters : RosterWorld :=
  { base :=
      { tenancy := ⟨[⟨"owner", .active⟩, ⟨"guest", .active⟩], [], []⟩
        keys := []
        clock := 0
        calls := fun _ => none }
    calls := [] }

theorem empty_rosters_stored : RostersStored emptyRosters.base.tenancy :=
  ⟨List.Pairwise.nil, fun _ impossible => absurd impossible List.not_mem_nil⟩

theorem empty_rosters_clear : NoDefaultRoster emptyRosters.base.tenancy :=
  fun _ impossible => absurd impossible List.not_mem_nil

/-- The owner's first project becomes the default, the second gets a guest. -/
def shareSecond : List RosterEvent :=
  [.operate "owner" (.createProject "home" "owner"),
    .operate "owner" (.createProject "shared" "owner"),
    .arrive "owner" "shared" "guest" (.addProjectMember none),
    .advance 0, .advance 0]

theorem share_second_keeps_default_closed :
    ∃ last, runFrom (rosterStep [] sampleKeyConfig) emptyRosters shareSecond = some last ∧
      NoDefaultRoster last.base.tenancy := by
  have passed : reaches (rosterStep [] sampleKeyConfig) emptyRosters shareSecond
      (fun last => last.base.tenancy.members.length == 1) = true := by
    decide +kernel
  obtain ⟨last, ran, _⟩ := exists_of_reaches passed
  refine ⟨last, ran, ?_⟩
  have quiet : Meets (rosterStep [] sampleKeyConfig)
      (fun world event => fillsDefault world event = false) emptyRosters shareSecond := by
    decide +kernel
  exact ((default_projects_have_no_roster_iff [] sampleKeyConfig empty_rosters_stored
    empty_rosters_clear ran).mpr quiet shareSecond [] last (List.append_nil _).symm ran).1

/-- The owner adds a guest to the default project itself. -/
def shareDefault : List RosterEvent :=
  [.operate "owner" (.createProject "home" "owner"),
    .arrive "owner" "home" "guest" (.addProjectMember none),
    .advance 0, .advance 0]

/-- Both ways to a default project with a roster: the guest sees it, and after the
promotion of the shared project it was the guest's own call that made it so. -/
theorem default_project_gets_roster :
    (∃ last, runFrom (rosterStep [] sampleKeyConfig) emptyRosters shareDefault = some last ∧
        ¬ NoDefaultRoster last.base.tenancy ∧
        seesProject last.base.tenancy "guest" "home" = true) ∧
      ∃ last, runFrom (rosterStep [] sampleKeyConfig) emptyRosters
          (shareSecond ++ [.operate "guest" (.setDefaultProject "shared")]) = some last ∧
        ¬ NoDefaultRoster last.base.tenancy := by
  constructor
  · have passed : reaches (rosterStep [] sampleKeyConfig) emptyRosters shareDefault
        (fun last => decide (¬ NoDefaultRoster last.base.tenancy) &&
          seesProject last.base.tenancy "guest" "home") = true := by
      decide +kernel
    obtain ⟨last, ran, ends⟩ := exists_of_reaches passed
    obtain ⟨broken, seen⟩ := Bool.and_eq_true_iff.mp ends
    exact ⟨last, ran, of_decide_eq_true broken, seen⟩
  · have passed : reaches (rosterStep [] sampleKeyConfig) emptyRosters
        (shareSecond ++ [.operate "guest" (.setDefaultProject "shared")])
        (fun last => decide (¬ NoDefaultRoster last.base.tenancy)) = true := by
      decide +kernel
    obtain ⟨last, ran, ends⟩ := exists_of_reaches passed
    exact ⟨last, ran, of_decide_eq_true ends⟩

end LightbridgeAuthz.ApiKeys.DefaultRosters
