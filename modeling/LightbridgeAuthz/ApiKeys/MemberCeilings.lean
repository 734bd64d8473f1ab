import LightbridgeAuthz.ApiKeys.KeyIntrospection
import LightbridgeAuthz.ApiKeys.RosterCalls

/-!
# Per-member ceilings of keys

A key is bounded by the tier that the roster has for its owner. Nothing ties the
key to the roster: a member who is removed leaves their keys behind, active and
without a tier. Along every run in which a removal leaves no key of the removed
member, a creation inserts its key while its caller still stands on the project,
and no project is moved away from the keys of its owner, the owner of every key
is the project's account or has a row on its roster.
-/

namespace LightbridgeAuthz.ApiKeys.MemberCeilings

open Library.EventRun Library.KeyedRows Library.CallSlots
open Access.Tenancy Access.TenancyOps
open KeyTable KeyCalls RosterCalls KeyIntrospection

set_option autoImplicit false

/-- The operation moves the project from `owner` to another account, and `owner`
has no row on its roster. -/
def movesFrom (tenancy : TenancyDb) (subject : String) (op : TenancyOp)
    (owner projectId : String) : Bool :=
  match op with
  | .updateProject target (some accountId) =>
      target == projectId && accountId != owner &&
        (visibleProject tenancy subject target).any (fun project => project.accountId == owner) &&
        (memberRow tenancy projectId owner).isNone
  | _ => false

/-- A removal about to run, aimed at someone who is not the project's account. -/
def removes (tenancy : TenancyDb) (call : RosterCall) (owner projectId : String) : Bool :=
  match call with
  | ⟨_, target, removed, .delete, .write⟩ =>
      target == projectId && removed == owner &&
        !(getProjectById tenancy projectId).any fun project => project.accountId == owner
  | _ => false

/-- The step takes the standing of the owner of a stored key away, or inserts the
key of a caller who has none. -/
def liftsCeiling (world : RosterWorld) : RosterEvent → Bool
  | .advance slot =>
      match world.calls[slot]? with
      | none => false
      | some call =>
          world.base.keys.any fun row =>
            row.deletedAt.isNone &&
              removes world.base.tenancy call row.ownerAccountId row.projectId
  | .operate subject op =>
      world.base.keys.any fun row =>
        row.deletedAt.isNone &&
          movesFrom world.base.tenancy subject op row.ownerAccountId row.projectId
  | .key (.advance caller _) =>
      match world.base.calls caller with
      | some (.create request (.insert _)) =>
          !seesProject world.base.tenancy request.subject request.projectId
      | _ => false
  | _ => false

section Standing

variable {tiers : List String} {tenancy next : TenancyDb} {subject owner projectId : String}

theorem sees_of_same (sameProjects : next.projects = tenancy.projects)
    (sameMembers : next.members = tenancy.members) :
    seesProject next owner projectId = seesProject tenancy owner projectId := by
  have sameSees : sees next owner = sees tenancy owner := by
    funext project
    simp only [sees, memberRow, sameMembers]
  simp only [seesProject, getProjectById, sameProjects, sameSees]

theorem sees_of_projects (was : seesProject tenancy owner projectId = true)
    (kept : ∀ project, getProjectById tenancy projectId = some project →
      ∃ later, getProjectById next projectId = some later ∧
        later.accountId = project.accountId)
    (sameMembers : next.members = tenancy.members) :
    seesProject next owner projectId = true := by
  obtain ⟨project, found, standing⟩ := sees_project_iff.mp was
  obtain ⟨later, laterFound, sameAccount⟩ := kept project found
  refine sees_project_iff.mpr ⟨later, laterFound, ?_⟩
  rw [sameAccount, memberRow, sameMembers]
  exact standing

theorem sees_update_project {target : String} {change : Project → Project}
    (keeps : ∀ project, (change project).id = project.id ∧
      (change project).accountId = project.accountId)
    (was : seesProject tenancy owner projectId = true) :
    seesProject (updateProject tenancy target change) owner projectId = true := by
  refine sees_of_projects was ?_ rfl
  intro project found
  by_cases same : projectId = target
  · subst same
    exact ⟨change project, get_project_update_same change found (keeps project).1,
      (keeps project).2⟩
  · refine ⟨project, ?_, rfl⟩
    rw [get_project_update_other tenancy change (fun row => (keeps row).1) same]
    exact found

theorem member_row_filter (tenancy : TenancyDb) {keep : ProjectMember → Bool}
    (kept : ∀ member, memberKey member = some (projectId, owner) → keep member = true) :
    findKey memberKey (tenancy.members.filter keep) (projectId, owner) =
      memberRow tenancy projectId owner := by
  unfold findKey memberRow findKey
  rw [List.find?_filter]
  congr 1
  funext member
  by_cases keyed : memberKey member = some (projectId, owner)
  · simp [keyed, kept member keyed]
  · simp [keyed]

theorem sees_drop (unique : UniqueKeys projectKey tenancy.projects)
    {drops : Project → Bool} (keep : ProjectMember → Bool)
    (projects : next.projects = tenancy.projects.filter fun project => !drops project)
    (members : next.members = (dropProjects tenancy drops).members.filter keep)
    (kept : ∀ member, memberKey member = some (projectId, owner) → keep member = true)
    (left : (getProjectById next projectId).isSome = true)
    (was : seesProject tenancy owner projectId = true) :
    seesProject next owner projectId = true := by
  obtain ⟨project, found, standing⟩ := sees_project_iff.mp was
  obtain ⟨later, laterFound⟩ := Option.isSome_iff_exists.mp left
  obtain ⟨laterMember, laterKeyed⟩ := find_key_some laterFound
  rw [projects] at laterMember
  obtain ⟨stored, undropped⟩ := List.mem_filter.mp laterMember
  have same : later = project :=
    unique_keys_eq unique stored (find_key_some found).1 laterKeyed (find_key_some found).2
  subst same
  refine sees_project_iff.mpr ⟨later, laterFound, ?_⟩
  have sameRow : memberRow next projectId owner = memberRow tenancy projectId owner := by
    rw [memberRow, members]
    have outer := member_row_filter (dropProjects tenancy drops) kept
    rw [outer, memberRow, dropProjects]
    apply member_row_filter
    intro member keyed
    have onProject : member.projectId = projectId := (Prod.mk.inj (Option.some.inj keyed)).1
    rw [onProject, found]
    simpa using undropped
  rw [sameRow]
  exact standing

theorem delete_account_sees {accountId : String}
    (unique : UniqueKeys projectKey tenancy.projects)
    (done : operate tiers tenancy subject (.deleteAccountPermanently accountId) = .ok next)
    (projectLeft : (getProjectById next projectId).isSome = true)
    (ownerLeft : (getAccountById next owner).isSome = true)
    (was : seesProject tenancy owner projectId = true) :
    seesProject next owner projectId = true := by
  have isNext := delete_account_ok done
  apply sees_drop unique _ (by rw [isNext]; rfl) (by rw [isNext]; rfl) _ projectLeft was
  intro member keyed
  have isOwner : member.accountId = owner := (Prod.mk.inj (Option.some.inj keyed)).2
  have remains : owner ≠ subject := by
    intro same
    obtain ⟨account, found⟩ := Option.isSome_iff_exists.mp ownerLeft
    obtain ⟨inAccounts, accountKeyed⟩ := find_key_some found
    rw [isNext] at inAccounts
    have apart := (List.mem_filter.mp inAccounts).2
    have named : account.id = owner := Option.some.inj accountKeyed
    simp [named, same] at apart
  simp [isOwner, remains]

theorem update_project_sees {target : String} {accountId : Option String}
    (done : operate tiers tenancy subject (.updateProject target accountId) = .ok next)
    (stays : movesFrom tenancy subject (.updateProject target accountId) owner projectId = false)
    (was : seesProject tenancy owner projectId = true) :
    seesProject next owner projectId = true := by
  rcases update_project_verb_ok done with same | ⟨project, other, visible, isOther, isNext⟩
  · rw [same]
    exact was
  · by_cases here : projectId = target
    · subst here
      have found := visible_project_found visible
      obtain ⟨stored, storedFound, standing⟩ := sees_project_iff.mp was
      have isStored : stored = project := Option.some.inj (storedFound.symm.trans found)
      rw [isNext]
      refine sees_project_iff.mpr
        ⟨_, get_project_update_same (fun row => { row with accountId := other }) found rfl, ?_⟩
      rw [isStored] at standing
      by_cases onRoster : (memberRow tenancy projectId owner).isSome = true
      · exact Or.inr onRoster
      · have owns : project.accountId = owner := by
          rcases standing with owns | member
          · exact owns
          · exact absurd member onRoster
        have offRoster : (memberRow tenancy projectId owner).isNone = true := by
          simpa using onRoster
        refine Or.inl ?_
        simpa [movesFrom, isOther, visible, owns, offRoster] using stays
    · rw [isNext]
      refine sees_of_projects was ?_ rfl
      intro stored storedFound
      refine ⟨stored, ?_, rfl⟩
      rw [get_project_update_other tenancy (fun row => { row with accountId := other })
        (fun _ => rfl) here]
      exact storedFound

theorem operate_sees {op : TenancyOp} (unique : UniqueKeys projectKey tenancy.projects)
    (notRoster : ∀ target member request, op ≠ .roster target member request)
    (done : operate tiers tenancy subject op = .ok next)
    (stays : movesFrom tenancy subject op owner projectId = false)
    (projectLeft : (getProjectById next projectId).isSome = true)
    (ownerLeft : (getAccountById next owner).isSome = true)
    (was : seesProject tenancy owner projectId = true) :
    seesProject next owner projectId = true := by
  cases op with
  | createAccount =>
      rw [create_account_ok done]
      exact (sees_of_same rfl rfl).trans was
  | setAccountStatus accountId status =>
      obtain ⟨sameProjects, sameMembers⟩ := set_account_status_ok done
      exact (sees_of_same sameProjects sameMembers).trans was
  | deleteAccountPermanently accountId =>
      exact delete_account_sees unique done projectLeft ownerLeft was
  | createProject id accountId =>
      obtain ⟨fresh, appended, _⟩ := create_project_ok done
      refine sees_of_projects was ?_ (by rw [appended])
      intro project found
      refine ⟨project, ?_, rfl⟩
      rw [appended]
      exact find_key_append_of_some found
  | updateProject target accountId => exact update_project_sees done stays was
  | deleteProject target =>
      obtain ⟨_, isNext⟩ := delete_project_ok done
      apply sees_drop unique (fun _ => true) (by rw [isNext]; rfl) _ _ projectLeft was
      · rw [isNext, List.filter_eq_self.mpr]
        intro _ _
        rfl
      · intro _ _
        rfl
  | setProjectStatus target status =>
      rw [set_project_column_ok done]
      exact sees_update_project (fun _ => ⟨rfl, rfl⟩) was
  | setDefaultProject target =>
      obtain ⟨promoted, _, isNext⟩ := set_default_project_ok done
      refine sees_of_projects was ?_ (by rw [isNext])
      intro project found
      have row := with_default_row promoted.accountId promoted.id
      refine ⟨withDefault promoted.accountId promoted.id project, ?_, (row project).2⟩
      apply find_key_eq_of_unique (operate_unique unique done)
      · rw [isNext]
        exact List.mem_map_of_mem (find_key_some found).1
      · rw [projectKey, (row project).1]
        exact (find_key_some found).2
  | setProjectAllowedModels target models =>
      rw [set_project_column_ok done]
      exact sees_update_project (fun _ => ⟨rfl, rfl⟩) was
  | setProjectModelPolicy target policy =>
      rw [set_project_model_policy_ok done]
      exact sees_update_project (fun _ => ⟨rfl, rfl⟩) was
  | roster target member request => exact absurd rfl (notRoster target member request)

theorem roster_write_sees {call : RosterCall} (stands : call.point = .write)
    (written : applyRosterWrite tenancy call.projectId call.target call.write = .ok next)
    (stays : removes tenancy call owner projectId = false)
    (was : seesProject tenancy owner projectId = true) :
    seesProject next owner projectId = true := by
  obtain ⟨project, found, standing⟩ := sees_project_iff.mp was
  have sameProjects : getProjectById next projectId = some project := by
    rw [getProjectById, roster_write_projects written]
    exact found
  refine sees_project_iff.mpr ⟨project, sameProjects, ?_⟩
  obtain ⟨caller, target, removed, write, point⟩ := call
  cases stands
  rcases standing with owns | onRoster
  · exact Or.inl owns
  · obtain ⟨member, row⟩ := Option.isSome_iff_exists.mp onRoster
    cases write with
    | insert role =>
        refine Or.inr ?_
        rcases insert_member_ok written with same | appended
        · rw [same]
          exact onRoster
        · rw [appended]
          exact Option.isSome_iff_exists.mpr ⟨member, find_key_append_of_some row⟩
    | delete =>
        cases written
        by_cases aimed : target = projectId ∧ removed = owner
        · obtain ⟨here, isOwner⟩ := aimed
          subst here isOwner
          refine Or.inl ?_
          simpa [removes, found] using stays
        · refine Or.inr ?_
          have sameRow : memberRow (deleteMember tenancy target removed) projectId owner =
              memberRow tenancy projectId owner := by
            apply member_row_filter
            intro other keyed
            rw [keyed]
            have apart : ¬ ((projectId, owner) = (target, removed)) := by
              intro same
              obtain ⟨sameProject, sameOwner⟩ := Prod.mk.inj same
              exact aimed ⟨sameProject.symm, sameOwner.symm⟩
            exact decide_eq_true fun same => apart (Option.some.inj same)
          rw [sameRow]
          exact onRoster
    | setRole role =>
        refine Or.inr ?_
        rw [update_member_ok written]
        obtain ⟨later, laterFound, _⟩ := find_key_update_related (fun _ _ => True)
          (fun _ => trivial) (withRole role) (fun _ => rfl) (fun _ _ => trivial) row
        exact Option.isSome_iff_exists.mpr ⟨later, laterFound⟩
    | setTier tier =>
        refine Or.inr ?_
        rw [update_member_ok written]
        obtain ⟨later, laterFound, _⟩ := find_key_update_related (fun _ _ => True)
          (fun _ => trivial) (withTier tier) (fun _ => rfl) (fun _ _ => trivial) row
        exact Option.isSome_iff_exists.mpr ⟨later, laterFound⟩

end Standing

/-- Every key that is not deleted belongs to someone who stands on its project,
and the calls in flight carry rows of their own callers. -/
structure KeysStand (world : RosterWorld) : Prop where
  uniqueProjects : UniqueKeys projectKey world.base.tenancy.projects
  standing : ∀ row ∈ world.base.keys, row.deletedAt = none →
    seesProject world.base.tenancy row.ownerAccountId row.projectId = true
  created : ∀ caller request point row,
    world.base.calls caller = some (.create request point) → plannedRow point = some row →
    row.projectId = request.projectId ∧ row.ownerAccountId = request.subject
  rotated : ∀ caller request existing now plan,
    world.base.calls caller = some (.rotate request (.transact existing now plan)) →
    plan.newKey.ownerAccountId = request.subject

section Steps

variable {tiers : List String} {config : KeyConfig} {world next : RosterWorld}
  {event : RosterEvent}

theorem rotation_sees {tenancy : TenancyDb} {keys written : List ApiKeyRow}
    {subject id : String} {status : ApiKeyStatus} {revokedAt expiresAt : Option Int}
    {newKey : ApiKeyRow}
    (rotated : rotateApiKeyTransaction tenancy keys subject id status revokedAt expiresAt newKey =
      .ok written) : seesProject tenancy subject newKey.projectId = true := by
  unfold rotateApiKeyTransaction at rotated
  split at rotated
  · cases rotated
  · split_ifs at rotated with visible
    exact visible

theorem standing_update {tenancy : TenancyDb} {keys : List ApiKeyRow} {id : String}
    (change : ApiKeyRow → ApiKeyRow)
    (keeps : ∀ row, (change row).projectId = row.projectId ∧
      (change row).ownerAccountId = row.ownerAccountId ∧
      ((change row).deletedAt = none → row.deletedAt = none))
    (standing : ∀ row ∈ keys, row.deletedAt = none →
      seesProject tenancy row.ownerAccountId row.projectId = true) :
    ∀ row ∈ updateKey keyId keys id change, row.deletedAt = none →
      seesProject tenancy row.ownerAccountId row.projectId = true := by
  intro row member undeleted
  obtain ⟨old, oldMember, isRow⟩ := mem_update_key.mp member
  split_ifs at isRow
  · subst isRow
    obtain ⟨sameProject, sameOwner, wasUndeleted⟩ := keeps old
    rw [sameProject, sameOwner]
    exact standing old oldMember (wasUndeleted undeleted)
  · subst isRow
    exact standing old oldMember undeleted

theorem key_step_standing {keyEvent : KeyEvent} {base : KeyWorld} (inv : KeysStand world)
    (keeps : liftsCeiling world (.key keyEvent) = false)
    (stepped : keyStep config world.base keyEvent = some base) :
    ∀ row ∈ base.keys, row.deletedAt = none →
      seesProject world.base.tenancy row.ownerAccountId row.projectId = true := by
  have change := KeyCalls.step_change stepped
  generalize isKeys : base.keys = written at change
  cases change with
  | kept => exact inv.standing
  | @inserted caller input request row call fresh =>
      intro found member undeleted
      rcases List.mem_append.mp member with old | isNew
      · exact inv.standing found old undeleted
      · have same : found = row := by simpa using isNew
        obtain ⟨onProject, isOwner⟩ := inv.created caller request _ row call rfl
        rw [same, onProject, isOwner]
        simpa [liftsCeiling, call] using keeps
  | @rotated caller input request existing stored now plan call found fresh =>
      have sees : seesProject world.base.tenancy request.subject plan.newKey.projectId = true := by
        simp only [keyStep, call, rotateMove] at stepped
        split at stepped
        · cases Option.some.inj stepped
          have lengths := congrArg List.length isKeys
          simp [updateKey] at lengths
        · rename_i rotated
          exact rotation_sees rotated
      intro row member undeleted
      rcases List.mem_append.mp member with old | isNew
      · exact standing_update (withStatus _ _ _) (fun _ => ⟨rfl, rfl, fun now => now⟩)
          inv.standing row old undeleted
      · have same : row = plan.newKey := by simpa using isNew
        rw [same, inv.rotated caller request existing now plan call]
        exact sees
  | revoked subject id =>
      exact standing_update (withStatus _ _ _) (fun _ => ⟨rfl, rfl, fun now => now⟩) inv.standing
  | deleted subject id =>
      apply standing_update _ _ inv.standing
      intro row
      split_ifs
      · exact ⟨rfl, rfl, fun gone => by cases gone⟩
      · exact ⟨rfl, rfl, fun now => now⟩
  | renamed subject id name =>
      apply standing_update _ _ inv.standing
      intro row
      split_ifs
      · exact ⟨rfl, rfl, fun now => now⟩
      · exact ⟨rfl, rfl, fun now => now⟩

theorem key_step_created {keyEvent : KeyEvent} {base : KeyWorld} (inv : KeysStand world)
    (stepped : keyStep config world.base keyEvent = some base) {caller : Nat}
    {request : CreateRequest} {point : CreatePoint} {row : ApiKeyRow}
    (stands : base.calls caller = some (.create request point))
    (planned : plannedRow point = some row) :
    row.projectId = request.projectId ∧ row.ownerAccountId = request.subject := by
  have origin := call_origin stepped stands
  generalize base.keys = written at origin
  cases origin with
  | stood was => exact inv.created caller request point row was planned
  | creationArrived request => cases planned
  | creationMoved was moved =>
      rcases create_move_planned moved planned with before | own
      · exact inv.created caller request _ row was before
      · exact own

theorem key_step_rotated {keyEvent : KeyEvent} {base : KeyWorld} (inv : KeysStand world)
    (stepped : keyStep config world.base keyEvent = some base) {caller : Nat}
    {request : RotateRequest} {existing : ApiKeyRow} {now : Int} {plan : RotationPlan}
    (stands : base.calls caller = some (.rotate request (.transact existing now plan))) :
    plan.newKey.ownerAccountId = request.subject := by
  have origin := call_origin stepped stands
  generalize base.keys = written at origin
  cases origin with
  | stood was => exact inv.rotated caller request existing now plan was
  | @rotationMoved _ _ before _ was moved =>
      cases before with
      | select =>
          simp only [rotateMove] at moved
          split at moved <;> cases moved
      | issue snapshot =>
          simp only [rotateMove] at moved
          split at moved
          · cases moved
          · rename_i made isMade
            cases moved
            obtain ⟨_, _, _, _, _, issued⟩ := plan_rotation_parts isMade
            exact issued.owner
      | transact snapshot instant made =>
          simp only [rotateMove] at moved
          split at moved <;> cases moved
      | returned answer => cases moved

theorem keys_stand_step (inv : KeysStand world) (keeps : liftsCeiling world event = false)
    (stepped : rosterStep tiers config world event = some next) : KeysStand next := by
  cases roster_change stepped with
  | refused _ => exact inv
  | keyed keyStepped sameTenancy =>
      constructor
      · rw [sameTenancy]
        exact inv.uniqueProjects
      · rw [sameTenancy]
        exact key_step_standing inv keeps keyStepped
      · intro caller request point row stands planned
        exact key_step_created inv keyStepped stands planned
      · intro caller request existing now plan stands
        exact key_step_rotated inv keyStepped stands
  | @operated subject op tenancy notRoster done =>
      refine ⟨operate_unique inv.uniqueProjects done, ?_, inv.created, inv.rotated⟩
      intro row member undeleted
      obtain ⟨stored, left⟩ := List.mem_filter.mp member
      have bothLeft : (getProjectById tenancy row.projectId).isSome = true ∧
          (getAccountById tenancy row.ownerAccountId).isSome = true := by
        simpa using left
      have stays : movesFrom world.base.tenancy subject op row.ownerAccountId row.projectId =
          false := by
        have none := List.any_eq_false.mp keeps row stored
        simpa [undeleted] using none
      exact operate_sees inv.uniqueProjects notRoster done stays bothLeft.1 bothLeft.2
        (inv.standing row stored undeleted)
  | arrived checked => exact ⟨inv.uniqueProjects, inv.standing, inv.created, inv.rotated⟩
  | moved running reads => exact ⟨inv.uniqueProjects, inv.standing, inv.created, inv.rotated⟩
  | @wrote slot call tenancy running stands written =>
      refine ⟨?_, ?_, inv.created, inv.rotated⟩
      · simp only [withTenancy, roster_write_projects written]
        exact inv.uniqueProjects
      · intro row stored undeleted
        have stays : removes world.base.tenancy call row.ownerAccountId row.projectId = false := by
          simp only [liftsCeiling, running] at keeps
          have none := List.any_eq_false.mp keeps row stored
          simpa [undeleted] using none
        exact roster_write_sees stands written stays (inv.standing row stored undeleted)

end Steps

/-- Along every run in which no step lifts a ceiling, a key that introspection
reports active and that is not its project's account's carries the tier of its
owner's row on the roster; without a tier it is the account's, or that row has
none. -/
theorem active_key_keeps_ceiling (tiers : List String) (config : KeyConfig)
    {start last : RosterWorld} {events : List RosterEvent} {hash : String}
    {response : IntrospectResponse} (stand : KeysStand start)
    (met : Meets (rosterStep tiers config) (fun world event => liftsCeiling world event = false)
      start events)
    (ran : runFrom (rosterStep tiers config) start events = some last)
    (answered : introspectApiKeyRow last.base.tenancy last.base.keys last.base.clock hash =
      .ok response)
    (active : response.active = true) :
    ∃ row project, findKey keyHash last.base.keys hash = some row ∧
      getProjectById last.base.tenancy row.projectId = some project ∧
      (row.ownerAccountId ≠ project.accountId →
        ∃ member, memberRow last.base.tenancy row.projectId row.ownerAccountId = some member ∧
          response.quotaTier = member.quotaTier) ∧
      (response.quotaTier = none →
        row.ownerAccountId = project.accountId ∨
          ∃ member, memberRow last.base.tenancy row.projectId row.ownerAccountId = some member ∧
            member.quotaTier = none) := by
  have inv := run_preserves_of_meets KeysStand
    (fun _ _ _ inv keeps stepped => keys_stand_step inv keeps stepped) stand met ran
  obtain ⟨row, found, undeleted, _, tier⟩ := introspect_api_key_row_active answered active
  have sees := inv.standing row (find_key_some found).1 undeleted
  obtain ⟨project, projectFound, standing⟩ := sees_project_iff.mp sees
  have bounded : row.ownerAccountId ≠ project.accountId →
      ∃ member, memberRow last.base.tenancy row.projectId row.ownerAccountId = some member ∧
        response.quotaTier = member.quotaTier := by
    intro notOwner
    rcases standing with owns | onRoster
    · exact absurd owns.symm notOwner
    · obtain ⟨member, isMember⟩ := Option.isSome_iff_exists.mp onRoster
      refine ⟨member, isMember, ?_⟩
      simp [tier, projectMemberQuotaTier, isMember]
  refine ⟨row, project, found, projectFound, bounded, ?_⟩
  intro untiered
  by_cases owns : row.ownerAccountId = project.accountId
  · exact Or.inl owns
  · obtain ⟨member, isMember, isTier⟩ := bounded owns
    exact Or.inr ⟨member, isMember, isTier ▸ untiered⟩

def mintKey : List RosterEvent :=
  [.key (.createApiKey 0 ⟨"lead", "shared", ⟨"key", some 86400000000, "standard"⟩⟩)] ++
    List.replicate 4 (.key (.advance 0 ⟨"key id", .ok ⟨"secret", none⟩⟩))

def removeLead : List RosterEvent :=
  [.arrive "owner" "shared" "lead" .removeProjectMember, .advance 0, .advance 0]

theorem sample_roster_stands : KeysStand sampleRoster where
  uniqueProjects := by decide +kernel
  standing := by
    intro row member
    cases member
  created := by
    intro caller request point row running
    cases running
  rotated := by
    intro caller request existing now plan running
    cases running

def activeWithTier (tier : Option String) (world : RosterWorld) : Bool :=
  match introspectApiKeyRow world.base.tenancy world.base.keys world.base.clock
      "hash of secret" with
  | .ok response => response.active && response.quotaTier == tier
  | .error _ => false

/-- While the lead is on the roster, the key carries their tier. -/
theorem minted_key_keeps_ceiling :
    ∃ last response, runFrom (rosterStep [] sampleKeyConfig) sampleRoster mintKey = some last ∧
      introspectApiKeyRow last.base.tenancy last.base.keys last.base.clock "hash of secret" =
        .ok response ∧ response.active = true ∧
      ∃ row project, findKey keyHash last.base.keys "hash of secret" = some row ∧
        getProjectById last.base.tenancy row.projectId = some project ∧
        (row.ownerAccountId ≠ project.accountId →
          ∃ member, memberRow last.base.tenancy row.projectId row.ownerAccountId = some member ∧
            response.quotaTier = member.quotaTier) ∧
        (response.quotaTier = none →
          row.ownerAccountId = project.accountId ∨
            ∃ member, memberRow last.base.tenancy row.projectId row.ownerAccountId =
                some member ∧ member.quotaTier = none) := by
  have passed : reaches (rosterStep [] sampleKeyConfig) sampleRoster mintKey
      (activeWithTier (some "small")) = true := by
    decide +kernel
  obtain ⟨last, ran, ends⟩ := exists_of_reaches passed
  unfold activeWithTier at ends
  split at ends
  · rename_i response answered
    have active : response.active = true := (Bool.and_eq_true_iff.mp ends).1
    refine ⟨last, response, ran, answered, active, ?_⟩
    refine active_key_keeps_ceiling [] sampleKeyConfig sample_roster_stands ?_ ran answered active
    decide +kernel
  · cases ends

/-- The lead is removed: their key is still active, belongs to someone who is
neither the account nor on the roster, and has no ceiling. -/
theorem removed_member_key_unbounded :
    KeysStand sampleRoster ∧
      ∃ last, runFrom (rosterStep [] sampleKeyConfig) sampleRoster (mintKey ++ removeLead) =
          some last ∧
        activeWithTier none last = true ∧
        (findKey keyHash last.base.keys "hash of secret").any (fun row =>
          row.ownerAccountId == "lead" &&
            (memberRow last.base.tenancy row.projectId "lead").isNone &&
            (getProjectById last.base.tenancy row.projectId).any fun project =>
              project.accountId == "owner") = true := by
  refine ⟨sample_roster_stands, ?_⟩
  have passed : reaches (rosterStep [] sampleKeyConfig) sampleRoster (mintKey ++ removeLead)
      (fun last => activeWithTier none last &&
        (findKey keyHash last.base.keys "hash of secret").any fun row =>
          row.ownerAccountId == "lead" &&
            (memberRow last.base.tenancy row.projectId "lead").isNone &&
            (getProjectById last.base.tenancy row.projectId).any fun project =>
              project.accountId == "owner") = true := by
    decide +kernel
  obtain ⟨last, ran, ends⟩ := exists_of_reaches passed
  exact ⟨last, ran, Bool.and_eq_true_iff.mp ends⟩

end LightbridgeAuthz.ApiKeys.MemberCeilings
