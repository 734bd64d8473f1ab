import LightbridgeAuthz.Access.Tenancy

/-!
# The operations that write accounts, projects and rosters

One definition for each statement that writes the three tables, and the RPC and
MCP operations over them. The generated verbs of `model.Project` check their row
policy on the stored row; the roster operations ask `authorize_project_lead`
first; the others put the rule in their `WHERE` clause. A permission that the
caller lacks refuses the operation before any of this, so callers here hold all
of them.
-/

namespace LightbridgeAuthz.Access.TenancyOps

open Library.KeyedRows
open Tenancy

set_option autoImplicit false

/-- `QuotaTiers::is_allowed`: no tier always passes and an empty catalogue accepts
everything. -/
def tierAllowed (catalog : List String) (tier : Option String) : Bool :=
  tier.all fun id => catalog.isEmpty || catalog.contains id

def unknownTier (catalog : List String) (tier : Option String) : AccessError :=
  .badRequest ("unknown quotaTier '" ++ tier.getD "" ++
    "': must be one of the configured tiers [" ++ ", ".intercalate catalog ++ "]")

def projectRole (text : String) : Option ProjectRole :=
  if text = "lead" then some .lead else if text = "member" then some .member else none

def validateProjectRole (text : String) : Except AccessError ProjectRole :=
  match projectRole text with
  | some role => .ok role
  | none =>
      .error (.badRequest ("invalid project role '" ++ text ++
        "', must be one of [\"lead\", \"member\"]"))

def authorizeProjectLead (tenancy : TenancyDb) (projectId subject : String) :
    Except AccessError Unit :=
  match authorizeOwner tenancy projectId subject with
  | .error error => .error error
  | .ok (some ()) => .ok ()
  | .ok none => authorizeLead tenancy projectId subject

/-- `INSERT INTO project_members … ON CONFLICT DO NOTHING`. -/
def insertMember (tenancy : TenancyDb) (projectId target : String) (role : ProjectRole) :
    Except AccessError TenancyDb :=
  if (memberRow tenancy projectId target).isSome then .ok tenancy
  else if (getProjectById tenancy projectId).isNone then
    .error (.sqlx (.foreignKeyViolation "project_members_project_id_fkey"))
  else if (getAccountById tenancy target).isNone then
    .error (.sqlx (.foreignKeyViolation "project_members_account_id_fkey"))
  else .ok { tenancy with members := tenancy.members ++ [⟨projectId, target, role, none⟩] }

def deleteMember (tenancy : TenancyDb) (projectId target : String) : TenancyDb :=
  { tenancy with
    members := tenancy.members.filter fun member =>
      memberKey member ≠ some (projectId, target) }

/-- `UPDATE project_members … WHERE project_id = $2 AND account_id = $3`; no row is
`NotFound`. -/
def updateMember (tenancy : TenancyDb) (projectId target : String)
    (change : ProjectMember → ProjectMember) : Except AccessError TenancyDb :=
  if (memberRow tenancy projectId target).isNone then .error .notFound
  else
    .ok { tenancy with
      members := updateKey memberKey tenancy.members (projectId, target) change }

def withRole (role : ProjectRole) (member : ProjectMember) : ProjectMember :=
  { member with role := role }

def withTier (tier : Option String) (member : ProjectMember) : ProjectMember :=
  { member with quotaTier := tier }

inductive RosterWrite where
  | insert (role : ProjectRole)
  | delete
  | setRole (role : ProjectRole)
  | setTier (tier : Option String)
  deriving DecidableEq, Repr

def applyRosterWrite (tenancy : TenancyDb) (projectId target : String) :
    RosterWrite → Except AccessError TenancyDb
  | .insert role => insertMember tenancy projectId target role
  | .delete => .ok (deleteMember tenancy projectId target)
  | .setRole role => updateMember tenancy projectId target (withRole role)
  | .setTier tier => updateMember tenancy projectId target (withTier tier)

inductive RosterRequest where
  | addProjectMember (role : Option String)
  | removeProjectMember
  | setProjectMemberRole (role : String)
  | setProjectMemberQuotaTier (tier : Option String)
  deriving DecidableEq, Repr

/-- The checks of a roster operation before its first statement. -/
def rosterWrite (tiers : List String) : RosterRequest → Except AccessError RosterWrite
  | .addProjectMember role =>
      (validateProjectRole (role.getD "member")).map RosterWrite.insert
  | .removeProjectMember => .ok .delete
  | .setProjectMemberRole role => (validateProjectRole role).map RosterWrite.setRole
  | .setProjectMemberQuotaTier tier =>
      if tierAllowed tiers tier then .ok (.setTier tier) else .error (unknownTier tiers tier)

def rosterOperation (tiers : List String) (tenancy : TenancyDb) (subject projectId : String)
    (target : String) (request : RosterRequest) : Except AccessError TenancyDb := do
  let write ← rosterWrite tiers request
  authorizeProjectLead tenancy projectId subject
  applyRosterWrite tenancy projectId target write

/-- The row that an owner-or-member `WHERE` clause selects. -/
def visibleProject (tenancy : TenancyDb) (subject projectId : String) : Option Project :=
  (getProjectById tenancy projectId).filter (sees tenancy subject)

def updateProject (tenancy : TenancyDb) (projectId : String) (change : Project → Project) :
    TenancyDb :=
  { tenancy with projects := updateKey projectKey tenancy.projects projectId change }

def setProjectColumn (tenancy : TenancyDb) (subject projectId : String)
    (change : Project → Project) : Except AccessError TenancyDb :=
  match visibleProject tenancy subject projectId with
  | none => .error .notFound
  | some _ => .ok (updateProject tenancy projectId change)

def withProjectStatus (status : ResourceStatus) (project : Project) : Project :=
  { project with status := status }

def withModels (models : Option (List String)) (project : Project) : Project :=
  { project with allowedModels := models }

def withPolicy (policy : ModelPolicy) (project : Project) : Project :=
  { project with modelPolicy := policy }

def emptyAllowlist : AccessError :=
  .badRequest
    ("cannot set modelPolicy to 'allowlist' while allowedModels is empty -- this would " ++
      "silently deny every model; populate allowedModels via setProjectAllowedModels " ++
      "first, or use 'deny_all' if blocking every model is actually intended")

/-- `is_none_or(<[String]>::is_empty)`. -/
def namesNoModel (models : Option (List String)) : Bool := models.all List.isEmpty

/-- The transaction of `set_project_model_policy` run to its end. -/
def setProjectModelPolicy (tenancy : TenancyDb) (subject projectId : String)
    (policy : ModelPolicy) : Except AccessError TenancyDb :=
  match visibleProject tenancy subject projectId with
  | none => .error .notFound
  | some project =>
      if policy = .allowlist ∧ namesNoModel project.allowedModels = true then
        .error emptyAllowlist
      else .ok (updateProject tenancy projectId (withPolicy policy))

/-- `UPDATE … SET is_default = false WHERE account_id = $2 AND is_default AND id !=
$3`, then `SET is_default = true WHERE id = $2`. -/
def withDefault (accountId projectId : String) (project : Project) : Project :=
  if project.id = projectId then { project with isDefault := true }
  else if project.accountId = accountId then { project with isDefault := false }
  else project

def setDefaultProject (tenancy : TenancyDb) (subject projectId : String) :
    Except AccessError TenancyDb :=
  match visibleProject tenancy subject projectId with
  | none => .error .notFound
  | some project =>
      .ok { tenancy with
        projects := tenancy.projects.map (withDefault project.accountId projectId) }

def hasDefault (tenancy : TenancyDb) (accountId : String) : Bool :=
  tenancy.projects.any fun project => project.accountId == accountId && project.isDefault

def createAccount (tenancy : TenancyDb) (subject : String) : Except AccessError TenancyDb :=
  if (getAccountById tenancy subject).isSome then
    .error (.conflict ("account already exists for subject '" ++ subject ++ "'"))
  else .ok { tenancy with accounts := tenancy.accounts ++ [⟨subject, .active⟩] }

def setAccountStatus (tenancy : TenancyDb) (subject accountId : String)
    (status : ResourceStatus) : Except AccessError TenancyDb :=
  if accountId = subject ∧ (getAccountById tenancy accountId).isSome = true then
    .ok { tenancy with
      accounts := updateKey accountKey tenancy.accounts accountId fun account =>
        { account with status := status } }
  else .error .notFound

/-- `model.Project.create`, with the trigger that makes an account's first project
its default. -/
def createProject (tenancy : TenancyDb) (subject id accountId : String) :
    Except AccessError TenancyDb :=
  if accountId ≠ subject ∨ (getAccountById tenancy accountId).isNone = true then
    .error (.forbidden "create denied by policy")
  else if (getProjectById tenancy id).isSome then
    .error (.sqlx (.uniqueViolation "projects_pkey"))
  else
    .ok { tenancy with
      projects := tenancy.projects ++
        [⟨id, accountId, .active,
          !(tenancy.projects.any fun project => project.accountId == accountId), none,
          .allowAll⟩] }

/-- `model.Project.update`: of the columns here only `account_id` is writable. The
row policy looks at the stored row; the new one answers to the foreign key and to
the index of one default project an account. -/
def updateProjectVerb (tenancy : TenancyDb) (subject projectId : String)
    (accountId : Option String) : Except AccessError TenancyDb :=
  match visibleProject tenancy subject projectId, accountId with
  | none, _ => .error .notFound
  | some _, none => .ok tenancy
  | some project, some accountId =>
      if (getAccountById tenancy accountId).isNone then
        .error (.sqlx (.foreignKeyViolation "projects_account_id_fkey"))
      else if project.isDefault && (project.accountId ≠ accountId && hasDefault tenancy accountId)
      then .error (.sqlx (.uniqueViolation "projects_account_id_default_uidx"))
      else
        .ok (updateProject tenancy projectId fun stored => { stored with accountId := accountId })

/-- `ON DELETE CASCADE` from `projects` to `project_members`. -/
def dropProjects (tenancy : TenancyDb) (drops : Project → Bool) : TenancyDb :=
  { tenancy with
    projects := tenancy.projects.filter fun project => !drops project
    members := tenancy.members.filter fun member =>
      !(getProjectById tenancy member.projectId).any drops }

/-- `model.Project.delete`, where no other table refuses it. -/
def deleteProject (tenancy : TenancyDb) (subject projectId : String) :
    Except AccessError TenancyDb :=
  match (getProjectById tenancy projectId).filter fun project =>
      project.accountId == subject && !project.isDefault with
  | none => .error .notFound
  | some _ => .ok (dropProjects tenancy fun project => project.id == projectId)

/-- What is left after an account's deletion: the projects go with it, and the
rosters' rows with either. -/
def withoutAccount (tenancy : TenancyDb) (accountId : String) : TenancyDb :=
  { accounts := tenancy.accounts.filter fun account => account.id ≠ accountId
    projects := tenancy.projects.filter fun project => !(project.accountId == accountId)
    members :=
      (dropProjects tenancy fun project => project.accountId == accountId).members.filter
        fun member => member.accountId ≠ accountId }

/-- `delete_account`, where no other table refuses it. -/
def deleteAccount (tenancy : TenancyDb) (subject accountId : String) :
    Except AccessError TenancyDb :=
  if accountId = subject ∧ (getAccountById tenancy accountId).isSome = true then
    .ok (withoutAccount tenancy accountId)
  else .error .notFound

inductive TenancyOp where
  | createAccount
  | setAccountStatus (accountId : String) (status : ResourceStatus)
  | deleteAccountPermanently (accountId : String)
  | createProject (id accountId : String)
  | updateProject (projectId : String) (accountId : Option String)
  | deleteProject (projectId : String)
  | setProjectStatus (projectId : String) (status : ResourceStatus)
  | setDefaultProject (projectId : String)
  | setProjectAllowedModels (projectId : String) (models : Option (List String))
  | setProjectModelPolicy (projectId : String) (policy : ModelPolicy)
  | roster (projectId target : String) (request : RosterRequest)
  deriving DecidableEq, Repr

def operate (tiers : List String) (tenancy : TenancyDb) (subject : String) :
    TenancyOp → Except AccessError TenancyDb
  | .createAccount => createAccount tenancy subject
  | .setAccountStatus accountId status => setAccountStatus tenancy subject accountId status
  | .deleteAccountPermanently accountId => deleteAccount tenancy subject accountId
  | .createProject id accountId => createProject tenancy subject id accountId
  | .updateProject projectId accountId => updateProjectVerb tenancy subject projectId accountId
  | .deleteProject projectId => deleteProject tenancy subject projectId
  | .setProjectStatus projectId status =>
      setProjectColumn tenancy subject projectId (withProjectStatus status)
  | .setDefaultProject projectId => setDefaultProject tenancy subject projectId
  | .setProjectAllowedModels projectId models =>
      setProjectColumn tenancy subject projectId (withModels models)
  | .setProjectModelPolicy projectId policy =>
      setProjectModelPolicy tenancy subject projectId policy
  | .roster projectId target request =>
      rosterOperation tiers tenancy subject projectId target request

theorem get_project_update_same {tenancy : TenancyDb} {projectId : String} {project : Project}
    (change : Project → Project) (found : getProjectById tenancy projectId = some project)
    (keeps : (change project).id = project.id) :
    getProjectById (updateProject tenancy projectId change) projectId =
      some (change project) := by
  apply find_key_update_same change found
  have keyed := (find_key_some found).2
  rw [projectKey, keeps]
  exact keyed

theorem get_project_update_other (tenancy : TenancyDb) {projectId other : String}
    (change : Project → Project) (keeps : ∀ project, (change project).id = project.id)
    (different : other ≠ projectId) :
    getProjectById (updateProject tenancy projectId change) other =
      getProjectById tenancy other := by
  apply find_key_update_other _ different
  intro project _ keyed
  rw [projectKey, keeps project]
  exact keyed

theorem visible_project_found {tenancy : TenancyDb} {subject projectId : String}
    {project : Project} (visible : visibleProject tenancy subject projectId = some project) :
    getProjectById tenancy projectId = some project :=
  (Option.filter_eq_some_iff.mp visible).1

theorem sees_project_iff {tenancy : TenancyDb} {subject projectId : String} :
    seesProject tenancy subject projectId = true ↔
      ∃ project, getProjectById tenancy projectId = some project ∧
        (project.accountId = subject ∨ (memberRow tenancy projectId subject).isSome = true) := by
  unfold seesProject
  rw [Option.any_eq_true]
  constructor
  · rintro ⟨project, found, may⟩
    have named : project.id = projectId := Option.some.inj (find_key_some found).2
    refine ⟨project, found, ?_⟩
    simpa [sees, named] using may
  · rintro ⟨project, found, may⟩
    have named : project.id = projectId := Option.some.inj (find_key_some found).2
    refine ⟨project, found, ?_⟩
    simpa [sees, named] using may

section Operation

variable {tiers : List String} {tenancy next : TenancyDb} {subject : String}

theorem set_project_column_ok {projectId : String} {change : Project → Project}
    (done : setProjectColumn tenancy subject projectId change = .ok next) :
    next = updateProject tenancy projectId change := by
  unfold setProjectColumn at done
  split at done
  · cases done
  · exact (Except.ok.inj done).symm

theorem set_project_model_policy_ok {projectId : String} {policy : ModelPolicy}
    (done : setProjectModelPolicy tenancy subject projectId policy = .ok next) :
    next = updateProject tenancy projectId (withPolicy policy) := by
  unfold setProjectModelPolicy at done
  split at done
  · cases done
  · split at done
    · cases done
    · exact (Except.ok.inj done).symm

theorem insert_member_ok {projectId target : String} {role : ProjectRole}
    (done : insertMember tenancy projectId target role = .ok next) :
    next = tenancy ∨
      next = { tenancy with members := tenancy.members ++ [⟨projectId, target, role, none⟩] } := by
  unfold insertMember at done
  split_ifs at done
  · exact Or.inl (Except.ok.inj done).symm
  · exact Or.inr (Except.ok.inj done).symm

theorem update_member_ok {projectId target : String} {change : ProjectMember → ProjectMember}
    (done : updateMember tenancy projectId target change = .ok next) :
    next =
      { tenancy with
        members := updateKey memberKey tenancy.members (projectId, target) change } := by
  unfold updateMember at done
  split_ifs at done
  exact (Except.ok.inj done).symm

theorem roster_write_projects {projectId target : String} {write : RosterWrite}
    (done : applyRosterWrite tenancy projectId target write = .ok next) :
    next.projects = tenancy.projects := by
  cases write with
  | insert role =>
      rcases insert_member_ok done with same | appended
      · rw [same]
      · rw [appended]
  | delete =>
      cases done
      rfl
  | setRole role => rw [update_member_ok done]
  | setTier tier => rw [update_member_ok done]

theorem roster_write_delete {request : RosterRequest}
    (checked : rosterWrite tiers request = .ok .delete) : request = .removeProjectMember := by
  cases request with
  | removeProjectMember => rfl
  | addProjectMember role =>
      simp only [rosterWrite, Except.map] at checked
      split at checked <;> cases checked
  | setProjectMemberRole role =>
      simp only [rosterWrite, Except.map] at checked
      split at checked <;> cases checked
  | setProjectMemberQuotaTier tier =>
      simp only [rosterWrite] at checked
      split_ifs at checked
      cases checked

theorem roster_operation_projects {projectId target : String} {request : RosterRequest}
    (done : rosterOperation tiers tenancy subject projectId target request = .ok next) :
    next.projects = tenancy.projects := by
  simp only [rosterOperation, bind, Except.bind] at done
  split at done
  · cases done
  · split at done
    · cases done
    · exact roster_write_projects done

theorem create_account_ok (done : createAccount tenancy subject = .ok next) :
    next = { tenancy with accounts := tenancy.accounts ++ [⟨subject, .active⟩] } := by
  unfold createAccount at done
  split_ifs at done
  exact (Except.ok.inj done).symm

theorem set_account_status_ok {accountId : String} {status : ResourceStatus}
    (done : setAccountStatus tenancy subject accountId status = .ok next) :
    next.projects = tenancy.projects ∧ next.members = tenancy.members := by
  unfold setAccountStatus at done
  split_ifs at done
  cases done
  exact ⟨rfl, rfl⟩

theorem create_project_ok {id accountId : String}
    (done : createProject tenancy subject id accountId = .ok next) :
    ∃ fresh, next = { tenancy with projects := tenancy.projects ++ [fresh] } ∧
      ∀ project ∈ tenancy.projects, projectKey project ≠ projectKey fresh := by
  unfold createProject at done
  split_ifs at done with denied taken
  cases done
  refine ⟨_, rfl, ?_⟩
  have absent : getProjectById tenancy id = none := by simpa using taken
  exact find_key_none.mp absent

theorem delete_project_ok {projectId : String}
    (done : deleteProject tenancy subject projectId = .ok next) :
    (∃ project, getProjectById tenancy projectId = some project ∧
      project.accountId = subject) ∧
    next = dropProjects tenancy fun project => project.id == projectId := by
  unfold deleteProject at done
  split at done
  · cases done
  · rename_i project selected
    obtain ⟨found, passes⟩ := Option.filter_eq_some_iff.mp selected
    have theirs : project.accountId = subject := by
      simp only [Bool.and_eq_true, beq_iff_eq] at passes
      exact passes.1
    exact ⟨⟨project, found, theirs⟩, (Except.ok.inj done).symm⟩

theorem delete_account_ok {accountId : String}
    (done : deleteAccount tenancy subject accountId = .ok next) :
    next = withoutAccount tenancy subject := by
  unfold deleteAccount at done
  split_ifs at done with allowed
  rw [← allowed.1]
  exact (Except.ok.inj done).symm

theorem set_default_project_ok {projectId : String}
    (done : setDefaultProject tenancy subject projectId = .ok next) :
    ∃ promoted ∈ tenancy.projects,
      next = { tenancy with
        projects := tenancy.projects.map (withDefault promoted.accountId promoted.id) } := by
  unfold setDefaultProject at done
  split at done
  · cases done
  · rename_i promoted visible
    obtain ⟨member, keyed⟩ := find_key_some (visible_project_found visible)
    have named : promoted.id = projectId := Option.some.inj keyed
    refine ⟨promoted, member, ?_⟩
    rw [named]
    exact (Except.ok.inj done).symm

theorem with_default_row (accountId projectId : String) (project : Project) :
    (withDefault accountId projectId project).id = project.id ∧
      (withDefault accountId projectId project).accountId = project.accountId := by
  unfold withDefault
  split_ifs <;> exact ⟨rfl, rfl⟩

theorem update_project_verb_ok {projectId : String} {accountId : Option String}
    (done : updateProjectVerb tenancy subject projectId accountId = .ok next) :
    next = tenancy ∨
      ∃ project other, visibleProject tenancy subject projectId = some project ∧
        accountId = some other ∧
        next = updateProject tenancy projectId
          fun stored => { stored with accountId := other } := by
  unfold updateProjectVerb at done
  split at done
  · cases done
  · exact Or.inl (Except.ok.inj done).symm
  · rename_i project other visible
    split_ifs at done
    exact Or.inr ⟨project, other, visible, rfl, (Except.ok.inj done).symm⟩

theorem operate_unique {op : TenancyOp} (unique : UniqueKeys projectKey tenancy.projects)
    (done : operate tiers tenancy subject op = .ok next) :
    UniqueKeys projectKey next.projects := by
  cases op with
  | createAccount =>
      rw [create_account_ok done]
      exact unique
  | setAccountStatus accountId status =>
      rw [(set_account_status_ok done).1]
      exact unique
  | deleteAccountPermanently accountId =>
      rw [delete_account_ok done]
      exact List.Pairwise.filter _ unique
  | createProject id accountId =>
      obtain ⟨fresh, appended, apart⟩ := create_project_ok done
      rw [appended]
      apply unique_keys_append unique
      intro value keyed project member same
      exact apart project member (same.trans keyed.symm)
  | updateProject projectId accountId =>
      rcases update_project_verb_ok done with same | ⟨project, moved, visible, isMoved, rows⟩
      · rw [same]
        exact unique
      · rw [rows]
        exact unique_keys_update unique fun _ => rfl
  | deleteProject projectId =>
      rw [(delete_project_ok done).2]
      exact List.Pairwise.filter _ unique
  | setProjectStatus projectId status =>
      rw [set_project_column_ok done]
      exact unique_keys_update unique fun _ => rfl
  | setDefaultProject projectId =>
      obtain ⟨promoted, member, rows⟩ := set_default_project_ok done
      rw [rows]
      apply unique_keys_map unique
      intro project
      rw [projectKey, (with_default_row _ _ project).1, projectKey]
  | setProjectAllowedModels projectId models =>
      rw [set_project_column_ok done]
      exact unique_keys_update unique fun _ => rfl
  | setProjectModelPolicy projectId policy =>
      rw [set_project_model_policy_ok done]
      exact unique_keys_update unique fun _ => rfl
  | roster projectId target request =>
      rw [roster_operation_projects done]
      exact unique

end Operation

end LightbridgeAuthz.Access.TenancyOps
