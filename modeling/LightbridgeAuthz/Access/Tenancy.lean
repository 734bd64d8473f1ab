import LightbridgeAuthz.Library.KeyedRows

/-!
# Accounts, projects and rosters

The rows of `accounts`, `projects` and `project_members` and the lookups that
every access check is made of. An account's id is its owner's JWT subject. A
project is visible to the account that owns it and to every account on its
roster; managing it asks for ownership or the role `lead`. Columns that no
modelled statement reads are left out.
-/

namespace LightbridgeAuthz.Access.Tenancy

open Library.KeyedRows

set_option autoImplicit false

inductive ResourceStatus where
  | active
  | suspended
  deriving DecidableEq, Repr

inductive ModelPolicy where
  | allowAll
  | allowlist
  | denyAll
  deriving DecidableEq, Repr

/-- `project_members.role`: the column's check admits these two. -/
inductive ProjectRole where
  | lead
  | member
  deriving DecidableEq, Repr

inductive SqlError where
  | notNullViolation (column : String)
  | uniqueViolation (constraintName : String)
  | foreignKeyViolation (constraintName : String)
  | connectionLost
  deriving DecidableEq, Repr

/-- The errors of `lightbridge_authz_core::error` that the modelled calls
return, and the panics of `chrono`'s arithmetic. -/
inductive AccessError where
  | notFound
  | forbidden (text : String)
  | badRequest (text : String)
  | conflict (text : String)
  | server (text : String)
  | sqlx (error : SqlError)
  | panicked
  deriving DecidableEq, Repr

structure Account where
  id : String
  status : ResourceStatus
  deriving DecidableEq, Repr

structure Project where
  id : String
  accountId : String
  status : ResourceStatus
  isDefault : Bool
  allowedModels : Option (List String)
  modelPolicy : ModelPolicy
  deriving DecidableEq, Repr

structure ProjectMember where
  projectId : String
  accountId : String
  role : ProjectRole
  quotaTier : Option String
  deriving DecidableEq, Repr

structure TenancyDb where
  accounts : List Account
  projects : List Project
  members : List ProjectMember
  deriving DecidableEq, Repr

def accountKey (account : Account) : Option String := some account.id

def projectKey (project : Project) : Option String := some project.id

/-- The primary key `(project_id, account_id)`. -/
def memberKey (member : ProjectMember) : Option (String × String) :=
  some (member.projectId, member.accountId)

structure ResolvedContext where
  accountId : String
  projectId : String
  deriving DecidableEq, Repr

def getProjectById (tenancy : TenancyDb) (projectId : String) : Option Project :=
  findKey projectKey tenancy.projects projectId

def getAccountById (tenancy : TenancyDb) (accountId : String) : Option Account :=
  findKey accountKey tenancy.accounts accountId

def memberRow (tenancy : TenancyDb) (projectId subject : String) : Option ProjectMember :=
  findKey memberKey tenancy.members (projectId, subject)

/-- `projects.account_id = $subject OR EXISTS (… project_members …)`, the rule
that most statements share. -/
def sees (tenancy : TenancyDb) (subject : String) (project : Project) : Bool :=
  project.accountId == subject || (memberRow tenancy project.id subject).isSome

/-- The rule for a project given by its id: a join with `projects`. -/
def seesProject (tenancy : TenancyDb) (subject projectId : String) : Bool :=
  (getProjectById tenancy projectId).any (sees tenancy subject)

def findDefaultProjectId (tenancy : TenancyDb) (subject : String) : Option String :=
  (tenancy.projects.find? fun project =>
    project.accountId == subject && project.isDefault).map Project.id

def resolveContext (tenancy : TenancyDb) (subject projectId : String) :
    Except AccessError ResolvedContext :=
  match (getProjectById tenancy projectId).filter (sees tenancy subject) with
  | none => .error .notFound
  | some project => .ok ⟨project.accountId, project.id⟩

def projectMemberRole (tenancy : TenancyDb) (projectId subject : String) : Option ProjectRole :=
  (memberRow tenancy projectId subject).map ProjectMember.role

/-- No roster row and a row without a tier are one answer. -/
def projectMemberQuotaTier (tenancy : TenancyDb) (projectId subject : String) : Option String :=
  (memberRow tenancy projectId subject).bind ProjectMember.quotaTier

/-- The first query of `authorize_project_lead`: `none` says that the roster has
to be asked. -/
def authorizeOwner (tenancy : TenancyDb) (projectId subject : String) :
    Except AccessError (Option Unit) :=
  match getProjectById tenancy projectId with
  | none => .error .notFound
  | some project => if project.accountId = subject then .ok (some ()) else .ok none

/-- The second query of `authorize_project_lead`. -/
def authorizeLead (tenancy : TenancyDb) (projectId subject : String) : Except AccessError Unit :=
  match projectMemberRole tenancy projectId subject with
  | some .lead => .ok ()
  | some .member =>
      .error (.forbidden "only the project's account owner or a lead can manage its roster")
  | none => .error .notFound

theorem resolve_context_ok {tenancy : TenancyDb} {subject projectId : String}
    {context : ResolvedContext}
    (resolved : resolveContext tenancy subject projectId = .ok context) :
    ∃ project, getProjectById tenancy projectId = some project ∧
      sees tenancy subject project = true ∧ context = ⟨project.accountId, projectId⟩ := by
  unfold resolveContext at resolved
  split at resolved
  · cases resolved
  · rename_i project visible
    obtain ⟨found, may⟩ := Option.filter_eq_some_iff.mp visible
    have named : project.id = projectId := Option.some.inj (find_key_some found).2
    refine ⟨project, found, may, ?_⟩
    rw [← Except.ok.inj resolved, named]

theorem resolve_context_of_sees {tenancy : TenancyDb} {subject projectId : String}
    {project : Project} (found : getProjectById tenancy projectId = some project)
    (may : sees tenancy subject project = true) :
    resolveContext tenancy subject projectId = .ok ⟨project.accountId, project.id⟩ := by
  simp [resolveContext, found, Option.filter, may]

end LightbridgeAuthz.Access.Tenancy
