import LightbridgeAuthz.Library.Separation
import LightbridgeAuthz.Access.ModelPolicies
import LightbridgeAuthz.ApiKeys.RosterCalls

/-!
# The store service

Every call on accounts, projects, rosters and API keys, run to its end: the
procedures of `AuthzStoreImpl`, the generated verbs of `Account`, `Project` and
`ApiKey`, and the two lookups of a token exchange. The columns of `accounts` and
`projects` that the access rules do not read stand in rows of their own, under
the same id: a creation writes both rows and a deletion takes both. Deletions
are those that the budget tables do not refuse.
-/

namespace LightbridgeAuthz.ApiKeys.StoreCalls

open Library.KeyedRows Library.Separation
open Access.Tenancy Access.TenancyOps Access.ModelPolicies
open KeyTable RosterCalls

set_option autoImplicit false

/-- The columns of `accounts` that `Account` leaves out. -/
structure AccountTerms where
  accountId : String
  defaultQuota : Option String

/-- The columns of `projects` that `Project` leaves out. -/
structure ProjectTerms where
  projectId : String
  name : String
  defaultLimits : Json
  billingPlan : String
  billingIdentity : String
  projectQuota : Option String

def accountTermsKey (terms : AccountTerms) : Option String := some terms.accountId

def projectTermsKey (terms : ProjectTerms) : Option String := some terms.projectId

/-- `idx_projects_billing_identity`. -/
def billingKey (terms : ProjectTerms) : Option String := some terms.billingIdentity

structure AuthzStore where
  tenancy : TenancyDb
  accountTerms : List AccountTerms
  projectTerms : List ProjectTerms
  keys : List ApiKeyRow

structure StoreConfig where
  quotaTiers : List String
  models : List ModelCatalogEntry
  apiKeys : KeyConfig

/-- `CreateProjectInput`, without the columns that the verb ignores. -/
structure CreateProjectInput where
  id : String
  accountId : String
  name : String
  defaultLimits : Json
  billingPlan : String
  billingIdentity : String

/-- `UpdateProjectInput`, without the columns that the verb ignores. -/
structure UpdateProjectInput where
  accountId : Option String
  name : Option String
  defaultLimits : Option Json
  billingPlan : Option String
  billingIdentity : Option String

/-- What a call that issues a key draws: the time, an id and, for the project that
the caller sees, the issuer's answer. -/
structure Issue where
  now : Int
  newId : String
  issueSecret : Option Project → Except AccessError IssuedSecret

inductive StoreRequest where
  | createAccount (defaultQuota : Option String)
  | updateAccountDefaultQuota (accountId : String) (defaultQuota : Option String)
  | setAccountStatus (accountId : String) (status : ResourceStatus)
  | deleteAccountPermanently (accountId : String)
  | getAccount (accountId : String)
  | createProject (input : CreateProjectInput)
  | updateProject (projectId : String) (input : UpdateProjectInput)
  | deleteProject (projectId : String)
  | setProjectStatus (projectId : String) (status : ResourceStatus)
  | setDefaultProject (projectId : String)
  | setProjectQuota (projectId : String) (projectQuota : Option String)
  | setProjectAllowedModels (projectId : String) (models : Option (List String))
  | setProjectModelPolicy (projectId modelPolicy : String)
  | getProject (projectId : String)
  | listProjects
  | changeRoster (projectId target : String) (request : RosterRequest)
  | listProjectRoster (projectId : String)
  | createApiKey (projectId : String) (input : CreateApiKey) (issue : Issue)
  | rotateApiKey (id : String) (input : RotateApiKey) (issue : Issue)
  | revokeApiKey (id : String) (now : Int)
  | updateApiKey (id name : String)
  | deleteApiKey (id : String) (now : Int)
  | getApiKey (id : String)
  | listApiKeys
  | resolveContext (projectId : String)
  | findDefaultProjectId

structure StoreCall where
  subject : String
  request : StoreRequest

inductive Reply where
  | account (account : Option Account) (terms : Option AccountTerms)
  | project (project : Option Project) (terms : Option ProjectTerms)
  | projects (rows : List (Project × Option ProjectTerms))
  | roster (members : List ProjectMember)
  | key (row : Option ApiKeyRow)
  | keys (rows : List ApiKeyRow)
  | context (context : ResolvedContext)
  | projectId (id : Option String)

def unknownTierOf (field : String) (catalog : List String) (tier : Option String) : AccessError :=
  .badRequest ("unknown " ++ field ++ " '" ++ tier.getD "" ++
    "': must be one of the configured tiers [" ++ ", ".intercalate catalog ++ "]")

def AuthzStore.afterDeletion (store : AuthzStore) (tenancy : TenancyDb) : AuthzStore where
  tenancy := tenancy
  accountTerms := store.accountTerms.filter fun terms =>
    (getAccountById tenancy terms.accountId).isSome
  projectTerms := store.projectTerms.filter fun terms =>
    (getProjectById tenancy terms.projectId).isSome
  keys := cascadeKeys tenancy store.keys

def AuthzStore.withTenancy (store : AuthzStore) (tenancy : TenancyDb) : AuthzStore :=
  { store with tenancy := tenancy }

def AuthzStore.withKeys (store : AuthzStore) (keys : List ApiKeyRow) : AuthzStore :=
  { store with keys := keys }

def createAccountWithQuota (config : StoreConfig) (store : AuthzStore) (subject : String)
    (defaultQuota : Option String) : Except AccessError AuthzStore :=
  if tierAllowed config.quotaTiers defaultQuota then
    (createAccount store.tenancy subject).map fun tenancy =>
      { store with
        tenancy := tenancy
        accountTerms := store.accountTerms ++ [⟨subject, defaultQuota⟩] }
  else .error (unknownTierOf "defaultQuota" config.quotaTiers defaultQuota)

def updateAccountDefaultQuota (config : StoreConfig) (store : AuthzStore)
    (subject accountId : String) (defaultQuota : Option String) :
    Except AccessError AuthzStore :=
  if ¬ tierAllowed config.quotaTiers defaultQuota then
    .error (unknownTierOf "defaultQuota" config.quotaTiers defaultQuota)
  else if accountId = subject ∧ (getAccountById store.tenancy accountId).isSome = true then
    .ok { store with
      accountTerms := updateKey accountTermsKey store.accountTerms accountId fun terms =>
        { terms with defaultQuota := defaultQuota } }
  else .error .notFound

def billingIdentityTaken : AccessError :=
  .sqlx (.uniqueViolation "idx_projects_billing_identity")

/-- `model.Project.create` with all its columns; `project_quota` starts `NULL`. -/
def createProjectRow (store : AuthzStore) (subject : String) (input : CreateProjectInput) :
    Except AccessError AuthzStore :=
  match createProject store.tenancy subject input.id input.accountId with
  | .error error => .error error
  | .ok tenancy =>
      if conflicts billingKey store.projectTerms (some input.billingIdentity) then
        .error billingIdentityTaken
      else
        .ok { store with
          tenancy := tenancy
          projectTerms := store.projectTerms ++
            [⟨input.id, input.name, input.defaultLimits, input.billingPlan,
              input.billingIdentity, none⟩] }

def UpdateProjectInput.change (input : UpdateProjectInput) (terms : ProjectTerms) :
    ProjectTerms :=
  { terms with
    name := input.name.getD terms.name
    defaultLimits := input.defaultLimits.getD terms.defaultLimits
    billingPlan := input.billingPlan.getD terms.billingPlan
    billingIdentity := input.billingIdentity.getD terms.billingIdentity }

def billingConflict (store : AuthzStore) (projectId : String)
    (billingIdentity : Option String) : Bool :=
  billingIdentity.any fun identity =>
    store.projectTerms.any fun terms =>
      terms.billingIdentity == identity && terms.projectId != projectId

/-- `model.Project.update` with all its columns. -/
def updateProjectRow (store : AuthzStore) (subject projectId : String)
    (input : UpdateProjectInput) : Except AccessError AuthzStore :=
  match updateProjectVerb store.tenancy subject projectId input.accountId with
  | .error error => .error error
  | .ok tenancy =>
      if billingConflict store projectId input.billingIdentity then .error billingIdentityTaken
      else
        .ok { store with
          tenancy := tenancy
          projectTerms := updateKey projectTermsKey store.projectTerms projectId input.change }

def setProjectQuota (config : StoreConfig) (store : AuthzStore) (subject projectId : String)
    (projectQuota : Option String) : Except AccessError AuthzStore :=
  if ¬ tierAllowed config.quotaTiers projectQuota then
    .error (unknownTierOf "projectQuota" config.quotaTiers projectQuota)
  else
    match visibleProject store.tenancy subject projectId with
    | none => .error .notFound
    | some _ =>
        .ok { store with
          projectTerms := updateKey projectTermsKey store.projectTerms projectId fun terms =>
            { terms with projectQuota := projectQuota } }

def setProjectAllowedModels (config : StoreConfig) (tenancy : TenancyDb)
    (subject projectId : String) (models : Option (List String)) :
    Except AccessError TenancyDb :=
  match invalidIds config.models models with
  | [] => setProjectColumn tenancy subject projectId (withModels models)
  | invalid => .error (unknownModels config.models invalid)

def setModelPolicy (tenancy : TenancyDb) (subject projectId modelPolicy : String) :
    Except AccessError TenancyDb :=
  match parseStrict modelPolicy with
  | none => .error (unknownPolicy modelPolicy)
  | some policy => setProjectModelPolicy tenancy subject projectId policy

def createApiKey (config : StoreConfig) (store : AuthzStore) (subject projectId : String)
    (input : CreateApiKey) (issue : Issue) :
    Except AccessError (List ApiKeyRow × ApiKeyRow) := do
  let row ← planCreation config.apiKeys subject projectId input issue.now issue.newId
    (issue.issueSecret (visibleProject store.tenancy subject projectId))
  authorizeProjectLead store.tenancy projectId subject
  let keys ← insertKey store.tenancy store.keys row
  .ok (keys, row)

def rotateApiKey (config : StoreConfig) (store : AuthzStore) (subject id : String)
    (input : RotateApiKey) (issue : Issue) :
    Except AccessError (List ApiKeyRow × ApiKeyRow) :=
  match getApiKey store.tenancy store.keys subject id with
  | none => .error .notFound
  | some existing => do
      let plan ← planRotation config.apiKeys subject existing input issue.now issue.newId
        (issue.issueSecret (visibleProject store.tenancy subject existing.projectId))
      let keys ← rotateApiKeyTransaction store.tenancy store.keys subject id plan.status
        plan.revokedAt plan.oldExpiresAt plan.newKey
      .ok (keys, plan.newKey)

/-- The rows of `model.ApiKey.list` and `model.ApiKey.get`: not deleted, of a
project that the caller sees. -/
def visibleKey (store : AuthzStore) (subject : String) (row : ApiKeyRow) : Bool :=
  row.deletedAt.isNone && seesProject store.tenancy subject row.projectId

def listProjectRoster (tenancy : TenancyDb) (subject projectId : String) :
    Except AccessError (List ProjectMember) :=
  match getProjectById tenancy projectId with
  | none => .error .notFound
  | some project =>
      if project.accountId ≠ subject ∧ projectMemberRole tenancy projectId subject = none then
        .error .notFound
      else .ok (tenancy.members.filter fun member => member.projectId == projectId)

def AuthzStore.accountReply (store : AuthzStore) (accountId : String) : Reply :=
  .account (getAccountById store.tenancy accountId)
    (findKey accountTermsKey store.accountTerms accountId)

def AuthzStore.projectReply (store : AuthzStore) (projectId : String) : Reply :=
  .project (getProjectById store.tenancy projectId)
    (findKey projectTermsKey store.projectTerms projectId)

def AuthzStore.keyReply (store : AuthzStore) (id : String) : Reply :=
  .key (findKey keyId store.keys id)

/-- The row of a key that `model.ApiKey.get`, `.update` and `.delete` select. -/
def selectedKey (store : AuthzStore) (subject id : String) : Option ApiKeyRow :=
  (findKey keyId store.keys id).filter (visibleKey store subject)

/-- A write that finds no selected row is refused. -/
def withSelectedKey (store : AuthzStore) (subject id : String) (keys : List ApiKeyRow) :
    Except AccessError AuthzStore :=
  match selectedKey store subject id with
  | none => .error .notFound
  | some _ => .ok (store.withKeys keys)

def updateApiKey (store : AuthzStore) (subject id name : String) :
    Except AccessError AuthzStore :=
  withSelectedKey store subject id (renameKey store.tenancy store.keys subject id name)

def deleteApiKey (store : AuthzStore) (subject id : String) (now : Int) :
    Except AccessError AuthzStore :=
  withSelectedKey store subject id (softDelete store.tenancy store.keys subject id now)

def revokeApiKey (store : AuthzStore) (subject id : String) (now : Int) :
    Except AccessError AuthzStore :=
  (setApiKeyStatus store.tenancy store.keys subject id .revoked (some now) none).map
    store.withKeys

def readRequest (store : AuthzStore) (subject : String) :
    StoreRequest → Option (Except AccessError Reply)
  | .getAccount accountId =>
      if accountId = subject ∧ (getAccountById store.tenancy accountId).isSome = true then
        some (.ok (store.accountReply accountId))
      else some (.error .notFound)
  | .getProject projectId =>
      match visibleProject store.tenancy subject projectId with
      | none => some (.error .notFound)
      | some _ => some (.ok (store.projectReply projectId))
  | .listProjects =>
      some (.ok (.projects ((store.tenancy.projects.filter (sees store.tenancy subject)).map
        fun project => (project, findKey projectTermsKey store.projectTerms project.id))))
  | .listProjectRoster projectId =>
      some ((listProjectRoster store.tenancy subject projectId).map .roster)
  | .getApiKey id =>
      match selectedKey store subject id with
      | none => some (.error .notFound)
      | some row => some (.ok (.key (some row)))
  | .listApiKeys => some (.ok (.keys (store.keys.filter (visibleKey store subject))))
  | .resolveContext projectId =>
      some ((Access.Tenancy.resolveContext store.tenancy subject projectId).map .context)
  | .findDefaultProjectId =>
      some (.ok (.projectId (Access.Tenancy.findDefaultProjectId store.tenancy subject)))
  | _ => none

/-- The calls that change rows: the store after them, and the key that they issue. -/
def writeRequest (config : StoreConfig) (store : AuthzStore) (subject : String) :
    StoreRequest → Except AccessError (AuthzStore × Option ApiKeyRow)
  | .createAccount defaultQuota =>
      (createAccountWithQuota config store subject defaultQuota).map (·, none)
  | .updateAccountDefaultQuota accountId defaultQuota =>
      (updateAccountDefaultQuota config store subject accountId defaultQuota).map (·, none)
  | .setAccountStatus accountId status =>
      (setAccountStatus store.tenancy subject accountId status).map (store.withTenancy ·, none)
  | .deleteAccountPermanently accountId =>
      (deleteAccount store.tenancy subject accountId).map (store.afterDeletion ·, none)
  | .createProject input => (createProjectRow store subject input).map (·, none)
  | .updateProject projectId input =>
      (updateProjectRow store subject projectId input).map (·, none)
  | .deleteProject projectId =>
      (deleteProject store.tenancy subject projectId).map (store.afterDeletion ·, none)
  | .setProjectStatus projectId status =>
      (setProjectColumn store.tenancy subject projectId (withProjectStatus status)).map
        (store.withTenancy ·, none)
  | .setDefaultProject projectId =>
      (setDefaultProject store.tenancy subject projectId).map (store.withTenancy ·, none)
  | .setProjectQuota projectId projectQuota =>
      (setProjectQuota config store subject projectId projectQuota).map (·, none)
  | .setProjectAllowedModels projectId models =>
      (setProjectAllowedModels config store.tenancy subject projectId models).map
        (store.withTenancy ·, none)
  | .setProjectModelPolicy projectId modelPolicy =>
      (setModelPolicy store.tenancy subject projectId modelPolicy).map
        (store.withTenancy ·, none)
  | .changeRoster projectId target request =>
      (rosterOperation config.quotaTiers store.tenancy subject projectId target request).map
        (store.withTenancy ·, none)
  | .createApiKey projectId input issue =>
      (createApiKey config store subject projectId input issue).map fun issued =>
        (store.withKeys issued.1, some issued.2)
  | .rotateApiKey id input issue =>
      (rotateApiKey config store subject id input issue).map fun issued =>
        (store.withKeys issued.1, some issued.2)
  | .revokeApiKey id now => (revokeApiKey store subject id now).map (·, none)
  | .updateApiKey id name => (updateApiKey store subject id name).map (·, none)
  | .deleteApiKey id now => (deleteApiKey store subject id now).map (·, none)
  | _ => .ok (store, none)

/-- What a write returns: the row it wrote, or deleted. -/
def writeReply (before after : AuthzStore) (subject : String) (issued : Option ApiKeyRow) :
    StoreRequest → Reply
  | .createAccount _ => after.accountReply subject
  | .updateAccountDefaultQuota accountId _ => after.accountReply accountId
  | .setAccountStatus accountId _ => after.accountReply accountId
  | .deleteAccountPermanently accountId => before.accountReply accountId
  | .createProject input => after.projectReply input.id
  | .updateProject projectId _ => after.projectReply projectId
  | .deleteProject projectId => before.projectReply projectId
  | .setProjectStatus projectId _ => after.projectReply projectId
  | .setDefaultProject projectId => after.projectReply projectId
  | .setProjectQuota projectId _ => after.projectReply projectId
  | .setProjectAllowedModels projectId _ => after.projectReply projectId
  | .setProjectModelPolicy projectId _ => after.projectReply projectId
  | .changeRoster projectId _ _ => after.projectReply projectId
  | .revokeApiKey id _ => after.keyReply id
  | .updateApiKey id _ => after.keyReply id
  | .deleteApiKey id _ => after.keyReply id
  | _ => .key issued

/-- A call run to its end. A refused call leaves the store as it was. -/
def serve (config : StoreConfig) : Serve AuthzStore StoreCall (Except AccessError Reply) :=
  fun store call =>
    match readRequest store call.subject call.request with
    | some reply => (store, reply)
    | none =>
        match writeRequest config store call.subject call.request with
        | .error error => (store, .error error)
        | .ok (next, issued) =>
            (next, .ok (writeReply store next call.subject issued call.request))

end LightbridgeAuthz.ApiKeys.StoreCalls
