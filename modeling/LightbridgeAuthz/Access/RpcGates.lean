import LightbridgeAuthz.Access.ModelPolicies
import LightbridgeAuthz.Library.KeyRenames
import Mathlib.Tactic.Common

/-!
# The gates of the RPC surface

The permission of an operation is checked by the `rpc_authorize` middleware and by
the auth provider, both from the request's path. A frame of `/rpc/batch` meets
neither check: for it the permission and the scope stand in the `@allow` and
`@@allow` clauses of the schema, which are evaluated over the context that the
provider builds once for the whole envelope.
-/

namespace LightbridgeAuthz.Access.RpcGates

open ModelPolicies (Value)
open Library.KeyRenames (lookup_iff_of_nodup)

set_option autoImplicit false

inductive Permission where
  | accountCreate
  | accountRead
  | accountUpdate
  | accountDelete
  | accountDisable
  | projectCreate
  | projectRead
  | projectUpdate
  | projectDelete
  | projectDisable
  | projectMember
  | apiKeyCreate
  | apiKeyRead
  | apiKeyUpdate
  | apiKeyDelete
  | apiKeyRevoke
  | apiKeyRotate
  | apiKeyValidate
  | budgetRead
  | budgetReadOwn
  | budgetSelfRefill
  | budgetReview
  | budgetGrant
  | budgetRevoke
  | budgetAuditRead
  | budgetPolicyRead
  | budgetPolicyWrite
  | budgetPolicySimulate
  | budgetPolicyActivate
  | sessionRevokeOwn
  | sessionRevoke
  deriving DecidableEq, Repr

/-- `Permission::ALL`, in declaration order. -/
def Permission.all : List Permission :=
  [.accountCreate, .accountRead, .accountUpdate, .accountDelete, .accountDisable, .projectCreate,
    .projectRead, .projectUpdate, .projectDelete, .projectDisable, .projectMember, .apiKeyCreate,
    .apiKeyRead, .apiKeyUpdate, .apiKeyDelete, .apiKeyRevoke, .apiKeyRotate, .apiKeyValidate,
    .budgetRead, .budgetReadOwn, .budgetSelfRefill, .budgetReview, .budgetGrant, .budgetRevoke,
    .budgetAuditRead, .budgetPolicyRead, .budgetPolicyWrite, .budgetPolicySimulate,
    .budgetPolicyActivate, .sessionRevokeOwn, .sessionRevoke]

def Permission.asStr : Permission → String
  | .accountCreate => "account:create"
  | .accountRead => "account:read"
  | .accountUpdate => "account:update"
  | .accountDelete => "account:delete"
  | .accountDisable => "account:disable"
  | .projectCreate => "project:create"
  | .projectRead => "project:read"
  | .projectUpdate => "project:update"
  | .projectDelete => "project:delete"
  | .projectDisable => "project:disable"
  | .projectMember => "project:member"
  | .apiKeyCreate => "apikey:create"
  | .apiKeyRead => "apikey:read"
  | .apiKeyUpdate => "apikey:update"
  | .apiKeyDelete => "apikey:delete"
  | .apiKeyRevoke => "apikey:revoke"
  | .apiKeyRotate => "apikey:rotate"
  | .apiKeyValidate => "apikey:validate"
  | .budgetRead => "budget:read"
  | .budgetReadOwn => "budget:read-own"
  | .budgetSelfRefill => "budget:self-refill"
  | .budgetReview => "budget:review"
  | .budgetGrant => "budget:grant"
  | .budgetRevoke => "budget:revoke"
  | .budgetAuditRead => "budget:audit-read"
  | .budgetPolicyRead => "budget:policy-read"
  | .budgetPolicyWrite => "budget:policy-write"
  | .budgetPolicySimulate => "budget:policy-simulate"
  | .budgetPolicyActivate => "budget:policy-activate"
  | .sessionRevokeOwn => "session:revoke-own"
  | .sessionRevoke => "session:revoke"

/-- The arms of `required_permission`, in its order. -/
def mappedOpIdPermissions : List (String × Permission) :=
  [("procedure.createAccount", .accountCreate),
    ("model.Account.list", .accountRead),
    ("model.Account.get", .accountRead),
    ("procedure.updateAccountDefaultQuota", .accountUpdate),
    ("procedure.disableAccount", .accountDisable),
    ("procedure.enableAccount", .accountDisable),
    ("procedure.deleteAccountPermanently", .accountDelete),
    ("model.Project.create", .projectCreate),
    ("model.Project.list", .projectRead),
    ("model.Project.get", .projectRead),
    ("model.Project.update", .projectUpdate),
    ("model.Project.delete", .projectDelete),
    ("procedure.disableProject", .projectDisable),
    ("procedure.enableProject", .projectDisable),
    ("procedure.setDefaultProject", .projectUpdate),
    ("procedure.setProjectQuota", .projectUpdate),
    ("procedure.setProjectAllowedModels", .projectUpdate),
    ("procedure.setProjectModelPolicy", .projectUpdate),
    ("procedure.listProjectRoster", .projectMember),
    ("procedure.addProjectMember", .projectMember),
    ("procedure.removeProjectMember", .projectMember),
    ("procedure.setProjectMemberRole", .projectMember),
    ("procedure.setProjectMemberQuotaTier", .projectMember),
    ("procedure.createApiKey", .apiKeyCreate),
    ("procedure.listBillingPlans", .apiKeyCreate),
    ("procedure.listModelCatalog", .projectUpdate),
    ("model.ApiKey.list", .apiKeyRead),
    ("model.ApiKey.get", .apiKeyRead),
    ("model.ApiKey.update", .apiKeyUpdate),
    ("model.ApiKey.delete", .apiKeyDelete),
    ("procedure.revokeApiKey", .apiKeyRevoke),
    ("procedure.rotateApiKey", .apiKeyRotate),
    ("model.AccountSummary.list", .accountRead),
    ("model.AccountSummary.get", .accountRead),
    ("procedure.activateBudgetPolicy", .budgetPolicyActivate),
    ("procedure.getBudgetPolicyStatus", .budgetPolicyRead),
    ("procedure.simulateBudgetPolicy", .budgetPolicySimulate),
    ("procedure.requestBudgetRefill", .budgetSelfRefill),
    ("procedure.getMyBudgetRefillLadder", .budgetSelfRefill),
    ("procedure.listPendingAugmentationRequests", .budgetReview),
    ("procedure.approveAugmentationRequest", .budgetReview),
    ("procedure.rejectAugmentationRequest", .budgetReview),
    ("procedure.revokeOwnSessions", .sessionRevokeOwn),
    ("procedure.revokeSubjectSessions", .sessionRevoke),
    ("procedure.getMyBudgetBalance", .budgetReadOwn),
    ("procedure.listMyBudgetGrants", .budgetReadOwn),
    ("procedure.listMyAugmentationRequests", .budgetReadOwn),
    ("procedure.getBudgetBalance", .budgetRead),
    ("procedure.listBudgetGrants", .budgetAuditRead),
    ("procedure.grantBudget", .budgetGrant),
    ("procedure.revokeBudgetGrant", .budgetRevoke),
    ("procedure.createBudgetPolicyRevision", .budgetPolicyWrite)]

def requiredPermission (opId : String) : Option Permission :=
  mappedOpIdPermissions.lookup opId

def isBudgetOpId (opId : String) : Bool :=
  (requiredPermission opId).any fun permission =>
    "budget:".toList.isPrefixOf permission.asStr.toList

inductive RpcScope where
  | crud
  | budget
  deriving DecidableEq, Repr

def RpcScope.permits (scope : RpcScope) (opId : String) : Bool :=
  match scope with
  | .crud => !isBudgetOpId opId
  | .budget => isBudgetOpId opId

def RpcScope.wireStr : RpcScope → String
  | .crud => "crud"
  | .budget => "budget"

def capitalize : List Char → List Char
  | [] => []
  | first :: rest => first.toUpper :: rest

/-- `perm` and the parts of the permission's name, each with a capital. -/
def permissionFieldName (permission : Permission) : String :=
  "perm" ++ String.ofList
    ((permission.asStr.toList.splitOnP fun char => char == ':' || char == '-').flatMap capitalize)

/-- What follows the last occurrence of `pattern`. -/
def afterLast (pattern : List Char) : List Char → Option (List Char)
  | [] => none
  | first :: rest =>
      match afterLast pattern rest with
      | some found => some found
      | none =>
          if pattern.isPrefixOf (first :: rest) then some ((first :: rest).drop pattern.length)
          else none

def opIdFromPath (path : String) : String :=
  String.ofList ((afterLast "/rpc/".toList path.toList).getD [])

def batchOpId : String := "batch"

structure TokenInfo where
  active : Bool
  sub : String
  roles : List String
  permissions : List Permission
  callerKind : Option String
  accessToken : String
  deriving DecidableEq, Repr

def TokenInfo.hasPermission (info : TokenInfo) (permission : Permission) : Bool :=
  info.permissions.contains permission

/-- `HeaderValue::to_str`: visible ASCII and tabs. -/
def toStr (value : List UInt8) : Option (List Char) :=
  if value.all fun byte => byte == 9 || (32 ≤ byte && byte < 127) then
    some (value.map fun byte => Char.ofNat byte.toNat)
  else none

def trim (text : List Char) : List Char :=
  ((text.dropWhile Char.isWhitespace).reverse.dropWhile Char.isWhitespace).reverse

def stripPrefix (start text : List Char) : Option (List Char) :=
  if start.isPrefixOf text then some (text.drop start.length) else none

/-- The token of an `Authorization` header. -/
def extractBearer (authorization : Option (List UInt8)) : Option String := do
  let value ← authorization
  let raw := trim (← toStr value)
  let token := trim (← (stripPrefix "Bearer ".toList raw).or (stripPrefix "bearer ".toList raw))
  if token.isEmpty then none else some (String.ofList token)

structure CratestackContext where
  fields : List (String × Value)
  extensions : List (String × Value)

def buildContext (info : TokenInfo) (scope : RpcScope) : CratestackContext where
  fields :=
    [("id", .string info.sub), ("rpcScope", .string scope.wireStr)] ++
      Permission.all.map fun permission =>
        (permissionFieldName permission, .bool (info.hasPermission permission))
  extensions :=
    [("access_token", .string info.accessToken)] ++
      (if info.roles.isEmpty then [] else [("roles", .list (info.roles.map .string))]) ++
      (match info.callerKind with
      | some callerKind => [("caller_kind", .string callerKind)]
      | none => [])

inductive Answer where
  | forwarded
  | denied (status : Nat) (message : String)
  deriving DecidableEq, Repr

inductive CratestackError where
  | notFound (message : String)
  | forbidden (message : String)
  | unauthorized (message : String)
  deriving DecidableEq, Repr

section Gates

-- `validate_bearer_token`; its errors are not told apart.
variable (validate : String → Option TokenInfo)

def rpcAuthorize (scope : RpcScope) (path : String) (authorization : Option (List UInt8)) :
    Answer :=
  let opId := opIdFromPath path
  if opId = batchOpId then
    match extractBearer authorization with
    | none => .denied 401 "missing bearer token"
    | some token =>
        match validate token with
        | some info => if info.active then .forwarded else .denied 401 "invalid bearer token"
        | none => .denied 401 "invalid bearer token"
  else if !scope.permits opId then .denied 404 "unknown RPC op"
  else
    match requiredPermission opId with
    | none => .denied 403 "operation not permitted"
    | some required =>
        match extractBearer authorization with
        | none => .denied 401 "missing bearer token"
        | some token =>
            match validate token with
            | none => .denied 401 "invalid bearer token"
            | some info =>
                if !info.active then .denied 401 "invalid bearer token"
                else if info.hasPermission required then .forwarded
                else .denied 403 "insufficient permissions"

def authenticate (scope : RpcScope) (path : String) (authorization : Option (List UInt8)) :
    Except CratestackError CratestackContext :=
  let opId := opIdFromPath path
  let token := extractBearer authorization
  if opId = batchOpId then
    match token with
    | none => .error (.unauthorized "missing bearer token")
    | some token =>
        match validate token with
        | some info =>
            if info.active then .ok (buildContext info scope)
            else .error (.unauthorized "invalid bearer token")
        | none => .error (.unauthorized "invalid bearer token")
  else if !scope.permits opId then .error (.notFound ("unknown RPC op `" ++ opId ++ "`"))
  else
    match requiredPermission opId with
    | none => .error (.forbidden "operation not permitted")
    | some required =>
        match token with
        | none => .error (.unauthorized "missing bearer token")
        | some token =>
            match validate token with
            | none => .error (.unauthorized "invalid bearer token")
            | some info =>
                if !info.active then .error (.unauthorized "invalid bearer token")
                else if !info.hasPermission required then
                  .error (.forbidden "insufficient permissions")
                else .ok (buildContext info scope)

end Gates

/-- The conjuncts of a clause that read the context and no row. -/
inductive AuthCondition where
  | rpcScope (wire : String)
  | isTrue (field : String)
  deriving DecidableEq, Repr

def gated (wire field : String) : List AuthCondition :=
  [.rpcScope wire, .isTrue field]

/-- The `@@allow` clauses of each model, by the verb of the policy. -/
def modelPolicies : List (String × List (String × List AuthCondition)) :=
  [("Account",
      [("read", gated "crud" "permAccountRead")]),
    ("Project",
      [("create", gated "crud" "permProjectCreate"),
        ("read", gated "crud" "permProjectRead"),
        ("update", gated "crud" "permProjectUpdate"),
        ("delete", gated "crud" "permProjectDelete")]),
    ("ApiKey",
      [("read", gated "crud" "permApikeyRead"),
        ("update", gated "crud" "permApikeyUpdate"),
        ("delete", gated "crud" "permApikeyDelete")]),
    ("ProjectMember",
      [("read", [])])]

/-- The `@allow` clause of each procedure. -/
def procedurePolicies : List (String × List AuthCondition) :=
  [("rotateApiKey", gated "crud" "permApikeyRotate"),
    ("createAccount", gated "crud" "permAccountCreate"),
    ("updateAccountDefaultQuota", gated "crud" "permAccountUpdate"),
    ("createApiKey", gated "crud" "permApikeyCreate"),
    ("listBillingPlans", gated "crud" "permApikeyCreate"),
    ("listModelCatalog", gated "crud" "permProjectUpdate"),
    ("revokeApiKey", gated "crud" "permApikeyRevoke"),
    ("addProjectMember", gated "crud" "permProjectMember"),
    ("removeProjectMember", gated "crud" "permProjectMember"),
    ("setProjectMemberRole", gated "crud" "permProjectMember"),
    ("setProjectMemberQuotaTier", gated "crud" "permProjectMember"),
    ("listProjectRoster", gated "crud" "permProjectMember"),
    ("deleteAccountPermanently", gated "crud" "permAccountDelete"),
    ("disableAccount", gated "crud" "permAccountDisable"),
    ("enableAccount", gated "crud" "permAccountDisable"),
    ("disableProject", gated "crud" "permProjectDisable"),
    ("enableProject", gated "crud" "permProjectDisable"),
    ("setDefaultProject", gated "crud" "permProjectUpdate"),
    ("setProjectQuota", gated "crud" "permProjectUpdate"),
    ("setProjectAllowedModels", gated "crud" "permProjectUpdate"),
    ("setProjectModelPolicy", gated "crud" "permProjectUpdate"),
    ("activateBudgetPolicy", gated "budget" "permBudgetPolicyActivate"),
    ("getBudgetPolicyStatus", gated "budget" "permBudgetPolicyRead"),
    ("simulateBudgetPolicy", gated "budget" "permBudgetPolicySimulate"),
    ("requestBudgetRefill", gated "budget" "permBudgetSelfRefill"),
    ("getMyBudgetRefillLadder", gated "budget" "permBudgetSelfRefill"),
    ("listPendingAugmentationRequests", gated "budget" "permBudgetReview"),
    ("listMyAugmentationRequests", gated "budget" "permBudgetReadOwn"),
    ("approveAugmentationRequest", gated "budget" "permBudgetReview"),
    ("rejectAugmentationRequest", gated "budget" "permBudgetReview"),
    ("revokeOwnSessions", gated "crud" "permSessionRevokeOwn"),
    ("revokeSubjectSessions", gated "crud" "permSessionRevoke"),
    ("getMyBudgetBalance", gated "budget" "permBudgetReadOwn"),
    ("getBudgetBalance", gated "budget" "permBudgetRead"),
    ("listMyBudgetGrants", gated "budget" "permBudgetReadOwn"),
    ("listBudgetGrants", gated "budget" "permBudgetAuditRead"),
    ("grantBudget", gated "budget" "permBudgetGrant"),
    ("revokeBudgetGrant", gated "budget" "permBudgetRevoke"),
    ("createBudgetPolicyRevision", gated "budget" "permBudgetPolicyWrite")]

/-- The generated verbs of a model and the policy each is checked against. -/
def modelVerbs : List (String × String) :=
  [("list", "read"), ("get", "read"), ("create", "create"), ("update", "update"),
    ("delete", "delete")]

/-- Every op-id of the generated dispatch, with the clauses that may allow it. The
schema's view has no arm there. -/
def servedOps : List (String × List (List AuthCondition)) :=
  (modelPolicies.flatMap fun model =>
    modelVerbs.map fun verb =>
      ("model." ++ model.1 ++ "." ++ verb.1,
        (model.2.filter fun clause => clause.1 == verb.2).map Prod.snd)) ++
    procedurePolicies.map fun procedure =>
      ("procedure." ++ procedure.1, [procedure.2])

def CratestackContext.field (context : CratestackContext) (name : String) : Option Value :=
  context.fields.lookup name

def AuthCondition.holds (context : CratestackContext) : AuthCondition → Bool
  | .rpcScope wire =>
      match context.field "rpcScope" with
      | some (.string value) => value == wire
      | _ => false
  | .isTrue field =>
      match context.field field with
      | some (.bool value) => value
      | _ => false

/-- A frame passes when one clause allows it; without a clause it is refused. -/
def passesGate (clauses : List (List AuthCondition)) (context : CratestackContext) : Bool :=
  clauses.any fun conditions => conditions.all (AuthCondition.holds context)

theorem after_last_none {text : List Char} (few : text.count '/' ≤ 1) :
    afterLast "/rpc/".toList text = none := by
  induction text with
  | nil => rfl
  | cons first rest induction =>
      have restFew : rest.count '/' ≤ 1 := by
        rw [List.count_cons] at few
        omega
      have noMatch : ¬ "/rpc/".toList.isPrefixOf (first :: rest) = true := by
        intro matched
        have sublist := (List.isPrefixOf_iff_prefix.mp matched).sublist
        have enough := sublist.count_le '/'
        have two : ("/rpc/".toList).count '/' = 2 := by decide
        omega
      rw [afterLast, induction restFew]
      exact if_neg noMatch

theorem op_id_from_rpc_path (base opId : String) (noSlash : '/' ∉ opId.toList) :
    opIdFromPath (base ++ "/rpc/" ++ opId) = opId := by
  have found : ∀ front : List Char,
      afterLast "/rpc/".toList (front ++ "/rpc/".toList ++ opId.toList) = some opId.toList := by
    intro front
    induction front with
    | nil =>
        have tailFew : ("rpc/".toList ++ opId.toList).count '/' ≤ 1 := by
          rw [List.count_append, List.count_eq_zero.mpr noSlash]
          decide
        have here : afterLast "/rpc/".toList ('/' :: ("rpc/".toList ++ opId.toList)) =
            some opId.toList := by
          rw [afterLast, after_last_none tailFew]
          rfl
        exact here
    | cons first front induction =>
        rw [List.cons_append, List.cons_append, afterLast, induction]
  rw [opIdFromPath, String.toList_append, String.toList_append, found, Option.getD_some,
    String.ofList_toList]

/-- The one condition that both unary gates check. -/
def UnaryAllowed (validate : String → Option TokenInfo) (scope : RpcScope) (opId : String)
    (authorization : Option (List UInt8)) : Prop :=
  scope.permits opId = true ∧
    ∃ required token info, requiredPermission opId = some required ∧
      extractBearer authorization = some token ∧ validate token = some info ∧
      info.active = true ∧ info.hasPermission required = true

theorem forwarded_iff (validate : String → Option TokenInfo) (scope : RpcScope) (path : String)
    (authorization : Option (List UInt8)) (unary : opIdFromPath path ≠ batchOpId) :
    rpcAuthorize validate scope path authorization = .forwarded ↔
      UnaryAllowed validate scope (opIdFromPath path) authorization := by
  simp only [rpcAuthorize, UnaryAllowed, if_neg unary]
  cases scope.permits (opIdFromPath path) with
  | false => simp
  | true =>
      cases requiredPermission (opIdFromPath path) with
      | none => simp
      | some required =>
          cases extractBearer authorization with
          | none => simp
          | some token =>
              cases known : validate token with
              | none => simp [known]
              | some info =>
                  cases active : info.active <;>
                    cases holds : info.hasPermission required <;> simp [known, active, holds]

theorem authenticated_iff (validate : String → Option TokenInfo) (scope : RpcScope)
    (path : String) (authorization : Option (List UInt8))
    (unary : opIdFromPath path ≠ batchOpId) :
    (∃ context, authenticate validate scope path authorization = .ok context) ↔
      UnaryAllowed validate scope (opIdFromPath path) authorization := by
  simp only [authenticate, UnaryAllowed, if_neg unary]
  cases scope.permits (opIdFromPath path) with
  | false => simp
  | true =>
      cases requiredPermission (opIdFromPath path) with
      | none => simp
      | some required =>
          cases extractBearer authorization with
          | none => simp
          | some token =>
              cases known : validate token with
              | none => simp [known]
              | some info =>
                  cases active : info.active <;>
                    cases holds : info.hasPermission required <;> simp [known, active, holds]

def ExactlyOneScope (opId : String) : Prop :=
  ∃ one : RpcScope, one.permits opId = true ∧
    ∀ other : RpcScope, other.permits opId = true → other = one

theorem permits_exactly_one (opId : String) : ExactlyOneScope opId := by
  cases budget : isBudgetOpId opId with
  | true =>
      refine ⟨.budget, budget, ?_⟩
      intro other permitted
      cases other with
      | crud => simp [RpcScope.permits, budget] at permitted
      | budget => rfl
  | false =>
      refine ⟨.crud, by simp [RpcScope.permits, budget], ?_⟩
      intro other permitted
      cases other with
      | crud => rfl
      | budget => simp [RpcScope.permits, budget] at permitted

theorem permission_mem_all (permission : Permission) : permission ∈ Permission.all := by
  cases permission <;> decide

theorem permission_field_names_distinct :
    ("id" :: "rpcScope" :: Permission.all.map permissionFieldName).Nodup := by
  decide +kernel

theorem context_field_names (info : TokenInfo) (scope : RpcScope) :
    (buildContext info scope).fields.map Prod.fst =
      "id" :: "rpcScope" :: Permission.all.map permissionFieldName := by
  simp only [buildContext, List.map_append, List.map_map]
  rfl

theorem scope_condition_holds (info : TokenInfo) (scope : RpcScope) (wire : String) :
    (AuthCondition.rpcScope wire).holds (buildContext info scope) = true ↔
      scope.wireStr = wire := by
  have found : (buildContext info scope).field "rpcScope" = some (.string scope.wireStr) := by
    refine (lookup_iff_of_nodup ?_ _ _).mpr ?_
    · rw [context_field_names]
      exact permission_field_names_distinct
    · simp [buildContext]
  simp only [AuthCondition.holds, found, beq_iff_eq]

theorem permission_condition_holds (info : TokenInfo) (scope : RpcScope)
    (permission : Permission) :
    (AuthCondition.isTrue (permissionFieldName permission)).holds (buildContext info scope) =
      info.hasPermission permission := by
  have found : (buildContext info scope).field (permissionFieldName permission) =
      some (.bool (info.hasPermission permission)) := by
    refine (lookup_iff_of_nodup ?_ _ _).mpr ?_
    · rw [context_field_names]
      exact permission_field_names_distinct
    · refine List.mem_append_right _ (List.mem_map.mpr ⟨permission, ?_, rfl⟩)
      exact permission_mem_all permission
  simp only [AuthCondition.holds, found]

/-- The read clause that carries neither a scope nor a permission. -/
def ungatedOps : List String :=
  ["model.ProjectMember.list", "model.ProjectMember.get"]

/-- What a served operation's clauses say against `required_permission`. -/
def clauseAgrees (served : String × List (List AuthCondition)) : Bool :=
  match requiredPermission served.1 with
  | none => served.2.isEmpty
  | some permission =>
      [RpcScope.crud, RpcScope.budget].any fun scope =>
        scope.permits served.1 &&
          decide (served.2 = [gated scope.wireStr (permissionFieldName permission)])

theorem served_clauses_agree :
    ∀ served ∈ servedOps, served.1 ∉ ungatedOps → clauseAgrees served = true := by
  decide +kernel

theorem ungated_unmapped :
    ∀ served ∈ servedOps, served.1 ∈ ungatedOps →
      requiredPermission served.1 = none ∧ served.2 = [[]] := by
  decide +kernel

theorem bytes_of_text (text : String) :
    text.toByteArray.data.toList = text.toList.flatMap String.utf8EncodeChar := by
  rw [← String.utf8Encode_toList, List.utf8Encode, List.data_toByteArray]

theorem no_slash {text : String} (absent : 47 ∉ text.toByteArray.data.toList) :
    '/' ∉ text.toList := by
  intro member
  apply absent
  rw [bytes_of_text]
  have encoded : (47 : UInt8) ∈ String.utf8EncodeChar '/' := by decide
  exact List.mem_flatMap.mpr ⟨'/', member, encoded⟩

theorem served_plain :
    ∀ served ∈ servedOps, '/' ∉ served.1.toList ∧ served.1 ≠ batchOpId := by
  have bytes : ∀ served ∈ servedOps,
      47 ∉ served.1.toByteArray.data.toList ∧ served.1 ≠ batchOpId := by decide +kernel
  intro served member
  obtain ⟨absent, notBatch⟩ := bytes served member
  exact ⟨no_slash absent, notBatch⟩

theorem unary_allowed_of_passes {validate : String → Option TokenInfo} {scope : RpcScope}
    {authorization : Option (List UInt8)} {token : String} {info : TokenInfo}
    (extracted : extractBearer authorization = some token) (valid : validate token = some info)
    (active : info.active = true) {served : String × List (List AuthCondition)}
    (agrees : clauseAgrees served = true)
    (passes : passesGate served.2 (buildContext info scope) = true) :
    UnaryAllowed validate scope served.1 authorization := by
  unfold clauseAgrees at agrees
  cases required : requiredPermission served.1 with
  | none =>
      rw [required] at agrees
      rw [List.isEmpty_iff.mp agrees] at passes
      cases passes
  | some permission =>
      rw [required] at agrees
      obtain ⟨own, _, checked⟩ := List.any_eq_true.mp agrees
      obtain ⟨permitted, isClause⟩ := Bool.and_eq_true_iff.mp checked
      rw [of_decide_eq_true isClause] at passes
      simp only [passesGate, gated, List.any_cons, List.any_nil, List.all_cons, List.all_nil,
        Bool.and_true, Bool.or_false, Bool.and_eq_true] at passes
      rw [scope_condition_holds, permission_condition_holds] at passes
      have sameScope : scope = own := by
        cases scope <;> cases own <;> first | rfl | exact absurd passes.1 (by decide)
      exact ⟨sameScope ▸ permitted, permission, token, info, required, extracted, valid, active,
        passes.2⟩

/-- The middleware forwards a unary request exactly when the provider
authenticates it. -/
def UnaryGatesAgree (validate : String → Option TokenInfo) (scope : RpcScope) : Prop :=
  ∀ path authorization, opIdFromPath path ≠ batchOpId →
    (rpcAuthorize validate scope path authorization = .forwarded ↔
      ∃ context, authenticate validate scope path authorization = .ok context)

/-- A batch frame that passes its clause is forwarded as a unary call. -/
def FrameGateAgrees (validate : String → Option TokenInfo) (scope : RpcScope)
    (authorization : Option (List UInt8)) (base : String) (info : TokenInfo)
    (served : String × List (List AuthCondition)) : Prop :=
  passesGate served.2 (buildContext info scope) = true →
    rpcAuthorize validate scope (base ++ "/rpc/" ++ served.1) authorization = .forwarded

theorem unary_gates_agree (validate : String → Option TokenInfo) (scope : RpcScope) :
    UnaryGatesAgree validate scope := by
  intro path authorization unary
  rw [forwarded_iff validate scope path authorization unary,
    authenticated_iff validate scope path authorization unary]

theorem frame_gate_agrees_iff {validate : String → Option TokenInfo} {scope : RpcScope}
    {authorization : Option (List UInt8)} (base : String) {token : String} {info : TokenInfo}
    (extracted : extractBearer authorization = some token) (valid : validate token = some info)
    (active : info.active = true) {served : String × List (List AuthCondition)}
    (isServed : served ∈ servedOps) :
    FrameGateAgrees validate scope authorization base info served ↔
      served.1 ∉ ungatedOps := by
  obtain ⟨noSlash, notBatch⟩ := served_plain served isServed
  have opId := op_id_from_rpc_path base served.1 noSlash
  have unary : opIdFromPath (base ++ "/rpc/" ++ served.1) ≠ batchOpId := by
    rw [opId]
    exact notBatch
  have forwards := forwarded_iff validate scope _ authorization unary
  rw [opId] at forwards
  constructor
  · intro agrees ungated
    obtain ⟨unmapped, noCondition⟩ := ungated_unmapped served isServed ungated
    have passes : passesGate served.2 (buildContext info scope) = true := by
      rw [noCondition]
      rfl
    obtain ⟨_, required, _, _, mapped, _⟩ := forwards.mp (agrees passes)
    rw [unmapped] at mapped
    cases mapped
  · intro notUngated passes
    exact forwards.mpr (unary_allowed_of_passes extracted valid active
      (served_clauses_agree served isServed notUngated) passes)

/-- The unary gates agree for every path and every header, and each mapped op-id
belongs to one scope. A batch frame of a caller with a valid token agrees with them
for every served operation but the two reads of `ProjectMember`, whose clause has no
gate and which no unary call reaches. -/
theorem gates_agree_iff (validate : String → Option TokenInfo) (scope : RpcScope) :
    UnaryGatesAgree validate scope ∧
      (∀ opId, (requiredPermission opId).isSome = true → ExactlyOneScope opId) ∧
      ∀ authorization base token info, extractBearer authorization = some token →
        validate token = some info → info.active = true → ∀ served ∈ servedOps,
        (FrameGateAgrees validate scope authorization base info served ↔
          served.1 ∉ ungatedOps) := by
  refine ⟨unary_gates_agree validate scope, fun opId _ => permits_exactly_one opId, ?_⟩
  intro authorization base token info extracted valid active served isServed
  exact frame_gate_agrees_iff base extracted valid active isServed

/-- A caller who may read projects and nothing else. -/
def viewer : TokenInfo where
  active := true
  sub := "alice"
  roles := ["lightbridge-viewer"]
  permissions := [.projectRead]
  callerKind := none
  accessToken := "t"

/-- `Bearer t`. -/
def viewerHeader : Option (List UInt8) := some [66, 101, 97, 114, 101, 114, 32, 116]

def onlyViewer (token : String) : Option TokenInfo :=
  if token = "t" then some viewer else none

theorem gates_agree_viewer_project_list :
    FrameGateAgrees onlyViewer .crud viewerHeader "" viewer
        ("model.Project.list", [gated "crud" "permProjectRead"]) ↔
      "model.Project.list" ∉ ungatedOps :=
  (gates_agree_iff onlyViewer .crud).2.2 viewerHeader "" "t" viewer
    (by decide +kernel) (by decide +kernel) rfl _ (by decide +kernel)

/-- A caller with no permission at all passes the clause of a batch frame that lists
roster rows, on either server, and is refused the same operation as a unary call. -/
theorem project_member_list_ungated :
    ("model.ProjectMember.list", [[]]) ∈ servedOps ∧
      passesGate [[]] (buildContext { viewer with permissions := [] } .budget) = true ∧
      rpcAuthorize (fun _ => some { viewer with permissions := [] }) .crud
        "/rpc/model.ProjectMember.list" viewerHeader =
          .denied 403 "operation not permitted" ∧
      ¬ FrameGateAgrees (fun _ => some { viewer with permissions := [] }) .crud viewerHeader ""
        { viewer with permissions := [] } ("model.ProjectMember.list", [[]]) := by
  have refused : rpcAuthorize (fun _ => some { viewer with permissions := [] }) .crud
      "/rpc/model.ProjectMember.list" viewerHeader = .denied 403 "operation not permitted" := by
    decide +kernel
  refine ⟨by decide +kernel, rfl, refused, ?_⟩
  intro agrees
  have forwarded := agrees rfl
  have path : "" ++ "/rpc/" ++ "model.ProjectMember.list" = "/rpc/model.ProjectMember.list" := by
    decide +kernel
  rw [path, refused] at forwarded
  cases forwarded

end LightbridgeAuthz.Access.RpcGates
