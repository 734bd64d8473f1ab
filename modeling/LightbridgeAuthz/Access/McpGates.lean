import LightbridgeAuthz.Access.BearerTokens

/-!
# The gate of the MCP server

`bearer_auth` and the permission check of `call_tool`, beside the gates of the RPC
servers: which callers a tool admits, and that a tool is no other way to an operation.
-/

namespace LightbridgeAuthz.Access.McpGates

open BearerTokens
open RolePermissions (Confers Names)
open RpcGates

set_option autoImplicit false

/-- The arms of `required_tool_permission`, in its order. -/
def mappedToolPermissions : List (String × Permission) :=
  [("create-account", .accountCreate),
    ("list-accounts", .accountRead),
    ("get-account", .accountRead),
    ("update-account", .accountUpdate),
    ("delete-account", .accountDelete),
    ("disable-account", .accountDisable),
    ("enable-account", .accountDisable),
    ("list-project-roster", .projectMember),
    ("add-project-member", .projectMember),
    ("remove-project-member", .projectMember),
    ("set-project-member-role", .projectMember),
    ("set-project-member-quota-tier", .projectMember),
    ("create-project", .projectCreate),
    ("list-projects", .projectRead),
    ("get-project", .projectRead),
    ("update-project", .projectUpdate),
    ("set-project-quota", .projectUpdate),
    ("set-project-allowed-models", .projectUpdate),
    ("set-project-model-policy", .projectUpdate),
    ("delete-project", .projectDelete),
    ("disable-project", .projectDisable),
    ("enable-project", .projectDisable),
    ("set-default-project", .projectUpdate),
    ("create-api-key", .apiKeyCreate),
    ("list-api-keys", .apiKeyRead),
    ("get-api-key", .apiKeyRead),
    ("update-api-key", .apiKeyUpdate),
    ("delete-api-key", .apiKeyDelete),
    ("revoke-api-key", .apiKeyRevoke),
    ("rotate-api-key", .apiKeyRotate),
    ("validate-api-key", .apiKeyValidate),
    ("validate-authorino-api-key", .apiKeyValidate)]

def requiredToolPermission (tool : String) : Option Permission :=
  mappedToolPermissions.lookup tool

/-- What the body of each registered tool runs: the generated client's operation, or the
store function behind a procedure. The two validation tools ask the OPA state. -/
def toolOps : List (String × Option String) :=
  [("create-account", some "procedure.createAccount"),
    ("list-accounts", some "model.Account.list"),
    ("get-account", some "model.Account.get"),
    ("update-account", some "procedure.updateAccountDefaultQuota"),
    ("delete-account", some "procedure.deleteAccountPermanently"),
    ("disable-account", some "procedure.disableAccount"),
    ("enable-account", some "procedure.enableAccount"),
    ("list-project-roster", some "procedure.listProjectRoster"),
    ("add-project-member", some "procedure.addProjectMember"),
    ("remove-project-member", some "procedure.removeProjectMember"),
    ("set-project-member-role", some "procedure.setProjectMemberRole"),
    ("set-project-member-quota-tier", some "procedure.setProjectMemberQuotaTier"),
    ("set-project-quota", some "procedure.setProjectQuota"),
    ("set-project-allowed-models", some "procedure.setProjectAllowedModels"),
    ("set-project-model-policy", some "procedure.setProjectModelPolicy"),
    ("create-project", some "model.Project.create"),
    ("list-projects", some "model.Project.list"),
    ("get-project", some "model.Project.get"),
    ("update-project", some "model.Project.update"),
    ("delete-project", some "model.Project.delete"),
    ("disable-project", some "procedure.disableProject"),
    ("enable-project", some "procedure.enableProject"),
    ("set-default-project", some "procedure.setDefaultProject"),
    ("create-api-key", some "procedure.createApiKey"),
    ("list-api-keys", some "model.ApiKey.list"),
    ("get-api-key", some "model.ApiKey.get"),
    ("update-api-key", some "model.ApiKey.update"),
    ("delete-api-key", some "model.ApiKey.delete"),
    ("revoke-api-key", some "procedure.revokeApiKey"),
    ("rotate-api-key", some "procedure.rotateApiKey"),
    ("validate-api-key", none),
    ("validate-authorino-api-key", none)]

/-- The token that `bearer_auth` reads; unlike the RPC servers it takes the scheme in any
case. -/
def bearerAuthToken (authorization : Option (List UInt8)) : Option String := do
  let value ← authorization
  let header := trim (← toStr value)
  if header.isEmpty then none
  else
    let plain :=
      ((stripPrefix "Bearer ".toList header).or (stripPrefix "bearer ".toList header)).map trim
    let anyCase :=
      if "bearer ".toList.isPrefixOf (header.map Char.toLower) then some (trim (header.drop 7))
      else none
    (plain.or anyCase).map String.ofList

inductive ToolAnswer where
  | unauthorized
  | invalidRequest (message : String)
  | called (info : TokenInfo)
  deriving DecidableEq

/-- `bearer_auth` and the checks of `call_tool`, up to the tool's body. -/
def callTool (validate : String → Option TokenInfo) (authorization : Option (List UInt8))
    (tool : String) : ToolAnswer :=
  match bearerAuthToken authorization with
  | none => .unauthorized
  | some token =>
      match validate token with
      | none => .unauthorized
      | some info =>
          if !info.active then .unauthorized
          else
            match requiredToolPermission tool with
            | none => .invalidRequest ("unknown tool: " ++ tool)
            | some required =>
                if info.hasPermission required then .called info
                else
                  .invalidRequest
                    ("missing required permission: " ++ required.asStr)

theorem called_iff {validate : String → Option TokenInfo} {authorization : Option (List UInt8)}
    {tool : String} {info : TokenInfo} :
    callTool validate authorization tool = .called info ↔
      ∃ required token, requiredToolPermission tool = some required ∧
        bearerAuthToken authorization = some token ∧ validate token = some info ∧
        info.active = true ∧ info.hasPermission required = true := by
  unfold callTool
  cases bearerAuthToken authorization with
  | none => simp
  | some token =>
      cases known : validate token with
      | none => simp [known]
      | some found =>
          cases active : found.active with
          | false =>
              simp only [known, active, Bool.not_false, if_true]
              refine iff_of_false (by simp) ?_
              rintro ⟨required, other, _, isOther, isInfo, infoActive, _⟩
              cases isOther
              rw [known] at isInfo
              cases isInfo
              rw [active] at infoActive
              cases infoActive
          | true =>
              cases requiredToolPermission tool with
              | none => simp [known, active]
              | some required =>
                  cases holds : found.hasPermission required with
                  | false =>
                      simp only [known, active, holds]
                      refine iff_of_false (by simp) ?_
                      rintro ⟨other, _, isOther, sameToken, isInfo, _, has⟩
                      cases isOther
                      cases sameToken
                      rw [known] at isInfo
                      cases isInfo
                      rw [holds] at has
                      cases has
                  | true =>
                      simp only [known, active, holds]
                      constructor
                      · intro isCalled
                        cases isCalled
                        exact ⟨required, token, rfl, rfl, known, active, holds⟩
                      · rintro ⟨other, _, isOther, sameToken, isInfo, _, _⟩
                        cases sameToken
                        rw [known] at isInfo
                        cases isInfo
                        rfl

theorem strip_prefix_nonempty {start header rest : List Char} (isStart : start ≠ [])
    (stripped : stripPrefix start header = some rest) : header ≠ [] := by
  intro empty
  rw [empty, stripPrefix] at stripped
  cases start with
  | nil => exact isStart rfl
  | cons first others => cases stripped

theorem scheme_nonempty {header rest : List Char}
    (stripped : (stripPrefix "Bearer ".toList header).or (stripPrefix "bearer ".toList header) =
      some rest) : header ≠ [] := by
  rcases Option.or_eq_some_iff.mp stripped with upper | ⟨_, lower⟩
  · exact strip_prefix_nonempty (by decide) upper
  · exact strip_prefix_nonempty (by decide) lower

theorem bearer_auth_token_of_extract {authorization : Option (List UInt8)} {token : String}
    (extracted : extractBearer authorization = some token) :
    bearerAuthToken authorization = some token := by
  obtain ⟨value, isValue, extracted⟩ := Option.bind_eq_some_iff.mp extracted
  obtain ⟨letters, isText, extracted⟩ := Option.bind_eq_some_iff.mp extracted
  obtain ⟨rest, stripped, extracted⟩ := Option.bind_eq_some_iff.mp extracted
  have isToken : some (String.ofList (trim rest)) = some token := by
    by_cases empty : (trim rest).isEmpty
    · rw [if_pos empty] at extracted
      cases extracted
    · rw [if_neg empty] at extracted
      exact extracted
  have notEmpty : ¬ (trim letters).isEmpty = true := by
    rw [List.isEmpty_iff]
    exact scheme_nonempty stripped
  rw [isValue]
  change (toStr value).bind _ = _
  rw [isText]
  change (if (trim letters).isEmpty then none else _) = _
  rw [if_neg notEmpty, stripped]
  exact isToken

/-- What the bearer service of a server says of a token. -/
def validator (layer : JwtLayer) (config : Oauth2) (token : String) : Option TokenInfo :=
  (validateBearerToken layer config token).map BearerInfo.toTokenInfo

/-- The caller may make the call: its token is accepted and one of its roles confers the
permission that the call requires. -/
def MayCall (layer : JwtLayer) (config : Oauth2) (token : Option String)
    (required : Option Permission) : Prop :=
  ∃ permission text claims role, required = some permission ∧ token = some text ∧
    Accepts layer config text claims ∧ Names (claims.extra.lookup config.rolesClaim) role ∧
      Confers config.rbac role permission

theorem may_call_iff {layer : JwtLayer} {config : Oauth2} {token : Option String}
    {required : Option Permission} :
    MayCall layer config token required ↔
      ∃ permission text info, required = some permission ∧ token = some text ∧
        validator layer config text = some info ∧ info.active = true ∧
          info.hasPermission permission = true := by
  constructor
  · rintro ⟨permission, text, claims, role, isRequired, isToken, accepts, names, confers⟩
    have validated : validateBearerToken layer config text = some (bearerInfo config text claims) :=
      validate_bearer_token_iff.mpr ⟨claims, accepts, rfl⟩
    refine ⟨permission, text, (bearerInfo config text claims).toTokenInfo, isRequired, isToken,
      ?_, rfl, holds_iff.mpr ⟨role, names, confers⟩⟩
    rw [validator, validated]
    rfl
  · rintro ⟨permission, text, info, isRequired, isToken, validated, _, holds⟩
    obtain ⟨bearer, isBearer, isInfo⟩ := Option.map_eq_some_iff.mp validated
    obtain ⟨claims, accepts, isClaims⟩ := validate_bearer_token_iff.mp isBearer
    rw [← isInfo, isClaims] at holds
    obtain ⟨role, names, confers⟩ := holds_iff.mp holds
    exact ⟨permission, text, claims, role, isRequired, isToken, accepts, names, confers⟩

theorem tool_admits_iff {layer : JwtLayer} {config : Oauth2}
    {authorization : Option (List UInt8)} {tool : String} :
    (∃ info, callTool (validator layer config) authorization tool = .called info) ↔
      MayCall layer config (bearerAuthToken authorization) (requiredToolPermission tool) := by
  rw [may_call_iff]
  constructor
  · rintro ⟨info, isCalled⟩
    obtain ⟨required, token, isRequired, isToken, validated, active, holds⟩ :=
      called_iff.mp isCalled
    exact ⟨required, token, info, isRequired, isToken, validated, active, holds⟩
  · rintro ⟨required, token, info, isRequired, isToken, validated, active, holds⟩
    exact ⟨info, called_iff.mpr ⟨required, token, isRequired, isToken, validated, active, holds⟩⟩

theorem operation_admits_iff {layer : JwtLayer} {config : Oauth2} {scope : RpcScope}
    {path : String} {authorization : Option (List UInt8)}
    (unary : opIdFromPath path ≠ batchOpId) :
    rpcAuthorize (validator layer config) scope path authorization = .forwarded ↔
      scope.permits (opIdFromPath path) = true ∧
        MayCall layer config (extractBearer authorization)
          (requiredPermission (opIdFromPath path)) := by
  rw [forwarded_iff _ _ _ _ unary, may_call_iff]
  rfl

/-- The tool asks for the permission of the operation it runs, a served operation of the
crud server. -/
def toolAgrees (entry : String × Option String) : Bool :=
  match entry.2 with
  | none => requiredToolPermission entry.1 == some .apiKeyValidate
  | some opId =>
      requiredToolPermission entry.1 == requiredPermission opId &&
        (requiredPermission opId).isSome && RpcScope.crud.permits opId &&
          !RpcScope.budget.permits opId && !ungatedOps.contains opId &&
            (servedOps.map Prod.fst).contains opId

theorem tools_agree : ∀ entry ∈ toolOps, toolAgrees entry = true := by
  decide +kernel

theorem tools_mapped (tool : String) :
    (requiredToolPermission tool).isSome = true ↔ tool ∈ toolOps.map Prod.fst := by
  have forth : ∀ entry ∈ mappedToolPermissions, entry.1 ∈ toolOps.map Prod.fst := by
    decide +kernel
  have back : ∀ entry ∈ toolOps, entry.1 ∈ mappedToolPermissions.map Prod.fst := by
    decide +kernel
  rw [requiredToolPermission, List.lookup_isSome_iff]
  constructor
  · rintro ⟨entry, isEntry, isTool⟩
    rw [eq_of_beq isTool]
    exact forth entry isEntry
  · intro isTool
    obtain ⟨registered, isRegistered, isName⟩ := List.mem_map.mp isTool
    obtain ⟨entry, isEntry, sameName⟩ := List.mem_map.mp (back registered isRegistered)
    exact ⟨entry, isEntry, by rw [← isName, sameName]; exact beq_self_eq_true _⟩

structure RunsOperation (tool opId : String) : Prop where
  permission : requiredToolPermission tool = requiredPermission opId
  crud : RpcScope.crud.permits opId = true
  notBudget : RpcScope.budget.permits opId = false
  gated : opId ∉ ungatedOps
  served : ∃ clauses, (opId, clauses) ∈ servedOps

theorem runs_operation {tool opId : String} (runs : (tool, some opId) ∈ toolOps) :
    RunsOperation tool opId := by
  have agrees := tools_agree _ runs
  simp only [toolAgrees, Bool.and_eq_true, beq_iff_eq, Bool.not_eq_true',
    List.contains_eq_mem, decide_eq_true_eq, decide_eq_false_iff_not] at agrees
  obtain ⟨⟨⟨⟨⟨permission, _⟩, crud⟩, notBudget⟩, gated⟩, served⟩ := agrees
  obtain ⟨⟨name, clauses⟩, isServed, isName⟩ := List.mem_map.mp served
  cases isName
  exact ⟨permission, crud, notBudget, gated, clauses, isServed⟩

theorem clause_passes {opId : String} {clauses : List (List AuthCondition)} {info : TokenInfo}
    {required : Permission} (isServed : (opId, clauses) ∈ servedOps) (gated : opId ∉ ungatedOps)
    (isRequired : requiredPermission opId = some required)
    (notBudget : RpcScope.budget.permits opId = false)
    (holds : info.hasPermission required = true) :
    passesGate clauses (buildContext info .crud) = true := by
  have agrees := served_clauses_agree (opId, clauses) isServed gated
  simp only [clauseAgrees, isRequired] at agrees
  obtain ⟨scope, _, checked⟩ := List.any_eq_true.mp agrees
  obtain ⟨permitted, isClause⟩ := Bool.and_eq_true_iff.mp checked
  cases scope with
  | budget =>
      rw [notBudget] at permitted
      cases permitted
  | crud =>
      rw [of_decide_eq_true isClause]
      simp only [passesGate, RpcGates.gated, List.any_cons, List.any_nil, List.all_cons,
        List.all_nil, Bool.and_true, Bool.or_false, Bool.and_eq_true]
      exact ⟨(scope_condition_holds info .crud _).mpr rfl,
        (permission_condition_holds info .crud required).trans holds⟩

/-- One gate for the callers of the MCP server and of the RPC servers under one
configuration. A tool is admitted for the callers that the configuration means, and a tool
that runs an operation is no other way to it. -/
structure OneGate (layer : JwtLayer) (config : Oauth2) : Prop where
  tools : ∀ authorization tool,
    (∃ info, callTool (validator layer config) authorization tool = .called info) ↔
      tool ∈ toolOps.map Prod.fst ∧
        MayCall layer config (bearerAuthToken authorization) (requiredToolPermission tool)
  operations : ∀ scope path authorization, opIdFromPath path ≠ batchOpId →
    (rpcAuthorize (validator layer config) scope path authorization = .forwarded ↔
      scope.permits (opIdFromPath path) = true ∧
        MayCall layer config (extractBearer authorization)
          (requiredPermission (opIdFromPath path)))
  sameCallers : ∀ tool opId base authorization, (tool, some opId) ∈ toolOps →
    (extractBearer authorization).isSome = true →
    ((∃ info, callTool (validator layer config) authorization tool = .called info) ↔
      rpcAuthorize (validator layer config) .crud (base ++ "/rpc/" ++ opId) authorization =
        .forwarded)
  unreadHeader : ∀ path scope authorization, opIdFromPath path ≠ batchOpId →
    extractBearer authorization = none →
      rpcAuthorize (validator layer config) scope path authorization ≠ .forwarded
  clauses : ∀ tool opId authorization info, (tool, some opId) ∈ toolOps →
    callTool (validator layer config) authorization tool = .called info →
      (∃ clauses, (opId, clauses) ∈ servedOps) ∧ ∀ clauses, (opId, clauses) ∈ servedOps →
        passesGate clauses (buildContext info .crud) = true
  noBudget : ∀ tool opId base authorization, (tool, some opId) ∈ toolOps →
    rpcAuthorize (validator layer config) .budget (base ++ "/rpc/" ++ opId) authorization =
      .denied 404 "unknown RPC op"

theorem one_gate (layer : JwtLayer) (config : Oauth2) : OneGate layer config where
  tools := by
    intro authorization tool
    rw [tool_admits_iff]
    refine ⟨fun may => ⟨?_, may⟩, And.right⟩
    obtain ⟨required, _, _, _, isRequired, _⟩ := may
    rw [← tools_mapped, isRequired]
    rfl
  operations := fun scope path authorization unary => operation_admits_iff unary
  sameCallers := by
    intro tool opId base authorization runs read
    obtain ⟨permission, crud, _, _, clauses, isServed⟩ := runs_operation runs
    obtain ⟨token, extracted⟩ := Option.isSome_iff_exists.mp read
    obtain ⟨noSlash, notBatch⟩ := served_plain _ isServed
    have isOp := op_id_from_rpc_path base opId noSlash
    have unary : opIdFromPath (base ++ "/rpc/" ++ opId) ≠ batchOpId := by
      rw [isOp]
      exact notBatch
    rw [tool_admits_iff, operation_admits_iff unary, isOp, permission, extracted,
      bearer_auth_token_of_extract extracted]
    exact (and_iff_right crud).symm
  unreadHeader := by
    intro path scope authorization unary unread forwarded
    obtain ⟨_, _, _, _, _, _, isToken, _⟩ := (operation_admits_iff unary).mp forwarded
    rw [unread] at isToken
    cases isToken
  clauses := by
    intro tool opId authorization info runs isCalled
    obtain ⟨permission, _, notBudget, gated, served⟩ := runs_operation runs
    obtain ⟨required, _, isRequired, _, _, _, holds⟩ := called_iff.mp isCalled
    refine ⟨served, fun clauses isServed => ?_⟩
    exact clause_passes isServed gated (permission.symm.trans isRequired) notBudget holds
  noBudget := by
    intro tool opId base authorization runs
    obtain ⟨_, _, notBudget, _, clauses, isServed⟩ := runs_operation runs
    obtain ⟨noSlash, notBatch⟩ := served_plain _ isServed
    rw [rpcAuthorize, op_id_from_rpc_path base opId noSlash, if_neg notBatch, notBudget]
    rfl

end LightbridgeAuthz.Access.McpGates
