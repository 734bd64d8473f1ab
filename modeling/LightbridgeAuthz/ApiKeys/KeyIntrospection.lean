import LightbridgeAuthz.ApiKeys.KeyTable

/-!
# Introspection of API keys

The whole row of the view `api_key_validation`, the lookup by hash and the answer
that introspection makes of it. The per-member ceiling comes from a left join
with `project_members`: no row on the roster and a row without a tier are one
answer. Of the response the billing catalogue's texts and the project's pooled
quota are left out.
-/

namespace LightbridgeAuthz.ApiKeys.KeyIntrospection

open Library.KeyedRows
open Access.Tenancy KeyTable

set_option autoImplicit false

/-- A row of `api_key_validation`. -/
structure ApiKeyValidation where
  apiKeyId : String
  keyHash : String
  projectId : String
  accountId : String
  apiKeyStatus : ApiKeyStatus
  projectStatus : ResourceStatus
  accountStatus : ResourceStatus
  expiresAt : Option Int
  effectiveStatus : EffectiveStatus
  ownerAccountId : String
  ownerRole : Option ProjectRole
  ownerQuotaTier : Option String
  deriving DecidableEq, Repr

def validationRow (tenancy : TenancyDb) (now : Int) (row : ApiKeyRow) : Option ApiKeyValidation :=
  if row.deletedAt.isSome then none
  else
    (getProjectById tenancy row.projectId).bind fun project =>
      (getAccountById tenancy project.accountId).map fun account =>
        { apiKeyId := row.id
          keyHash := row.keyHash
          projectId := row.projectId
          accountId := project.accountId
          apiKeyStatus := row.status
          projectStatus := project.status
          accountStatus := account.status
          expiresAt := row.expiresAt
          effectiveStatus := effectiveStatus row project account now
          ownerAccountId := row.ownerAccountId
          ownerRole := projectMemberRole tenancy row.projectId row.ownerAccountId
          ownerQuotaTier := projectMemberQuotaTier tenancy row.projectId row.ownerAccountId }

def findApiKeyValidationByHash (tenancy : TenancyDb) (keys : List ApiKeyRow) (now : Int)
    (hash : String) : Option ApiKeyValidation :=
  (findKey keyHash keys hash).bind (validationRow tenancy now)

structure ValidatedApiKeyContext where
  apiKey : ApiKeyRow
  project : Project
  accountId : String
  ownerRole : Option ProjectRole
  ownerQuotaTier : Option String
  deriving DecidableEq, Repr

/-- `validate_api_key_context`; recording the use returns the key's row. -/
def validateApiKeyContext (tenancy : TenancyDb) (keys : List ApiKeyRow) (now : Int)
    (hash : String) : Except AccessError (Option ValidatedApiKeyContext) :=
  match findApiKeyValidationByHash tenancy keys now hash with
  | none => .ok none
  | some validation =>
      if validation.effectiveStatus ≠ .active then .ok none
      else
        match findKey keyId keys validation.apiKeyId,
            getProjectById tenancy validation.projectId with
        | some apiKey, some project =>
            .ok (some
              { apiKey := apiKey
                project := project
                accountId := validation.accountId
                ownerRole := validation.ownerRole
                ownerQuotaTier := validation.ownerQuotaTier })
        | _, _ => .error .notFound

structure IntrospectResponse where
  active : Bool
  sub : Option String
  accountId : Option String
  projectId : Option String
  apiKeyId : Option String
  apiKeyStatus : Option ApiKeyStatus
  billingPlan : Option String
  allowedModels : Option (List String)
  modelPolicy : Option ModelPolicy
  role : Option ProjectRole
  quotaTier : Option String
  exp : Option Int
  deriving DecidableEq, Repr

def IntrospectResponse.inactive : IntrospectResponse :=
  { active := false
    sub := none
    accountId := none
    projectId := none
    apiKeyId := none
    apiKeyStatus := none
    billingPlan := none
    allowedModels := none
    modelPolicy := none
    role := none
    quotaTier := none
    exp := none }

/-- `DateTime::timestamp`: whole seconds, rounded down. -/
def timestamp (instant : Int) : Int := instant.fdiv 1000000

def introspectApiKeyRow (tenancy : TenancyDb) (keys : List ApiKeyRow) (now : Int)
    (hash : String) : Except AccessError IntrospectResponse :=
  match validateApiKeyContext tenancy keys now hash with
  | .error error => .error error
  | .ok none => .ok .inactive
  | .ok (some validated) =>
      .ok
        { active := true
          sub := some validated.apiKey.id
          accountId := some validated.accountId
          projectId := some validated.project.id
          apiKeyId := some validated.apiKey.id
          apiKeyStatus := some validated.apiKey.status
          billingPlan := some validated.apiKey.billingPlan
          allowedModels := validated.project.allowedModels
          modelPolicy := some validated.project.modelPolicy
          role := validated.ownerRole
          quotaTier := validated.ownerQuotaTier
          exp := validated.apiKey.expiresAt.map timestamp }

theorem validation_row_some {tenancy : TenancyDb} {now : Int} {row : ApiKeyRow}
    {validation : ApiKeyValidation} (seen : validationRow tenancy now row = some validation) :
    row.deletedAt = none ∧
      apiKeyValidation tenancy now row = some validation.effectiveStatus ∧
      validation.ownerQuotaTier =
        projectMemberQuotaTier tenancy row.projectId row.ownerAccountId := by
  unfold validationRow at seen
  unfold apiKeyValidation
  split at seen
  · cases seen
  · rename_i kept
    obtain ⟨project, found, mapped⟩ := Option.bind_eq_some_iff.mp seen
    obtain ⟨account, owner, isRow⟩ := Option.map_eq_some_iff.mp mapped
    subst isRow
    have undeleted : row.deletedAt = none := by simpa using kept
    refine ⟨undeleted, ?_, rfl⟩
    simp [undeleted, found, owner]

theorem introspect_api_key_row_active {tenancy : TenancyDb} {keys : List ApiKeyRow} {now : Int}
    {hash : String} {response : IntrospectResponse}
    (answered : introspectApiKeyRow tenancy keys now hash = .ok response)
    (active : response.active = true) :
    ∃ row, findKey keyHash keys hash = some row ∧ row.deletedAt = none ∧
      accepts tenancy now row = true ∧
      response.quotaTier = projectMemberQuotaTier tenancy row.projectId row.ownerAccountId := by
  unfold introspectApiKeyRow at answered
  split at answered
  · cases answered
  · cases answered
    cases active
  · rename_i validated isValid
    cases answered
    unfold validateApiKeyContext at isValid
    split at isValid
    · cases isValid
    · rename_i validation seen
      split at isValid
      · cases isValid
      · rename_i accepted
        split at isValid
        · cases isValid
          obtain ⟨row, found, isRow⟩ := Option.bind_eq_some_iff.mp seen
          obtain ⟨undeleted, status, tier⟩ := validation_row_some isRow
          have isActive : validation.effectiveStatus = .active := by simpa using accepted
          refine ⟨row, found, undeleted, ?_, tier⟩
          simp [accepts, status, isActive]
        · cases isValid

end LightbridgeAuthz.ApiKeys.KeyIntrospection
