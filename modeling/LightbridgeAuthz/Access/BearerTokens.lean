import LightbridgeAuthz.Access.RolePermissions

/-!
# Bearer tokens

What `validate_bearer_token` accepts and what the caller of an accepted token holds. The
keys, the signature, the expiry and the library's own audience check are the JWT layer's.
-/

namespace LightbridgeAuthz.Access.BearerTokens

open ModelPolicies (Json)
open RolePermissions
open RpcGates (Permission TokenInfo permission_mem_all)
open Sessions.TokenGrants (trim)

set_option autoImplicit false

structure Header where
  kid : Option String

inductive Audience where
  | single (name : String)
  | multiple (names : List String)

def Audience.toVec : Audience → List String
  | .single name => [name]
  | .multiple names => names

/-- The claims of a token; `extra` holds every claim that has no field of its own. -/
structure Claims where
  sub : String
  exp : Nat
  aud : Option Audience
  extra : List (String × Json)
  distinct : (extra.map Prod.fst).Nodup

/-- `None` leaves the audience unchecked. -/
structure Validation where
  audience : Option (List String)
  deriving DecidableEq

structure JwtLayer where
  decodeHeader : String → Option Header
  validateJwtGeneric : Validation → String → Option Claims

structure Oauth2 where
  audience : Option (List String)
  rolesClaim : String
  rbac : Rbac

/-- `TokenInfo` with the two claims that the gates do not read. -/
structure BearerInfo extends TokenInfo where
  exp : Nat
  aud : List String

def callerKindClaim : String := "lightbridge_caller_kind"

def validationOf (config : Oauth2) : Validation where
  audience :=
    match config.audience with
    | some expected => if expected.isEmpty then none else some expected
    | none => none

def tokenAudience (claims : Claims) : List String := (claims.aud.map Audience.toVec).getD []

def bearerInfo (config : Oauth2) (token : String) (claims : Claims) : BearerInfo :=
  let roles := rolesFromClaim (claims.extra.lookup config.rolesClaim)
  let permissions := permissionsForRoles roles config.rbac.compile
  { active := true
    sub := claims.sub
    roles := roles
    permissions := Permission.all.filter fun permission => permission ∈ permissions
    callerKind := (claims.extra.lookup callerKindClaim).bind asStr
    accessToken := token
    exp := claims.exp
    aud := tokenAudience claims }

/-- `BearerTokenService::validate_bearer_token`; its errors all read `unauthorized`. -/
def validateBearerToken (layer : JwtLayer) (config : Oauth2) (token : String) :
    Option BearerInfo :=
  if trim token = "" then none
  else
    match layer.decodeHeader token with
    | none => none
    | some header =>
        match header.kid with
        | none => none
        | some _ =>
            match layer.validateJwtGeneric (validationOf config) token with
            | none => none
            | some claims =>
                match config.audience with
                | none => some (bearerInfo config token claims)
                | some expected =>
                    if !expected.isEmpty && (tokenAudience claims).isEmpty then none
                    else if !(tokenAudience claims).any fun name => expected.any (name == ·) then
                      none
                    else some (bearerInfo config token claims)

/-- A token the service takes: it names its key, the layer verified it and, where the
configuration names audiences, it was issued for one of them. -/
structure Accepts (layer : JwtLayer) (config : Oauth2) (token : String) (claims : Claims) :
    Prop where
  notBlank : trim token ≠ ""
  keyed : ∃ header kid, layer.decodeHeader token = some header ∧ header.kid = some kid
  verified : layer.validateJwtGeneric (validationOf config) token = some claims
  intended : ∀ expected, config.audience = some expected →
    ∃ name ∈ tokenAudience claims, name ∈ expected

theorem validate_bearer_token_iff {layer : JwtLayer} {config : Oauth2} {token : String}
    {info : BearerInfo} :
    validateBearerToken layer config token = some info ↔
      ∃ claims, Accepts layer config token claims ∧ info = bearerInfo config token claims := by
  unfold validateBearerToken
  constructor
  · intro validated
    split_ifs at validated with blank
    cases decoded : layer.decodeHeader token with
    | none => simp [decoded] at validated
    | some header =>
        cases named : header.kid with
        | none => simp [decoded, named] at validated
        | some kid =>
            cases verified : layer.validateJwtGeneric (validationOf config) token with
            | none => simp [decoded, named, verified] at validated
            | some claims =>
                simp only [decoded, named, verified] at validated
                cases configured : config.audience with
                | none =>
                    rw [configured] at validated
                    refine ⟨claims, ⟨blank, ⟨header, kid, decoded, named⟩, verified, ?_⟩,
                      (Option.some.inj validated).symm⟩
                    intro expected isExpected
                    rw [configured] at isExpected
                    cases isExpected
                | some expected =>
                    simp only [configured] at validated
                    split_ifs at validated with _ unmatched
                    refine ⟨claims, ⟨blank, ⟨header, kid, decoded, named⟩, verified, ?_⟩,
                      (Option.some.inj validated).symm⟩
                    intro other isOther
                    rw [configured] at isOther
                    cases isOther
                    simpa using unmatched
  · rintro ⟨claims, ⟨blank, ⟨header, kid, decoded, named⟩, verified, intended⟩, isInfo⟩
    rw [isInfo, if_neg blank]
    simp only [decoded, named, verified]
    cases configured : config.audience with
    | none => rfl
    | some expected =>
        obtain ⟨name, isName, isExpected⟩ := intended expected configured
        have present : (tokenAudience claims).isEmpty = false := by
          rw [List.isEmpty_eq_false_iff]
          exact List.ne_nil_of_mem isName
        have matched : ((tokenAudience claims).any fun name => expected.any (name == ·)) = true :=
          List.any_eq_true.mpr
            ⟨name, isName, List.any_eq_true.mpr ⟨name, isExpected, beq_self_eq_true name⟩⟩
        simp [present, matched]

theorem holds_iff {config : Oauth2} {token : String} {claims : Claims} {permission : Permission} :
    (bearerInfo config token claims).hasPermission permission = true ↔
      ∃ role, Names (claims.extra.lookup config.rolesClaim) role ∧
        Confers config.rbac role permission := by
  have held : (bearerInfo config token claims).hasPermission permission = true ↔
      permission ∈ permissionsForRoles
        (rolesFromClaim (claims.extra.lookup config.rolesClaim)) config.rbac.compile := by
    simp [TokenInfo.hasPermission, bearerInfo, permission_mem_all]
  rw [held, mem_permissions_for_roles]
  exact exists_congr fun role => and_congr mem_roles_from_claim mem_role_permissions

theorem no_audience_accepts_none {layer : JwtLayer} {config : Oauth2} {token : String}
    (empty : config.audience = some []) : validateBearerToken layer config token = none := by
  cases validated : validateBearerToken layer config token with
  | none => rfl
  | some info =>
      obtain ⟨claims, accepts, _⟩ := validate_bearer_token_iff.mp validated
      obtain ⟨name, _, isExpected⟩ := accepts.intended [] empty
      cases isExpected

end LightbridgeAuthz.Access.BearerTokens
