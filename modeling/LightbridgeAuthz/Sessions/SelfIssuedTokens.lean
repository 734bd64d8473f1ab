import LightbridgeAuthz.ApiKeys.KeySigning
import LightbridgeAuthz.Sessions.AuthorizedPairs

/-!
# Tokens that the service has signed itself

One key signs API-key JWTs, exchange access tokens and id tokens. Introspection
looks a bearer up in a view that hides soft-deleted keys and, where it finds none,
takes the bearer for an exchange token. The hash of a deleted key is such a miss,
and its JWT still verifies; what keeps it out is the claim `azp`, the signer's
audience in an API-key JWT and the client in an exchange token. An id token has no
project. The log of what has been signed is read by no statement.
-/

namespace LightbridgeAuthz.Sessions.SelfIssuedTokens

open Library.EventRun Library.KeyedRows
open Budget.Domain (isBlank)
open Access.Tenancy
open ApiKeys.KeyTable ApiKeys.KeyCalls ApiKeys.KeyIntrospection ApiKeys.RosterCalls
open ApiKeys.KeySigning
open RefreshTokens TokenGrants SessionCalls AuthorizedPairs

set_option autoImplicit false

inductive Grant where
  | tokenExchange
  | refreshToken
  deriving DecidableEq, Repr

inductive SelfIssued where
  | apiKey (token : ApiKeyToken)
  | access (grant : Grant) (jti : String) (token : AccessToken)
  | id (grant : Grant) (jti : String) (token : IdToken)
  deriving DecidableEq

def claimsIn : SelfIssued → ExchangeClaims
  | .apiKey token =>
      { sub := token.owner.subject
        projectId := some token.projectId
        apiKeyId := some token.apiKeyId
        azp := token.azp }
  | .access _ _ token => claimsOf token
  | .id _ _ token =>
      { sub := token.owner.subject
        projectId := none
        apiKeyId := none
        azp := some token.audience }

/-- `oauth2.signing` but for the audience. -/
structure Signing where
  issuer : String
  ttlSeconds : Int64
  positive : 0 < ttlSeconds.toInt

/-- The configuration of the services: the signer's audience is the one that
introspection compares with, `OpaState::api_key_audience`. -/
structure BearerConfig where
  tiers : List String
  keys : KeyConfig
  session : SessionConfig
  audience : Option String
  signing : Option Signing
  tokenManager : TokenManager
  encode : SelfIssued → String

def BearerConfig.signer (config : BearerConfig) : Option ApiKeyJwtSigner :=
  config.signing.map fun signing =>
    { issuer := signing.issuer
      audience := config.audience
      ttlSeconds := signing.ttlSeconds
      positive := signing.positive
      tokenManager := config.tokenManager
      encode := fun token => config.encode (.apiKey token) }

structure BearerWorld where
  signing : SigningWorld
  tokens : List RefreshTokenRow
  sessions : List SessionCall
  minted : List SelfIssued

def BearerWorld.base (world : BearerWorld) : KeyWorld := world.signing.roster.base

def BearerWorld.sessionWorld (world : BearerWorld) : SessionWorld where
  tenancy := world.base.tenancy
  tokens := world.tokens
  clock := world.base.clock
  calls := world.sessions

def BearerWorld.issued (world : BearerWorld) : List SelfIssued :=
  world.signing.signed.map (fun key => .apiKey key.token) ++ world.minted

/-- A step of a grant comes with the ids of the tokens it may sign. -/
inductive BearerEvent where
  | signing (event : SigningEvent)
  | session (event : SessionEvent) (accessJti idJti : String)

/-- The access token is signed first, and the id token only after it. -/
def signedTokens (grant : Grant) (input : StepInput) (accessJti idJti : String)
    (response : TokenResponse) : List SelfIssued :=
  if ¬ input.accessSigned then []
  else
    .access grant accessJti response.accessToken ::
      match response.idToken with
      | some token => if input.idSigned then [.id grant idJti token] else []
      | none => []

def exchangeSigned (config : SessionConfig) (tenancy : TenancyDb) (call : ExchangeCall)
    (input : StepInput) (accessJti idJti : String) : List SelfIssued :=
  match call.point, input.fault with
  | .quotaTier info context allowedModels modelPolicy now budgetTier, none =>
      signedTokens .tokenExchange input accessJti idJti
        (exchangeResponse config call.request.client.clientId info
          ⟨context, allowedModels, modelPolicy, budgetTier,
            projectMemberQuotaTier tenancy context.projectId info.sub⟩
          (grantScopes call.request.scope config.allowedScopes call.request.client.scopes) now
          none input)
  | _, _ => []

def refreshSigned (config : SessionConfig) (tenancy : TenancyDb) (call : RefreshCall)
    (input : StepInput) (accessJti idJti : String) : List SelfIssued :=
  match call.point, input.fault with
  | .quotaTier row context project budgetTier, none =>
      signedTokens .refreshToken input accessJti idJti
        (refreshResponse config call.request.client.clientId row
          ⟨context, project.allowedModels, project.modelPolicy, budgetTier,
            projectMemberQuotaTier tenancy context.projectId row.subject⟩ call.now input)
  | _, _ => []

def newlyMinted (config : SessionConfig) (world : SessionWorld) (accessJti idJti : String) :
    SessionEvent → List SelfIssued
  | .advance caller input =>
      match world.calls[caller]? with
      | some (.exchange call) => exchangeSigned config world.tenancy call input accessJti idJti
      | some (.refresh call) => refreshSigned config world.tenancy call input accessJti idJti
      | none => []
  | _ => []

/-- The clock and the tenants change through the other side's events only. -/
def bearerStep (config : BearerConfig) (world : BearerWorld) : BearerEvent → Option BearerWorld
  | .signing event =>
      (signingStep config.tiers config.keys config.signer world.signing event).map
        fun signing => { world with signing := signing }
  | .session (.tick _) _ _ => none
  | .session (.changeTenancy _) _ _ => none
  | .session event accessJti idJti =>
      (sessionStep config.session world.sessionWorld event).map fun next =>
        { world with
          tokens := next.tokens
          sessions := next.calls
          minted := world.minted ++
            newlyMinted config.session world.sessionWorld accessJti idJti event }

/-- The answer of `introspect_api_key`. An active one is the response about a key or
the context that the response about a session is filled from. -/
inductive Introspection where
  | key (response : IntrospectResponse)
  | session (context : ExchangeTokenContext)
  | inactive

def Introspection.active : Introspection → Bool
  | .key response => response.active
  | .session _ => true
  | .inactive => false

/-- `introspect_exchange_token`: `decoded` is what the verification of signature and
expiry leaves. -/
def introspectExchangeToken (audience : Option String) (tenancy : TenancyDb)
    (decoded : Option ExchangeClaims) : Introspection :=
  match resolveExchangeTokenContext audience tenancy decoded with
  | none => .inactive
  | some context => .session context

/-- `introspect_api_key`: `verify` is the check of a bearer against the service's own
verification keys. -/
def introspectApiKey (config : BearerConfig) (verify : String → Int → Option ExchangeClaims)
    (world : BearerWorld) (bearer : String) : Except AccessError Introspection :=
  match findApiKeyValidationByHash world.base.tenancy world.base.keys world.base.clock
      (config.keys.hashApiKey bearer) with
  | some _ =>
      (introspectApiKeyRow world.base.tenancy world.base.keys world.base.clock
        (config.keys.hashApiKey bearer)).map .key
  | none =>
      .ok (introspectExchangeToken config.audience world.base.tenancy
        (verify bearer world.base.clock))

/-- No one else can sign, and what verifies is what was signed. -/
structure Unforgeable (config : BearerConfig) (verify : String → Int → Option ExchangeClaims)
    (world : BearerWorld) : Prop where
  signed : ∀ text now claims, verify text now = some claims →
    ∃ token ∈ world.issued, config.encode token = text
  faithful : ∀ token ∈ world.issued, ∀ now claims,
    verify (config.encode token) now = some claims → claims = claimsIn token

/-- No call is in flight and nothing has been signed. -/
structure BearerStart (world : BearerWorld) : Prop where
  keys : KeyStart world.base
  sessions : world.sessions = []
  signed : world.signing.signed = []
  minted : world.minted = []

/-- Every API-key JWT carries the signer's audience, and no grant mints one. -/
structure Branded (config : BearerConfig) (world : BearerWorld) : Prop where
  keys : ∀ key ∈ world.signing.signed, key.token.azp = config.audience
  grants : ∀ token, SelfIssued.apiKey token ∉ world.minted

/-! ## What has been signed -/

section Signed

variable {config : BearerConfig} {world next : BearerWorld}

theorem signed_tokens_no_key {grant : Grant} {input : StepInput} {accessJti idJti : String}
    {response : TokenResponse} (token : ApiKeyToken) :
    SelfIssued.apiKey token ∉ signedTokens grant input accessJti idJti response := by
  unfold signedTokens
  split
  · simp
  · split
    · split <;> simp
    · simp

theorem newly_minted_no_key {session : SessionConfig} {sessions : SessionWorld}
    {accessJti idJti : String} {event : SessionEvent} (token : ApiKeyToken) :
    SelfIssued.apiKey token ∉ newlyMinted session sessions accessJti idJti event := by
  unfold newlyMinted
  split
  · split
    · unfold exchangeSigned
      split
      · exact signed_tokens_no_key token
      · simp
    · unfold refreshSigned
      split
      · exact signed_tokens_no_key token
      · simp
    · simp
  · simp

theorem mint_answer_branded {base : KeyWorld} {caller : Nat} {input : MintInput}
    {secret : IssuedSecret} {key : SignedKey}
    (answered : mintAnswer config.signer base caller input = .ok (secret, some key)) :
    key.token.azp = config.audience := by
  have issues : ∃ subject projectId requested,
      issueApiKeySecret config.signer base.tenancy subject projectId base.clock requested input =
        .ok (secret, some key) := by
    unfold mintAnswer at answered
    split at answered
    · exact ⟨_, _, _, answered⟩
    · exact ⟨_, _, _, answered⟩
    · cases answered
  obtain ⟨subject, projectId, requested, issued⟩ := issues
  unfold BearerConfig.signer at issued
  cases signing : config.signing with
  | none =>
      simp only [signing, Option.map_none, issueApiKeySecret] at issued
      cases other : input.other with
      | error error => simp [other, Except.map] at issued
      | ok answer => simp [other, Except.map] at issued
  | some settings =>
      simp only [signing, Option.map_some] at issued
      obtain ⟨found, isFound, selfSigned⟩ := issue_api_key_secret_ok issued
      cases isFound
      exact selfSigned.azp

theorem newly_signed_branded {base : KeyWorld} {caller : Nat} {input : MintInput}
    {key : SignedKey}
    (new : key ∈ newlySigned config.keys config.signer base caller input) :
    key.token.azp = config.audience := by
  unfold newlySigned at new
  split at new
  · rename_i answered
    split at new
    · rw [List.mem_singleton.mp new]
      exact mint_answer_branded answered
    · simp at new
  · simp at new

theorem signing_change_branded {event : SigningEvent} {signing : SigningWorld}
    (branded : ∀ key ∈ world.signing.signed, key.token.azp = config.audience)
    (stepped : signingStep config.tiers config.keys config.signer world.signing event =
      some signing) : ∀ key ∈ signing.signed, key.token.azp = config.audience := by
  intro key logged
  cases signing_change stepped with
  | aside keys clock calls => exact branded key logged
  | cascaded tenancy => exact branded key logged
  | keyed notIssue moved => exact branded key logged
  | advanced moved =>
      rcases List.mem_append.mp logged with old | new
      · exact branded key old
      · exact newly_signed_branded new

theorem step_branded {event : BearerEvent} (branded : Branded config world)
    (stepped : bearerStep config world event = some next) : Branded config next := by
  cases event with
  | signing event =>
      obtain ⟨signing, moved, isNext⟩ := Option.map_eq_some_iff.mp stepped
      subst isNext
      exact ⟨signing_change_branded branded.keys moved, branded.grants⟩
  | session event accessJti idJti =>
      have minted : ∃ more, (∀ token, SelfIssued.apiKey token ∉ more) ∧
          next.signing = world.signing ∧ next.minted = world.minted ++ more := by
        unfold bearerStep at stepped
        split at stepped
        · rename_i isEvent
          cases isEvent
        · cases stepped
        · cases stepped
        · rename_i isEvent
          cases isEvent
          obtain ⟨sessions, _, isNext⟩ := Option.map_eq_some_iff.mp stepped
          subst isNext
          exact ⟨_, newly_minted_no_key, rfl, rfl⟩
      obtain ⟨more, noKey, sameSigning, isMinted⟩ := minted
      refine ⟨?_, ?_⟩
      · rw [sameSigning]
        exact branded.keys
      · intro token member
        rw [isMinted] at member
        rcases List.mem_append.mp member with old | new
        · exact branded.grants token old
        · exact noKey token new

theorem Branded.issued_key (branded : Branded config world) {token : ApiKeyToken}
    (issued : SelfIssued.apiKey token ∈ world.issued) : token.azp = config.audience := by
  rcases List.mem_append.mp issued with signed | minted
  · obtain ⟨key, logged, isToken⟩ := List.mem_map.mp signed
    cases isToken
    exact branded.keys key logged
  · exact (branded.grants token minted).elim

end Signed

/-! ## What introspection accepts -/

section Introspected

variable {config : BearerConfig} {verify : String → Int → Option ExchangeClaims}
  {world : BearerWorld}

theorem branded_is_api_key_shaped {claims : ExchangeClaims} {audience : Option String}
    (branded : claims.azp = audience) : isApiKeyShaped claims audience = true := by
  unfold isApiKeyShaped
  cases azp : claims.azp with
  | none => rfl
  | some party => simp [← branded, azp]

theorem exchange_token_context_some {audience : Option String} {tenancy : TenancyDb}
    {decoded : Option ExchangeClaims} {context : ExchangeTokenContext}
    (resolved : resolveExchangeTokenContext audience tenancy decoded = some context) :
    ∃ claims projectId, decoded = some claims ∧ isApiKeyShaped claims audience = false ∧
      claims.projectId = some projectId ∧
      seesProject tenancy claims.sub projectId = true ∧ serves tenancy projectId = true := by
  unfold resolveExchangeTokenContext at resolved
  split at resolved
  · cases resolved
  · rename_i claims verified
    obtain ⟨isDecoded, notShaped⟩ := Option.filter_eq_some_iff.mp verified
    split at resolved
    · cases resolved
    · rename_i projectId named
      split at resolved
      · cases resolved
      · rename_i current member
        obtain ⟨project, found, may, isCurrent⟩ := resolve_context_ok member
        subst isCurrent
        rw [found] at resolved
        dsimp only at resolved
        split at resolved
        · cases resolved
        · rename_i projectActive
          split at resolved
          · cases resolved
          · rename_i account owner
            split at resolved
            · cases resolved
            · rename_i accountActive
              refine ⟨claims, projectId, isDecoded, by simpa using notShaped,
                (Option.filter_eq_some_iff.mp named).1, ?_, ?_⟩
              · simp [seesProject, found, may]
              · simp only [ne_eq, not_not] at projectActive accountActive
                simp [serves, found, owner, projectActive, accountActive]

theorem accepted_is_access (branded : Branded config world) {token : SelfIssued}
    (issued : token ∈ world.issued) {projectId : String}
    (notShaped : isApiKeyShaped (claimsIn token) config.audience = false)
    (named : (claimsIn token).projectId = some projectId) :
    ∃ grant jti access, token = .access grant jti access ∧ access.projectId = projectId := by
  cases token with
  | apiKey key =>
      have shaped : isApiKeyShaped (claimsIn (.apiKey key)) config.audience = true :=
        branded_is_api_key_shaped (branded.issued_key issued)
      rw [shaped] at notShaped
      cases notShaped
  | access grant jti access => exact ⟨grant, jti, access, rfl, Option.some.inj named⟩
  | id grant jti token => cases named

theorem signed_under_is_access {verify : String → Int → Option ExchangeClaims}
    (branded : Branded config world) (unforgeable : Unforgeable config verify world)
    {bearer projectId : String} {now : Int} {claims : ExchangeClaims}
    (decoded : verify bearer now = some claims)
    (notShaped : isApiKeyShaped claims config.audience = false)
    (named : claims.projectId = some projectId) {token : SelfIssued}
    (issued : token ∈ world.issued) (isBearer : config.encode token = bearer) :
    ∃ grant jti access, token = .access grant jti access ∧ access.projectId = projectId ∧
      claims = claimsIn token := by
  rw [← isBearer] at decoded
  have isClaims := unforgeable.faithful token issued now claims decoded
  rw [isClaims] at notShaped named
  obtain ⟨grant, jti, access, isAccess, ofProject⟩ :=
    accepted_is_access branded issued notShaped named
  exact ⟨grant, jti, access, isAccess, ofProject, isClaims⟩

theorem active_answer_has_key {bearer : String} {answer : Introspection}
    (answered : (introspectApiKeyRow world.base.tenancy world.base.keys world.base.clock
      (config.keys.hashApiKey bearer)).map Introspection.key = .ok answer)
    (active : answer.active = true) :
    ∃ row ∈ world.base.keys, row.keyHash = config.keys.hashApiKey bearer ∧
      row.deletedAt = none ∧
      apiKeyValidation world.base.tenancy world.base.clock row = some .active := by
  cases response : introspectApiKeyRow world.base.tenancy world.base.keys world.base.clock
      (config.keys.hashApiKey bearer) with
  | error error =>
      rw [response] at answered
      cases answered
  | ok body =>
      rw [response] at answered
      cases answered
      obtain ⟨row, found, undeleted, accepted, _⟩ :=
        introspect_api_key_row_active response active
      obtain ⟨stored, hashed⟩ := find_key_some found
      exact ⟨row, stored, Option.some.inj hashed, undeleted, beq_iff_eq.mp accepted⟩

end Introspected

/-- Whatever has happened to the keys, to their projects and to their accounts: a
bearer that introspection accepts is the secret of a key that is there and active, or
an access token of the exchange or the refresh grant whose subject has a standing on
an active project of an active account. The latter is never an API-key JWT and never
an id token. -/
theorem accepted_bearer_is_key_or_session (config : BearerConfig)
    (verify : String → Int → Option ExchangeClaims) (start last : BearerWorld)
    (events : List BearerEvent) (starts : BearerStart start)
    (ran : runFrom (bearerStep config) start events = some last)
    (unforgeable : Unforgeable config verify last) (bearer : String) (answer : Introspection)
    (answered : introspectApiKey config verify last bearer = .ok answer)
    (active : answer.active = true) :
    (∃ row ∈ last.base.keys, row.keyHash = config.keys.hashApiKey bearer ∧
      row.deletedAt = none ∧
      apiKeyValidation last.base.tenancy last.base.clock row = some .active) ∨
    ((∃ grant jti access, SelfIssued.access grant jti access ∈ last.minted ∧
        config.encode (.access grant jti access) = bearer ∧
        seesProject last.base.tenancy access.owner.subject access.projectId = true ∧
        serves last.base.tenancy access.projectId = true) ∧
      (∀ key ∈ last.signing.signed, config.encode (.apiKey key.token) ≠ bearer) ∧
      ∀ grant jti token, SelfIssued.id grant jti token ∈ last.minted →
        config.encode (.id grant jti token) ≠ bearer) := by
  have begins : Branded config start := by
    refine ⟨?_, ?_⟩
    · rw [starts.signed]
      simp
    · rw [starts.minted]
      simp
  have branded : Branded config last := run_preserves (Branded config)
    (fun world event next held stepped => step_branded held stepped) begins ran
  unfold introspectApiKey at answered
  split at answered
  · exact Or.inl (active_answer_has_key answered active)
  · right
    cases answered
    unfold introspectExchangeToken at active
    split at active
    · cases active
    · rename_i context resolved
      obtain ⟨claims, projectId, decoded, notShaped, named, sees, serving⟩ :=
        exchange_token_context_some resolved
      have only : ∀ token ∈ last.issued, config.encode token = bearer →
          ∃ grant jti access, token = .access grant jti access ∧
            access.projectId = projectId ∧ claims = claimsIn token := by
        intro token issued isBearer
        exact signed_under_is_access branded unforgeable decoded notShaped named issued isBearer
      refine ⟨?_, ?_, ?_⟩
      · obtain ⟨token, issued, isBearer⟩ := unforgeable.signed bearer _ claims decoded
        obtain ⟨grant, jti, access, isAccess, ofProject, isClaims⟩ := only token issued isBearer
        subst isAccess
        refine ⟨grant, jti, access, ?_, isBearer, ?_, ?_⟩
        · rcases List.mem_append.mp issued with signed | minted
          · obtain ⟨key, _, isToken⟩ := List.mem_map.mp signed
            cases isToken
          · exact minted
        · rw [ofProject]
          rw [isClaims] at sees
          exact sees
        · rw [ofProject]
          exact serving
      · intro key logged isBearer
        obtain ⟨_, _, _, isAccess, _⟩ := only (.apiKey key.token)
          (List.mem_append_left _ (List.mem_map.mpr ⟨key, logged, rfl⟩)) isBearer
        cases isAccess
      · intro grant jti token minted isBearer
        obtain ⟨_, _, _, isAccess, _⟩ := only (.id grant jti token)
          (List.mem_append_right _ minted) isBearer
        cases isAccess

/-! ## A deleted key and a session -/

theorem thirty_days_positive : 0 < (2592000 : Int64).toInt := by decide

def sampleBearers : BearerConfig where
  tiers := []
  keys := ⟨fun secret => "hash of " ++ secret, 90, ["standard"]⟩
  session := RefreshChains.sampleConfig
  audience := some "api-keys"
  signing := some ⟨"https://authz", 2592000, thirty_days_positive⟩
  tokenManager := .plain
  encode
    | .apiKey token => "api-key " ++ token.jti
    | .access _ jti _ => "access " ++ jti
    | .id _ jti _ => "id " ++ jti

def sampleBearerWorld : BearerWorld where
  signing := ⟨⟨⟨RefreshChains.sampleTenancy, [], 0, fun _ => none⟩, []⟩, []⟩
  tokens := []
  sessions := []
  minted := []

def verifyIssued (config : BearerConfig) (world : BearerWorld) (text : String) (_ : Int) :
    Option ExchangeClaims :=
  (world.issued.find? fun token => config.encode token == text).map claimsIn

/-- The owner creates a key, deletes it and exchanges a token for an access and an id
token. -/
def deletedKeyAndSession : List BearerEvent :=
  [.signing (.roster (.key (.createApiKey 0
      ⟨"alice", "p1", ⟨"ci", some 86400000000, "standard"⟩⟩)))] ++
    List.replicate 3 (.signing (.advance 0
      ⟨"k1", "k1", "k1", none, none, 0, 0, none, .error .notFound⟩)) ++
    [.signing (.roster (.key (.softDelete "alice" "k1"))),
      .session (.exchange { RefreshChains.sampleExchange with scope := some "openid" }) "" ""] ++
    List.replicate 5 (.session (.advance 0 (RefreshChains.sampleInput "c1" "s0")) "a1" "i1")

def answersActive (world : BearerWorld) (bearer : String) : Bool :=
  (introspectApiKey sampleBearers (verifyIssued sampleBearers world) world bearer).toOption.any
    Introspection.active

/-- The JWT of the deleted key and the id token are refused, and the access token is
accepted for the session that it is. -/
theorem deleted_key_stays_out :
    ∃ last,
      runFrom (bearerStep sampleBearers) sampleBearerWorld deletedKeyAndSession = some last ∧
        answersActive last "api-key lgbr:k1" = false ∧
        answersActive last "id i1" = false ∧
        ((∃ row ∈ last.base.keys,
            row.keyHash = sampleBearers.keys.hashApiKey "access a1" ∧ row.deletedAt = none ∧
            apiKeyValidation last.base.tenancy last.base.clock row = some .active) ∨
          ∃ grant jti access, SelfIssued.access grant jti access ∈ last.minted ∧
            sampleBearers.encode (.access grant jti access) = "access a1" ∧
            seesProject last.base.tenancy access.owner.subject access.projectId = true ∧
            serves last.base.tenancy access.projectId = true) := by
  have passes : reaches (bearerStep sampleBearers) sampleBearerWorld deletedKeyAndSession
      (fun last =>
        (last.issued.all fun token =>
          verifyIssued sampleBearers last (sampleBearers.encode token) 0 ==
            some (claimsIn token)) &&
          last.issued.length == 3 && !answersActive last "api-key lgbr:k1" &&
          !answersActive last "id i1" && answersActive last "access a1") = true := by
    decide +kernel
  obtain ⟨last, ran, passed⟩ := exists_of_reaches passes
  simp only [Bool.and_eq_true, Bool.not_eq_true', List.all_eq_true, beq_iff_eq] at passed
  obtain ⟨⟨⟨⟨verifies, _⟩, noKey⟩, noId⟩, session⟩ := passed
  have unforgeable : Unforgeable sampleBearers (verifyIssued sampleBearers last) last := by
    refine ⟨?_, ?_⟩
    · intro text now claims verified
      obtain ⟨token, found, _⟩ := Option.map_eq_some_iff.mp verified
      exact ⟨token, List.mem_of_find?_eq_some found, by simpa using List.find?_some found⟩
    · intro token issued now claims verified
      have same := verifies token issued
      have isSame : verifyIssued sampleBearers last (sampleBearers.encode token) now =
          some (claimsIn token) := same
      rw [isSame] at verified
      exact (Option.some.inj verified).symm
  obtain ⟨answer, isAnswer, active⟩ := (Option.any_eq_true ..).mp session
  have answered : introspectApiKey sampleBearers (verifyIssued sampleBearers last) last
      "access a1" = .ok answer := by
    cases outcome : introspectApiKey sampleBearers (verifyIssued sampleBearers last) last
        "access a1" with
    | error error => simp [outcome, Except.toOption] at isAnswer
    | ok found =>
        simp only [outcome, Except.toOption, Option.some.injEq] at isAnswer
        rw [isAnswer]
  have holds := accepted_bearer_is_key_or_session sampleBearers (verifyIssued sampleBearers last)
    sampleBearerWorld last deletedKeyAndSession
    ⟨⟨by decide, fun _ => rfl⟩, rfl, rfl, rfl⟩ ran unforgeable "access a1" answer answered active
  exact ⟨last, ran, noKey, noId, holds.imp_right And.left⟩

end LightbridgeAuthz.Sessions.SelfIssuedTokens
