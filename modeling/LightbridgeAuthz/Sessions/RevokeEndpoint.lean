import LightbridgeAuthz.Sessions.ClientAssertions
import LightbridgeAuthz.Sessions.RefreshTokens
import LightbridgeAuthz.Sessions.TokenGrants

/-!
# The revocation endpoint

A client authenticates and names a token; the token of that client is revoked if there
is one, and the answer is the same if there is none. All that can go wrong goes wrong
before the token is looked at.
-/

namespace LightbridgeAuthz.Sessions.RevokeEndpoint

open Library.KeyedRows Library.ExpiringKeys
open RefreshTokens ClientAssertions
open TokenGrants (trim)

set_option autoImplicit false

/-- `RevokeRequest`, with the value of the `Authorization` header. -/
structure RevokeRequest where
  authorization : Option (List UInt8)
  token : Option String
  tokenTypeHint : Option String
  clientId : Option String
  clientSecret : Option String
  clientAssertion : Option String
  clientAssertionType : Option String
  deriving DecidableEq, Repr

/-- The instants at which a request is handled, and whether its stores answer. -/
structure Moment where
  verifiedAt : Int
  readAt : Int
  commandAt : Int
  redisUp : Bool
  databaseUp : Bool
  deriving DecidableEq, Repr

inductive Response where
  | ok
  | oauthError (error : RevokeError)
  deriving DecidableEq, Repr

/-- What the endpoint uses of other packages: Base64, the claims `jti` and `exp` and the
unverified subject of an assertion, its verification, and the hash of secrets. -/
structure RevokeConfig where
  assertions : AssertionConfig
  decodeBase64 : String → Option (List UInt8)
  claims : String → String × Int
  peekClientAssertionSubject : String → Option String
  hashApiKey : String → String

/-- The registered clients, the refresh tokens, whose hashes are unique, and the spent
assertions. -/
structure RevokeState where
  clients : List ClientRegistration
  tokens : List RefreshTokenRow
  unique : UniqueKeys tokenHash tokens
  spent : List (Entry String)

def clientAssertionTypeJwtBearer : String :=
  "urn:ietf:params:oauth:client-assertion-type:jwt-bearer"

/-- `HeaderValue::to_str`: visible ASCII and tabs. -/
def headerText (value : List UInt8) : Option String :=
  if value.all fun byte => (32 ≤ byte && byte < 127) || byte == 9 then
    some (String.ofList (value.map fun byte => Char.ofNat byte.toNat))
  else none

/-- `str::strip_prefix`. -/
def stripFront (front text : String) : Option String :=
  if front.toList.isPrefixOf text.toList then
    some (String.ofList (text.toList.drop front.toList.length))
  else none

/-- The part before the colon of `str::split_once(':')`. -/
def beforeColon (text : String) : Option String :=
  if ':' ∈ text.toList then some (String.ofList (text.toList.takeWhile (· ≠ ':'))) else none

/-- The user of a `Basic` header. -/
def basicClient (config : RevokeConfig) (authHeader : Option String) : Option String :=
  ((authHeader.bind (stripFront "Basic ")).bind config.decodeBase64).bind fun decoded =>
    (String.fromUTF8? ⟨decoded.toArray⟩).bind beforeColon

def RevokeConfig.assertion (config : RevokeConfig) (text : String) : Assertion :=
  ⟨text, (config.claims text).1, (config.claims text).2⟩

def extractRevokeCredential (config : RevokeConfig)
    (clientSecret clientAssertion clientAssertionType authHeader : Option String) :
    Except RevokeError RevokeCredential :=
  let basic := basicClient config authHeader
  let post := clientSecret.filter (· ≠ "")
  if clientAssertion.isSome ∧ clientAssertionType ≠ some clientAssertionTypeJwtBearer then
    .error ⟨400, "invalid_request",
      "client_assertion_type must be " ++ clientAssertionTypeJwtBearer⟩
  else if 1 < basic.isSome.toNat + post.isSome.toNat + clientAssertion.isSome.toNat then
    .error ⟨400, "invalid_request",
      "Only one client authentication method may be used per request"⟩
  else
    match basic, post, clientAssertion with
    | some clientId, _, _ => .ok (.secret (some clientId))
    | _, some _, _ => .ok (.secret none)
    | _, _, some text => .ok (.assertion (config.assertion text))
    | none, none, none => .ok .noCredential

def resolveRevokeClientId (config : RevokeConfig) (clientId : Option String) :
    RevokeCredential → Option String
  | .secret (some named) => some named
  | .assertion assertion => clientId.or (config.peekClientAssertionSubject assertion.text)
  | _ => clientId

/-- `ConfigClientStore::find_client`: of two clients of one id the later is kept. -/
def findClient (clients : List ClientRegistration) (clientId : String) :
    Option ClientRegistration :=
  clients.reverse.find? fun client => client.clientId = clientId

def presentation (client : ClientRegistration) (credential : RevokeCredential)
    (moment : Moment) : Presentation where
  client := client
  credential := credential
  verifiedAt := moment.verifiedAt
  readAt := moment.readAt
  commandAt := moment.commandAt
  redisUp := moment.redisUp

theorem revoked_unique {tokens : List RefreshTokenRow} (unique : UniqueKeys tokenHash tokens)
    (hash clientId : String) :
    UniqueKeys tokenHash (revokeExchangeRefreshTokenForClient tokens hash clientId) := by
  apply unique_keys_map unique
  intro row
  unfold revokedIf
  split <;> rfl

def RevokeState.revokeRefreshTokenForClient (state : RevokeState) (config : RevokeConfig)
    (token clientId : String) : RevokeState :=
  { state with
    tokens := revokeExchangeRefreshTokenForClient state.tokens (config.hashApiKey token) clientId
    unique := revoked_unique state.unique (config.hashApiKey token) clientId }

def revokeEndpoint (config : RevokeConfig) (state : RevokeState) (request : RevokeRequest)
    (moment : Moment) : RevokeState × Response :=
  match request.token.filter fun token => trim token ≠ "" with
  | none => (state, .oauthError ⟨400, "invalid_request", "token is required"⟩)
  | some token =>
      match extractRevokeCredential config request.clientSecret request.clientAssertion
          request.clientAssertionType (request.authorization.bind headerText) with
      | .error error => (state, .oauthError error)
      | .ok credential =>
          match resolveRevokeClientId config request.clientId credential with
          | none => (state, .oauthError invalidClient)
          | some clientId =>
              match findClient state.clients clientId with
              | none => (state, .oauthError invalidClient)
              | some client =>
                  match authenticateClient config.assertions state.spent
                      (presentation client credential moment) with
                  | (spent, .error error) => ({ state with spent := spent }, .oauthError error)
                  | (spent, .ok ()) =>
                      if moment.databaseUp then
                        ({ state with spent := spent }.revokeRefreshTokenForClient config token
                          clientId, .ok)
                      else
                        ({ state with spent := spent },
                          .oauthError ⟨500, "server_error", "revocation failed"⟩)

/-! ## Before the token -/

def credentialOf (config : RevokeConfig) (request : RevokeRequest) :
    Except RevokeError RevokeCredential :=
  extractRevokeCredential config request.clientSecret request.clientAssertion
    request.clientAssertionType (request.authorization.bind headerText)

def clientIdOf (config : RevokeConfig) (request : RevokeRequest) : Option String :=
  (credentialOf config request).toOption.bind (resolveRevokeClientId config request.clientId)

/-- The client that a request authenticates, from everything but its token, and the
assertions that are spent then. -/
def authenticatedClient (config : RevokeConfig) (clients : List ClientRegistration)
    (spent : List (Entry String)) (request : RevokeRequest) (moment : Moment) :
    List (Entry String) × Except RevokeError String :=
  match credentialOf config request with
  | .error error => (spent, .error error)
  | .ok credential =>
      match resolveRevokeClientId config request.clientId credential with
      | none => (spent, .error invalidClient)
      | some clientId =>
          match findClient clients clientId with
          | none => (spent, .error invalidClient)
          | some client =>
              ((authenticateClient config.assertions spent
                  (presentation client credential moment)).1,
                (authenticateClient config.assertions spent
                  (presentation client credential moment)).2.map fun _ => clientId)

def Names (request : RevokeRequest) (token : String) : Prop :=
  request.token = some token ∧ trim token ≠ ""

section Endpoint

variable {config : RevokeConfig} {state : RevokeState} {request : RevokeRequest} {moment : Moment}
  {token : String}

theorem revoke_endpoint_eq (named : Names request token) :
    revokeEndpoint config state request moment =
      let authenticated :=
        authenticatedClient config state.clients state.spent request moment
      match authenticated.2 with
      | .error error => ({ state with spent := authenticated.1 }, .oauthError error)
      | .ok clientId =>
          if moment.databaseUp then
            ({ state with spent := authenticated.1 }.revokeRefreshTokenForClient config token
              clientId, .ok)
          else
            ({ state with spent := authenticated.1 },
              .oauthError ⟨500, "server_error", "revocation failed"⟩) := by
  obtain ⟨isToken, notBlank⟩ := named
  have present : (request.token.filter fun token => trim token ≠ "") = some token := by
    rw [isToken, Option.filter_some, if_pos (decide_eq_true notBlank)]
  simp only [revokeEndpoint, present, authenticatedClient, credentialOf]
  cases extractRevokeCredential config request.clientSecret request.clientAssertion
      request.clientAssertionType (request.authorization.bind headerText) with
  | error error => rfl
  | ok credential =>
      dsimp only
      cases resolveRevokeClientId config request.clientId credential with
      | none => rfl
      | some clientId =>
          dsimp only
          cases findClient state.clients clientId with
          | none => rfl
          | some client =>
              dsimp only
              obtain ⟨spent, result⟩ := authenticateClient config.assertions state.spent
                (presentation client credential moment)
              cases result <;> rfl

theorem authenticated_client_cases (config : RevokeConfig) (clients : List ClientRegistration)
    (spent : List (Entry String)) (request : RevokeRequest) (moment : Moment) :
    ((clientIdOf config request).bind (findClient clients) = none ∧
        ∃ error, authenticatedClient config clients spent request moment =
          (spent, .error error)) ∨
      ∃ credential clientId client, credentialOf config request = .ok credential ∧
        clientIdOf config request = some clientId ∧ findClient clients clientId = some client ∧
        authenticatedClient config clients spent request moment =
          ((authenticateClient config.assertions spent
              (presentation client credential moment)).1,
            (authenticateClient config.assertions spent
              (presentation client credential moment)).2.map fun _ => clientId) := by
  unfold authenticatedClient clientIdOf
  cases credential : credentialOf config request with
  | error error => exact Or.inl ⟨rfl, error, rfl⟩
  | ok shown =>
      dsimp only
      cases named : resolveRevokeClientId config request.clientId shown with
      | none => exact Or.inl ⟨by rw [Except.toOption, Option.bind_some, named]; rfl,
          invalidClient, rfl⟩
      | some clientId =>
          dsimp only
          cases found : findClient clients clientId with
          | none => exact Or.inl ⟨by rw [Except.toOption, Option.bind_some, named]; exact found,
              invalidClient, rfl⟩
          | some client => exact Or.inr ⟨shown, clientId, client, rfl, named, found, rfl⟩

theorem spent_of_unauthenticated {clients : List ClientRegistration} {spent : List (Entry String)}
    {error : RevokeError}
    (failed : (authenticatedClient config clients spent request moment).2 = .error error) :
    (authenticatedClient config clients spent request moment).1 = spent := by
  obtain ⟨_, early, isEarly⟩ | ⟨credential, clientId, client, _, _, _, checked⟩ :=
    authenticated_client_cases config clients spent request moment
  · rw [isEarly]
  · rw [checked] at failed ⊢
    cases result : (authenticateClient config.assertions spent
        (presentation client credential moment)).2 with
    | error other => exact authenticate_client_refused result
    | ok =>
        rw [result] at failed
        cases failed

end Endpoint

/-- Two requests that differ in the token and its hint at most. -/
structure SameCredentials (left right : RevokeRequest) : Prop where
  authorization : left.authorization = right.authorization
  clientId : left.clientId = right.clientId
  clientSecret : left.clientSecret = right.clientSecret
  clientAssertion : left.clientAssertion = right.clientAssertion
  clientAssertionType : left.clientAssertionType = right.clientAssertionType

/-- Two states that agree on the client that the request names, and on whether the `jti`
of its assertion is spent. -/
structure AlikeFor (config : RevokeConfig) (request : RevokeRequest) (moment : Moment)
    (left right : RevokeState) : Prop where
  registration : ∀ clientId, clientIdOf config request = some clientId →
    findClient left.clients clientId = findClient right.clients clientId
  jti : ∀ assertion, credentialOf config request = .ok (.assertion assertion) →
    present left.spent (jtiKey config.assertions assertion.jti) moment.commandAt =
      present right.spent (jtiKey config.assertions assertion.jti) moment.commandAt

theorem assertion_of_verified {config : AssertionConfig} {shown : Presentation}
    {assertion : Assertion} (verified : verifiedAssertion config shown = some assertion) :
    shown.credential = .assertion assertion := by
  unfold verifiedAssertion at verified
  split at verified
  · rename_i credential
    split at verified
    · rw [credential, Option.some.inj verified]
    · cases verified
  · cases verified

theorem authenticated_client_congr {config : RevokeConfig} {request other : RevokeRequest}
    {moment : Moment} {left right : RevokeState} (same : SameCredentials request other)
    (alike : AlikeFor config request moment left right) :
    (authenticatedClient config left.clients left.spent request moment).2 =
      (authenticatedClient config right.clients right.spent other moment).2 := by
  have sameCredential : credentialOf config other = credentialOf config request := by
    rw [credentialOf, credentialOf, same.clientSecret, same.clientAssertion,
      same.clientAssertionType, same.authorization]
  simp only [authenticatedClient, sameCredential, ← same.clientId]
  cases credential : credentialOf config request with
  | error error => rfl
  | ok shown =>
      dsimp only
      cases named : resolveRevokeClientId config request.clientId shown with
      | none => rfl
      | some clientId =>
          dsimp only
          have isNamed : clientIdOf config request = some clientId := by
            rw [clientIdOf, credential]
            exact named
          rw [alike.registration clientId isNamed]
          cases findClient right.clients clientId with
          | none => rfl
          | some client =>
              dsimp only
              congr 1
              apply authenticate_client_congr
              intro assertion _ verified
              obtain rfl := assertion_of_verified verified
              exact alike.jti assertion credential

def IsLive (hash clientId : String) (row : RefreshTokenRow) : Prop :=
  row.tokenHash = hash ∧ row.clientId = clientId ∧ row.status = .active

/-- The live row is revoked if there is one, and no other row changes. -/
inductive RevokesLive (hash clientId : String) :
    List RefreshTokenRow → List RefreshTokenRow → Prop where
  | none {tokens : List RefreshTokenRow} (absent : ∀ row ∈ tokens, ¬ IsLive hash clientId row) :
      RevokesLive hash clientId tokens tokens
  | one {front back : List RefreshTokenRow} {row : RefreshTokenRow}
      (live : IsLive hash clientId row) :
      RevokesLive hash clientId (front ++ row :: back)
        (front ++ { row with status := .revoked } :: back)

theorem revoked_if_not_live {hash clientId : String} {row : RefreshTokenRow}
    (notLive : ¬ IsLive hash clientId row) :
    revokedIf (fun row => row.tokenHash == hash && row.clientId == clientId) row = row := by
  apply if_neg
  simp only [Bool.and_eq_true, beq_iff_eq]
  rintro ⟨⟨sameHash, sameClient⟩, active⟩
  exact notLive ⟨sameHash, sameClient, active⟩

theorem revoke_not_live {hash clientId : String} {tokens : List RefreshTokenRow}
    (absent : ∀ row ∈ tokens, ¬ IsLive hash clientId row) :
    tokens.map (revokedIf fun row => row.tokenHash == hash && row.clientId == clientId) =
      tokens := by
  conv_rhs => rw [← List.map_id tokens]
  exact List.map_congr_left fun row member => revoked_if_not_live (absent row member)

theorem revoke_for_client_live {tokens : List RefreshTokenRow}
    (unique : UniqueKeys tokenHash tokens) (hash clientId : String) :
    RevokesLive hash clientId tokens (revokeExchangeRefreshTokenForClient tokens hash clientId) := by
  unfold revokeExchangeRefreshTokenForClient
  by_cases found : ∃ row ∈ tokens, IsLive hash clientId row
  · obtain ⟨row, member, live⟩ := found
    obtain ⟨front, back, rfl⟩ := List.append_of_mem member
    obtain ⟨_, behind, before⟩ := List.pairwise_append.mp unique
    have absentBack : ∀ other ∈ back, ¬ IsLive hash clientId other := by
      intro other inBack otherLive
      obtain absurdNone | apart := (List.pairwise_cons.mp behind).1 other inBack
      · cases absurdNone
      · exact apart (by rw [tokenHash, tokenHash, live.1, otherLive.1])
    have absentFront : ∀ other ∈ front, ¬ IsLive hash clientId other := by
      intro other inFront otherLive
      obtain absurdNone | apart := before other inFront row List.mem_cons_self
      · cases absurdNone
      · exact apart (by rw [tokenHash, tokenHash, live.1, otherLive.1])
    have revoked : revokedIf (fun row => row.tokenHash == hash && row.clientId == clientId) row =
        { row with status := .revoked } := by
      obtain ⟨sameHash, sameClient, active⟩ := live
      simp [revokedIf, sameHash, sameClient, active]
    rw [List.map_append, List.map_cons, revoke_not_live absentFront, revoke_not_live absentBack,
      revoked]
    exact .one live
  · have absent : ∀ row ∈ tokens, ¬ IsLive hash clientId row :=
      fun row member live => found ⟨row, member, live⟩
    rw [revoke_not_live absent]
    exact .none absent

/-- The client with which the request authenticates. -/
def Authenticates (config : RevokeConfig) (state : RevokeState) (request : RevokeRequest)
    (moment : Moment) (clientId : String) : Prop :=
  ∃ credential client, credentialOf config request = .ok credential ∧
    clientIdOf config request = some clientId ∧ findClient state.clients clientId = some client ∧
    (authenticateClient config.assertions state.spent
      (presentation client credential moment)).2 = .ok ()

/-- What a request with a token answers and changes. -/
structure NotAnOracle (config : RevokeConfig) : Prop where
  sameAnswer : ∀ left right request other token otherToken moment,
    Names request token → Names other otherToken → SameCredentials request other →
      AlikeFor config request moment left right →
        (revokeEndpoint config left request moment).2 =
          (revokeEndpoint config right other moment).2
  answered : ∀ state request token moment,
    Names request token → moment.databaseUp = true →
      ((revokeEndpoint config state request moment).2 = .ok ↔
        ∃ clientId, Authenticates config state request moment clientId)
  revokes : ∀ state request token moment clientId,
    Names request token → moment.databaseUp = true →
      Authenticates config state request moment clientId →
        (revokeEndpoint config state request moment).1.clients = state.clients ∧
          RevokesLive (config.hashApiKey token) clientId state.tokens
            (revokeEndpoint config state request moment).1.tokens
  untouched : ∀ state request token moment,
    Names request token → (∀ clientId, ¬ Authenticates config state request moment clientId) →
      (revokeEndpoint config state request moment).1 = state

theorem authenticated_client_ok_iff (config : RevokeConfig) (state : RevokeState)
    (request : RevokeRequest) (moment : Moment) (clientId : String) :
    (authenticatedClient config state.clients state.spent request moment).2 = .ok clientId ↔
      Authenticates config state request moment clientId := by
  obtain ⟨unknown, error, early⟩ |
      ⟨credential, named, client, isCredential, isNamed, found, checked⟩ :=
    authenticated_client_cases config state.clients state.spent request moment
  · rw [early]
    constructor
    · intro ok
      cases ok
    · rintro ⟨credential, client, _, isNamed, found, _⟩
      rw [isNamed, Option.bind_some, found] at unknown
      cases unknown
  · rw [checked]
    constructor
    · intro ok
      cases result : (authenticateClient config.assertions state.spent
          (presentation client credential moment)).2 with
      | error other =>
          rw [result] at ok
          cases ok
      | ok =>
          rw [result] at ok
          obtain rfl := Except.ok.inj ok
          exact ⟨credential, client, isCredential, isNamed, found, result⟩
    · rintro ⟨otherCredential, otherClient, isOther, otherNamed, otherFound, result⟩
      obtain rfl := Except.ok.inj (isCredential.symm.trans isOther)
      obtain rfl := Option.some.inj (isNamed.symm.trans otherNamed)
      obtain rfl := Option.some.inj (found.symm.trans otherFound)
      rw [result]
      rfl

/-- The endpoint tells nothing about tokens. -/
theorem revoke_endpoint_not_an_oracle (config : RevokeConfig) : NotAnOracle config where
  sameAnswer := by
    intro left right request other token otherToken moment named otherNamed same alike
    rw [revoke_endpoint_eq named, revoke_endpoint_eq otherNamed]
    dsimp only
    rw [authenticated_client_congr same alike]
    cases (authenticatedClient config right.clients right.spent other moment).2 with
    | error error => rfl
    | ok clientId =>
        dsimp only
        by_cases up : moment.databaseUp = true
        · rw [if_pos up, if_pos up]
        · rw [if_neg up, if_neg up]
  answered := by
    intro state request token moment named up
    simp only [← authenticated_client_ok_iff, revoke_endpoint_eq named, if_pos up]
    cases (authenticatedClient config state.clients state.spent request moment).2 <;> simp
  revokes := by
    intro state request token moment clientId named up authenticates
    have isClient := (authenticated_client_ok_iff config state request moment clientId).mpr
      authenticates
    rw [revoke_endpoint_eq named]
    dsimp only
    rw [isClient]
    dsimp only
    rw [if_pos up]
    exact ⟨rfl, revoke_for_client_live state.unique (config.hashApiKey token) clientId⟩
  untouched := by
    intro state request token moment named unauthenticated
    rw [revoke_endpoint_eq named]
    dsimp only
    cases result :
        (authenticatedClient config state.clients state.spent request moment).2 with
    | error error =>
        rw [spent_of_unauthenticated result]
    | ok clientId =>
        exact absurd ((authenticated_client_ok_iff _ _ _ _ _).mp result)
          (unauthenticated clientId)

/-- Signatures are always valid, and each assertion has the `jti` `j1`. -/
def trustingConfig : RevokeConfig where
  assertions := ⟨"jti:", 60000000, fun _ _ => true⟩
  decodeBase64 := fun _ => none
  claims := fun _ => ("j1", 300000000)
  peekClientAssertionSubject := fun _ => some "svc"
  hashApiKey := fun secret => "hash of " ++ secret

def signedRequest : RevokeRequest where
  authorization := none
  token := some "t"
  tokenTypeHint := none
  clientId := none
  clientSecret := none
  clientAssertion := some "jwt"
  clientAssertionType := some clientAssertionTypeJwtBearer

def oneService (spent : List (Entry String)) : RevokeState where
  clients := [⟨"svc", some .privateKeyJwt⟩]
  tokens := []
  unique := .nil
  spent := spent

/-- The client, its credentials and the token are the same: the second answer shows that
the assertion has been used before. -/
theorem spent_assertion_changes_answer :
    (revokeEndpoint trustingConfig (oneService []) signedRequest ⟨0, 0, 0, true, true⟩).2 = .ok ∧
      (revokeEndpoint trustingConfig (oneService [⟨"jti:j1", 300000000⟩]) signedRequest
        ⟨0, 0, 0, true, true⟩).2 = .oauthError invalidClient := by
  constructor <;> decide +kernel

end LightbridgeAuthz.Sessions.RevokeEndpoint
