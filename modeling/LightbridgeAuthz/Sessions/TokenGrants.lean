import LightbridgeAuthz.Library.SpacedWords
import LightbridgeAuthz.Sessions.RefreshTokens

/-!
# What the two grants check and mint

The checks of `handle_token_exchange` and `handle_refresh_token` that read no
table, the scopes they grant and the tokens they mint. The validation of the
subject token is the bearer service's answer, the budget tier the ledger's, and
signing may fail: they are inputs of the calls.
-/

namespace LightbridgeAuthz.Sessions.TokenGrants

open Library.ChronoTime
open Library.SpacedWords
open Budget.Domain (isWhitespace isBlank)
open Access.Tenancy RefreshTokens

set_option autoImplicit false

def trim (text : String) : String :=
  String.ofList
    ((text.toList.dropWhile isWhitespace).reverse.dropWhile isWhitespace).reverse

def splitWhitespace (text : String) : List String :=
  ((text.toList.splitOnP isWhitespace).filter (· ≠ [])).map String.ofList

def IsWordOf (word text : String) : Prop :=
  IsWord isWhitespace word.toList ∧ StandsIn isWhitespace word.toList text.toList

theorem mem_split_whitespace {word text : String} :
    word ∈ splitWhitespace text ↔ IsWordOf word text := by
  unfold splitWhitespace
  rw [List.mem_map]
  constructor
  · rintro ⟨chars, member, rfl⟩
    unfold IsWordOf
    rw [String.toList_ofList]
    exact mem_words.mp member
  · intro isWord
    exact ⟨word.toList, mem_words.mpr isWord, String.ofList_toList⟩

theorem split_whitespace_intercalate {words : List String}
    (areWords : ∀ word ∈ words, IsWord isWhitespace word.toList) :
    splitWhitespace (" ".intercalate words) = words := by
  have texts : ∀ text ∈ words.map String.toList, IsWord isWhitespace text := by
    intro text member
    obtain ⟨word, isWord, rfl⟩ := List.mem_map.mp member
    exact areWords word isWord
  have split := words_intercalate (show isWhitespace ' ' = true by decide) texts
  unfold Library.SpacedWords.words at split
  unfold splitWhitespace
  rw [String.toList_intercalate, show " ".toList = [' '] from rfl, split, List.map_map]
  exact List.map_id'' (fun word => String.ofList_toList) words

/-- A `TokenErrorResponse`, or a panic of `chrono`'s arithmetic. -/
inductive TokenError where
  | oauth (error description : String)
  | panicked
  deriving DecidableEq, Repr

def accessTokenType : String := "urn:ietf:params:oauth:token-type:access_token"

def offlineAccessScope : String := "offline_access"

def openidScope : String := "openid"

/-- `Oauth2TokenExchange`, with the hash of secrets and the text form of
instants. -/
structure SessionConfig where
  enabled : Bool
  accessTtlSeconds : Int64
  refreshTtlSeconds : Int64
  refreshAbsoluteTtlSeconds : Int64
  allowedScopes : List String
  hashApiKey : String → String
  time : Rfc3339

structure Client where
  clientId : String
  allowsTokenExchange : Bool
  allowsRefreshToken : Bool
  scopes : List String
  deriving DecidableEq, Repr

structure ExchangeRequest where
  client : Client
  hasActorToken : Bool
  subjectTokenType : Option String
  requestedTokenType : Option String
  subjectToken : Option String
  projectId : Option String
  scope : Option String
  deriving DecidableEq, Repr

structure RefreshRequest where
  client : Client
  refreshToken : Option String
  deriving DecidableEq, Repr

structure TokenInfo where
  sub : String
  aud : List String
  email : Option String
  emailVerified : Option Bool
  authTime : Option Int64
  nonce : Option String
  deriving DecidableEq

inductive BearerAnswer where
  | active (info : TokenInfo)
  | inactive
  | failed
  deriving DecidableEq

structure AccessToken where
  owner : KeyOwner
  sessionId : String
  projectId : String
  accountId : String
  allowedModels : Option (List String)
  azp : String
  budgetTier : String
  quotaTier : Option String
  modelPolicy : ModelPolicy
  scope : Option String
  expiresAt : Int
  deriving DecidableEq

structure IdToken where
  owner : KeyOwner
  audience : String
  authTime : Option Int64
  nonce : Option String
  expiresAt : Int
  deriving DecidableEq

structure TokenResponse where
  accessToken : AccessToken
  expiresIn : Nat
  idToken : Option IdToken
  refreshToken : Option String
  scope : Option String
  issuedTokenType : Option String
  deriving DecidableEq

def invalidGrant : TokenError :=
  .oauth "invalid_grant" "refresh_token is invalid, expired, or already used"

def grantScopes (requested : Option String) (serverAllowed clientScopes : List String) :
    List String :=
  let requested := splitWhitespace (requested.getD "")
  let base :=
    if requested = [] then serverAllowed.filter (· ≠ offlineAccessScope)
    else requested.filter serverAllowed.contains
  base.filter clientScopes.contains

def scopeToString (scopes : List String) : Option String :=
  if scopes = [] then none else some (" ".intercalate scopes)

/-- The checks of `handle_token_exchange` before the subject token is
validated. -/
def exchangeRefusal (config : SessionConfig) (request : ExchangeRequest) : Option TokenError :=
  if ¬ config.enabled then
    some (.oauth "unsupported_grant_type"
      "Token exchange is not enabled on this authorization server")
  else if ¬ request.client.allowsTokenExchange then
    some (.oauth "unauthorized_client"
      "Client is not authorized to use token_exchange grant type")
  else if request.hasActorToken then
    some (.oauth "invalid_request" "actor_token is not supported")
  else if request.subjectTokenType.any fun tokenType =>
      trim tokenType ≠ "" && trim tokenType ≠ accessTokenType then
    some (.oauth "invalid_request"
      "subject_token_type must be urn:ietf:params:oauth:token-type:access_token")
  else if request.requestedTokenType.getD accessTokenType ≠ accessTokenType then
    some (.oauth "invalid_request"
      "Unsupported requested_token_type. Only access_token is supported.")
  else if request.subjectToken.all isBlank then
    some (.oauth "invalid_request" "subject_token is required")
  else none

/-- The subject of the exchange, once the bearer service has answered and the
client is in the token's audience. -/
def exchangeSubject (request : ExchangeRequest) (answer : BearerAnswer) :
    Except TokenError TokenInfo :=
  match answer with
  | .inactive => .error (.oauth "invalid_token" "subject_token is not active")
  | .failed => .error (.oauth "invalid_token" "subject_token validation failed")
  | .active info =>
      if info.aud.contains request.client.clientId then .ok info
      else .error (.oauth "invalid_grant" "Client is not authorized to exchange this token")

/-- The project a request names, trimmed, if it names one. -/
def requestedProjectId (request : ExchangeRequest) : Option String :=
  (request.projectId.map trim).filter (· ≠ "")

/-- The checks of `handle_refresh_token` before it touches the table. -/
def refreshRefusal (request : RefreshRequest) : Option TokenError :=
  if ¬ request.client.allowsRefreshToken then
    some (.oauth "unauthorized_client"
      "Client is not authorized to use refresh_token grant type")
  else if request.refreshToken.all isBlank then
    some (.oauth "invalid_request" "refresh_token is required")
  else none

/-- `access_ttl_seconds.max(0)`. -/
def SessionConfig.expiresInSecs (config : SessionConfig) : Nat :=
  (max 0 config.accessTtlSeconds.toInt).toNat

/-- The end of an access token minted by a call whose clock read `now`. -/
def SessionConfig.accessEnd (config : SessionConfig) (now : Int) : Int :=
  now + max 0 config.accessTtlSeconds.toInt * 1000000

/-- The absolute cap of a chain born by a call whose clock read `now`. -/
def SessionConfig.chainEnd (config : SessionConfig) (now : Int) : Option Int :=
  afterSeconds now (max 0 config.refreshAbsoluteTtlSeconds.toInt)

/-- What the tables say of the session that a token is minted for. -/
structure MintContext where
  context : ResolvedContext
  allowedModels : Option (List String)
  modelPolicy : ModelPolicy
  budgetTier : String
  quotaTier : Option String
  deriving DecidableEq

def mintAccessToken (config : SessionConfig) (owner : KeyOwner) (clientId sessionId : String)
    (mint : MintContext) (scope : Option String) (now : Int) : AccessToken where
  owner := owner
  sessionId := sessionId
  projectId := mint.context.projectId
  accountId := mint.context.accountId
  allowedModels := mint.allowedModels
  azp := clientId
  budgetTier := mint.budgetTier
  quotaTier := mint.quotaTier
  modelPolicy := mint.modelPolicy
  scope := scope
  expiresAt := config.accessEnd now

def mintIdToken (config : SessionConfig) (owner : KeyOwner) (clientId : String)
    (authTime : Option Int64) (nonce : Option String) (now : Int) : IdToken where
  owner := owner
  audience := clientId
  authTime := authTime
  nonce := nonce
  expiresAt := config.accessEnd now

end LightbridgeAuthz.Sessions.TokenGrants
