import LightbridgeAuthz.Library.EventRun
import LightbridgeAuthz.Sessions.TokenGrants

/-!
# Token exchanges and refreshes, statement by statement

A refresh consumes the presented token in one statement, re-validates its
session by three reads, reads the tiers, mints, and inserts the successor in
another statement; a presented token that cannot be consumed is looked up and,
if it was rotated before, its chain is revoked. An exchange resolves its context,
mints and stores the first token of a new chain. The revocation endpoint and the
kill switch are one statement each. Any number of calls are in flight, a
statement may fail (committed or not), a call may never be continued, and the
clock advances and the tenants change between any two statements.
-/

namespace LightbridgeAuthz.Sessions.SessionCalls

open Library.EventRun Library.KeyedRows Library.ChronoTime
open Access.Tenancy RefreshTokens TokenGrants

set_option autoImplicit false

/-- A failed statement, and whether the database had committed it all the
same. -/
structure Fault where
  committed : Bool
  deriving DecidableEq, Repr

/-- What a step reads from outside: a fault, generated ids and secrets, the
answers of the bearer service, the budget ledger and the signer. -/
structure StepInput where
  fault : Option Fault
  rowId : String
  chainId : String
  sessionId : String
  secret : String
  bearer : BearerAnswer
  budgetTier : String
  accessSigned : Bool
  idSigned : Bool

inductive ExchangePoint where
  | validate
  | defaultProject (info : TokenInfo)
  | context (info : TokenInfo) (projectId : String)
  | modelAccess (info : TokenInfo) (context : ResolvedContext)
  | budgetTier (info : TokenInfo) (context : ResolvedContext)
      (allowedModels : Option (List String)) (modelPolicy : ModelPolicy) (now : Int)
  | quotaTier (info : TokenInfo) (context : ResolvedContext)
      (allowedModels : Option (List String)) (modelPolicy : ModelPolicy) (now : Int)
      (budgetTier : String)
  | store (now : Int) (token : RefreshToken) (response : TokenResponse)
  | returned (answer : Except TokenError TokenResponse)

/-- `born` is the first token of a chain that the call has stored, with the
call's clock reading. -/
structure ExchangeCall where
  request : ExchangeRequest
  born : Option (Int × RefreshTokenRow)
  point : ExchangePoint

inductive RefreshPoint where
  | consume
  | detectReuse
  | cascade (chainId : String)
  | context (row : RefreshTokenRow)
  | project (row : RefreshTokenRow) (context : ResolvedContext)
  | account (row : RefreshTokenRow) (context : ResolvedContext) (project : Project)
  | budgetTier (row : RefreshTokenRow) (context : ResolvedContext) (project : Project)
  | quotaTier (row : RefreshTokenRow) (context : ResolvedContext) (project : Project)
      (budgetTier : String)
  | insert (row : RefreshTokenRow) (successor : NewRefreshToken) (response : TokenResponse)
  | returned (answer : Except TokenError TokenResponse)

/-- `consumed` is the row that the call's `UPDATE` has consumed, `stored` says
that its successor has been inserted. -/
structure RefreshCall where
  request : RefreshRequest
  now : Int
  consumed : Option RefreshTokenRow
  stored : Bool
  point : RefreshPoint

inductive SessionCall where
  | exchange (call : ExchangeCall)
  | refresh (call : RefreshCall)

structure SessionWorld where
  tenancy : TenancyDb
  tokens : List RefreshTokenRow
  clock : Int
  calls : List SessionCall

inductive SessionEvent where
  | tick (elapsed : Nat)
  | changeTenancy (tenancy : TenancyDb)
  | exchange (request : ExchangeRequest)
  | refresh (request : RefreshRequest)
  | advance (caller : Nat) (input : StepInput)
  | revokeToken (token clientId : String)
  | revokeSessions (subject : String)

def ExchangeCall.refuse (call : ExchangeCall) (error : TokenError) : ExchangeCall :=
  { call with point := .returned (.error error) }

def RefreshCall.refuse (call : RefreshCall) (error : TokenError) : RefreshCall :=
  { call with point := .returned (.error error) }

def contextFailed : TokenError := .oauth "server_error" "context resolution failed"

def notAMember : TokenError :=
  .oauth "access_denied" "subject is not a member of the requested project"

def persistenceFailed : TokenError :=
  .oauth "server_error" "refresh token persistence failed"

def RefreshCall.presented (call : RefreshCall) : String := call.request.refreshToken.getD ""

def firstToken (config : SessionConfig) (clientId : String) (info : TokenInfo)
    (context : ResolvedContext) (scope : Option String) (chainExpiresAt expiresAt : Int)
    (input : StepInput) : RefreshToken where
  token := input.secret
  clientId := clientId
  identity := refreshIdentity config.time ⟨info.sub, info.email, info.emailVerified⟩
    context.accountId context.projectId info.authTime input.chainId chainExpiresAt
  scope := scope.getD ""
  expiresAt := expiresAt

def exchangeResponse (config : SessionConfig) (clientId : String) (info : TokenInfo)
    (mint : MintContext) (scopes : List String) (now : Int) (refreshToken : Option String)
    (input : StepInput) : TokenResponse where
  accessToken := mintAccessToken config ⟨info.sub, info.email, info.emailVerified⟩ clientId
    input.sessionId mint (scopeToString scopes) now
  expiresIn := config.expiresInSecs
  idToken := if scopes.contains openidScope then
      some (mintIdToken config ⟨info.sub, info.email, info.emailVerified⟩ clientId info.authTime
        info.nonce now)
    else none
  refreshToken := refreshToken
  scope := scopeToString scopes
  issuedTokenType := some accessTokenType

/-- The tail of `handle_token_exchange`, once every tier is read: both tokens are
minted and, with `offline_access`, the first token of a chain is prepared. -/
def mintExchange (config : SessionConfig) (call : ExchangeCall) (info : TokenInfo)
    (mint : MintContext) (now : Int) (input : StepInput) : ExchangeCall :=
  let clientId := call.request.client.clientId
  let scopes := grantScopes call.request.scope config.allowedScopes call.request.client.scopes
  if ¬ input.accessSigned then
    call.refuse (.oauth "server_error" "access token signing failed")
  else if scopes.contains openidScope ∧ ¬ input.idSigned then
    call.refuse (.oauth "server_error" "id token signing failed")
  else if scopes.contains offlineAccessScope then
    match config.chainEnd now, afterSeconds now config.refreshTtlSeconds.toInt with
    | some chainExpiresAt, some expiresAt =>
        { call with
          point := .store now
            (firstToken config clientId info mint.context (scopeToString scopes) chainExpiresAt
              expiresAt input)
            (exchangeResponse config clientId info mint scopes now (some input.secret) input) }
    | _, _ => call.refuse .panicked
  else
    { call with
      point := .returned (.ok
        (exchangeResponse config clientId info mint scopes now none input)) }

def exchangeMove (config : SessionConfig) (tenancy : TenancyDb) (tokens : List RefreshTokenRow)
    (clock : Int) (input : StepInput) (call : ExchangeCall) :
    Option (List RefreshTokenRow × ExchangeCall) :=
  match call.point with
  | .validate =>
      match exchangeSubject call.request input.bearer with
      | .error error => some (tokens, call.refuse error)
      | .ok info =>
          match requestedProjectId call.request with
          | some projectId => some (tokens, { call with point := .context info projectId })
          | none => some (tokens, { call with point := .defaultProject info })
  | .defaultProject info =>
      match input.fault with
      | some _ => some (tokens, call.refuse contextFailed)
      | none =>
          match findDefaultProjectId tenancy info.sub with
          | none => some (tokens, call.refuse notAMember)
          | some projectId => some (tokens, { call with point := .context info projectId })
  | .context info projectId =>
      match input.fault with
      | some _ => some (tokens, call.refuse contextFailed)
      | none =>
          match resolveContext tenancy info.sub projectId with
          | .error _ => some (tokens, call.refuse notAMember)
          | .ok context => some (tokens, { call with point := .modelAccess info context })
  | .modelAccess info context =>
      -- A failed or empty lookup denies every model and refuses nothing.
      let project := match input.fault with
        | some _ => none
        | none => getProjectById tenancy context.projectId
      some (tokens, { call with
        point := .budgetTier info context (project.bind Project.allowedModels)
          ((project.map Project.modelPolicy).getD .denyAll) clock })
  | .budgetTier info context allowedModels modelPolicy now =>
      some (tokens, { call with
        point := .quotaTier info context allowedModels modelPolicy now input.budgetTier })
  | .quotaTier info context allowedModels modelPolicy now budgetTier =>
      match input.fault with
      | some _ =>
          some (tokens, call.refuse (.oauth "server_error" "quota tier resolution failed"))
      | none =>
          let quotaTier := projectMemberQuotaTier tenancy context.projectId info.sub
          some (tokens, mintExchange config call info
            ⟨context, allowedModels, modelPolicy, budgetTier, quotaTier⟩ now input)
  | .store now token response =>
      match storedToken config.time config.hashApiKey token input.rowId clock with
      | none => some (tokens, call.refuse persistenceFailed)
      | some new =>
          match createExchangeRefreshToken tokens new, input.fault with
          | .error _, _ => some (tokens, call.refuse persistenceFailed)
          | .ok _, some ⟨false⟩ => some (tokens, call.refuse persistenceFailed)
          | .ok written, some ⟨true⟩ =>
              some (written,
                { call.refuse persistenceFailed with born := some (now, new.toRow) })
          | .ok written, none =>
              some (written,
                { call with born := some (now, new.toRow), point := .returned (.ok response) })
  | .returned _ => none

/-- The successor of a consumed token: the fields of its chain are copied. -/
def successorToken (config : SessionConfig) (clientId : String) (row : RefreshTokenRow)
    (context : ResolvedContext) (now expiresAt : Int) (input : StepInput) :
    NewRefreshToken where
  id := input.rowId
  subject := row.subject
  accountId := context.accountId
  projectId := context.projectId
  clientId := clientId
  tokenHash := config.hashApiKey input.secret
  scope := row.scope
  email := row.email
  emailVerified := row.emailVerified
  authTime := row.authTime
  chainId := row.chainId
  chainExpiresAt := row.chainExpiresAt
  createdAt := now
  expiresAt := expiresAt

/-- The scope of a stored token names `openid`. -/
def openidGranted (row : RefreshTokenRow) : Bool :=
  (splitWhitespace (row.scope.getD "")).contains openidScope

def refreshResponse (config : SessionConfig) (clientId : String) (row : RefreshTokenRow)
    (mint : MintContext) (now : Int) (input : StepInput) : TokenResponse where
  accessToken := mintAccessToken config ⟨row.subject, row.email, row.emailVerified⟩ clientId
    input.sessionId mint row.scope now
  expiresIn := config.expiresInSecs
  idToken := if openidGranted row then
      some (mintIdToken config ⟨row.subject, row.email, row.emailVerified⟩ clientId row.authTime
        none now)
    else none
  refreshToken := some input.secret
  scope := row.scope
  issuedTokenType := none

/-- The tail of `handle_refresh_token`, once every tier is read: the tokens are
minted and the successor is prepared. -/
def mintRefresh (config : SessionConfig) (call : RefreshCall) (row : RefreshTokenRow)
    (mint : MintContext) (input : StepInput) : RefreshCall :=
  if ¬ input.accessSigned then
    call.refuse (.oauth "server_error" "access token signing failed")
  else if openidGranted row ∧ ¬ input.idSigned then
    call.refuse (.oauth "server_error" "id token signing failed")
  else
    match afterSeconds call.now config.refreshTtlSeconds.toInt with
    | none => call.refuse .panicked
    | some expiresAt =>
        { call with
          point := .insert row
            (successorToken config call.request.client.clientId row mint.context call.now
              expiresAt input)
            (refreshResponse config call.request.client.clientId row mint call.now input) }

/-- What follows a consumed row: the client and the absolute cap are checked
before anything is read. -/
def afterConsume (call : RefreshCall) (row : RefreshTokenRow) : RefreshCall :=
  if row.clientId ≠ call.request.client.clientId then
    { call.refuse invalidGrant with consumed := some row }
  else if row.chainExpiresAt ≤ call.now then
    { call.refuse invalidGrant with consumed := some row }
  else { call with consumed := some row, point := .context row }

def refreshMove (config : SessionConfig) (tenancy : TenancyDb) (tokens : List RefreshTokenRow)
    (input : StepInput) (call : RefreshCall) : Option (List RefreshTokenRow × RefreshCall) :=
  match call.point with
  | .consume =>
      let outcome :=
        consumeExchangeRefreshToken tokens (config.hashApiKey call.presented) call.now
      match input.fault with
      | some ⟨false⟩ =>
          some (tokens, call.refuse (.oauth "server_error" "refresh token rotation failed"))
      | some ⟨true⟩ =>
          some (outcome.1,
            { call.refuse (.oauth "server_error" "refresh token rotation failed") with
              consumed := outcome.2 })
      | none =>
          match outcome.2 with
          | some row => some (outcome.1, afterConsume call row)
          | none => some (outcome.1, { call with point := .detectReuse })
  | .detectReuse =>
      match input.fault,
          findExchangeRefreshTokenByHash tokens (config.hashApiKey call.presented) with
      | none, some row =>
          if row.status = .rotated then
            some (tokens, { call with point := .cascade row.chainId })
          else some (tokens, call.refuse invalidGrant)
      | _, _ => some (tokens, call.refuse invalidGrant)
  | .cascade chainId =>
      -- A failure is only logged.
      match input.fault with
      | some ⟨false⟩ => some (tokens, call.refuse invalidGrant)
      | _ => some (revokeExchangeRefreshTokenChain tokens chainId, call.refuse invalidGrant)
  | .context row =>
      match input.fault with
      | some _ => some (tokens, call.refuse contextFailed)
      | none =>
          match resolveContext tenancy row.subject row.projectId with
          | .error _ => some (tokens, call.refuse invalidGrant)
          | .ok context => some (tokens, { call with point := .project row context })
  | .project row context =>
      match input.fault with
      | some _ => some (tokens, call.refuse contextFailed)
      | none =>
          match (getProjectById tenancy context.projectId).filter
              fun project => project.status == .active with
          | none => some (tokens, call.refuse invalidGrant)
          | some project => some (tokens, { call with point := .account row context project })
  | .account row context project =>
      match input.fault with
      | some _ => some (tokens, call.refuse contextFailed)
      | none =>
          match (getAccountById tenancy context.accountId).filter
              fun account => account.status == .active with
          | none => some (tokens, call.refuse invalidGrant)
          | some _ => some (tokens, { call with point := .budgetTier row context project })
  | .budgetTier row context project =>
      some (tokens, { call with point := .quotaTier row context project input.budgetTier })
  | .quotaTier row context project budgetTier =>
      match input.fault with
      | some _ =>
          some (tokens, call.refuse (.oauth "server_error" "quota tier resolution failed"))
      | none =>
          let quotaTier := projectMemberQuotaTier tenancy context.projectId row.subject
          some (tokens, mintRefresh config call row
            ⟨context, project.allowedModels, project.modelPolicy, budgetTier, quotaTier⟩ input)
  | .insert _ successor response =>
      match createExchangeRefreshToken tokens successor, input.fault with
      | .error _, _ => some (tokens, call.refuse persistenceFailed)
      | .ok _, some ⟨false⟩ => some (tokens, call.refuse persistenceFailed)
      | .ok written, some ⟨true⟩ =>
          some (written, { call.refuse persistenceFailed with stored := true })
      | .ok written, none =>
          some (written, { call with stored := true, point := .returned (.ok response) })
  | .returned _ => none

/-- A call to `handle_token_exchange` on arrival. -/
def arriveExchange (config : SessionConfig) (request : ExchangeRequest) : ExchangeCall where
  request := request
  born := none
  point := match exchangeRefusal config request with
    | some error => .returned (.error error)
    | none => .validate

/-- A call to `handle_refresh_token` on arrival: it has read the clock. -/
def arriveRefresh (request : RefreshRequest) (now : Int) : RefreshCall where
  request := request
  now := now
  consumed := none
  stored := false
  point := match refreshRefusal request with
    | some error => .returned (.error error)
    | none => .consume

def sessionStep (config : SessionConfig) (world : SessionWorld) :
    SessionEvent → Option SessionWorld
  | .tick elapsed => some { world with clock := world.clock + elapsed }
  | .changeTenancy tenancy => some { world with tenancy := tenancy }
  | .exchange request =>
      some { world with calls := world.calls ++ [.exchange (arriveExchange config request)] }
  | .refresh request =>
      some { world with calls := world.calls ++ [.refresh (arriveRefresh request world.clock)] }
  | .advance caller input =>
      match world.calls[caller]? with
      | some (.exchange call) =>
          (exchangeMove config world.tenancy world.tokens world.clock input call).map fun moved =>
            { world with
              tokens := moved.1
              calls := world.calls.set caller (.exchange moved.2) }
      | some (.refresh call) =>
          (refreshMove config world.tenancy world.tokens input call).map fun moved =>
            { world with
              tokens := moved.1
              calls := world.calls.set caller (.refresh moved.2) }
      | none => none
  | .revokeToken token clientId =>
      some { world with
        tokens := revokeExchangeRefreshTokenForClient world.tokens (config.hashApiKey token)
          clientId }
  | .revokeSessions subject =>
      some { world with
        tokens := (revokeActiveExchangeRefreshTokensForSubject world.tokens subject).1 }

end LightbridgeAuthz.Sessions.SessionCalls
