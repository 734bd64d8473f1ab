import LightbridgeAuthz.Access.Tenancy
import LightbridgeAuthz.Budget.Domain
import LightbridgeAuthz.Library.ChronoTime
import Mathlib.Algebra.Ring.Int.Defs

/-!
# The rows of `exchange_refresh_tokens`

A refresh token is stored under the hash of its secret. Rotation consumes it by
one conditional `UPDATE` and inserts its successor by a later `INSERT`; all
tokens of one rotation family share a `chain_id` and the deadline
`chain_expires_at`. The first token of a chain reaches the table through the
attributes of an identity, as text.
-/

namespace LightbridgeAuthz.Sessions.RefreshTokens

open Library.KeyedRows
open Access.Tenancy

set_option autoImplicit false

inductive TokenStatus where
  | active
  | rotated
  | revoked
  deriving DecidableEq, Repr

structure RefreshTokenRow where
  id : String
  subject : String
  accountId : String
  projectId : String
  clientId : String
  tokenHash : String
  scope : Option String
  status : TokenStatus
  email : Option String
  emailVerified : Option Bool
  authTime : Option Int64
  chainId : String
  chainExpiresAt : Int
  createdAt : Int
  expiresAt : Int
  lastUsedAt : Option Int
  deriving DecidableEq

structure NewRefreshToken where
  id : String
  subject : String
  accountId : String
  projectId : String
  clientId : String
  tokenHash : String
  scope : Option String
  email : Option String
  emailVerified : Option Bool
  authTime : Option Int64
  chainId : String
  chainExpiresAt : Int
  createdAt : Int
  expiresAt : Int
  deriving DecidableEq

def NewRefreshToken.toRow (input : NewRefreshToken) : RefreshTokenRow where
  id := input.id
  subject := input.subject
  accountId := input.accountId
  projectId := input.projectId
  clientId := input.clientId
  tokenHash := input.tokenHash
  scope := input.scope
  status := .active
  email := input.email
  emailVerified := input.emailVerified
  authTime := input.authTime
  chainId := input.chainId
  chainExpiresAt := input.chainExpiresAt
  createdAt := input.createdAt
  expiresAt := input.expiresAt
  lastUsedAt := none

def tokenId (row : RefreshTokenRow) : Option String := some row.id

def tokenHash (row : RefreshTokenRow) : Option String := some row.tokenHash

def createExchangeRefreshToken (tokens : List RefreshTokenRow) (input : NewRefreshToken) :
    Except SqlError (List RefreshTokenRow) :=
  if conflicts tokenId tokens (some input.id) then
    .error (.uniqueViolation "exchange_refresh_tokens_pkey")
  else if conflicts tokenHash tokens (some input.tokenHash) then
    .error (.uniqueViolation "exchange_refresh_tokens_token_hash_key")
  else .ok (tokens ++ [input.toRow])

def findExchangeRefreshTokenByHash (tokens : List RefreshTokenRow) (hash : String) :
    Option RefreshTokenRow :=
  findKey tokenHash tokens hash

/-- `SET status = 'rotated', last_used_at = $2`. -/
def rotated (now : Int) (row : RefreshTokenRow) : RefreshTokenRow :=
  { row with status := .rotated, lastUsedAt := some now }

/-- The single-use check: one `UPDATE … WHERE status = 'active' AND expires_at >
now RETURNING`. -/
def consumeExchangeRefreshToken (tokens : List RefreshTokenRow) (presentedHash : String)
    (now : Int) : List RefreshTokenRow × Option RefreshTokenRow :=
  match findKey tokenHash tokens presentedHash with
  | none => (tokens, none)
  | some row =>
      if row.status = .active ∧ now < row.expiresAt then
        (updateKey tokenHash tokens presentedHash (rotated now), some (rotated now row))
      else (tokens, none)

/-- `SET status = 'revoked' WHERE … AND status = 'active'`, for one row. -/
def revokedIf (selects : RefreshTokenRow → Bool) (row : RefreshTokenRow) : RefreshTokenRow :=
  if selects row && row.status == .active then { row with status := .revoked } else row

def revokeExchangeRefreshTokenChain (tokens : List RefreshTokenRow) (chainId : String) :
    List RefreshTokenRow :=
  tokens.map (revokedIf fun row => row.chainId == chainId)

def revokeExchangeRefreshTokenForClient (tokens : List RefreshTokenRow)
    (hash clientId : String) : List RefreshTokenRow :=
  tokens.map (revokedIf fun row => row.tokenHash == hash && row.clientId == clientId)

def revokeActiveExchangeRefreshTokensForSubject (tokens : List RefreshTokenRow)
    (subject : String) : List RefreshTokenRow × Nat :=
  (tokens.map (revokedIf fun row => row.subject == subject),
    tokens.countP fun row => row.subject == subject && row.status == .active)

/-- `DateTime::to_rfc3339` and `DateTime::parse_from_rfc3339`. -/
structure Rfc3339 where
  format : Int → String
  parse : String → Option Int

/-- Reading a printed instant gives it back, or fails. -/
def Rfc3339.Faithful (time : Rfc3339) : Prop :=
  ∀ instant read, time.parse (time.format instant) = some read → read = instant

structure KeyOwner where
  subject : String
  email : Option String
  emailVerified : Option Bool
  deriving DecidableEq, Repr

/-- `authkestra`'s identity. The attributes are a map of strings. -/
structure Identity where
  providerId : String
  externalId : String
  email : Option String
  username : Option String
  attributes : List (String × String)
  deriving DecidableEq, Repr

/-- `identity.attributes.get`. -/
def Identity.get (identity : Identity) (name : String) : Option String :=
  identity.attributes.lookup name

structure RefreshToken where
  token : String
  clientId : String
  identity : Identity
  scope : String
  expiresAt : Int
  deriving DecidableEq, Repr

def refreshIdentity (time : Rfc3339) (owner : KeyOwner) (accountId projectId : String)
    (authTime : Option Int64) (chainId : String) (chainExpiresAt : Int) : Identity where
  providerId := "keycloak"
  externalId := owner.subject
  email := owner.email
  username := none
  attributes :=
    [("account_id", accountId), ("project_id", projectId)] ++
      (owner.emailVerified.map fun verified => ("email_verified", toString verified)).toList ++
      (authTime.map fun seconds => ("auth_time", toString seconds.toInt)).toList ++
      [("chain_id", chainId), ("chain_expires_at", time.format chainExpiresAt)]

/-- `str::parse::<bool>`. -/
def parseBool (text : String) : Option Bool :=
  if text = "true" then some true else if text = "false" then some false else none

def parseDigits (digits : List Char) : Option Nat :=
  if digits ≠ [] ∧ digits.all Char.isDigit then
    some (digits.foldl (fun value digit => 10 * value + (digit.toNat - '0'.toNat)) 0)
  else none

/-- `str::parse::<i64>`: an optional sign, decimal digits, in range. -/
def parseI64 (text : String) : Option Int64 :=
  let value : Option Int :=
    match text.toList with
    | '-' :: digits => (parseDigits digits).map fun magnitude => -(magnitude : Int)
    | '+' :: digits => (parseDigits digits).map fun magnitude => (magnitude : Int)
    | digits => (parseDigits digits).map fun magnitude => (magnitude : Int)
  value.bind fun value =>
    if -2 ^ 63 ≤ value ∧ value < 2 ^ 63 then some (Int64.ofInt value) else none

/-- What `DbRefreshTokenStore::store_token` inserts. A chain without an id or a
readable deadline is refused. -/
def storedToken (time : Rfc3339) (hashApiKey : String → String) (token : RefreshToken)
    (id : String) (createdAt : Int) : Option NewRefreshToken :=
  match token.identity.get "chain_id",
      (token.identity.get "chain_expires_at").bind time.parse with
  | some chainId, some chainExpiresAt =>
      some
        { id := id
          subject := token.identity.externalId
          accountId := (token.identity.get "account_id").getD ""
          projectId := (token.identity.get "project_id").getD ""
          clientId := token.clientId
          tokenHash := hashApiKey token.token
          scope := if token.scope = "" then none else some token.scope
          email := token.identity.email
          emailVerified := (token.identity.get "email_verified").bind parseBool
          authTime := (token.identity.get "auth_time").bind parseI64
          chainId := chainId
          chainExpiresAt := chainExpiresAt
          createdAt := createdAt
          expiresAt := token.expiresAt }
  | _, _ => none

end LightbridgeAuthz.Sessions.RefreshTokens
