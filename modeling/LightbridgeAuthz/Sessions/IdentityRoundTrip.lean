import LightbridgeAuthz.ApiKeys.SigningKeys
import LightbridgeAuthz.Sessions.RefreshTokens

/-!
# The identity of a refresh token

The typed values of a session reach the table as the attributes of an identity, in
three encodings of text, and come back as attributes. Instants are in nanoseconds
here: the columns keep whole microseconds.
-/

namespace LightbridgeAuthz.Sessions.IdentityRoundTrip

open Library.KeyedRows
open ApiKeys.SigningKeys (postgresEpoch storedInstant)
open RefreshTokens

set_option autoImplicit false

inductive OpError where
  | storage
  deriving DecidableEq, Repr

/-- `row_to_refresh_token`. The secret was never stored: its hash stands in for it. -/
def rowToRefreshToken (time : Rfc3339) (row : RefreshTokenRow) : RefreshToken where
  token := row.tokenHash
  clientId := row.clientId
  identity :=
    { providerId := "keycloak"
      externalId := row.subject
      email := row.email
      username := none
      attributes :=
        [("account_id", row.accountId), ("project_id", row.projectId)] ++
          (row.emailVerified.map fun verified => ("email_verified", toString verified)).toList ++
          (row.authTime.map fun seconds => ("auth_time", toString seconds.toInt)).toList ++
          [("chain_id", row.chainId), ("chain_expires_at", time.format row.chainExpiresAt)] }
  scope := row.scope.getD ""
  expiresAt := row.expiresAt

/-- The input as a `timestamptz` keeps its instants. -/
def columns (input : NewRefreshToken) : NewRefreshToken :=
  { input with
    chainExpiresAt := storedInstant input.chainExpiresAt
    createdAt := storedInstant input.createdAt
    expiresAt := storedInstant input.expiresAt }

def texts (input : NewRefreshToken) : List String :=
  [input.id, input.subject, input.accountId, input.projectId, input.clientId, input.tokenHash,
    input.chainId] ++ input.scope.toList ++ input.email.toList

/-- The first instant of a `timestamptz`, in 4714 BC. -/
def firstInstant : Int := -210866803200000000000

/-- Postgres takes no text with a NUL, and no instant before its first. -/
def isStorable (input : NewRefreshToken) : Bool :=
  ((texts input).all fun text => text.toList.all fun char => char.toNat ≠ 0) &&
    [input.chainExpiresAt, input.createdAt, input.expiresAt].all fun instant =>
      firstInstant ≤ instant

/-- The `INSERT`, and how `store_token` answers its failure. -/
def insertToken (tokens : List RefreshTokenRow) (input : NewRefreshToken) :
    Except OpError (List RefreshTokenRow) :=
  if isStorable (columns input) then
    match createExchangeRefreshToken tokens (columns input) with
    | .ok written => .ok written
    | .error _ => .error .storage
  else .error .storage

def storeToken (time : Rfc3339) (hashApiKey : String → String) (tokens : List RefreshTokenRow)
    (token : RefreshToken) (id : String) (createdAt : Int) :
    Except OpError (List RefreshTokenRow) :=
  match storedToken time hashApiKey token id createdAt with
  | none => .error .storage
  | some input => insertToken tokens input

/-- From the start of the year 0 to the end of the year 9999. -/
def InFourDigits (instant : Int) : Prop :=
  -62167219200000000000 ≤ instant ∧ instant < 253402300800000000000

/-- An instant whose year has four digits is read as it was printed. -/
def ReadsBack (time : Rfc3339) : Prop :=
  ∀ instant, InFourDigits instant → time.parse (time.format instant) = some instant

structure Session where
  owner : KeyOwner
  accountId : String
  projectId : String
  authTime : Option Int64
  chainId : String
  chainExpiresAt : Int
  clientId : String
  scope : String
  expiresAt : Int
  deriving DecidableEq

/-- The token built from `refresh_identity`. -/
def Session.token (session : Session) (time : Rfc3339) (secret : String) : RefreshToken where
  token := secret
  clientId := session.clientId
  identity :=
    refreshIdentity time session.owner session.accountId session.projectId session.authTime
      session.chainId session.chainExpiresAt
  scope := session.scope
  expiresAt := session.expiresAt

def Session.typed (session : Session) (hash id : String) (createdAt : Int) : NewRefreshToken where
  id := id
  subject := session.owner.subject
  accountId := session.accountId
  projectId := session.projectId
  clientId := session.clientId
  tokenHash := hash
  scope := if session.scope = "" then none else some session.scope
  email := session.owner.email
  emailVerified := session.owner.emailVerified
  authTime := session.authTime
  chainId := session.chainId
  chainExpiresAt := session.chainExpiresAt
  createdAt := createdAt
  expiresAt := session.expiresAt

def Session.kept (session : Session) : Session :=
  { session with
    chainExpiresAt := storedInstant session.chainExpiresAt
    expiresAt := storedInstant session.expiresAt }

theorem parse_digits_text (value : Nat) : parseDigits (Nat.toDigits 10 value) = some value := by
  have digits : ∀ char ∈ Nat.toDigits 10 value, char.isDigit = true :=
    fun char member => Nat.isDigit_of_mem_toDigits (by decide) (by decide) member
  rw [parseDigits, if_pos ⟨Nat.toDigits_ne_nil, List.all_eq_true.mpr digits⟩]
  exact congrArg some Nat.ofDigitChars_ten_toDigits

/-- The integer that `parse_i64` reads before it is put in range. -/
def readInteger (text : String) : Option Int :=
  match text.toList with
  | '-' :: digits => (parseDigits digits).map fun magnitude => -(magnitude : Int)
  | '+' :: digits => (parseDigits digits).map fun magnitude => (magnitude : Int)
  | digits => (parseDigits digits).map fun magnitude => (magnitude : Int)

theorem read_integer_text (value : Int) : readInteger (toString value) = some value := by
  cases value with
  | ofNat magnitude =>
      have chars : (toString (Int.ofNat magnitude)).toList = Nat.toDigits 10 magnitude :=
        Nat.toList_repr
      have digits : ∀ char ∈ Nat.toDigits 10 magnitude, char.isDigit = true :=
        fun char member => Nat.isDigit_of_mem_toDigits (by decide) (by decide) member
      rw [readInteger, chars]
      split
      · rename_i rest signed
        rw [signed] at digits
        exact absurd (digits '-' List.mem_cons_self) (by decide)
      · rename_i rest signed
        rw [signed] at digits
        exact absurd (digits '+' List.mem_cons_self) (by decide)
      · rw [parse_digits_text]
        rfl
  | negSucc magnitude =>
      have chars : (toString (Int.negSucc magnitude)).toList =
          '-' :: Nat.toDigits 10 (magnitude + 1) := by
        change ("-" ++ Nat.repr (magnitude + 1)).toList = _
        rw [String.toList_append, Nat.toList_repr]
        rfl
      rw [readInteger, chars]
      simp only [parse_digits_text]
      rfl

theorem parse_i64_eq (text : String) :
    parseI64 text = (readInteger text).bind fun value =>
      if -2 ^ 63 ≤ value ∧ value < 2 ^ 63 then some (Int64.ofInt value) else none := rfl

theorem parse_i64_text (value : Int64) : parseI64 (toString value.toInt) = some value := by
  rw [parse_i64_eq, read_integer_text, Option.bind_some]
  have low := value.le_toInt
  have high := value.toInt_lt
  rw [if_pos ⟨low, high⟩, Int64.ofInt_toInt]

theorem parse_bool_text (value : Bool) : parseBool (toString value) = some value := by
  cases value <;> rfl

/-- The attributes of an identity, as a session puts them. -/
structure Carries (time : Rfc3339) (session : Session) (identity : Identity) : Prop where
  accountId : identity.get "account_id" = some session.accountId
  projectId : identity.get "project_id" = some session.projectId
  emailVerified : identity.get "email_verified" = session.owner.emailVerified.map toString
  authTime : identity.get "auth_time" = session.authTime.map fun seconds => toString seconds.toInt
  chainId : identity.get "chain_id" = some session.chainId
  chainExpiresAt : identity.get "chain_expires_at" = some (time.format session.chainExpiresAt)

theorem token_carries (time : Rfc3339) (session : Session) (secret : String) :
    Carries time session (session.token time secret).identity := by
  constructor <;>
    cases verified : session.owner.emailVerified <;> cases seconds : session.authTime <;>
      simp [Session.token, refreshIdentity, Identity.get, List.lookup_cons, verified, seconds]

section Store

variable {time : Rfc3339} (hashApiKey : String → String) {tokens written : List RefreshTokenRow}
  {session : Session} (secret id : String) (createdAt : Int)

theorem stored_token_typed (readsBack : ReadsBack time)
    (inFourDigits : InFourDigits session.chainExpiresAt) :
    storedToken time hashApiKey (session.token time secret) id createdAt =
      some (session.typed (hashApiKey secret) id createdAt) := by
  have carries := token_carries time session secret
  have deadline : ((session.token time secret).identity.get "chain_expires_at").bind time.parse =
      some session.chainExpiresAt := by
    rw [carries.chainExpiresAt, Option.bind_some, readsBack _ inFourDigits]
  have verified : ((session.token time secret).identity.get "email_verified").bind parseBool =
      session.owner.emailVerified := by
    rw [carries.emailVerified]
    cases session.owner.emailVerified with
    | none => rfl
    | some value => exact parse_bool_text value
  have seconds : ((session.token time secret).identity.get "auth_time").bind parseI64 =
      session.authTime := by
    rw [carries.authTime]
    cases session.authTime with
    | none => rfl
    | some value => exact parse_i64_text value
  rw [storedToken, carries.chainId, deadline]
  simp only [carries.accountId, carries.projectId, verified, seconds, Option.getD_some]
  rfl

/-- Where Postgres takes a row: what it can keep, and a new id and hash. -/
structure Takes (tokens : List RefreshTokenRow) (input : NewRefreshToken) : Prop where
  storable : isStorable (columns input) = true
  newId : ∀ row ∈ tokens, row.id ≠ input.id
  newHash : ∀ row ∈ tokens, row.tokenHash ≠ input.tokenHash

theorem insert_token_ok_iff (input : NewRefreshToken) :
    insertToken tokens input = .ok written ↔
      Takes tokens input ∧ written = tokens ++ [(columns input).toRow] := by
  have clearId : conflicts tokenId tokens (some input.id) = false ↔
      ∀ row ∈ tokens, row.id ≠ input.id := by
    rw [conflicts_false_iff]
    simp only [tokenId, ne_eq, Option.some.injEq]
  have clearHash : conflicts tokenHash tokens (some input.tokenHash) = false ↔
      ∀ row ∈ tokens, row.tokenHash ≠ input.tokenHash := by
    rw [conflicts_false_iff]
    simp only [tokenHash, ne_eq, Option.some.injEq]
  have inserted : createExchangeRefreshToken tokens (columns input) =
      if conflicts tokenId tokens (some input.id) then
        .error (.uniqueViolation "exchange_refresh_tokens_pkey")
      else if conflicts tokenHash tokens (some input.tokenHash) then
        .error (.uniqueViolation "exchange_refresh_tokens_token_hash_key")
      else .ok (tokens ++ [(columns input).toRow]) := rfl
  rw [insertToken, inserted]
  constructor
  · intro created
    by_cases storable : isStorable (columns input) = true
    · rw [if_pos storable] at created
      by_cases sameId : conflicts tokenId tokens (some input.id) = true
      · rw [if_pos sameId] at created
        cases created
      · rw [if_neg sameId] at created
        by_cases sameHash : conflicts tokenHash tokens (some input.tokenHash) = true
        · rw [if_pos sameHash] at created
          cases created
        · rw [if_neg sameHash] at created
          exact ⟨⟨storable, clearId.mp (Bool.eq_false_iff.mpr sameId),
            clearHash.mp (Bool.eq_false_iff.mpr sameHash)⟩, (Except.ok.inj created).symm⟩
    · rw [if_neg storable] at created
      cases created
  · rintro ⟨takes, rfl⟩
    have newId := Bool.eq_false_iff.mp (clearId.mpr takes.newId)
    have newHash := Bool.eq_false_iff.mp (clearHash.mpr takes.newHash)
    rw [if_pos takes.storable, if_neg newId, if_neg newHash]

end Store

theorem row_reads_back (time : Rfc3339) (session : Session) (hash id : String)
    (createdAt : Int) :
    rowToRefreshToken time (columns (session.typed hash id createdAt)).toRow =
      session.kept.token time hash := by
  have scope : (if session.scope = "" then none else some session.scope).getD "" =
      session.scope := by
    by_cases blank : session.scope = ""
    · rw [if_pos blank, blank]
      rfl
    · rw [if_neg blank, Option.getD_some]
  simp only [rowToRefreshToken, columns, Session.typed, NewRefreshToken.toRow, scope]
  rfl

theorem stored_instant_whole {instant : Int} (whole : 1000 ∣ instant) :
    storedInstant instant = instant := by
  have apart : 1000 ∣ instant - postgresEpoch := Int.dvd_sub whole (by decide)
  rw [storedInstant, Int.tdiv_mul_cancel apart]
  omega

structure RoundTrip (time : Rfc3339) (hashApiKey : String → String)
    (tokens : List RefreshTokenRow) (session : Session) (secret id : String) (createdAt : Int) :
    Prop where
  stored : ∀ written,
    storeToken time hashApiKey tokens (session.token time secret) id createdAt = .ok written ↔
      Takes tokens (session.typed (hashApiKey secret) id createdAt) ∧
        written =
          tokens ++ [(session.kept.typed (hashApiKey secret) id (storedInstant createdAt)).toRow]
  readBack :
    rowToRefreshToken time
        (session.kept.typed (hashApiKey secret) id (storedInstant createdAt)).toRow =
      session.kept.token time (hashApiKey secret)
  exact : 1000 ∣ session.chainExpiresAt → 1000 ∣ session.expiresAt → session.kept = session

/-- The identity lacks a chain, or its deadline cannot be read. -/
def Chainless (time : Rfc3339) (token : RefreshToken) : Prop :=
  token.identity.get "chain_id" = none ∨
    (token.identity.get "chain_expires_at").bind time.parse = none

theorem chainless_refused {time : Rfc3339} {token : RefreshToken}
    (chainless : Chainless time token) (hashApiKey : String → String)
    (tokens : List RefreshTokenRow) (id : String) (createdAt : Int) :
    storeToken time hashApiKey tokens token id createdAt = .error .storage := by
  have refused : storedToken time hashApiKey token id createdAt = none := by
    obtain noChain | noDeadline := chainless
    · rw [storedToken, noChain]
    · rw [storedToken, noDeadline]
      cases token.identity.get "chain_id" <;> rfl
  rw [storeToken, refused]

/-- Every session comes back as it was stored, to the microsecond; an identity without a
chain is never stored. -/
theorem refresh_identity_round_trips {time : Rfc3339} (readsBack : ReadsBack time)
    (hashApiKey : String → String) :
    (∀ session secret tokens id createdAt, InFourDigits session.chainExpiresAt →
        RoundTrip time hashApiKey tokens session secret id createdAt) ∧
      ∀ token tokens id createdAt, Chainless time token →
        storeToken time hashApiKey tokens token id createdAt = .error .storage := by
  refine ⟨fun session secret tokens id createdAt inFourDigits => ?_,
    fun token tokens id createdAt chainless =>
      chainless_refused chainless hashApiKey tokens id createdAt⟩
  refine ⟨fun written => ?_, row_reads_back time session (hashApiKey secret) id createdAt, ?_⟩
  · rw [storeToken, stored_token_typed hashApiKey secret id createdAt readsBack inFourDigits]
    exact insert_token_ok_iff _
  · intro wholeDeadline wholeExpiry
    rw [Session.kept, stored_instant_whole wholeDeadline, stored_instant_whole wholeExpiry]

/-- Two instants of August 2026 as they are printed; the others are printed as numbers. -/
def august : Rfc3339 where
  format instant :=
    if instant = 1785542400000000000 then "2026-08-01T00:00:00+00:00"
    else if instant = 1785542400000000500 then "2026-08-01T00:00:00.000000500+00:00"
    else toString instant
  parse text :=
    if text = "2026-08-01T00:00:00+00:00" then some 1785542400000000000
    else if text = "2026-08-01T00:00:00.000000500+00:00" then some 1785542400000000500
    else readInteger text

theorem august_reads_back : ReadsBack august := by
  intro instant _
  by_cases whole : instant = 1785542400000000000
  · simp only [august, whole, if_true]
  by_cases half : instant = 1785542400000000500
  · subst half
    rfl
  have noDate : ∀ text, readInteger text = none → toString instant ≠ text := by
    rintro text unread rfl
    rw [read_integer_text] at unread
    cases unread
  simp only [august, if_neg whole, if_neg half]
  rw [if_neg (noDate _ (by decide +kernel)), if_neg (noDate _ (by decide +kernel)),
    read_integer_text]

def laptopSession : Session where
  owner := ⟨"alice", some "alice@home", some true⟩
  accountId := "a1"
  projectId := "p1"
  authTime := some (-7)
  chainId := "c1"
  chainExpiresAt := 1785542400000000000
  clientId := "cli"
  scope := ""
  expiresAt := 1785542400000000000

theorem laptop_session_round_trips :
    ∃ row,
      storeToken august (fun secret => "hash of " ++ secret) [] (laptopSession.token august "s")
          "r1" 0 = .ok [row] ∧
        row.authTime = some (-7) ∧ row.emailVerified = some true ∧ row.scope = none ∧
        rowToRefreshToken august row = laptopSession.token august "hash of s" := by
  have inFourDigits : InFourDigits laptopSession.chainExpiresAt := ⟨by decide, by decide⟩
  have round : RoundTrip august (fun secret => "hash of " ++ secret) [] laptopSession "s" "r1" 0 :=
    (refresh_identity_round_trips august_reads_back _).1 laptopSession "s" [] "r1" 0 inFourDigits
  have takes : Takes [] (laptopSession.typed "hash of s" "r1" 0) :=
    ⟨by decide +kernel, fun row member => absurd member List.not_mem_nil,
      fun row member => absurd member List.not_mem_nil⟩
  have isKept : laptopSession.kept = laptopSession := round.exact (by decide) (by decide)
  exact ⟨_, (round.stored _).mpr ⟨takes, rfl⟩, rfl, rfl, rfl, isKept ▸ round.readBack⟩

def laterSession : Session := { laptopSession with chainExpiresAt := 1785542400000000500 }

/-- What is below a microsecond is lost in the column, and so in the attribute. -/
theorem deadline_loses_nanoseconds :
    ∃ row,
      storeToken august (fun secret => "hash of " ++ secret) [] (laterSession.token august "s")
          "r1" 0 = .ok [row] ∧
        row.chainExpiresAt = 1785542400000000000 ∧
        (rowToRefreshToken august row).identity ≠ (laterSession.token august "s").identity := by
  have stored : storedToken august (fun secret => "hash of " ++ secret)
      (laterSession.token august "s") "r1" 0 = some (laterSession.typed "hash of s" "r1" 0) :=
    stored_token_typed _ "s" "r1" 0 august_reads_back ⟨by decide, by decide⟩
  have takes : Takes [] (laterSession.typed "hash of s" "r1" 0) :=
    ⟨by decide +kernel, fun row member => absurd member List.not_mem_nil,
      fun row member => absurd member List.not_mem_nil⟩
  refine ⟨(columns (laterSession.typed "hash of s" "r1" 0)).toRow, ?_, rfl, ?_⟩
  · rw [storeToken, stored]
    exact (insert_token_ok_iff _).mpr ⟨takes, rfl⟩
  · intro same
    have read : (rowToRefreshToken august
        (columns (laterSession.typed "hash of s" "r1" 0)).toRow).identity.get "chain_expires_at" =
          some "2026-08-01T00:00:00+00:00" := by decide +kernel
    have put : (laterSession.token august "s").identity.get "chain_expires_at" =
        some "2026-08-01T00:00:00.000000500+00:00" := by decide +kernel
    rw [same, put] at read
    exact absurd read (by decide)

end LightbridgeAuthz.Sessions.IdentityRoundTrip
