import LightbridgeAuthz.ApiKeys.KeyIntrospection
import LightbridgeAuthz.ApiKeys.RosterCalls
import LightbridgeAuthz.Sessions.RefreshTokens

/-!
# API-key JWTs

`issue_api_key_secret` signs a JWT where a signer is configured, and otherwise
takes the answer of another issuer. The signer reads the clock after the handler
has, and the library that stamps `exp` reads it once more; only the length of the
lifetime crosses from one to the other. The world keeps a log of what has been
signed, which no statement reads.
-/

namespace LightbridgeAuthz.ApiKeys.KeySigning

open Library.EventRun Library.KeyedRows Library.ChronoTime
open Access.Tenancy Access.TenancyOps
open Sessions.RefreshTokens (KeyOwner)
open KeyTable KeyCalls KeyIntrospection RosterCalls

set_option autoImplicit false

/-- The claims of `access_token_extra` and the registered ones, without those that
are the same in every token. `exp` is in seconds. -/
structure ApiKeyToken where
  jti : String
  sid : String
  iss : String
  aud : Option String
  azp : Option String
  owner : KeyOwner
  apiKeyId : String
  projectId : String
  accountId : String
  allowedModels : Option (List String)
  exp : Int
  deriving DecidableEq, Repr

/-- What is used of `TokenManager`: it stamps `exp` so many seconds after it has read the
clock. -/
structure TokenManager where
  stampExp : Int → Int → Int
  stampsAfter : ∀ managerAt expiresIn,
    stampExp managerAt expiresIn = timestamp managerAt + expiresIn

def TokenManager.plain : TokenManager where
  stampExp managerAt expiresIn := timestamp managerAt + expiresIn
  stampsAfter _ _ := rfl

/-- `ApiKeyJwtSigner`: `from_config` refuses a lifetime that is not positive. -/
structure ApiKeyJwtSigner where
  issuer : String
  audience : Option String
  ttlSeconds : Int64
  positive : 0 < ttlSeconds.toInt
  tokenManager : TokenManager
  encode : ApiKeyToken → String

/-- A signed token, with the clock readings of the handler, of the signer and of
`TokenManager`. -/
structure SignedKey where
  token : ApiKeyToken
  handlerAt : Int
  signerAt : Int
  managerAt : Int
  deriving DecidableEq, Repr

/-- What the issue of a secret reads from outside: generated ids, the profile in
the caller's bearer token, how much later the clock is read again, a failure of
the signer and the answer of another issuer. -/
structure MintInput where
  newId : String
  jti : String
  sid : String
  email : Option String
  emailVerified : Option Bool
  signerDelay : Nat
  managerDelay : Nat
  failure : Option String
  other : Except AccessError IssuedSecret

/-- `capped_expiry`; `none` is a panic. -/
def cappedExpiry (now ttlSeconds : Int) (requested : Option Int) : Option Int :=
  (afterSeconds now ttlSeconds).map fun cap =>
    match requested with
    | some requested => if now < requested then min requested cap else cap
    | none => cap

/-- `(expires_at - now).num_seconds().max(0)`. -/
def expiresInSecs (expiresAt now : Int) : Int := max ((expiresAt - now).tdiv 1000000) 0

/-- `ApiKeyJwtSigner::sign`: the token and the expiry that the handler is told. -/
def ApiKeyJwtSigner.sign (signer : ApiKeyJwtSigner) (owner : KeyOwner) (project : Project)
    (now managerAt : Int) (requestedExpiresAt : Option Int) (input : MintInput) :
    Except AccessError (ApiKeyToken × Int) :=
  match cappedExpiry now signer.ttlSeconds.toInt requestedExpiresAt with
  | none => .error .panicked
  | some expiresAt =>
      .ok
        ({ jti := "lgbr:" ++ input.jti
           sid := input.sid
           iss := signer.issuer
           aud := signer.audience
           azp := signer.audience
           owner := owner
           apiKeyId := input.newId
           projectId := project.id
           accountId := project.accountId
           allowedModels := project.allowedModels
           exp := signer.tokenManager.stampExp managerAt (expiresInSecs expiresAt now) },
          expiresAt)

/-- `issue_api_key_secret`, asked by a handler that has read the clock at `now`. -/
def issueApiKeySecret (signer : Option ApiKeyJwtSigner) (tenancy : TenancyDb)
    (subject projectId : String) (now : Int) (requestedExpiresAt : Option Int)
    (input : MintInput) : Except AccessError (IssuedSecret × Option SignedKey) :=
  match signer with
  | none => input.other.map fun secret => (secret, none)
  | some signer =>
      match visibleProject tenancy subject projectId with
      | none => .error .notFound
      | some project =>
          match input.failure with
          | some text => .error (.server text)
          | none =>
              let signerAt := now + input.signerDelay
              let managerAt := signerAt + input.managerDelay
              (signer.sign ⟨subject, input.email, input.emailVerified⟩ project signerAt managerAt
                requestedExpiresAt input).map fun signed =>
                  (⟨signer.encode signed.1, some signed.2⟩,
                    some ⟨signed.1, now, signerAt, managerAt⟩)

/-- What the signer has answered: the secret is the token's text, and the log gets
the token. -/
structure SelfSigned (signer : ApiKeyJwtSigner) (now : Int) (requestedExpiresAt : Option Int)
    (input : MintInput) (secret : IssuedSecret) (key : SignedKey) : Prop where
  secretText : secret.secret = signer.encode key.token
  expiry : cappedExpiry (now + input.signerDelay) signer.ttlSeconds.toInt requestedExpiresAt =
    secret.expiresAt
  expires : ∃ expiresAt, secret.expiresAt = some expiresAt ∧
    key.token.exp = timestamp key.managerAt + expiresInSecs expiresAt key.signerAt
  azp : key.token.azp = signer.audience
  handlerAt : key.handlerAt = now
  signerAt : key.signerAt = now + input.signerDelay
  managerAt : key.managerAt = key.signerAt + input.managerDelay

theorem issue_api_key_secret_ok {signer : ApiKeyJwtSigner} {tenancy : TenancyDb}
    {subject projectId : String} {now : Int} {requestedExpiresAt : Option Int}
    {input : MintInput} {secret : IssuedSecret} {logged : Option SignedKey}
    (issued : issueApiKeySecret (some signer) tenancy subject projectId now requestedExpiresAt
      input = .ok (secret, logged)) :
    ∃ key, logged = some key ∧ SelfSigned signer now requestedExpiresAt input secret key := by
  unfold issueApiKeySecret ApiKeyJwtSigner.sign at issued
  dsimp only at issued
  split at issued
  · cases issued
  · split at issued
    · cases issued
    · split at issued
      · cases issued
      · rename_i expiresAt capped
        cases issued
        exact ⟨_, rfl, rfl, capped, ⟨expiresAt, rfl, signer.tokenManager.stampsAfter _ _⟩, rfl,
          rfl, rfl, rfl⟩

theorem issue_api_key_secret_panics {signer : ApiKeyJwtSigner} {tenancy : TenancyDb}
    {subject projectId : String} {now : Int} {requestedExpiresAt : Option Int}
    {input : MintInput}
    (panics : issueApiKeySecret (some signer) tenancy subject projectId now requestedExpiresAt
      input = .error .panicked) :
    afterSeconds (now + input.signerDelay) signer.ttlSeconds.toInt = none := by
  unfold issueApiKeySecret ApiKeyJwtSigner.sign cappedExpiry at panics
  dsimp only at panics
  split at panics
  · cases panics
  · split at panics
    · cases panics
    · split at panics
      · rename_i none
        exact Option.map_eq_none_iff.mp none
      · cases panics

structure SigningWorld where
  roster : RosterWorld
  signed : List SignedKey

inductive SigningEvent where
  | roster (event : RosterEvent)
  | advance (caller : Nat) (input : MintInput)

/-- The answer of the issuer that the call's next statement asks, if it asks. -/
def mintAnswer (signer : Option ApiKeyJwtSigner) (base : KeyWorld) (caller : Nat)
    (input : MintInput) : Except AccessError (IssuedSecret × Option SignedKey) :=
  match base.calls caller with
  | some (.create request .issue) =>
      issueApiKeySecret signer base.tenancy request.subject request.projectId base.clock
        request.input.expiresAt input
  | some (.rotate request (.issue existing)) =>
      issueApiKeySecret signer base.tenancy request.subject existing.projectId base.clock
        (resolveRotatedExpiresAt request.input.expiresAt existing.expiresAt) input
  | _ => .error .notFound

/-- The checks before the issuer is asked have passed. -/
def asksIssuer (config : KeyConfig) (base : KeyWorld) (caller : Nat) (input : MintInput)
    (secret : IssuedSecret) : Bool :=
  match base.calls caller with
  | some (.create request .issue) =>
      (planCreation config request.subject request.projectId request.input base.clock input.newId
        (.ok secret)).isOk
  | some (.rotate request (.issue existing)) =>
      (planRotation config request.subject existing request.input base.clock input.newId
        (.ok secret)).isOk
  | _ => false

def newlySigned (config : KeyConfig) (signer : Option ApiKeyJwtSigner) (base : KeyWorld)
    (caller : Nat) (input : MintInput) : List SignedKey :=
  match mintAnswer signer base caller input with
  | .ok (secret, some key) => if asksIssuer config base caller input secret then [key] else []
  | _ => []

def signingStep (tiers : List String) (config : KeyConfig) (signer : Option ApiKeyJwtSigner)
    (world : SigningWorld) : SigningEvent → Option SigningWorld
  | .roster (.key (.advance _ _)) => none
  | .roster event =>
      (rosterStep tiers config world.roster event).map fun roster =>
        { world with roster := roster }
  | .advance caller input =>
      (rosterStep tiers config world.roster
          (.key (.advance caller
            ⟨input.newId, (mintAnswer signer world.roster.base caller input).map Prod.fst⟩))).map
        fun roster =>
          { roster := roster
            signed := world.signed ++
              newlySigned config signer world.roster.base caller input }

/-- What one event can do to the keys, to the calls and to the log. -/
inductive SigningChange (config : KeyConfig) (signer : Option ApiKeyJwtSigner)
    (world : SigningWorld) : SigningEvent → SigningWorld → Prop where
  | aside {event : SigningEvent} {roster : RosterWorld}
      (keys : roster.base.keys = world.roster.base.keys)
      (clock : roster.base.clock = world.roster.base.clock)
      (calls : roster.base.calls = world.roster.base.calls) :
      SigningChange config signer world event { world with roster := roster }
  | cascaded {event : SigningEvent} (tenancy : TenancyDb) :
      SigningChange config signer world event
        { world with
          roster := { world.roster with
            base := { world.roster.base with
              tenancy := tenancy
              keys := cascadeKeys tenancy world.roster.base.keys } } }
  | keyed {event : KeyEvent} {base : KeyWorld}
      (notIssue : ∀ caller input, event ≠ .advance caller input)
      (stepped : keyStep config world.roster.base event = some base) :
      SigningChange config signer world (.roster (.key event))
        { world with roster := { world.roster with base := base } }
  | advanced {caller : Nat} {input : MintInput} {base : KeyWorld}
      (stepped : keyStep config world.roster.base
        (.advance caller
          ⟨input.newId, (mintAnswer signer world.roster.base caller input).map Prod.fst⟩) =
        some base) :
      SigningChange config signer world (.advance caller input)
        { roster := { world.roster with base := base }
          signed := world.signed ++ newlySigned config signer world.roster.base caller input }

section Steps

variable {tiers : List String} {config : KeyConfig} {signer : Option ApiKeyJwtSigner}
  {world next : SigningWorld}

theorem signing_change_of_roster {event : RosterEvent} {roster : RosterWorld}
    (notIssue : ∀ caller input, event ≠ .key (.advance caller input))
    (stepped : rosterStep tiers config world.roster event = some roster) :
    SigningChange config signer world (.roster event) { world with roster := roster } := by
  have change := roster_change stepped
  cases change with
  | refused event => exact .aside rfl rfl rfl
  | keyed moved sameTenancy =>
      apply SigningChange.keyed _ moved
      intro caller input isAdvance
      exact notIssue caller input (by rw [isAdvance])
  | operated notRoster done => exact .cascaded _
  | arrived checked => exact .aside rfl rfl rfl
  | moved running reads => exact .aside rfl rfl rfl
  | wrote running stands written => exact .aside rfl rfl rfl

theorem signing_change {event : SigningEvent}
    (stepped : signingStep tiers config signer world event = some next) :
    SigningChange config signer world event next := by
  cases event with
  | roster event =>
      have notIssue : ∀ caller input, event ≠ .key (.advance caller input) := by
        intro caller input isAdvance
        rw [isAdvance] at stepped
        cases stepped
      have mapped : (rosterStep tiers config world.roster event).map
          (fun roster => { world with roster := roster }) = some next := by
        unfold signingStep at stepped
        split at stepped
        · cases stepped
        · rename_i isEvent
          cases isEvent
          exact stepped
        · rename_i isEvent
          cases isEvent
      obtain ⟨roster, moved, isNext⟩ := Option.map_eq_some_iff.mp mapped
      subst isNext
      exact signing_change_of_roster notIssue moved
  | advance caller input =>
      obtain ⟨roster, moved, isNext⟩ := Option.map_eq_some_iff.mp stepped
      subst isNext
      obtain ⟨base, keyMoved, isRoster⟩ := Option.map_eq_some_iff.mp moved
      subst isRoster
      exact .advanced keyMoved

end Steps

end LightbridgeAuthz.ApiKeys.KeySigning
