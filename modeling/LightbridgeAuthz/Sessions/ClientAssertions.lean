import LightbridgeAuthz.Library.EventRun
import LightbridgeAuthz.Library.ExpiringKeys

/-!
# Client assertions

A confidential client authenticates with a signed assertion whose `jti` is spent
in Redis by one `SET NX PX`. The key lives as long as the assertion, from the
store's own clock reading, in whole milliseconds and for a second at least; the
verifier accepts the assertion for a leeway beyond. The key is made of the `jti`
alone, so the clients share one space of them.

A presentation verifies at one instant, reads the clock at another and reaches
Redis at a third; only the last touches shared state, so a run is a list of
presentations in the order of their commands.
-/

namespace LightbridgeAuthz.Sessions.ClientAssertions

open Library.EventRun Library.ExpiringKeys

set_option autoImplicit false

/-- An assertion: its text and what the verifier reads from it. Instants are
microseconds. -/
structure Assertion where
  text : String
  jti : String
  expiresAt : Int
  deriving DecidableEq, Repr

inductive TokenEndpointAuthMethod where
  | noAuth
  | privateKeyJwt
  | other
  deriving DecidableEq, Repr

structure ClientRegistration where
  clientId : String
  tokenEndpointAuthMethod : Option TokenEndpointAuthMethod
  deriving DecidableEq, Repr

inductive RevokeCredential where
  | noCredential
  | assertion (assertion : Assertion)
  | secret (clientId : Option String)
  deriving DecidableEq, Repr

structure RevokeError where
  status : Nat
  error : String
  description : String
  deriving DecidableEq, Repr

def invalidClient : RevokeError := ⟨401, "invalid_client", "Client authentication failed"⟩

def internalError : RevokeError := ⟨500, "server_error", "internal error"⟩

/-- The verifier's leeway, its check of a signature under a client's keys, and the
prefix of the store's keys. -/
structure AssertionConfig where
  keyPrefix : String
  leeway : Nat
  signatureValid : String → Assertion → Bool

/-- One use of a client's credential at the token or the revocation endpoint. -/
structure Presentation where
  client : ClientRegistration
  credential : RevokeCredential
  verifiedAt : Int
  readAt : Int
  commandAt : Int
  redisUp : Bool
  deriving DecidableEq, Repr

def verifyClientAssertion (config : AssertionConfig) (client : ClientRegistration)
    (assertion : Assertion) (now : Int) : Bool :=
  config.signatureValid client.clientId assertion &&
    decide (now ≤ assertion.expiresAt + config.leeway)

def minTtlMs : Int := 1000

/-- `(expires_at - Utc::now()).num_milliseconds().max(MIN_TTL_MS)`. -/
def ttlMs (expiresAt readAt : Int) : Int := max ((expiresAt - readAt).tdiv 1000) minTtlMs

def jtiKey (config : AssertionConfig) (jti : String) : String := config.keyPrefix ++ jti

/-- `record_jti`: `none` is a storage error. -/
def recordJti (config : AssertionConfig) (entries : List (Entry String)) (jti : String)
    (expiresAt readAt commandAt : Int) (redisUp : Bool) :
    List (Entry String) × Option Bool :=
  if redisUp then
    let (written, set) :=
      setIfAbsent entries (jtiKey config jti) commandAt (ttlMs expiresAt readAt * 1000)
    (written, some set)
  else (entries, none)

/-- `authenticate_revoke_client`, and its twin of the token endpoint. -/
def authenticateClient (config : AssertionConfig) (entries : List (Entry String))
    (shown : Presentation) : List (Entry String) × Except RevokeError Unit :=
  match shown.client.tokenEndpointAuthMethod, shown.credential with
  | some .noAuth, .noCredential => (entries, .ok ())
  | some .privateKeyJwt, .assertion assertion =>
      if verifyClientAssertion config shown.client assertion shown.verifiedAt then
        match recordJti config entries assertion.jti assertion.expiresAt shown.readAt
            shown.commandAt shown.redisUp with
        | (written, some true) => (written, .ok ())
        | (written, some false) => (written, .error invalidClient)
        | (written, none) => (written, .error internalError)
      else (entries, .error invalidClient)
  | _, _ => (entries, .error invalidClient)

structure Answer where
  shown : Presentation
  result : Except RevokeError Unit

structure AssertionWorld where
  now : Int
  entries : List (Entry String)
  answers : List Answer

/-- A presentation's instants, in the order of the commands that Redis runs. -/
def inOrder (world : AssertionWorld) (shown : Presentation) : Bool :=
  decide (world.now ≤ shown.commandAt) && decide (shown.verifiedAt ≤ shown.readAt) &&
    decide (shown.readAt ≤ shown.commandAt)

def assertionStep (config : AssertionConfig) (world : AssertionWorld) (shown : Presentation) :
    Option AssertionWorld :=
  if inOrder world shown then
    some
      { now := shown.commandAt
        entries := (authenticateClient config world.entries shown).1
        answers := world.answers ++
          [⟨shown, (authenticateClient config world.entries shown).2⟩] }
  else none

def idleAssertions (now : Int) : AssertionWorld := ⟨now, [], []⟩

def acceptedAssertion (answer : Answer) : Option Assertion :=
  match answer.shown.client.tokenEndpointAuthMethod, answer.shown.credential, answer.result with
  | some .privateKeyJwt, .assertion assertion, .ok () => some assertion
  | _, _, _ => none

def accepts (assertion : Assertion) (answer : Answer) : Bool :=
  acceptedAssertion answer == some assertion

/-- When the key that an accepted presentation has set expires. -/
def spentUntil (shown : Presentation) (assertion : Assertion) : Int :=
  shown.commandAt + ttlMs assertion.expiresAt shown.readAt * 1000

def verifiedAssertion (config : AssertionConfig) (shown : Presentation) : Option Assertion :=
  match shown.client.tokenEndpointAuthMethod, shown.credential with
  | some .privateKeyJwt, .assertion assertion =>
      if verifyClientAssertion config shown.client assertion shown.verifiedAt then some assertion
      else none
  | _, _ => none

/-- The key that the answer has set is still there at `now`. -/
def holdsKey (jti : String) (now : Int) (answer : Answer) : Bool :=
  (acceptedAssertion answer).any fun earlier =>
    earlier.jti == jti && decide (now < spentUntil answer.shown earlier)

/-- The verifier accepts a presentation of an assertion that has been used, and the
key of that use has expired. -/
def outlivesKey (config : AssertionConfig) (world : AssertionWorld) (shown : Presentation) :
    Bool :=
  shown.redisUp && (verifiedAssertion config shown).any fun assertion =>
    world.answers.any (accepts assertion) &&
      !world.answers.any (holdsKey assertion.jti shown.commandAt)

/-- Another client's key of the same `jti` is still there. -/
def sharesJti (config : AssertionConfig) (world : AssertionWorld) (shown : Presentation) :
    Bool :=
  shown.redisUp && (verifiedAssertion config shown).any fun assertion =>
    world.answers.any fun answer =>
      answer.shown.client.clientId != shown.client.clientId &&
        holdsKey assertion.jti shown.commandAt answer

/-- The entry of an answer that accepts an assertion. -/
def spentKey (config : AssertionConfig) (answer : Answer) : Option (Entry String) :=
  (acceptedAssertion answer).map fun assertion =>
    ⟨jtiKey config assertion.jti, spentUntil answer.shown assertion⟩

theorem jti_key_injective {config : AssertionConfig} {jti other : String}
    (same : jtiKey config jti = jtiKey config other) : jti = other := by
  unfold jtiKey at same
  rw [String.ext_iff, String.toList_append, String.toList_append] at same
  exact String.ext (List.append_cancel_left same)

/-! ## One presentation -/

section OnePresentation

variable {config : AssertionConfig} {entries : List (Entry String)} {shown : Presentation}

theorem authenticate_client_verified {assertion : Assertion}
    (verified : verifiedAssertion config shown = some assertion) :
    authenticateClient config entries shown =
      if shown.redisUp then
        if present entries (jtiKey config assertion.jti) shown.commandAt then
          (entries, .error invalidClient)
        else (entries ++ [⟨jtiKey config assertion.jti, spentUntil shown assertion⟩], .ok ())
      else (entries, .error internalError) := by
  unfold verifiedAssertion at verified
  unfold authenticateClient
  split at verified
  · rename_i method credential
    split at verified
    · rename_i valid
      cases verified
      simp only [method, credential, valid, if_true, recordJti, setIfAbsent, spentUntil]
      cases up : shown.redisUp with
      | true => cases present entries (jtiKey config assertion.jti) shown.commandAt <;> simp
      | false => simp
    · cases verified
  · cases verified

theorem accepted_of_verified {assertion : Assertion}
    (verified : verifiedAssertion config shown = some assertion) :
    acceptedAssertion ⟨shown, .ok ()⟩ = some assertion := by
  unfold verifiedAssertion at verified
  split at verified
  · rename_i method credential
    split at verified
    · cases verified
      simp [acceptedAssertion, method, credential]
    · cases verified
  · cases verified

theorem authenticate_client_unverified (unverified : verifiedAssertion config shown = none) :
    ∃ result, acceptedAssertion ⟨shown, result⟩ = none ∧
      ∀ entries, authenticateClient config entries shown = (entries, result) := by
  unfold verifiedAssertion at unverified
  unfold authenticateClient acceptedAssertion
  split at unverified
  · rename_i method credential
    split at unverified
    · cases unverified
    · rename_i invalid
      refine ⟨.error invalidClient, ?_, ?_⟩
      · simp
      · simp [method, credential, invalid]
  · rename_i other
    by_cases isPublic : shown.client.tokenEndpointAuthMethod = some .noAuth ∧
        shown.credential = .noCredential
    · obtain ⟨method, credential⟩ := isPublic
      refine ⟨.ok (), ?_, ?_⟩
      · simp [method]
      · simp [method, credential]
    · refine ⟨.error invalidClient, by simp, ?_⟩
      intro entries
      split
      · rename_i method credential
        exact absurd ⟨method, credential⟩ isPublic
      · rename_i assertion method credential
        exact (other assertion method credential).elim
      · rfl

theorem accepted_absent {assertion : Assertion}
    (accepted : acceptedAssertion ⟨shown, (authenticateClient config entries shown).2⟩ =
      some assertion) :
    verifiedAssertion config shown = some assertion ∧ shown.redisUp = true ∧
      present entries (jtiKey config assertion.jti) shown.commandAt = false := by
  cases verified : verifiedAssertion config shown with
  | none =>
      obtain ⟨result, rejects, answered⟩ := authenticate_client_unverified verified
      rw [answered, rejects] at accepted
      cases accepted
  | some found =>
      rw [authenticate_client_verified verified] at accepted
      cases up : shown.redisUp with
      | true =>
          cases absent : present entries (jtiKey config found.jti) shown.commandAt with
          | true => simp [up, absent, acceptedAssertion] at accepted
          | false =>
              simp only [up, absent, if_true, Bool.false_eq_true, if_false,
                accepted_of_verified verified, Option.some.injEq] at accepted
              cases accepted
              exact ⟨rfl, rfl, absent⟩
      | false => simp [up, acceptedAssertion] at accepted

theorem authenticate_client_entries :
    (authenticateClient config entries shown).1 =
      entries ++ (spentKey config ⟨shown, (authenticateClient config entries shown).2⟩).toList := by
  cases verified : verifiedAssertion config shown with
  | none =>
      obtain ⟨result, rejects, answered⟩ := authenticate_client_unverified verified
      simp [answered, spentKey, rejects]
  | some found =>
      rw [authenticate_client_verified verified]
      cases up : shown.redisUp with
      | true =>
          cases present entries (jtiKey config found.jti) shown.commandAt with
          | true => simp [spentKey, acceptedAssertion]
          | false =>
              have accepted := accepted_of_verified verified
              simp [spentKey, accepted]
      | false => simp [spentKey, acceptedAssertion]

theorem authenticate_client_congr {others : List (Entry String)}
    (same : ∀ assertion, shown.redisUp = true → verifiedAssertion config shown = some assertion →
      present entries (jtiKey config assertion.jti) shown.commandAt =
        present others (jtiKey config assertion.jti) shown.commandAt) :
    (authenticateClient config entries shown).2 = (authenticateClient config others shown).2 := by
  cases verified : verifiedAssertion config shown with
  | none =>
      obtain ⟨result, _, answered⟩ := authenticate_client_unverified verified
      rw [answered, answered]
  | some found =>
      rw [authenticate_client_verified verified, authenticate_client_verified verified]
      cases up : shown.redisUp with
      | true =>
          rw [same found up verified]
          cases present others (jtiKey config found.jti) shown.commandAt <;> simp
      | false => simp

theorem authenticate_client_refused {error : RevokeError}
    (refused : (authenticateClient config entries shown).2 = .error error) :
    (authenticateClient config entries shown).1 = entries := by
  cases verified : verifiedAssertion config shown with
  | none =>
      obtain ⟨result, _, answered⟩ := authenticate_client_unverified verified
      rw [answered]
  | some assertion =>
      rw [authenticate_client_verified verified] at refused ⊢
      cases up : shown.redisUp with
      | true =>
          cases spent : present entries (jtiKey config assertion.jti) shown.commandAt with
          | true => simp
          | false => simp [up, spent] at refused
      | false => simp

end OnePresentation

/-! ## Runs -/

section Runs

variable {config : AssertionConfig} {world next : AssertionWorld} {shown : Presentation}

/-- The store holds the keys of the accepted presentations and no others. -/
def Keyed (config : AssertionConfig) (world : AssertionWorld) : Prop :=
  world.entries = world.answers.filterMap (spentKey config)

theorem assertion_step_parts (stepped : assertionStep config world shown = some next) :
    inOrder world shown = true ∧
      next =
        { now := shown.commandAt
          entries := (authenticateClient config world.entries shown).1
          answers := world.answers ++
            [⟨shown, (authenticateClient config world.entries shown).2⟩] } := by
  unfold assertionStep at stepped
  split at stepped
  · rename_i ordered
    cases stepped
    exact ⟨ordered, rfl⟩
  · cases stepped

theorem assertion_step_keyed (keyed : Keyed config world)
    (stepped : assertionStep config world shown = some next) : Keyed config next := by
  obtain ⟨_, rfl⟩ := assertion_step_parts stepped
  unfold Keyed at keyed ⊢
  rw [authenticate_client_entries, List.filterMap_append, ← keyed]
  rfl

theorem present_eq_holds_key (keyed : Keyed config world) (jti : String) (now : Int) :
    present world.entries (jtiKey config jti) now = world.answers.any (holdsKey jti now) := by
  rw [Bool.eq_iff_iff, present_iff, keyed, List.any_eq_true]
  constructor
  · rintro ⟨entry, member, same, alive⟩
    obtain ⟨answer, recorded, spent⟩ := List.mem_filterMap.mp member
    obtain ⟨assertion, accepted, rfl⟩ := Option.map_eq_some_iff.mp spent
    refine ⟨answer, recorded, ?_⟩
    simp [holdsKey, accepted, jti_key_injective same, alive]
  · rintro ⟨answer, recorded, holds⟩
    obtain ⟨assertion, accepted, alive⟩ := (Option.any_eq_true ..).mp holds
    simp only [Bool.and_eq_true, beq_iff_eq, decide_eq_true_eq] at alive
    refine ⟨⟨jtiKey config assertion.jti, spentUntil answer.shown assertion⟩, ?_, ?_, alive.2⟩
    · rw [List.mem_filterMap]
      exact ⟨answer, recorded, by simp [spentKey, accepted]⟩
    · rw [alive.1]

theorem outlives_key_iff (keyed : Keyed config world) :
    outlivesKey config world shown = true ↔
      ∃ assertion,
        acceptedAssertion ⟨shown, (authenticateClient config world.entries shown).2⟩ =
            some assertion ∧
          world.answers.any (accepts assertion) = true := by
  constructor
  · intro outlives
    simp only [outlivesKey, Bool.and_eq_true, Option.any_eq_true, Bool.not_eq_true'] at outlives
    obtain ⟨up, assertion, verified, used, free⟩ := outlives
    rw [← present_eq_holds_key keyed] at free
    refine ⟨assertion, ?_, used⟩
    simp [authenticate_client_verified verified, up, free, accepted_of_verified verified]
  · rintro ⟨assertion, accepted, used⟩
    obtain ⟨verified, up, absent⟩ := accepted_absent accepted
    rw [present_eq_holds_key keyed] at absent
    simp [outlivesKey, up, verified, used, absent]

theorem assertion_step_single_use (keyed : Keyed config world)
    (kept : outlivesKey config world shown = false) {assertion : Assertion}
    (once : world.answers.countP (accepts assertion) ≤ 1)
    (stepped : assertionStep config world shown = some next) :
    next.answers.countP (accepts assertion) ≤ 1 := by
  obtain ⟨_, rfl⟩ := assertion_step_parts stepped
  simp only [List.countP_append, List.countP_singleton]
  split
  · rename_i accepted
    have unused : world.answers.countP (accepts assertion) = 0 := by
      rw [List.countP_eq_zero]
      intro answer recorded used
      have outlives := (outlives_key_iff keyed).mpr
        ⟨assertion, beq_iff_eq.mp accepted, List.any_eq_true.mpr ⟨answer, recorded, used⟩⟩
      rw [kept] at outlives
      cases outlives
    omega
  · exact once

/-- The client's part of a run beside the whole run. -/
structure Restricts (config : AssertionConfig) (clientId : String)
    (world alone : AssertionWorld) : Prop where
  keyed : Keyed config world
  aloneKeyed : Keyed config alone
  now : alone.now ≤ world.now
  answers : alone.answers =
    world.answers.filter fun answer => answer.shown.client.clientId == clientId

theorem Restricts.holds_key {clientId : String} {alone : AssertionWorld}
    (related : Restricts config clientId world alone) {jti : String} {now : Int}
    (own : ∀ answer ∈ world.answers, holdsKey jti now answer = true →
      answer.shown.client.clientId = clientId) :
    world.answers.any (holdsKey jti now) = alone.answers.any (holdsKey jti now) := by
  rw [related.answers, Bool.eq_iff_iff, List.any_eq_true, List.any_eq_true]
  constructor
  · rintro ⟨answer, recorded, holds⟩
    refine ⟨answer, List.mem_filter.mpr ⟨recorded, ?_⟩, holds⟩
    exact beq_iff_eq.mpr (own answer recorded holds)
  · rintro ⟨answer, recorded, holds⟩
    exact ⟨answer, (List.mem_filter.mp recorded).1, holds⟩

theorem Restricts.own_step {clientId : String} {alone : AssertionWorld}
    (related : Restricts config clientId world alone)
    (unshared : sharesJti config world shown = false)
    (own : shown.client.clientId = clientId)
    (stepped : assertionStep config world shown = some next) :
    ∃ moved, assertionStep config alone shown = some moved ∧
      Restricts config clientId next moved := by
  have sameAnswer : (authenticateClient config world.entries shown).2 =
      (authenticateClient config alone.entries shown).2 := by
    apply authenticate_client_congr
    intro assertion up verified
    rw [present_eq_holds_key related.keyed, present_eq_holds_key related.aloneKeyed]
    apply related.holds_key
    intro answer recorded holds
    simp only [sharesJti, up, verified, Option.any_some, Bool.true_and] at unshared
    have notOther := List.any_eq_false.mp unshared answer recorded
    rw [holds, Bool.and_true, bne_iff_ne, not_not] at notOther
    rw [notOther, own]
  have stillKeyed := assertion_step_keyed related.keyed stepped
  obtain ⟨ordered, rfl⟩ := assertion_step_parts stepped
  have aloneOrdered : inOrder alone shown = true := by
    have := related.now
    simp only [inOrder, Bool.and_eq_true, decide_eq_true_eq] at ordered ⊢
    exact ⟨⟨Int.le_trans this ordered.1.1, ordered.1.2⟩, ordered.2⟩
  have aloneStepped : assertionStep config alone shown = some
      { now := shown.commandAt
        entries := (authenticateClient config alone.entries shown).1
        answers := alone.answers ++
          [⟨shown, (authenticateClient config alone.entries shown).2⟩] } := by
    rw [assertionStep, if_pos aloneOrdered]
  refine ⟨_, aloneStepped, stillKeyed, assertion_step_keyed related.aloneKeyed aloneStepped,
    Int.le_refl _, ?_⟩
  rw [List.filter_append, ← related.answers, sameAnswer]
  simp [own]

theorem Restricts.other_step {clientId : String} {alone : AssertionWorld}
    (related : Restricts config clientId world alone)
    (other : shown.client.clientId ≠ clientId)
    (stepped : assertionStep config world shown = some next) :
    Restricts config clientId next alone := by
  have stillKeyed := assertion_step_keyed related.keyed stepped
  obtain ⟨ordered, rfl⟩ := assertion_step_parts stepped
  simp only [inOrder, Bool.and_eq_true, decide_eq_true_eq] at ordered
  refine ⟨stillKeyed, related.aloneKeyed, Int.le_trans related.now ordered.1.1, ?_⟩
  rw [List.filter_append, ← related.answers]
  simp [other]

end Runs

/-- As long as no assertion is shown after its key while the verifier still takes
it, and no client meets another's key, an assertion is accepted once and a client
is answered as if it were alone. -/
theorem assertions_are_single_use (config : AssertionConfig) (start : Int)
    (events : List Presentation) (last : AssertionWorld)
    (ran : runFrom (assertionStep config) (idleAssertions start) events = some last)
    (met : Meets (assertionStep config)
      (fun world shown =>
        outlivesKey config world shown = false ∧ sharesJti config world shown = false)
      (idleAssertions start) events) :
    (∀ assertion, last.answers.countP (accepts assertion) ≤ 1) ∧
      ∀ clientId, ∃ alone,
        runFrom (assertionStep config) (idleAssertions start)
            (events.filter fun shown => shown.client.clientId == clientId) = some alone ∧
          alone.answers =
            last.answers.filter fun answer => answer.shown.client.clientId == clientId := by
  constructor
  · intro assertion
    have begins : Keyed config (idleAssertions start) ∧
        (idleAssertions start).answers.countP (accepts assertion) ≤ 1 := ⟨rfl, Nat.zero_le 1⟩
    have ends := run_preserves_of_meets
      (fun world => Keyed config world ∧ world.answers.countP (accepts assertion) ≤ 1)
      (fun world shown next held condition stepped =>
        ⟨assertion_step_keyed held.1 stepped,
          assertion_step_single_use held.1 condition.1 held.2 stepped⟩)
      begins met ran
    exact ends.2
  · intro clientId
    have begins : Restricts config clientId (idleAssertions start) (idleAssertions start) :=
      ⟨rfl, rfl, Int.le_refl _, rfl⟩
    apply Exists.imp _ (run_filtered (fun shown => shown.client.clientId == clientId)
      (Restricts config clientId) _ _ begins met ran)
    · rintro alone ⟨aloneRan, related⟩
      exact ⟨aloneRan, related.answers⟩
    · intro world alone shown next related condition own stepped
      exact related.own_step condition.2 (beq_iff_eq.mp own) stepped
    · intro world alone shown next related _ other stepped
      exact related.other_step (beq_eq_false_iff_ne.mp other) stepped

/-! ## Two clients -/

def secondMicros : Int := 1000000

/-- The verifier's leeway is a minute; each client signs its own assertion. -/
def sampleAssertionConfig : AssertionConfig where
  keyPrefix := "authz:client-assertion:"
  leeway := 60000000
  signatureValid clientId assertion :=
    (clientId, assertion.text) ∈
      [("backend", "signed-by-backend"), ("reports", "signed-by-reports")]

/-- Both clients number their assertions, and expire them after five minutes. -/
def sampleAssertion (text : String) : Assertion := ⟨text, "1", 300 * secondMicros⟩

def samplePresentation (clientId text : String) (seconds : Int) : Presentation where
  client := ⟨clientId, some .privateKeyJwt⟩
  credential := .assertion (sampleAssertion text)
  verifiedAt := seconds * secondMicros
  readAt := seconds * secondMicros
  commandAt := seconds * secondMicros
  redisUp := true

/-- A second after its expiry the assertion is accepted again, and a client whose
`jti` another has used is refused where it would be accepted alone. -/
theorem assertion_replayed_and_jti_shared :
    (∃ last,
      runFrom (assertionStep sampleAssertionConfig) (idleAssertions 0)
          [samplePresentation "backend" "signed-by-backend" 10,
            samplePresentation "backend" "signed-by-backend" 301] = some last ∧
        last.answers.countP (accepts (sampleAssertion "signed-by-backend")) = 2) ∧
      (∃ last,
        runFrom (assertionStep sampleAssertionConfig) (idleAssertions 0)
            [samplePresentation "backend" "signed-by-backend" 10,
              samplePresentation "reports" "signed-by-reports" 20] = some last ∧
          last.answers.countP (accepts (sampleAssertion "signed-by-reports")) = 0) ∧
      ∃ last,
        runFrom (assertionStep sampleAssertionConfig) (idleAssertions 0)
            [samplePresentation "reports" "signed-by-reports" 20] = some last ∧
          last.answers.countP (accepts (sampleAssertion "signed-by-reports")) = 1 := by
  refine ⟨?_, ?_, ?_⟩
  · have replayed : reaches (assertionStep sampleAssertionConfig) (idleAssertions 0)
        [samplePresentation "backend" "signed-by-backend" 10,
          samplePresentation "backend" "signed-by-backend" 301]
        (fun last => last.answers.countP (accepts (sampleAssertion "signed-by-backend")) == 2) =
          true := by
      decide +kernel
    obtain ⟨last, ran, twice⟩ := exists_of_reaches replayed
    exact ⟨last, ran, beq_iff_eq.mp twice⟩
  · have refused : reaches (assertionStep sampleAssertionConfig) (idleAssertions 0)
        [samplePresentation "backend" "signed-by-backend" 10,
          samplePresentation "reports" "signed-by-reports" 20]
        (fun last => last.answers.countP (accepts (sampleAssertion "signed-by-reports")) == 0) =
          true := by
      decide +kernel
    obtain ⟨last, ran, never⟩ := exists_of_reaches refused
    exact ⟨last, ran, beq_iff_eq.mp never⟩
  · have accepted : reaches (assertionStep sampleAssertionConfig) (idleAssertions 0)
        [samplePresentation "reports" "signed-by-reports" 20]
        (fun last => last.answers.countP (accepts (sampleAssertion "signed-by-reports")) == 1) =
          true := by
      decide +kernel
    obtain ⟨last, ran, once⟩ := exists_of_reaches accepted
    exact ⟨last, ran, beq_iff_eq.mp once⟩

/-- Each assertion shown twice before it expires. -/
theorem assertions_single_use_before_expiry :
    ∃ last,
      runFrom (assertionStep sampleAssertionConfig) (idleAssertions 0)
          [samplePresentation "backend" "signed-by-backend" 10,
            samplePresentation "backend" "signed-by-backend" 299] = some last ∧
        ∀ assertion, last.answers.countP (accepts assertion) ≤ 1 := by
  have runs : reaches (assertionStep sampleAssertionConfig) (idleAssertions 0)
      [samplePresentation "backend" "signed-by-backend" 10,
        samplePresentation "backend" "signed-by-backend" 299]
      (fun _ => true) = true := by
    decide +kernel
  obtain ⟨last, ran, _⟩ := exists_of_reaches runs
  have met : Meets (assertionStep sampleAssertionConfig)
      (fun world shown => outlivesKey sampleAssertionConfig world shown = false ∧
        sharesJti sampleAssertionConfig world shown = false)
      (idleAssertions 0)
      [samplePresentation "backend" "signed-by-backend" 10,
        samplePresentation "backend" "signed-by-backend" 299] := by
    decide +kernel
  exact ⟨last, ran, (assertions_are_single_use _ 0 _ last ran met).1⟩

end LightbridgeAuthz.Sessions.ClientAssertions
