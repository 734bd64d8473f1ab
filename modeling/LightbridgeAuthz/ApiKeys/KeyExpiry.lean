import LightbridgeAuthz.ApiKeys.KeySigning

/-!
# The ceiling on the expiry of API keys

Three computations meet in a self-signed key: the handler rejects a requested
expiry beyond the ceiling, the signer clamps it to the lifetime of a token, and
a rotation clamps the old key's expiry to the end of its grace period. Each adds a
duration to a clock reading of its own, and the last writes what it has computed
from a row that it read earlier.
-/

namespace LightbridgeAuthz.ApiKeys.KeyExpiry

open Library.EventRun Library.KeyedRows Library.ChronoTime
open Access.Tenancy Access.TenancyOps
open KeyTable KeyCalls KeyIntrospection RosterCalls KeySigning

set_option autoImplicit false

/-- `max_lifetime_days` in microseconds. -/
def ceiling (config : KeyConfig) : Int := config.maxLifetimeDays.toNat * 86400 * 1000000

/-- The row has an expiry, and it is within the ceiling. -/
def Capped (config : KeyConfig) (row : ApiKeyRow) : Prop :=
  ∃ expiry, row.expiresAt = some expiry ∧ expiry ≤ row.createdAt + ceiling config

/-- The new row of a self-signed issue, and its token in the log. -/
structure IssuedKey (config : KeyConfig) (signer : ApiKeyJwtSigner) (signed : List SignedKey)
    (row : ApiKeyRow) : Prop where
  capped : Capped config row
  ahead : row.expiresAt.all (row.createdAt < ·) = true
  token : ∃ key ∈ signed, row.keyHash = config.hashApiKey (signer.encode key.token) ∧
    row.expiresAt.all (fun expiry =>
      decide (key.token.exp * 1000000 ≤ expiry + (key.managerAt - key.handlerAt))) = true

/-- The row that a call is going to insert or has inserted. -/
def carriedRow : KeyCall → Option ApiKeyRow
  | .create _ (.returned (.ok row)) => some row
  | .create _ point => plannedRow point
  | .rotate _ (.transact _ _ plan) => some plan.newKey
  | .rotate _ (.returned (.ok row)) => some row
  | .rotate _ _ => none

def callError : KeyCall → Option AccessError
  | .create _ (.returned (.error error)) => some error
  | .rotate _ (.returned (.error error)) => some error
  | _ => none

/-- The row of a call that has returned `Ok`. -/
def returnedRow : KeyCall → Option ApiKeyRow
  | .create _ (.returned (.ok row)) => some row
  | .rotate _ (.returned (.ok row)) => some row
  | _ => none

/-- `none` is no expiry. -/
def NoLater (row later : ApiKeyRow) : Prop :=
  ∀ expiry, row.expiresAt = some expiry →
    ∃ sooner, later.expiresAt = some sooner ∧ sooner ≤ expiry

def graceInRange (now : Int) (gracePeriodSeconds : Option Int64) : Bool :=
  (gracePeriodSeconds.filter (0 < ·)).all fun grace => (afterSeconds now grace.toInt).isSome

/-- A request that the ceiling admits: the ceiling and the signer's cap are
instants, and the requested expiry is still ahead when the signer reads the
clock. -/
def expiryInRange (config : KeyConfig) (signer : ApiKeyJwtSigner) (now signerAt : Int)
    (requested : Option Int) : Bool :=
  requested.all fun requested =>
    decide (requested ≤ now) ||
      (afterDays now config.maxLifetimeDays.toNat).any fun maxAllowed =>
        decide (maxAllowed < requested) ||
          ((afterSeconds signerAt signer.ttlSeconds.toInt).isSome && decide (signerAt < requested))

/-- The row has been given a sooner expiry since the rotation read it. -/
def prolongs (keys : List ApiKeyRow) (request : RotateRequest) (existing : ApiKeyRow)
    (now : Int) : Bool :=
  match graceOutcome existing request.input.gracePeriodSeconds now,
      findKey keyId keys request.keyId with
  | .ok (_, _, some written), some row => row.expiresAt.any (· < written)
  | _, _ => false

/-- Where the event is a statement that computes or writes an expiry: its
arithmetic is in range, and the expiry it writes is not later. -/
def keepsCeiling (config : KeyConfig) (signer : ApiKeyJwtSigner) (world : SigningWorld) :
    SigningEvent → Bool
  | .roster _ => true
  | .advance caller input =>
      match world.roster.base.calls caller with
      | some (.create request .issue) =>
          expiryInRange config signer world.roster.base.clock
            (world.roster.base.clock + input.signerDelay) request.input.expiresAt
      | some (.rotate request (.issue existing)) =>
          graceInRange world.roster.base.clock request.input.gracePeriodSeconds &&
            expiryInRange config signer world.roster.base.clock
              (world.roster.base.clock + input.signerDelay)
              (resolveRotatedExpiresAt request.input.expiresAt existing.expiresAt)
      | some (.rotate request (.transact existing now _)) =>
          !prolongs world.roster.base.keys request existing now
      | _ => true

/-! ## The three computations -/

section Computations

variable {config : KeyConfig} {signer : ApiKeyJwtSigner}

theorem after_days_some {now days later : Int} (added : afterDays now days = some later) :
    later = now + days * 86400 * 1000000 := by
  have seconds : afterSeconds now (days * 86400) = some later := added
  rw [after_seconds_some seconds]

theorem validate_expires_at_ok {expiresAt : Option Int} {now requested : Int}
    (validated : validateExpiresAt expiresAt now config.maxLifetimeDays = .ok requested) :
    expiresAt = some requested ∧ now < requested ∧ requested ≤ now + ceiling config ∧
      ∃ maxAllowed, afterDays now config.maxLifetimeDays.toNat = some maxAllowed ∧
        requested ≤ maxAllowed := by
  unfold validateExpiresAt at validated
  split at validated
  · cases validated
  · rename_i given
    split at validated
    · cases validated
    · rename_i future
      split at validated
      · cases validated
      · rename_i maxAllowed added
        split at validated
        · cases validated
        · rename_i within
          cases validated
          have isMax := after_days_some added
          refine ⟨rfl, by omega, ?_, maxAllowed, added, by omega⟩
          unfold ceiling
          omega

theorem validate_expires_at_panics {expiresAt : Option Int} {now : Int}
    (panics : validateExpiresAt expiresAt now config.maxLifetimeDays = .error .panicked) :
    ∃ requested, expiresAt = some requested ∧ now < requested ∧
      afterDays now config.maxLifetimeDays.toNat = none := by
  unfold validateExpiresAt at panics
  split at panics
  · cases panics
  · rename_i given
    split at panics
    · cases panics
    · rename_i future
      split at panics
      · rename_i overflow
        exact ⟨given, rfl, by omega, overflow⟩
      · split at panics <;> cases panics

theorem grace_outcome_panics {existing : ApiKeyRow} {grace : Option Int64} {now : Int}
    (panics : graceOutcome existing grace now = .error .panicked) :
    graceInRange now grace = false := by
  unfold graceOutcome at panics
  split at panics
  · cases panics
  · rename_i seconds isGrace
    split at panics
    · rename_i overflow
      simp [graceInRange, isGrace, overflow]
    · split at panics <;> cases panics

theorem stamped_exp_le {expiresAt signerAt : Int} (managerAt : Int) (ahead : signerAt ≤ expiresAt) :
    (timestamp managerAt + expiresInSecs expiresAt signerAt) * 1000000 ≤
      expiresAt + (managerAt - signerAt) := by
  have positive : 0 ≤ expiresAt - signerAt := by omega
  unfold timestamp expiresInSecs
  rw [Int.fdiv_eq_ediv_of_nonneg _ (by decide), Int.tdiv_eq_ediv_of_nonneg positive]
  omega

theorem issued_key {subject projectId : String} {now requested : Int}
    {requestedExpiresAt : Option Int} {input : MintInput} {secret : IssuedSecret}
    {key : SignedKey} {row : ApiKeyRow} {signed : List SignedKey}
    (inRange : expiryInRange config signer now (now + input.signerDelay) requestedExpiresAt = true)
    (validated : validateExpiresAt requestedExpiresAt now config.maxLifetimeDays = .ok requested)
    (answered : SelfSigned signer now requestedExpiresAt input secret key)
    (planned : IssuedRow config subject projectId now requested secret row)
    (logged : key ∈ signed) : IssuedKey config signer signed row := by
  obtain ⟨isRequested, future, within, maxAllowed, isMax, below⟩ :=
    validate_expires_at_ok validated
  subst isRequested
  have stillAhead : now + (input.signerDelay : Int) < requested := by
    simp only [expiryInRange, isMax, Option.all_some, Option.any_some, Bool.or_eq_true,
      Bool.and_eq_true, decide_eq_true_eq] at inRange
    omega
  obtain ⟨expiresAt, isExpiry, isExp⟩ := answered.expires
  have capped := answered.expiry
  rw [isExpiry] at capped
  obtain ⟨cap, isCap, isMin⟩ := Option.map_eq_some_iff.mp capped
  dsimp only at isMin
  rw [if_pos stillAhead] at isMin
  have capAhead := after_seconds_some isCap
  have ttl := signer.positive
  have rowExpiry : row.expiresAt = some expiresAt := by
    rw [planned.expiry, isExpiry]
    simp only [resolveIssuedExpiresAt, Option.some.injEq]
    omega
  refine ⟨⟨expiresAt, rowExpiry, ?_⟩, ?_, key, logged, ?_, ?_⟩
  · rw [planned.created]
    omega
  · rw [rowExpiry, planned.created]
    simp only [Option.all_some, decide_eq_true_eq]
    omega
  · rw [planned.hash, answered.secretText]
  · rw [rowExpiry, isExp]
    have ahead : key.signerAt ≤ expiresAt := by
      rw [answered.signerAt]
      omega
    have passed : key.handlerAt ≤ key.signerAt := by
      rw [answered.signerAt, answered.handlerAt]
      omega
    have stamped := stamped_exp_le key.managerAt ahead
    simp only [Option.all_some, decide_eq_true_eq]
    omega

theorem issue_in_range {tenancy : TenancyDb} {subject projectId : String} {now requested : Int}
    {requestedExpiresAt : Option Int} {input : MintInput}
    (inRange : expiryInRange config signer now (now + input.signerDelay) requestedExpiresAt = true)
    (validated : validateExpiresAt requestedExpiresAt now config.maxLifetimeDays =
      .ok requested) :
    issueApiKeySecret (some signer) tenancy subject projectId now requestedExpiresAt input ≠
      .error .panicked := by
  intro panics
  have overflow := issue_api_key_secret_panics panics
  obtain ⟨isRequested, _, _, maxAllowed, isMax, below⟩ := validate_expires_at_ok validated
  simp only [expiryInRange, isRequested, isMax, overflow, Option.all_some, Option.any_some,
    Option.isSome_none, Bool.false_and, Bool.or_false, Bool.or_eq_true, decide_eq_true_eq]
    at inRange
  omega

theorem validate_in_range {now signerAt : Int} {requestedExpiresAt : Option Int}
    (inRange : expiryInRange config signer now signerAt requestedExpiresAt = true) :
    validateExpiresAt requestedExpiresAt now config.maxLifetimeDays ≠ .error .panicked := by
  intro panics
  obtain ⟨requested, isRequested, future, overflow⟩ := validate_expires_at_panics panics
  simp only [expiryInRange, isRequested, overflow, Option.all_some, Option.any_none,
    Bool.or_false, decide_eq_true_eq] at inRange
  omega

theorem plan_creation_panics {subject projectId : String} {input : CreateApiKey} {now : Int}
    {newId : String} {issued : Except AccessError IssuedSecret}
    (panics : planCreation config subject projectId input now newId issued = .error .panicked) :
    validateExpiresAt input.expiresAt now config.maxLifetimeDays = .error .panicked ∨
      ∃ requested, validateExpiresAt input.expiresAt now config.maxLifetimeDays =
          .ok requested ∧ issued = .error .panicked := by
  unfold planCreation at panics
  simp only [Bind.bind, Except.bind] at panics
  split at panics
  · cases panics
  · split at panics
    · rename_i failed
      cases panics
      exact Or.inl failed
    · rename_i requested validated
      split at panics
      · cases panics
        exact Or.inr ⟨requested, validated, rfl⟩
      · cases panics

theorem plan_rotation_panics {subject : String} {existing : ApiKeyRow} {input : RotateApiKey}
    {now : Int} {newId : String} {issued : Except AccessError IssuedSecret}
    (panics : planRotation config subject existing input now newId issued = .error .panicked) :
    graceOutcome existing input.gracePeriodSeconds now = .error .panicked ∨
      validateExpiresAt (resolveRotatedExpiresAt input.expiresAt existing.expiresAt) now
          config.maxLifetimeDays = .error .panicked ∨
      ∃ requested,
        validateExpiresAt (resolveRotatedExpiresAt input.expiresAt existing.expiresAt) now
            config.maxLifetimeDays = .ok requested ∧ issued = .error .panicked := by
  unfold planRotation at panics
  simp only [Bind.bind, Except.bind] at panics
  split at panics
  · rename_i failed
    cases panics
    exact Or.inl failed
  · split at panics
    · rename_i failed
      cases panics
      exact Or.inr (Or.inl failed)
    · rename_i requested validated
      split at panics
      · cases panics
        exact Or.inr (Or.inr ⟨requested, validated, rfl⟩)
      · cases panics

end Computations

/-! ## The calls -/

section Calls

variable {config : KeyConfig} {world next : KeyWorld} {event : KeyEvent}

theorem carried_of_returned {call : KeyCall} {row : ApiKeyRow}
    (returned : returnedRow call = some row) : carriedRow call = some row := by
  unfold returnedRow at returned
  split at returned
  · exact returned
  · exact returned
  · cases returned

theorem carried_origin {caller : Nat} {call : KeyCall} {row : ApiKeyRow}
    (stepped : keyStep config world event = some next)
    (stands : next.calls caller = some call) (carries : carriedRow call = some row) :
    (∃ before, world.calls caller = some before ∧ carriedRow before = some row) ∨
      ∃ input : IssueInput, event = .advance caller input ∧
        ((∃ request, world.calls caller = some (.create request .issue) ∧
            planCreation config request.subject request.projectId request.input world.clock
              input.newId input.issued = .ok row) ∨
          ∃ request existing plan,
            world.calls caller = some (.rotate request (.issue existing)) ∧
              planRotation config request.subject existing request.input world.clock input.newId
                input.issued = .ok plan ∧ plan.newKey = row) := by
  have origin := call_origin stepped stands
  generalize next.keys = keys at origin
  cases origin with
  | stood was => exact Or.inl ⟨call, was, carries⟩
  | rotationArrived request => cases carries
  | creationArrived request => cases carries
  | @rotationMoved input request before point was moved =>
      cases before with
      | select =>
          simp only [rotateMove] at moved
          split at moved <;> cases moved <;> cases carries
      | issue existing =>
          simp only [rotateMove] at moved
          split at moved
          · cases moved
            cases carries
          · rename_i plan planned
            cases moved
            cases carries
            exact Or.inr ⟨input, rfl, Or.inr ⟨request, existing, plan, was, planned, rfl⟩⟩
      | transact existing now plan =>
          simp only [rotateMove] at moved
          split at moved
          · cases moved
            cases carries
          · cases moved
            exact Or.inl ⟨_, was, carries⟩
      | returned answer => cases moved
  | @creationMoved input request before point was moved =>
      cases before with
      | issue =>
          simp only [createMove] at moved
          split at moved
          · cases moved
            cases carries
          · rename_i planned
            cases moved
            cases carries
            exact Or.inr ⟨input, rfl, Or.inl ⟨request, was, planned⟩⟩
      | authorizeOwner stored =>
          simp only [createMove] at moved
          split at moved <;> cases moved
          · cases carries
          · exact Or.inl ⟨_, was, carries⟩
          · exact Or.inl ⟨_, was, carries⟩
      | authorizeLead stored =>
          simp only [createMove] at moved
          split at moved <;> cases moved
          · cases carries
          · exact Or.inl ⟨_, was, carries⟩
      | insert stored =>
          simp only [createMove] at moved
          split at moved <;> cases moved
          · cases carries
          · exact Or.inl ⟨_, was, carries⟩
      | returned answer => cases moved

theorem authorize_owner_quiet {tenancy : TenancyDb} {projectId subject : String} :
    authorizeOwner tenancy projectId subject ≠ .error .panicked := by
  unfold authorizeOwner
  split
  · simp
  · split <;> simp

theorem authorize_lead_quiet {tenancy : TenancyDb} {projectId subject : String} :
    authorizeLead tenancy projectId subject ≠ .error .panicked := by
  unfold authorizeLead
  split <;> simp

theorem insert_key_quiet {tenancy : TenancyDb} {keys : List ApiKeyRow} {row : ApiKeyRow} :
    insertKey tenancy keys row ≠ .error .panicked := by
  unfold insertKey
  split_ifs <;> simp

theorem rotate_api_key_transaction_quiet {tenancy : TenancyDb} {keys : List ApiKeyRow}
    {subject id : String} {status : ApiKeyStatus} {revokedAt expiresAt : Option Int}
    {newKey : ApiKeyRow} :
    rotateApiKeyTransaction tenancy keys subject id status revokedAt expiresAt newKey ≠
      .error .panicked := by
  unfold rotateApiKeyTransaction setApiKeyStatus
  cases getApiKey tenancy keys subject id with
  | none => simp
  | some row =>
      dsimp only
      split
      · exact insert_key_quiet
      · simp

theorem rotate_move_panics {request : RotateRequest} {input : IssueInput}
    {before point : RotatePoint} {keys : List ApiKeyRow}
    (moved : rotateMove config world request input before = some (keys, point))
    (panicked : callError (.rotate request point) = some .panicked) :
    ∃ existing, before = .issue existing ∧
      planRotation config request.subject existing request.input world.clock input.newId
        input.issued = .error .panicked := by
  cases before with
  | select =>
      simp only [rotateMove] at moved
      split at moved <;> cases moved <;> cases panicked
  | issue existing =>
      simp only [rotateMove] at moved
      split at moved
      · rename_i failed
        cases moved
        cases panicked
        exact ⟨existing, rfl, failed⟩
      · cases moved
        cases panicked
  | transact existing now plan =>
      simp only [rotateMove] at moved
      split at moved
      · rename_i failed
        cases moved
        cases panicked
        exact (rotate_api_key_transaction_quiet failed).elim
      · cases moved
        cases panicked
  | returned answer => cases moved

theorem create_move_panics {request : CreateRequest} {input : IssueInput}
    {before point : CreatePoint} {keys : List ApiKeyRow}
    (moved : createMove config world request input before = some (keys, point))
    (panicked : callError (.create request point) = some .panicked) :
    before = .issue ∧
      planCreation config request.subject request.projectId request.input world.clock
        input.newId input.issued = .error .panicked := by
  cases before with
  | issue =>
      simp only [createMove] at moved
      split at moved
      · rename_i failed
        cases moved
        cases panicked
        exact ⟨rfl, failed⟩
      · cases moved
        cases panicked
  | authorizeOwner stored =>
      simp only [createMove] at moved
      split at moved
      · rename_i failed
        cases moved
        cases panicked
        exact (authorize_owner_quiet failed).elim
      · cases moved
        cases panicked
      · cases moved
        cases panicked
  | authorizeLead stored =>
      simp only [createMove] at moved
      split at moved
      · rename_i failed
        cases moved
        cases panicked
        exact (authorize_lead_quiet failed).elim
      · cases moved
        cases panicked
  | insert stored =>
      simp only [createMove] at moved
      split at moved
      · rename_i failed
        cases moved
        cases panicked
        exact (insert_key_quiet failed).elim
      · cases moved
        cases panicked
  | returned answer => cases moved

/-- A call that has panicked did so in the step that plans, or before it. -/
theorem panic_origin {caller : Nat} {call : KeyCall}
    (stepped : keyStep config world event = some next)
    (stands : next.calls caller = some call) (panicked : callError call = some .panicked) :
    (∃ before, world.calls caller = some before ∧ callError before = some .panicked) ∨
      ∃ input : IssueInput, event = .advance caller input ∧
        ((∃ request, world.calls caller = some (.create request .issue) ∧
            planCreation config request.subject request.projectId request.input world.clock
              input.newId input.issued = .error .panicked) ∨
          ∃ request existing,
            world.calls caller = some (.rotate request (.issue existing)) ∧
              planRotation config request.subject existing request.input world.clock input.newId
                input.issued = .error .panicked) := by
  have origin := call_origin stepped stands
  generalize next.keys = keys at origin
  cases origin with
  | stood was => exact Or.inl ⟨call, was, panicked⟩
  | rotationArrived request => cases panicked
  | creationArrived request => cases panicked
  | @rotationMoved input request before point was moved =>
      obtain ⟨existing, isIssue, failed⟩ := rotate_move_panics moved panicked
      rw [isIssue] at was
      exact Or.inr ⟨input, rfl, Or.inr ⟨request, existing, was, failed⟩⟩
  | @creationMoved input request before point was moved =>
      obtain ⟨isIssue, failed⟩ := create_move_panics moved panicked
      rw [isIssue] at was
      exact Or.inr ⟨input, rfl, Or.inl ⟨request, was, failed⟩⟩

theorem key_change_members {keys : List ApiKeyRow} (change : KeyChange world event keys)
    (related : ApiKeyRow → ApiKeyRow → Prop) (refl : ∀ row, related row row)
    (rotates : ∀ caller input request existing now plan, event = .advance caller input →
      world.calls caller = some (.rotate request (.transact existing now plan)) →
      ∀ row ∈ world.keys, keyId row = some request.keyId →
        related row (withStatus plan.status plan.revokedAt plan.oldExpiresAt row))
    (revokes : ∀ row, related row (withStatus .revoked (some world.clock) none row))
    (deletes : ∀ row, related row { row with deletedAt := some world.clock })
    (renames : ∀ row name, related row { row with name := name })
    {later : ApiKeyRow} (member : later ∈ keys) :
    (∃ row ∈ world.keys, related row later) ∨
      ∃ caller call, world.calls caller = some call ∧ carriedRow call = some later := by
  cases change with
  | kept => exact Or.inl ⟨later, member, refl later⟩
  | inserted call fresh =>
      rcases List.mem_append.mp member with old | new
      · exact Or.inl ⟨later, old, refl later⟩
      · rw [List.mem_singleton.mp new]
        exact Or.inr ⟨_, _, call, rfl⟩
  | rotated call isTarget fresh =>
      rcases List.mem_append.mp member with old | new
      · exact Or.inl (mem_update_related related refl
          (fun row stored target => rotates _ _ _ _ _ _ rfl call row stored target) old)
      · rw [List.mem_singleton.mp new]
        exact Or.inr ⟨_, _, call, rfl⟩
  | revoked subject target =>
      exact Or.inl (mem_update_related related refl (fun row _ _ => revokes row) member)
  | deleted subject target =>
      apply Or.inl (mem_update_related related refl _ member)
      intro row _ _
      split
      · exact deletes row
      · exact refl row
  | renamed subject target name =>
      apply Or.inl (mem_update_related related refl _ member)
      intro row _ _
      split
      · exact renames row name
      · exact refl row

end Calls

/-! ## Runs -/

/-- `start` holds the rows that were there before the run. -/
structure ExpiryInvariant (config : KeyConfig) (signer : ApiKeyJwtSigner)
    (start : List ApiKeyRow) (world : SigningWorld) : Prop where
  unique : UniqueKeys keyId world.roster.base.keys
  follows : FollowsPlan world.roster.base
  stored : ∀ row ∈ world.roster.base.keys,
    (∃ old ∈ start, old.id = row.id) ∨ Capped config row
  carried : ∀ caller call row, world.roster.base.calls caller = some call →
    carriedRow call = some row → IssuedKey config signer world.signed row
  quiet : ∀ caller call, world.roster.base.calls caller = some call →
    callError call ≠ some .panicked

section Runs

variable {tiers : List String} {config : KeyConfig} {signer : ApiKeyJwtSigner}
  {world next : SigningWorld} {start : List ApiKeyRow}

theorem IssuedKey.mono {signed more : List SignedKey} {row : ApiKeyRow}
    (issued : IssuedKey config signer signed row) (included : signed ⊆ more) :
    IssuedKey config signer more row := by
  obtain ⟨key, logged, isHash, bounded⟩ := issued.token
  exact ⟨issued.capped, issued.ahead, key, included logged, isHash, bounded⟩

theorem rotation_no_later (unique : UniqueKeys keyId world.roster.base.keys)
    (follows : FollowsPlan world.roster.base) {caller : Nat} {request : RotateRequest}
    {existing : ApiKeyRow} {now : Int} {plan : RotationPlan}
    (call : world.roster.base.calls caller = some (.rotate request (.transact existing now plan)))
    (kept : prolongs world.roster.base.keys request existing now = false)
    {row : ApiKeyRow} (stored : row ∈ world.roster.base.keys)
    (target : keyId row = some request.keyId) :
    NoLater row (withStatus plan.status plan.revokedAt plan.oldExpiresAt row) := by
  obtain ⟨outcome, _⟩ := follows caller request existing now plan call
  have found := find_key_eq_of_unique unique stored target
  intro expiry isExpiry
  cases written : plan.oldExpiresAt with
  | none => exact ⟨expiry, by simp [withStatus, isExpiry], Int.le_refl _⟩
  | some sooner =>
      refine ⟨sooner, by simp [withStatus], ?_⟩
      rw [written] at outcome
      simp only [prolongs, outcome, found, isExpiry, Option.any_some, decide_eq_false_iff_not]
        at kept
      exact Int.not_lt.mp kept

theorem cascade_keys_mem {tenancy : TenancyDb} {keys : List ApiKeyRow} {row : ApiKeyRow}
    (member : row ∈ cascadeKeys tenancy keys) : row ∈ keys :=
  (List.mem_filter.mp member).1

theorem NoLater.capped {row later : ApiKeyRow} (noLater : NoLater row later)
    (created : later.createdAt = row.createdAt) (capped : Capped config row) :
    Capped config later := by
  obtain ⟨expiry, isExpiry, within⟩ := capped
  obtain ⟨sooner, isSooner, below⟩ := noLater expiry isExpiry
  refine ⟨sooner, isSooner, ?_⟩
  rw [created]
  omega

/-- The rows of two tables that an update relates. -/
structure Descends (row later : ApiKeyRow) : Prop where
  id : later.id = row.id
  created : later.createdAt = row.createdAt
  noLater : NoLater row later

theorem descends_refl (row : ApiKeyRow) : Descends row row :=
  ⟨rfl, rfl, fun expiry isExpiry => ⟨expiry, isExpiry, Int.le_refl _⟩⟩

theorem descends_revoked (clock : Int) (row : ApiKeyRow) :
    Descends row (withStatus .revoked (some clock) none row) :=
  ⟨rfl, rfl, fun expiry isExpiry => ⟨expiry, isExpiry, Int.le_refl _⟩⟩

theorem key_step_descends {event : KeyEvent} {base : KeyWorld}
    (unique : UniqueKeys keyId world.roster.base.keys) (follows : FollowsPlan world.roster.base)
    (stepped : keyStep config world.roster.base event = some base)
    (kept : ∀ caller input request existing now plan, event = .advance caller input →
      world.roster.base.calls caller = some (.rotate request (.transact existing now plan)) →
      prolongs world.roster.base.keys request existing now = false)
    {later : ApiKeyRow} (member : later ∈ base.keys) :
    (∃ row ∈ world.roster.base.keys, Descends row later) ∨
      ∃ caller call, world.roster.base.calls caller = some call ∧
        carriedRow call = some later := by
  apply key_change_members (step_change stepped) Descends descends_refl _
    (descends_revoked _) (fun row => ⟨rfl, rfl, (descends_refl row).noLater⟩)
    (fun row name => ⟨rfl, rfl, (descends_refl row).noLater⟩) member
  intro caller input request existing now plan isEvent call row stored target
  exact ⟨rfl, rfl, rotation_no_later unique follows call
    (kept caller input request existing now plan isEvent call) stored target⟩

theorem key_step_no_later {event : KeyEvent} {base : KeyWorld}
    (unique : UniqueKeys keyId world.roster.base.keys) (follows : FollowsPlan world.roster.base)
    (stepped : keyStep config world.roster.base event = some base)
    (kept : ∀ caller input request existing now plan, event = .advance caller input →
      world.roster.base.calls caller = some (.rotate request (.transact existing now plan)) →
      prolongs world.roster.base.keys request existing now = false)
    {id : String} {row later : ApiKeyRow}
    (before : findKey keyId world.roster.base.keys id = some row)
    (after : findKey keyId base.keys id = some later) : NoLater row later := by
  obtain ⟨found, isFound, noLater⟩ := key_change_related (step_change stepped) NoLater
    (fun row => (descends_refl row).noLater)
    (fun caller input request existing now plan isEvent call row found =>
      rotation_no_later unique follows call
        (kept caller input request existing now plan isEvent call) (find_key_some found).1
        (find_key_some found).2)
    (fun row => (descends_revoked _ row).noLater) (fun row => (descends_refl row).noLater)
    (fun row _ => (descends_refl row).noLater) before
  rw [after] at isFound
  cases isFound
  exact noLater

theorem map_fst_ok {Left Right Error : Type} {answer : Except Error (Left × Right)} {left : Left}
    (mapped : answer.map Prod.fst = .ok left) : ∃ right, answer = .ok (left, right) := by
  cases answer with
  | error error => cases mapped
  | ok pair =>
      cases mapped
      exact ⟨pair.2, rfl⟩

theorem map_fst_error {Left Right Error : Type} {answer : Except Error (Left × Right)}
    {error : Error} (mapped : answer.map Prod.fst = .error error) : answer = .error error := by
  cases answer with
  | error failed =>
      cases mapped
      rfl
  | ok pair => cases mapped

theorem minted_issued {base : KeyWorld} {caller : Nat} {input : MintInput}
    {subject projectId : String} {requestedExpiresAt : Option Int} {requested : Int}
    {secret : IssuedSecret} {row : ApiKeyRow}
    (asked : mintAnswer (some signer) base caller input =
      issueApiKeySecret (some signer) base.tenancy subject projectId base.clock
        requestedExpiresAt input)
    (inRange : expiryInRange config signer base.clock (base.clock + input.signerDelay)
      requestedExpiresAt = true)
    (validated : validateExpiresAt requestedExpiresAt base.clock config.maxLifetimeDays =
      .ok requested)
    (issued : (mintAnswer (some signer) base caller input).map Prod.fst = .ok secret)
    (asks : asksIssuer config base caller input secret = true)
    (isRow : IssuedRow config subject projectId base.clock requested secret row) :
    IssuedKey config signer (newlySigned config (some signer) base caller input) row := by
  obtain ⟨logged, answered⟩ := map_fst_ok issued
  have signs := answered
  rw [asked] at signs
  obtain ⟨key, isLogged, selfSigned⟩ := issue_api_key_secret_ok signs
  subst isLogged
  have isNew : newlySigned config (some signer) base caller input = [key] := by
    simp [newlySigned, answered, asks]
  rw [isNew]
  exact issued_key inRange validated selfSigned isRow List.mem_cons_self

theorem creation_issued {base : KeyWorld} {caller : Nat} {request : CreateRequest}
    {input : MintInput} {row : ApiKeyRow}
    (call : base.calls caller = some (.create request .issue))
    (inRange : expiryInRange config signer base.clock (base.clock + input.signerDelay)
      request.input.expiresAt = true)
    (planned : planCreation config request.subject request.projectId request.input base.clock
      input.newId ((mintAnswer (some signer) base caller input).map Prod.fst) = .ok row) :
    IssuedKey config signer (newlySigned config (some signer) base caller input) row := by
  obtain ⟨requested, secret, validated, issued, isRow⟩ := plan_creation_parts planned
  rw [issued] at planned
  refine minted_issued ?_ inRange validated issued ?_ isRow
  · simp only [mintAnswer, call]
  · simp only [asksIssuer, call, planned]
    rfl

theorem rotation_issued {base : KeyWorld} {caller : Nat} {request : RotateRequest}
    {existing : ApiKeyRow} {input : MintInput} {plan : RotationPlan}
    (call : base.calls caller = some (.rotate request (.issue existing)))
    (inRange : expiryInRange config signer base.clock (base.clock + input.signerDelay)
      (resolveRotatedExpiresAt request.input.expiresAt existing.expiresAt) = true)
    (planned : planRotation config request.subject existing request.input base.clock
      input.newId ((mintAnswer (some signer) base caller input).map Prod.fst) = .ok plan) :
    IssuedKey config signer (newlySigned config (some signer) base caller input)
      plan.newKey := by
  obtain ⟨_, requested, secret, validated, issued, isRow⟩ := plan_rotation_parts planned
  rw [issued] at planned
  refine minted_issued ?_ inRange validated issued ?_ isRow
  · simp only [mintAnswer, call]
  · simp only [asksIssuer, call, planned]
    rfl

theorem creation_quiet {base : KeyWorld} {caller : Nat} {request : CreateRequest}
    {input : MintInput} (call : base.calls caller = some (.create request .issue))
    (inRange : expiryInRange config signer base.clock (base.clock + input.signerDelay)
      request.input.expiresAt = true) :
    planCreation config request.subject request.projectId request.input base.clock
      input.newId ((mintAnswer (some signer) base caller input).map Prod.fst) ≠
        .error .panicked := by
  intro panics
  rcases plan_creation_panics panics with failed | ⟨requested, validated, failed⟩
  · exact validate_in_range inRange failed
  · have answered := map_fst_error failed
    simp only [mintAnswer, call] at answered
    exact issue_in_range inRange validated answered

theorem rotation_quiet {base : KeyWorld} {caller : Nat} {request : RotateRequest}
    {existing : ApiKeyRow} {input : MintInput}
    (call : base.calls caller = some (.rotate request (.issue existing)))
    (graced : graceInRange base.clock request.input.gracePeriodSeconds = true)
    (inRange : expiryInRange config signer base.clock (base.clock + input.signerDelay)
      (resolveRotatedExpiresAt request.input.expiresAt existing.expiresAt) = true) :
    planRotation config request.subject existing request.input base.clock
      input.newId ((mintAnswer (some signer) base caller input).map Prod.fst) ≠
        .error .panicked := by
  intro panics
  rcases plan_rotation_panics panics with failed | failed | ⟨requested, validated, failed⟩
  · rw [grace_outcome_panics failed] at graced
    cases graced
  · exact validate_in_range inRange failed
  · have answered := map_fst_error failed
    simp only [mintAnswer, call] at answered
    exact issue_in_range inRange validated answered

theorem stored_step (invariant : ExpiryInvariant config signer start world) {later : ApiKeyRow}
    (origin : (∃ row ∈ world.roster.base.keys, Descends row later) ∨
      ∃ caller call, world.roster.base.calls caller = some call ∧
        carriedRow call = some later) :
    (∃ old ∈ start, old.id = later.id) ∨ Capped config later := by
  rcases origin with ⟨row, stored, descends⟩ | ⟨caller, call, stands, carries⟩
  · rcases invariant.stored row stored with ⟨old, isOld, same⟩ | capped
    · exact Or.inl ⟨old, isOld, same.trans descends.id.symm⟩
    · exact Or.inr (descends.noLater.capped descends.created capped)
  · exact Or.inr (invariant.carried caller call later stands carries).capped

theorem keyed_invariant {event : KeyEvent} {base : KeyWorld}
    (invariant : ExpiryInvariant config signer start world)
    (notIssue : ∀ caller input, event ≠ .advance caller input)
    (stepped : keyStep config world.roster.base event = some base) :
    ExpiryInvariant config signer start
      { world with roster := { world.roster with base := base } } where
  unique := step_unique invariant.unique stepped
  follows := step_follows_plan invariant.follows stepped
  stored later member := by
    apply stored_step invariant
    apply key_step_descends invariant.unique invariant.follows stepped _ member
    intro caller input _ _ _ _ isEvent
    exact (notIssue caller input isEvent).elim
  carried caller call row stands carries := by
    rcases carried_origin stepped stands carries with ⟨before, was, carried⟩ | ⟨input, isEvent, _⟩
    · exact invariant.carried caller before row was carried
    · exact (notIssue caller input isEvent).elim
  quiet caller call stands panicked := by
    rcases panic_origin stepped stands panicked with ⟨before, was, failed⟩ | ⟨input, isEvent, _⟩
    · exact invariant.quiet caller before was failed
    · exact (notIssue caller input isEvent).elim

theorem advanced_invariant {caller : Nat} {input : MintInput} {base : KeyWorld}
    (invariant : ExpiryInvariant config signer start world)
    (kept : keepsCeiling config signer world (.advance caller input) = true)
    (stepped : keyStep config world.roster.base
      (.advance caller
        ⟨input.newId, (mintAnswer (some signer) world.roster.base caller input).map Prod.fst⟩) =
      some base) :
    ExpiryInvariant config signer start
      { roster := { world.roster with base := base }
        signed := world.signed ++
          newlySigned config (some signer) world.roster.base caller input } where
  unique := step_unique invariant.unique stepped
  follows := step_follows_plan invariant.follows stepped
  stored later member := by
    apply stored_step invariant
    apply key_step_descends invariant.unique invariant.follows stepped _ member
    intro other inputs request existing now plan isEvent call
    cases isEvent
    simpa only [keepsCeiling, call, Bool.not_eq_true'] using kept
  carried other call row stands carries := by
    rcases carried_origin stepped stands carries with ⟨before, was, carried⟩ | ⟨inputs, isEvent,
      ⟨request, created, planned⟩ | ⟨request, existing, plan, rotated, planned, isRow⟩⟩
    · exact (invariant.carried other before row was carried).mono (List.subset_append_left _ _)
    · cases isEvent
      simp only [keepsCeiling, created] at kept
      exact (creation_issued created kept planned).mono (List.subset_append_right _ _)
    · cases isEvent
      subst isRow
      simp only [keepsCeiling, rotated, Bool.and_eq_true] at kept
      exact (rotation_issued rotated kept.2 planned).mono (List.subset_append_right _ _)
  quiet other call stands panicked := by
    rcases panic_origin stepped stands panicked with ⟨before, was, failed⟩ | ⟨inputs, isEvent,
      ⟨request, created, panics⟩ | ⟨request, existing, rotated, panics⟩⟩
    · exact invariant.quiet other before was failed
    · cases isEvent
      simp only [keepsCeiling, created] at kept
      exact creation_quiet created kept panics
    · cases isEvent
      simp only [keepsCeiling, rotated, Bool.and_eq_true] at kept
      exact rotation_quiet rotated kept.1 kept.2 panics

theorem step_expiry_invariant {event : SigningEvent}
    (invariant : ExpiryInvariant config signer start world)
    (kept : keepsCeiling config signer world event = true)
    (stepped : signingStep tiers config (some signer) world event = some next) :
    ExpiryInvariant config signer start next := by
  cases signing_change stepped with
  | @aside _ roster keys clock calls =>
      refine ⟨?_, ?_, ?_, ?_, ?_⟩
      · rw [keys]
        exact invariant.unique
      · unfold FollowsPlan
        rw [calls]
        exact invariant.follows
      · rw [keys]
        exact invariant.stored
      · rw [calls]
        exact invariant.carried
      · rw [calls]
        exact invariant.quiet
  | cascaded tenancy =>
      refine ⟨List.Pairwise.filter _ invariant.unique, invariant.follows, ?_, invariant.carried,
        invariant.quiet⟩
      intro row member
      exact invariant.stored row (cascade_keys_mem member)
  | keyed notIssue moved => exact keyed_invariant invariant notIssue moved
  | advanced moved => exact advanced_invariant invariant kept moved

theorem step_no_later {event : SigningEvent}
    (invariant : ExpiryInvariant config signer start world)
    (kept : keepsCeiling config signer world event = true)
    (stepped : signingStep tiers config (some signer) world event = some next)
    {id : String} {row later : ApiKeyRow}
    (before : findKey keyId world.roster.base.keys id = some row)
    (after : findKey keyId next.roster.base.keys id = some later) : NoLater row later := by
  cases signing_change stepped with
  | aside keys clock calls =>
      rw [keys, before] at after
      cases after
      exact (descends_refl row).noLater
  | cascaded tenancy =>
      obtain ⟨member, keyed⟩ := find_key_some after
      have found := find_key_eq_of_unique invariant.unique (cascade_keys_mem member) keyed
      rw [before] at found
      cases found
      exact (descends_refl row).noLater
  | keyed notIssue moved =>
      apply key_step_no_later invariant.unique invariant.follows moved _ before after
      intro caller input _ _ _ _ isEvent
      exact (notIssue caller input isEvent).elim
  | advanced moved =>
      apply key_step_no_later invariant.unique invariant.follows moved _ before after
      intro caller input request existing now plan isEvent call
      cases isEvent
      simpa only [keepsCeiling, call, Bool.not_eq_true'] using kept

theorem start_expiry_invariant {start : SigningWorld} (starts : KeyStart start.roster.base) :
    ExpiryInvariant config signer start.roster.base.keys start where
  unique := starts.uniqueIds
  follows := start_follows_plan starts
  stored row member := Or.inl ⟨row, member, rfl⟩
  carried caller call row stands := by
    rw [starts.idle caller] at stands
    cases stands
  quiet caller call stands := by
    rw [starts.idle caller] at stands
    cases stands

end Runs

/-- In a run whose arithmetic stays in range, whose requested expiries are still
ahead when the signer reads the clock and whose rotations write over no sooner
expiry: every row of the run is within the ceiling, every key that a call has
returned expires after its creation and its token no later than the row but for
the time between the readings, no call panics, and no step prolongs a row. -/
theorem api_keys_expire_within_ceiling (tiers : List String) (config : KeyConfig)
    (signer : ApiKeyJwtSigner) (start last : SigningWorld) (events : List SigningEvent)
    (starts : KeyStart start.roster.base)
    (ran : runFrom (signingStep tiers config (some signer)) start events = some last)
    (met : Meets (signingStep tiers config (some signer))
      (fun world event => keepsCeiling config signer world event = true) start events) :
    (∀ row ∈ last.roster.base.keys,
      (∃ old ∈ start.roster.base.keys, old.id = row.id) ∨ Capped config row) ∧
    (∀ caller call row, last.roster.base.calls caller = some call →
      returnedRow call = some row → IssuedKey config signer last.signed row) ∧
    (∀ caller call, last.roster.base.calls caller = some call →
      callError call ≠ some .panicked) ∧
    ∀ front event back middle next, events = front ++ event :: back →
      runFrom (signingStep tiers config (some signer)) start front = some middle →
      signingStep tiers config (some signer) middle event = some next →
      ∀ id row later, findKey keyId middle.roster.base.keys id = some row →
        findKey keyId next.roster.base.keys id = some later → NoLater row later := by
  have begins : ExpiryInvariant config signer start.roster.base.keys start :=
    start_expiry_invariant starts
  have holds : ∀ part reached, Meets (signingStep tiers config (some signer))
      (fun world event => keepsCeiling config signer world event = true) start part →
      runFrom (signingStep tiers config (some signer)) start part = some reached →
      ExpiryInvariant config signer start.roster.base.keys reached := by
    intro part reached partMet partRan
    exact run_preserves_of_meets (ExpiryInvariant config signer start.roster.base.keys)
      (fun world event next invariant kept stepped =>
        step_expiry_invariant invariant kept stepped) begins partMet partRan
  have ends := holds events last met ran
  refine ⟨ends.stored, ?_, ends.quiet, ?_⟩
  · intro caller call row stands returned
    exact ends.carried caller call row stands (carried_of_returned returned)
  · intro front event back middle next isEvents frontRan stepped id row later before after
    subst isEvents
    obtain ⟨frontMet, backMet⟩ := meets_append_some met frontRan
    exact step_no_later (holds front middle frontMet frontRan)
      (meets_cons_some backMet stepped).1 stepped before after

/-! ## Three runs -/

def sampleSigner : ApiKeyJwtSigner where
  issuer := "https://authz"
  audience := some "lightbridge-api"
  ttlSeconds := 2592000
  positive := by decide
  tokenManager := .plain
  encode token := token.jti ++ "." ++ token.apiKeyId

def sampleSigning : SigningWorld := ⟨⟨sampleWorld, []⟩, []⟩

/-- The signer reads the clock two microseconds after the handler. -/
def sampleMint (newId : String) : MintInput where
  newId := newId
  jti := newId
  sid := newId
  email := none
  emailVerified := none
  signerDelay := 2
  managerDelay := 3
  failure := none
  other := .error .notFound

def graceRotation (caller : Nat) (grace : Int64) : SigningEvent :=
  .roster (.key (.rotateApiKey caller ⟨"dev", "k1", ⟨none, none, some grace⟩⟩))

/-- A rotation with an hour of grace that stops before it writes, and one with a
second of grace beside it. -/
def crossedRotations : List SigningEvent :=
  [graceRotation 0 3600, .advance 0 (sampleMint "k2"), .advance 0 (sampleMint "k2"),
    graceRotation 1 1, .advance 1 (sampleMint "k3"), .advance 1 (sampleMint "k3"),
    .advance 1 (sampleMint "k3")]

/-- A key that expires between the readings of the handler and of the signer. -/
def fleetingCreation : List SigningEvent :=
  .roster (.key (.createApiKey 0 ⟨"owner", "p1", ⟨"ci", some 1000001, "starter"⟩⟩)) ::
    List.replicate 3 (.advance 0 (sampleMint "k2"))

/-- A grace period beyond chrono's range panics; a token outlives its row by its
whole lifetime; and an older rotation prolongs the row that a newer one has
shortened. -/
theorem rotation_panics_and_token_outlives_row :
    (∃ last,
      runFrom (signingStep [] sampleConfig (some sampleSigner)) sampleSigning
          [graceRotation 0 9223372036854775807, .advance 0 (sampleMint "k2"),
            .advance 0 (sampleMint "k2")] = some last ∧
        (last.roster.base.calls 0).bind callError = some .panicked) ∧
      (∃ last,
        runFrom (signingStep [] sampleConfig (some sampleSigner)) sampleSigning
            fleetingCreation = some last ∧
          ((last.roster.base.calls 0).bind returnedRow).bind ApiKeyRow.expiresAt =
            some 1000001 ∧
          last.signed.map (fun key => (key.token.exp * 1000000, key.managerAt - key.handlerAt)) =
            [(2592001000000, 5)]) ∧
      ∃ middle last,
        runFrom (signingStep [] sampleConfig (some sampleSigner)) sampleSigning
            crossedRotations = some middle ∧
          runFrom (signingStep [] sampleConfig (some sampleSigner)) sampleSigning
            (crossedRotations ++ [.advance 0 (sampleMint "k2")]) = some last ∧
          (findKey keyId middle.roster.base.keys "k1").bind ApiKeyRow.expiresAt =
            some 2000000 ∧
          (findKey keyId last.roster.base.keys "k1").bind ApiKeyRow.expiresAt =
            some 3601000000 := by
  refine ⟨?_, ?_, ?_⟩
  · have panics : reaches (signingStep [] sampleConfig (some sampleSigner)) sampleSigning
        [graceRotation 0 9223372036854775807, .advance 0 (sampleMint "k2"),
          .advance 0 (sampleMint "k2")]
        (fun last => (last.roster.base.calls 0).bind callError == some .panicked) = true := by
      decide +kernel
    obtain ⟨last, ran, panicked⟩ := exists_of_reaches panics
    exact ⟨last, ran, beq_iff_eq.mp panicked⟩
  · have outlives : reaches (signingStep [] sampleConfig (some sampleSigner)) sampleSigning
        fleetingCreation
        (fun last =>
          ((last.roster.base.calls 0).bind returnedRow).bind ApiKeyRow.expiresAt ==
              some 1000001 &&
            last.signed.map (fun key =>
              (key.token.exp * 1000000, key.managerAt - key.handlerAt)) ==
              [(2592001000000, 5)]) = true := by
      decide +kernel
    obtain ⟨last, ran, both⟩ := exists_of_reaches outlives
    rw [Bool.and_eq_true, beq_iff_eq, beq_iff_eq] at both
    exact ⟨last, ran, both.1, both.2⟩
  · have shortens : reaches (signingStep [] sampleConfig (some sampleSigner)) sampleSigning
        crossedRotations
        (fun middle => (findKey keyId middle.roster.base.keys "k1").bind ApiKeyRow.expiresAt ==
          some 2000000) = true := by
      decide +kernel
    have prolonged : reaches (signingStep [] sampleConfig (some sampleSigner)) sampleSigning
        (crossedRotations ++ [.advance 0 (sampleMint "k2")])
        (fun last => (findKey keyId last.roster.base.keys "k1").bind ApiKeyRow.expiresAt ==
          some 3601000000) = true := by
      decide +kernel
    obtain ⟨middle, middleRan, sooner⟩ := exists_of_reaches shortens
    obtain ⟨last, lastRan, later⟩ := exists_of_reaches prolonged
    exact ⟨middle, last, middleRan, lastRan, beq_iff_eq.mp sooner, beq_iff_eq.mp later⟩

/-- One rotation with an hour of grace, to its end. -/
theorem rotated_key_within_ceiling :
    ∃ last row,
      runFrom (signingStep [] sampleConfig (some sampleSigner)) sampleSigning
          (graceRotation 0 3600 :: List.replicate 3 (.advance 0 (sampleMint "k2"))) =
          some last ∧
        (last.roster.base.calls 0).bind returnedRow = some row ∧
        IssuedKey sampleConfig sampleSigner last.signed row := by
  have rotates : reaches (signingStep [] sampleConfig (some sampleSigner)) sampleSigning
      (graceRotation 0 3600 :: List.replicate 3 (.advance 0 (sampleMint "k2")))
      (fun last => ((last.roster.base.calls 0).bind returnedRow).isSome) = true := by
    decide +kernel
  have met : Meets (signingStep [] sampleConfig (some sampleSigner))
      (fun world event => keepsCeiling sampleConfig sampleSigner world event = true) sampleSigning
      (graceRotation 0 3600 :: List.replicate 3 (.advance 0 (sampleMint "k2"))) := by
    decide +kernel
  obtain ⟨last, ran, returns⟩ := exists_of_reaches rotates
  obtain ⟨row, isRow⟩ := Option.isSome_iff_exists.mp returns
  obtain ⟨call, stands, returned⟩ := Option.bind_eq_some_iff.mp isRow
  have holds := api_keys_expire_within_ceiling [] sampleConfig sampleSigner sampleSigning last _
    sample_world_starts ran met
  exact ⟨last, row, ran, isRow, holds.2.1 0 call row stands returned⟩

end LightbridgeAuthz.ApiKeys.KeyExpiry
