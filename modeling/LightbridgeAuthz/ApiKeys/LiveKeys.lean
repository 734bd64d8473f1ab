import LightbridgeAuthz.ApiKeys.KeyValidity

/-!
# How many keys of a project are live

Rotations without a grace period, in any interleaving with each other, with
revocations and with soft deletions. A rotation inserts a successor whatever has
become of the key it replaces, so a rotation of a dead key, or the second of two
rotations of one key, adds a live key. Along every run in which each rotation's
transaction finds the key it replaces still live, the number of keys of a project
that the view accepts never exceeds what it was before.
-/

namespace LightbridgeAuthz.ApiKeys.LiveKeys

open Library.EventRun Library.KeyedRows
open Access.Tenancy KeyTable KeyCalls KeyValidity

set_option autoImplicit false

/-- The row is of this project, and the view accepts it. -/
def liveIn (tenancy : TenancyDb) (now : Int) (projectId : String) (row : ApiKeyRow) : Bool :=
  row.projectId == projectId && accepts tenancy now row

/-- The number of keys of the project that the view accepts. -/
def liveKeys (world : KeyWorld) (projectId : String) : Nat :=
  world.keys.countP (liveIn world.tenancy world.clock projectId)

/-- Rotations without a positive grace period, revocations and soft
deletions. -/
def isRotationEvent : KeyEvent → Bool
  | .tick _ => true
  | .rotateApiKey _ request => request.input.gracePeriodSeconds.all (· ≤ 0)
  | .advance _ _ => true
  | .revokeApiKey _ _ => true
  | .softDelete _ _ => true
  | _ => false

/-- The transaction of a rotation finds the key it replaces neither revoked nor
deleted nor expired, unless the view accepts no key of the project anyway. -/
def replacesLiveKey (world : KeyWorld) : KeyEvent → Bool
  | .advance caller _ =>
      match world.calls caller with
      | some (.rotate request (.transact _ _ _)) =>
          (findKey keyId world.keys request.keyId).all fun row =>
            live world.clock row || !serves world.tenancy row.projectId
      | _ => true
  | _ => true

/-- The row a rotation has read, in the points after its `SELECT`. -/
def snapshot : RotatePoint → Option ApiKeyRow
  | .issue existing => some existing
  | .transact existing _ _ => some existing
  | _ => none

/-- A rotation's call is without grace, its key is still in the table and in the
project it was read in. -/
structure RotationsSound (world : KeyWorld) : Prop where
  noCreation : ∀ caller request point, world.calls caller ≠ some (.create request point)
  noGrace : ∀ caller request point, world.calls caller = some (.rotate request point) →
    request.input.gracePeriodSeconds.all (· ≤ 0) = true
  sameProject : ∀ caller request point existing,
    world.calls caller = some (.rotate request point) → snapshot point = some existing →
    ∃ row, findKey keyId world.keys request.keyId = some row ∧
      row.projectId = existing.projectId

section Step

variable {config : KeyConfig} {world next : KeyWorld} {event : KeyEvent}

theorem key_stays (stepped : keyStep config world event = some next) {id : String}
    {row : ApiKeyRow} (found : findKey keyId world.keys id = some row) :
    ∃ later, findKey keyId next.keys id = some later ∧ later.projectId = row.projectId :=
  key_change_related (step_change stepped) (fun row later => later.projectId = row.projectId)
    (fun _ => rfl) (fun _ _ _ _ _ _ _ _ _ _ => rfl) (fun _ => rfl) (fun _ => rfl)
    (fun _ _ => rfl) found

theorem rotation_tenancy (rotation : isRotationEvent event = true)
    (stepped : keyStep config world event = some next) : next.tenancy = world.tenancy := by
  rcases step_surroundings stepped with ⟨elapsed, _, isNext⟩ | ⟨tenancy, isChange, _⟩ | ⟨_, same⟩
  · rw [isNext]
  · rw [isChange] at rotation
    cases rotation
  · exact same

theorem step_rotations_sound (sound : RotationsSound world)
    (rotation : isRotationEvent event = true)
    (stepped : keyStep config world event = some next) : RotationsSound next where
  noCreation := by
    intro caller request point call
    cases call_origin stepped call with
    | stood was => exact sound.noCreation caller request point was
    | creationArrived => cases rotation
    | creationMoved was moved => exact sound.noCreation caller request _ was
  noGrace := by
    intro caller request point call
    cases call_origin stepped call with
    | stood was => exact sound.noGrace caller request point was
    | rotationArrived => exact rotation
    | rotationMoved was moved => exact sound.noGrace caller request _ was
  sameProject := by
    have stays : ∀ (id : String) (existing : ApiKeyRow),
        (∃ row, findKey keyId world.keys id = some row ∧ row.projectId = existing.projectId) →
        ∃ row, findKey keyId next.keys id = some row ∧ row.projectId = existing.projectId := by
      rintro id existing ⟨row, found, same⟩
      obtain ⟨later, foundLater, sameLater⟩ := key_stays stepped found
      exact ⟨later, foundLater, sameLater.trans same⟩
    intro caller request point existing call isSnapshot
    cases point with
    | select => cases isSnapshot
    | issue read =>
        cases isSnapshot
        rcases issue_origin stepped call with was | ⟨sameKeys, read⟩
        · exact stays _ _ (sound.sameProject caller request _ existing was rfl)
        · rw [sameKeys]
          exact ⟨existing, (Option.filter_eq_some_iff.mp read).1, rfl⟩
    | transact read now plan =>
        cases isSnapshot
        rcases transact_origin stepped call with was | ⟨_, was, _⟩
        · exact stays _ _ (sound.sameProject caller request _ existing was rfl)
        · exact stays _ _ (sound.sameProject caller request _ existing was rfl)
    | returned answer => cases isSnapshot

theorem no_grace_revokes {existing : ApiKeyRow} {grace : Option Int64} {now : Int}
    {status : ApiKeyStatus} {revokedAt expiresAt : Option Int}
    (noGrace : grace.all (· ≤ 0) = true)
    (outcome : graceOutcome existing grace now = .ok (status, revokedAt, expiresAt)) :
    status = .revoked := by
  have noneLeft : grace.filter (0 < ·) = none := by
    cases grace with
    | none => rfl
    | some seconds =>
        have notPositive : ¬ 0 < seconds := by simpa [Int64.not_lt] using noGrace
        simp [Option.filter, notPositive]
  unfold graceOutcome at outcome
  rw [noneLeft] at outcome
  cases outcome
  rfl

theorem revoked_not_live_in (tenancy : TenancyDb) (now : Int) (projectId : String)
    (revokedAt expiresAt : Option Int) (row : ApiKeyRow) :
    liveIn tenancy now projectId (withStatus .revoked revokedAt expiresAt row) = false := by
  simp [liveIn, accepts_eq, live, withStatus]

theorem live_in_earlier {tenancy : TenancyDb} {now later : Int} (passed : now ≤ later)
    {projectId : String} {row : ApiKeyRow}
    (isLive : liveIn tenancy later projectId row = true) :
    liveIn tenancy now projectId row = true := by
  simp only [liveIn, accepts_eq, Bool.and_eq_true] at isLive ⊢
  obtain ⟨ofProject, live, serving⟩ := isLive
  obtain ⟨active, undeleted, unexpired⟩ := live_iff.mp live
  refine ⟨ofProject, live_iff.mpr ⟨active, undeleted, ?_⟩, serving⟩
  exact fun expiry isExpiry => Int.lt_of_le_of_lt passed (unexpired expiry isExpiry)

theorem rotation_count (unique : UniqueKeys keyId world.keys) (follows : FollowsPlan world)
    (sound : RotationsSound world) {caller : Nat} {input : IssueInput}
    (replaces : replacesLiveKey world (.advance caller input) = true) {request : RotateRequest}
    {existing row : ApiKeyRow} {now : Int} {plan : RotationPlan}
    (call : world.calls caller = some (.rotate request (.transact existing now plan)))
    (found : findKey keyId world.keys request.keyId = some row) (projectId : String) :
    (updateKey keyId world.keys request.keyId
        (withStatus plan.status plan.revokedAt plan.oldExpiresAt) ++ [plan.newKey]).countP
        (liveIn world.tenancy world.clock projectId) ≤
      world.keys.countP (liveIn world.tenancy world.clock projectId) := by
  obtain ⟨outcome, newProject⟩ := follows caller request existing now plan call
  have revokes := no_grace_revokes (sound.noGrace caller request _ call) outcome
  obtain ⟨stored, isStored, sameProject⟩ :=
    sound.sameProject caller request _ existing call rfl
  rw [found] at isStored
  cases isStored
  have counted := count_update_key unique found
    (withStatus plan.status plan.revokedAt plan.oldExpiresAt)
    (liveIn world.tenancy world.clock projectId)
  rw [revokes, revoked_not_live_in, if_neg Bool.false_ne_true] at counted
  simp only [replacesLiveKey, call, found, Option.all_some, Bool.or_eq_true,
    Bool.not_eq_true'] at replaces
  rw [List.countP_append, List.countP_singleton, revokes]
  by_cases adds : liveIn world.tenancy world.clock projectId plan.newKey = true
  · have took : liveIn world.tenancy world.clock projectId row = true := by
      simp only [liveIn, accepts_eq, Bool.and_eq_true, beq_iff_eq, newProject,
        ← sameProject] at adds ⊢
      obtain ⟨ofProject, _, serving⟩ := adds
      rcases replaces with isLive | suspended
      · exact ⟨ofProject, isLive, serving⟩
      · rw [serving] at suspended
        cases suspended
    simp only [took, adds, if_true] at counted ⊢
    omega
  · rw [if_neg adds]
    omega

theorem change_count (unique : UniqueKeys keyId world.keys) (follows : FollowsPlan world)
    (sound : RotationsSound world) (rotation : isRotationEvent event = true)
    (replaces : replacesLiveKey world event = true) {keys : List ApiKeyRow}
    (change : KeyChange world event keys) (projectId : String) :
    keys.countP (liveIn world.tenancy world.clock projectId) ≤
      world.keys.countP (liveIn world.tenancy world.clock projectId) := by
  cases change with
  | kept => exact Nat.le_refl _
  | inserted call fresh => exact absurd call (sound.noCreation _ _ _)
  | rotated call found fresh =>
      exact rotation_count unique follows sound replaces call found projectId
  | revoked subject id =>
      apply count_update_le
      intro row isLive
      rw [revoked_not_live_in] at isLive
      cases isLive
  | deleted subject id =>
      apply count_update_le
      intro row isLive
      split_ifs at isLive
      · simp [liveIn, accepts_eq, live] at isLive
      · exact isLive
  | renamed subject id name => cases rotation

theorem step_live_keys (unique : UniqueKeys keyId world.keys) (follows : FollowsPlan world)
    (sound : RotationsSound world) (rotation : isRotationEvent event = true)
    (replaces : replacesLiveKey world event = true)
    (stepped : keyStep config world event = some next) (projectId : String) :
    liveKeys next projectId ≤ liveKeys world projectId := by
  have clocks := step_clock stepped
  unfold liveKeys
  rw [rotation_tenancy rotation stepped]
  calc next.keys.countP (liveIn world.tenancy next.clock projectId)
      ≤ next.keys.countP (liveIn world.tenancy world.clock projectId) :=
        List.countP_mono_left fun row _ isLive => live_in_earlier clocks isLive
    _ ≤ world.keys.countP (liveIn world.tenancy world.clock projectId) :=
        change_count unique follows sound rotation replaces (step_change stepped) projectId

end Step

structure LiveInvariant (start world : KeyWorld) : Prop where
  unique : UniqueKeys keyId world.keys
  follows : FollowsPlan world
  sound : RotationsSound world
  count : ∀ projectId, liveKeys world projectId ≤ liveKeys start projectId

theorem step_live_invariant {config : KeyConfig} {start world next : KeyWorld}
    {event : KeyEvent} (inv : LiveInvariant start world)
    (met : isRotationEvent event = true ∧ replacesLiveKey world event = true)
    (stepped : keyStep config world event = some next) : LiveInvariant start next where
  unique := step_unique inv.unique stepped
  follows := step_follows_plan inv.follows stepped
  sound := step_rotations_sound inv.sound met.1 stepped
  count := fun projectId => Nat.le_trans
    (step_live_keys inv.unique inv.follows inv.sound met.1 met.2 stepped projectId)
    (inv.count projectId)

theorem start_rotations_sound {start : KeyWorld} (starts : KeyStart start) :
    RotationsSound start where
  noCreation := by
    intro caller request point call
    rw [starts.idle caller] at call
    cases call
  noGrace := by
    intro caller request point call
    rw [starts.idle caller] at call
    cases call
  sameProject := by
    intro caller request point existing call
    rw [starts.idle caller] at call
    cases call

/-- Along every run of rotations without a positive grace period, revocations and
soft deletions, in which the transaction of each rotation finds the key it
replaces still live, the view accepts at no point more keys of a project than
before the run. -/
theorem rotation_keeps_live_keys (config : KeyConfig) (start : KeyWorld)
    (starts : KeyStart start) (events : List KeyEvent)
    (rotations : ∀ event ∈ events, isRotationEvent event = true)
    (replaces : Meets (keyStep config) (fun world event => replacesLiveKey world event = true)
      start events)
    (last : KeyWorld) (ran : runFrom (keyStep config) start events = some last)
    (projectId : String) : liveKeys last projectId ≤ liveKeys start projectId := by
  have met := meets_and
    (meets_of_forall_mem (fun event member _ => rotations event member)) replaces
  have inv : LiveInvariant start last :=
    run_preserves_of_meets (LiveInvariant start)
      (fun _ _ _ inv met stepped => step_live_invariant inv met stepped)
      { unique := starts.uniqueIds
        follows := start_follows_plan starts
        sound := start_rotations_sound starts
        count := fun _ => Nat.le_refl _ }
      met ran
  exact inv.count projectId

/-- A plain member rotates a revoked key, and the project has a live key
again. -/
theorem rotation_adds_live_key :
    ¬ ∀ (config : KeyConfig) (start : KeyWorld) (events : List KeyEvent) (last : KeyWorld),
        KeyStart start → (∀ event ∈ events, isRotationEvent event = true) →
        runFrom (keyStep config) start events = some last →
        ∀ projectId, liveKeys last projectId ≤ liveKeys start projectId := by
  intro claimed
  have starts : KeyStart revokedWorld := ⟨by decide, fun _ => rfl⟩
  have reached : reaches (keyStep sampleConfig) revokedWorld (rotateBy 0 "k1" "k2" none)
      (fun world => liveKeys world "p1" == 1) = true := by
    decide +kernel
  obtain ⟨last, ran, found⟩ := exists_of_reaches reached
  have bounded := claimed sampleConfig revokedWorld _ last starts (by decide) ran "p1"
  rw [beq_iff_eq.mp found] at bounded
  revert bounded
  decide +kernel

/-- Two rotations of a key one after the other, the second of the successor,
leave one live key. -/
theorem successive_rotations_one_live_key :
    ∃ last, runFrom (keyStep sampleConfig) sampleWorld
        (rotateBy 0 "k1" "k2" none ++ rotateBy 1 "k2" "k3" (some 0)) = some last ∧
      Valid last.tenancy last.keys "k3" last.clock ∧
      liveKeys last "p1" ≤ liveKeys sampleWorld "p1" := by
  have reached : reaches (keyStep sampleConfig) sampleWorld
      (rotateBy 0 "k1" "k2" none ++ rotateBy 1 "k2" "k3" (some 0))
      (fun world => decide (Valid world.tenancy world.keys "k3" world.clock)) = true := by
    decide +kernel
  obtain ⟨last, ran, valid⟩ := exists_of_reaches reached
  exact ⟨last, ran, of_decide_eq_true valid,
    rotation_keeps_live_keys sampleConfig sampleWorld sample_world_starts _ (by decide)
      (by decide +kernel) last ran "p1"⟩

end LightbridgeAuthz.ApiKeys.LiveKeys
