import LightbridgeAuthz.ApiKeys.KeyCalls

/-!
# A key's validity over time

Creation, revocation, soft deletion, renaming and rotation without a grace
period never make a key valid at an instant at which it was not. A rotation with
a grace period writes the status `active` and an expiry computed from the row it
read before, whatever the row is by then: this can revive a revoked key or move
an expiry back out. Along every run in which such a rotation finds the row still
active and not given an earlier expiry, validity never widens.
-/

namespace LightbridgeAuthz.ApiKeys.KeyValidity

open Library.EventRun Library.KeyedRows
open Access.Tenancy KeyTable KeyCalls

set_option autoImplicit false

/-- While the project and the account of a key answer as before, the key is
accepted later only at instants at which it was accepted before. -/
def NeverWidens (before after : KeyWorld) : Prop :=
  ∀ id row, findKey keyId before.keys id = some row →
    serves after.tenancy row.projectId = serves before.tenancy row.projectId →
    ∀ instant, after.clock ≤ instant →
      Valid after.tenancy after.keys id instant → Valid before.tenancy before.keys id instant

def Over (world : KeyWorld) (row : ApiKeyRow) : Prop :=
  row.status = .revoked ∨ row.deletedAt.isSome = true ∨
    ∃ expiry, row.expiresAt = some expiry ∧ expiry ≤ world.clock

def graceOnActiveKey (world : KeyWorld) : KeyEvent → Bool
  | .advance caller _ =>
      match world.calls caller with
      | some (.rotate request (.transact existing now _)) =>
          match graceOutcome existing request.input.gracePeriodSeconds now with
          | .ok (.active, _, some graceEnd) =>
              (findKey keyId world.keys request.keyId).all fun row =>
                row.deletedAt.isSome || graceEnd ≤ world.clock ||
                  (row.status == .active && row.expiresAt.all (graceEnd ≤ ·))
          | _ => true
      | _ => true
  | _ => true

/-- From `clock` on the new row of a key is live only where the old one was. -/
def Narrowed (clock : Int) (row later : ApiKeyRow) : Prop :=
  later.projectId = row.projectId ∧
    ∀ instant, clock ≤ instant → live instant later = true → live instant row = true

/-- No key has been lost and none has become valid again. -/
def KeysNarrow (before after : KeyWorld) : Prop :=
  ∀ id row, findKey keyId before.keys id = some row →
    ∃ later, findKey keyId after.keys id = some later ∧ Narrowed after.clock row later

theorem narrowed_refl (clock : Int) (row : ApiKeyRow) : Narrowed clock row row :=
  ⟨rfl, fun _ _ isLive => isLive⟩

theorem live_iff {instant : Int} {row : ApiKeyRow} :
    live instant row = true ↔
      row.status = .active ∧ row.deletedAt = none ∧
        ∀ expiry, row.expiresAt = some expiry → instant < expiry := by
  simp [live, and_assoc, Option.all_eq_true]

theorem keys_narrow_trans {first second third : KeyWorld} (clocks : second.clock ≤ third.clock)
    (front : KeysNarrow first second) (back : KeysNarrow second third) :
    KeysNarrow first third := by
  intro id row found
  obtain ⟨middle, foundMiddle, sameProject, frontLive⟩ := front id row found
  obtain ⟨later, foundLater, sameLater, backLive⟩ := back id middle foundMiddle
  refine ⟨later, foundLater, sameLater.trans sameProject, ?_⟩
  intro instant reached isLive
  exact frontLive instant (Int.le_trans clocks reached) (backLive instant reached isLive)

theorem revoked_narrows (clock : Int) (revokedAt expiresAt : Option Int) (row : ApiKeyRow) :
    Narrowed clock row (withStatus .revoked revokedAt expiresAt row) := by
  refine ⟨rfl, fun instant _ isLive => ?_⟩
  have impossible := (live_iff.mp isLive).1
  cases impossible

theorem with_deleted_narrows (clock : Int) (deletedAt : Int) (row : ApiKeyRow) :
    Narrowed clock row { row with deletedAt := some deletedAt } := by
  refine ⟨rfl, fun instant _ isLive => ?_⟩
  have impossible := (live_iff.mp isLive).2.1
  cases impossible

theorem grace_narrows {clock graceEnd : Int} {row : ApiKeyRow} (revokedAt : Option Int)
    (unchanged : row.deletedAt.isSome = true ∨ graceEnd ≤ clock ∨
      (row.status = .active ∧ row.expiresAt.all (graceEnd ≤ ·) = true)) :
    Narrowed clock row (withStatus .active revokedAt (some graceEnd) row) := by
  refine ⟨rfl, fun instant reached isLive => ?_⟩
  obtain ⟨_, undeleted, unexpired⟩ := live_iff.mp isLive
  have before : instant < graceEnd := unexpired graceEnd rfl
  rcases unchanged with deleted | passed | ⟨active, notEarlier⟩
  · have stillUndeleted : row.deletedAt = none := undeleted
    rw [stillUndeleted] at deleted
    cases deleted
  · omega
  · refine live_iff.mpr ⟨active, undeleted, ?_⟩
    intro expiry isExpiry
    have late : graceEnd ≤ expiry := by simpa [isExpiry] using notEarlier
    omega

section Step

variable {config : KeyConfig} {world next : KeyWorld} {event : KeyEvent}

theorem rotation_narrows (follows : FollowsPlan world) {caller : Nat} {input : IssueInput}
    (kept : graceOnActiveKey world (.advance caller input) = true) {request : RotateRequest}
    {existing : ApiKeyRow} {now : Int} {plan : RotationPlan}
    (call : world.calls caller = some (.rotate request (.transact existing now plan)))
    {row : ApiKeyRow} (found : findKey keyId world.keys request.keyId = some row) :
    Narrowed world.clock row
      (withStatus plan.status plan.revokedAt plan.oldExpiresAt row) := by
  have outcome := (follows caller request existing now plan call).1
  simp only [graceOnActiveKey, call, outcome] at kept
  cases status : plan.status with
  | revoked => exact revoked_narrows world.clock _ _ row
  | active =>
      cases expiry : plan.oldExpiresAt with
      | none =>
          rw [status, expiry] at outcome
          exact absurd outcome (grace_outcome_active_expires existing _ now _)
      | some graceEnd =>
          rw [status, expiry] at kept
          apply grace_narrows
          simpa [found, or_assoc] using kept

theorem step_keys_narrow (follows : FollowsPlan world)
    (kept : graceOnActiveKey world event = true)
    (stepped : keyStep config world event = some next) : KeysNarrow world next := by
  have clocks := step_clock stepped
  intro id row found
  obtain ⟨later, foundLater, sameProject, isLater⟩ :=
    key_change_related (step_change stepped) (Narrowed world.clock) (narrowed_refl world.clock)
      (fun _ _ _ _ _ _ isAdvance call _ target =>
        rotation_narrows follows (isAdvance ▸ kept) call target)
      (revoked_narrows world.clock _ _) (with_deleted_narrows world.clock _)
      (fun _ _ => ⟨rfl, fun _ _ isLive => isLive⟩) found
  refine ⟨later, foundLater, sameProject, ?_⟩
  exact fun instant reached => isLater instant (Int.le_trans clocks reached)

end Step

structure ValidityInvariant (origin world : KeyWorld) : Prop where
  follows : FollowsPlan world
  clocks : origin.clock ≤ world.clock
  narrow : KeysNarrow origin world

theorem step_validity_invariant {config : KeyConfig} {origin world next : KeyWorld}
    {event : KeyEvent} (inv : ValidityInvariant origin world)
    (kept : graceOnActiveKey world event = true)
    (stepped : keyStep config world event = some next) : ValidityInvariant origin next where
  follows := step_follows_plan inv.follows stepped
  clocks := Int.le_trans inv.clocks (step_clock stepped)
  narrow := keys_narrow_trans (step_clock stepped) inv.narrow
    (step_keys_narrow inv.follows kept stepped)

theorem never_widens_of_narrow {before after : KeyWorld} (narrow : KeysNarrow before after) :
    NeverWidens before after := by
  intro id row found sameTenants instant reached valid
  obtain ⟨later, foundLater, accepted⟩ := valid
  obtain ⟨found', isFound, sameProject, isLater⟩ := narrow id row found
  rw [foundLater] at isFound
  cases isFound
  rw [accepts_eq, Bool.and_eq_true] at accepted
  refine ⟨row, found, ?_⟩
  rw [accepts_eq, Bool.and_eq_true, ← sameTenants, ← sameProject]
  exact ⟨isLater instant reached accepted.1, accepted.2⟩

theorem over_stays_over {before after : KeyWorld} (clocks : before.clock ≤ after.clock)
    (narrow : KeysNarrow before after) {id : String} {row : ApiKeyRow}
    (found : findKey keyId before.keys id = some row) (isOver : Over before row) {instant : Int}
    (reached : after.clock ≤ instant) : ¬ Valid after.tenancy after.keys id instant := by
  rintro ⟨later, foundLater, accepted⟩
  obtain ⟨found', isFound, _, isLater⟩ := narrow id row found
  rw [foundLater] at isFound
  cases isFound
  rw [accepts_eq, Bool.and_eq_true] at accepted
  obtain ⟨active, undeleted, unexpired⟩ := live_iff.mp (isLater instant reached accepted.1)
  rcases isOver with revoked | deleted | ⟨expiry, isExpiry, past⟩
  · rw [active] at revoked
    cases revoked
  · rw [undeleted] at deleted
    cases deleted
  · have future := unexpired expiry isExpiry
    omega

/-- Along every run of creations, rotations, revocations, soft deletions and
renamings, in which the transaction of a rotation in grace finds the key active
and not given an earlier expiry, a key is accepted after any number of steps only
at instants at which it was accepted before them, and a key that is revoked,
deleted or expired is never accepted again. -/
theorem key_validity_never_widens (config : KeyConfig) (start : KeyWorld)
    (starts : KeyStart start) (events later : List KeyEvent)
    (kept : Meets (keyStep config) (fun world event => graceOnActiveKey world event = true) start
      (events ++ later))
    (before after : KeyWorld) (ran : runFrom (keyStep config) start events = some before)
    (ranOn : runFrom (keyStep config) before later = some after) :
    NeverWidens before after ∧
      ∀ id row, findKey keyId before.keys id = some row → Over before row →
        ∀ instant, after.clock ≤ instant → ¬ Valid after.tenancy after.keys id instant := by
  obtain ⟨keptFront, keptBack⟩ := meets_append_some kept ran
  have follows : FollowsPlan before :=
    run_preserves FollowsPlan (fun _ _ _ follows stepped => step_follows_plan follows stepped)
      (start_follows_plan starts) ran
  have inv : ValidityInvariant before after :=
    run_preserves_of_meets (ValidityInvariant before)
      (fun _ _ _ inv kept stepped => step_validity_invariant inv kept stepped)
      { follows := follows
        clocks := Int.le_refl _
        narrow := fun id row found => ⟨row, found, narrowed_refl _ row⟩ }
      keptBack ranOn
  refine ⟨never_widens_of_narrow inv.narrow, ?_⟩
  intro id row found isOver instant reached
  exact over_stays_over inv.clocks inv.narrow found isOver reached

/-- The sample key, once its owner has revoked it. -/
def revokedWorld : KeyWorld :=
  { sampleWorld with
    keys := [{ sampleKey with status := .revoked, revokedAt := some 1000000 }] }

/-- A plain member rotates a revoked key with an hour of grace, and the key is
accepted again. -/
theorem grace_revives_revoked_key :
    ¬ ∀ (config : KeyConfig) (start : KeyWorld) (events later : List KeyEvent)
        (before after : KeyWorld), KeyStart start →
        runFrom (keyStep config) start events = some before →
        runFrom (keyStep config) before later = some after → NeverWidens before after := by
  intro claimed
  have revoking : runFrom (keyStep sampleConfig) sampleWorld [.revokeApiKey "owner" "k1"] =
      some revokedWorld := rfl
  have reached : reaches (keyStep sampleConfig) revokedWorld (rotateBy 0 "k1" "k2" (some 3600))
      (fun world => world.clock ≤ 1000000 && serves world.tenancy "p1" &&
        decide (Valid world.tenancy world.keys "k1" 1000000)) = true := by
    decide +kernel
  obtain ⟨after, ran, found⟩ := exists_of_reaches reached
  simp only [Bool.and_eq_true, decide_eq_true_eq] at found
  obtain ⟨⟨clock, serving⟩, valid⟩ := found
  have widened := claimed sampleConfig sampleWorld _ _ revokedWorld after sample_world_starts
    revoking ran "k1" _ rfl
  have stillValid := widened (serving.trans (by decide)) 1000000 clock valid
  revert stillValid
  decide

/-- A rotation in grace of an active key: the old key stays valid for the hour,
and its revocation is final. -/
theorem grace_on_active_key_ends :
    ∃ after, runFrom (keyStep sampleConfig) sampleWorld
        (rotateBy 0 "k1" "k2" (some 3600) ++ [.revokeApiKey "owner" "k1", .tick 1]) = some after ∧
      Valid after.tenancy after.keys "k2" after.clock ∧ NeverWidens sampleWorld after := by
  have reached : reaches (keyStep sampleConfig) sampleWorld
      (rotateBy 0 "k1" "k2" (some 3600) ++ [.revokeApiKey "owner" "k1", .tick 1])
      (fun world => decide (Valid world.tenancy world.keys "k2" world.clock)) = true := by
    decide +kernel
  obtain ⟨after, ran, valid⟩ := exists_of_reaches reached
  have kept : Meets (keyStep sampleConfig)
      (fun world event => graceOnActiveKey world event = true) sampleWorld
      ([] ++ (rotateBy 0 "k1" "k2" (some 3600) ++ [.revokeApiKey "owner" "k1", .tick 1])) := by
    decide +kernel
  exact ⟨after, ran, of_decide_eq_true valid,
    (key_validity_never_widens sampleConfig sampleWorld sample_world_starts [] _ kept sampleWorld
      after rfl ran).1⟩

end LightbridgeAuthz.ApiKeys.KeyValidity
