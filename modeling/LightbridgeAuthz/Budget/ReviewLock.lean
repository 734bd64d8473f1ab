import LightbridgeAuthz.Budget.ServiceWrites

/-!
# The review lock

`approve` and `reject` share one advisory lock for each request. A call at a
point inside the lock is its holder, and every holder is such a call, so nobody
else decides the row between a call's `get` and its `record_review`. This holds
with failures and stops at any point, and for any hash of the request ids: two
requests that share a lock only wait for each other.
-/

namespace LightbridgeAuthz.Budget.ReviewLock

open Library.EventRun Library.KeyedRows
open Domain GrantLedger Revocation AugmentationRequests RuleData
open ServiceWorld ServiceSteps ServiceWrites

set_option autoImplicit false

def ReviewPoint.holdsLock : ReviewPoint → Bool
  | .releaseLock _ => true
  | point => ReviewPoint.inside point

/-- Reviews and revocations, with any failures and stops. -/
def isReviewEvent : Event → Bool
  | .arrive _ (.review _) => true
  | .advance _ _ => true
  | .stop _ => true
  | .revokeBudgetGrant _ _ _ _ => true
  | _ => false

structure AtRest (world : World) : Prop where
  sound : TablesSound world.db
  noCalls : ∀ caller, world.calls caller = none
  noLocks : ∀ key, world.locks key = none

/-- The request was waiting for a reviewer in `start`. -/
def WasPending (start : World) (id : String) : Prop :=
  ∃ row ∈ start.db.requests, row.id = id ∧ row.status = .pendingReview

instance (start : World) (id : String) : Decidable (WasPending start id) :=
  inferInstanceAs (Decidable (∃ row ∈ start.db.requests, _))

/-- What the lock is for: its holder is at a point inside it, and the row of a
call that found it pending is still pending. -/
structure LockInvariant (lockKey : String → Int64) (world : World) : Prop where
  sound : TablesSound world.db
  reviewsOnly : ∀ caller request point,
    world.calls caller ≠ some (.refill request point)
  held : ∀ caller review point, world.calls caller = some (.review review point) →
    ReviewPoint.holdsLock point = true →
    world.locks (lockKey review.requestId) = some caller
  owned : ∀ key caller, world.locks key = some caller →
    ∃ review point, world.calls caller = some (.review review point) ∧
      ReviewPoint.holdsLock point = true
  pending : ∀ caller review point, world.calls caller = some (.review review point) →
    ReviewPoint.decides point = true →
    ∃ row ∈ world.db.requests, row.id = review.requestId ∧ row.status = .pendingReview

theorem at_rest_no_call {world : World} (rest : AtRest world) {caller : Nat} {call : Call}
    (running : world.calls caller = some call) : False := by
  rw [rest.noCalls caller] at running
  cases running

theorem at_rest_lock_invariant (lockKey : String → Int64) {world : World}
    (rest : AtRest world) : LockInvariant lockKey world where
  sound := rest.sound
  reviewsOnly := by
    intro caller request point running
    exact at_rest_no_call rest running
  held := by
    intro caller review point running
    exact (at_rest_no_call rest running).elim
  owned := by
    intro key caller locked
    rw [rest.noLocks key] at locked
    cases locked
  pending := by
    intro caller review point running
    exact (at_rest_no_call rest running).elim

theorem decides_holds_lock {point : ReviewPoint} (decides : ReviewPoint.decides point = true) :
    ReviewPoint.holdsLock point = true := by
  cases point with
  | grant request => rfl
  | recordReview grantId => rfl
  | _ => cases decides

theorem inside_holds_lock {point : ReviewPoint} (inside : ReviewPoint.inside point = true) :
    ReviewPoint.holdsLock point = true := by
  cases point with
  | releaseLock result => rfl
  | _ => exact inside

theorem lock_exclusive {lockKey : String → Int64} {world : World}
    (inv : LockInvariant lockKey world) {left right : Nat} {leftReview rightReview : Review}
    {leftPoint rightPoint : ReviewPoint}
    (leftRunning : world.calls left = some (.review leftReview leftPoint))
    (rightRunning : world.calls right = some (.review rightReview rightPoint))
    (leftHolds : ReviewPoint.holdsLock leftPoint = true)
    (rightHolds : ReviewPoint.holdsLock rightPoint = true)
    (same : leftReview.requestId = rightReview.requestId) : left = right := by
  have leftHeld := inv.held left leftReview leftPoint leftRunning leftHolds
  have rightHeld := inv.held right rightReview rightPoint rightRunning rightHolds
  rw [same, rightHeld] at leftHeld
  exact (Option.some.inj leftHeld).symm

theorem set_call_self (calls : Nat → Option Call) (caller : Nat) (entry : Option Call) :
    setCall calls caller entry caller = entry := by
  simp [setCall]

theorem set_call_other {calls : Nat → Option Call} {caller other : Nat} (entry : Option Call)
    (different : other ≠ caller) : setCall calls caller entry other = calls other := by
  simp [setCall, different]

theorem free_locks_other {locks : Int64 → Option Nat} {key : Int64} {caller other : Nat}
    (held : locks key = some other) (different : other ≠ caller) :
    freeLocks locks caller key = some other := by
  simp [freeLocks, held, different]

theorem free_locks_some {locks : Int64 → Option Nat} {key : Int64} {caller other : Nat}
    (held : freeLocks locks caller key = some other) :
    locks key = some other ∧ other ≠ caller := by
  unfold freeLocks at held
  split at held
  · cases held
  · rename_i notCaller
    refine ⟨held, ?_⟩
    intro same
    rw [same] at held
    exact notCaller held

theorem lock_kept {lockKey : String → Int64} {world next : World} {event : Event}
    (outcome : StepOutcome lockKey world event next) {key : Int64} {caller : Nat}
    (held : world.locks key = some caller)
    (still : ∀ input, event ≠ .advance caller input) (notStopped : event ≠ .stop caller) :
    next.locks key = some caller := by
  cases outcome with
  | @locked mover input review running free =>
      have otherKey : key ≠ lockKey review.requestId := by
        intro same
        rw [same, free] at held
        cases held
      simpa [holdLock, otherKey] using held
  | @released mover input review result answer running why =>
      apply free_locks_other held
      intro same
      rw [same] at still
      exact still input rfl
  | @stopped mover call running =>
      apply free_locks_other held
      intro same
      rw [same] at notStopped
      exact notStopped rfl
  | _ => exact held

theorem not_stopped_of_running {lockKey : String → Int64} {world next : World} {event : Event}
    (outcome : StepOutcome lockKey world event next) {caller : Nat} {call : Call}
    (running : next.calls caller = some call) : event ≠ .stop caller := by
  intro stops
  cases outcome with
  | stopped was =>
      cases stops
      simp [setCall] at running
  | _ => cases stops

theorem step_held {lockKey : String → Int64} {world next : World} {event : Event}
    (inv : LockInvariant lockKey world) (outcome : StepOutcome lockKey world event next) :
    ∀ caller review point, next.calls caller = some (.review review point) →
      ReviewPoint.holdsLock point = true →
      next.locks (lockKey review.requestId) = some caller := by
  intro caller review point running holds
  rcases review_after outcome running with
    ⟨was, still⟩ | ⟨_, started⟩ | ⟨before, input, _, was, progress⟩
  · exact lock_kept outcome (inv.held caller review point was holds) still
      (not_stopped_of_running outcome running)
  · rcases start_point started with rfl | rfl <;> cases holds
  · cases progress with
    | worked inside move locks =>
        rw [locks]
        exact inv.held caller review before was (inside_holds_lock inside)
    | locked free db locks =>
        rw [locks]
        simp [holdLock]
    | _ => cases holds

theorem moved_holds_lock {db next : BudgetDb} {review : Review} {input : StepInput}
    {before point : ReviewPoint} (move : ReviewMove db review input before next point) :
    ReviewPoint.holdsLock point = true := by
  cases move <;> rfl

theorem owner_elsewhere {lockKey : String → Int64} {world : World}
    (inv : LockInvariant lockKey world) {key : Int64} {caller mover : Nat}
    (locked : world.locks key = some caller) (entry : Option Call)
    (different : caller ≠ mover) :
    ∃ review point, setCall world.calls mover entry caller = some (.review review point) ∧
      ReviewPoint.holdsLock point = true := by
  rw [set_call_other entry different]
  exact inv.owned key caller locked

theorem owner_not_outside {lockKey : String → Int64} {world : World}
    (inv : LockInvariant lockKey world) {key : Int64} {caller mover : Nat} {review : Review}
    {point : ReviewPoint} (locked : world.locks key = some caller)
    (running : world.calls mover = some (.review review point))
    (outside : ReviewPoint.holdsLock point = false) : caller ≠ mover := by
  intro same
  obtain ⟨owner, ownerPoint, ownerRunning, holds⟩ := inv.owned key caller locked
  rw [same, running] at ownerRunning
  cases ownerRunning
  rw [outside] at holds
  cases holds

theorem step_owned {lockKey : String → Int64} {world next : World} {event : Event}
    (inv : LockInvariant lockKey world) (outcome : StepOutcome lockKey world event next) :
    ∀ key caller, next.locks key = some caller →
      ∃ review point, next.calls caller = some (.review review point) ∧
        ReviewPoint.holdsLock point = true := by
  intro key caller locked
  cases outcome with
  | @arrived arriver operation free =>
      apply owner_elsewhere inv locked
      intro same
      obtain ⟨review, point, running, _⟩ := inv.owned key caller locked
      rw [same, free] at running
      cases running
  | refillMoved running unfinished move =>
      exact absurd running (inv.reviewsOnly _ _ _)
  | @reviewMoved mover input review point later nextDb running inside move =>
      by_cases same : caller = mover
      · rw [same]
        exact ⟨review, later, set_call_self _ _ _, moved_holds_lock move⟩
      · exact owner_elsewhere inv locked _ same
  | reasonRefused running rejects blank =>
      exact owner_elsewhere inv locked _ (owner_not_outside inv locked running rfl)
  | reasonAccepted running =>
      exact owner_elsewhere inv locked _ (owner_not_outside inv locked running rfl)
  | lockFailed running why =>
      exact owner_elsewhere inv locked _ (owner_not_outside inv locked running rfl)
  | @locked mover input review running free =>
      simp only [holdLock] at locked
      split at locked
      · cases locked
        exact ⟨review, .get, set_call_self _ _ _, rfl⟩
      · exact owner_elsewhere inv locked _ (owner_not_outside inv locked running rfl)
  | released running why =>
      obtain ⟨wasLocked, different⟩ := free_locks_some locked
      exact owner_elsewhere inv wasLocked _ different
  | stopped running =>
      obtain ⟨wasLocked, different⟩ := free_locks_some locked
      exact owner_elsewhere inv wasLocked _ different
  | swapped engine => exact inv.owned key caller locked
  | budgetGranted order stamp => exact inv.owned key caller locked
  | budgetRevoked subject grantId reason stamp => exact inv.owned key caller locked

theorem step_reviews_only {lockKey : String → Int64} {world next : World} {event : Event}
    (inv : LockInvariant lockKey world) (reviews : isReviewEvent event = true)
    (outcome : StepOutcome lockKey world event next) :
    ∀ caller request point, next.calls caller ≠ some (.refill request point) := by
  intro caller request point running
  cases outcome with
  | @arrived arriver operation free =>
      rcases set_call_some running with ⟨_, started⟩ | ⟨_, kept⟩
      · cases operation with
        | refill asked => cases reviews
        | review asked =>
            simp only [Operation.start, Option.some.injEq] at started
            split at started <;> cases started
      · exact inv.reviewsOnly caller request point kept
  | refillMoved moving unfinished move => exact inv.reviewsOnly _ _ _ moving
  | swapped engine => exact inv.reviewsOnly caller request point running
  | budgetGranted order stamp => exact inv.reviewsOnly caller request point running
  | budgetRevoked subject grantId reason stamp =>
      exact inv.reviewsOnly caller request point running
  | _ =>
      rcases set_call_some running with ⟨_, moved⟩ | ⟨_, kept⟩
      · cases moved
      · exact inv.reviewsOnly caller request point kept

theorem pending_row_kept {lockKey : String → Int64} {world next : World} {event : Event}
    (inv : LockInvariant lockKey world) (outcome : StepOutcome lockKey world event next)
    {caller : Nat} {review : Review} {point : ReviewPoint}
    (running : world.calls caller = some (.review review point))
    (decides : ReviewPoint.decides point = true)
    (still : ∀ input, event ≠ .advance caller input) :
    ∃ row ∈ next.db.requests, row.id = review.requestId ∧ row.status = .pendingReview := by
  obtain ⟨row, member, rowId, pending⟩ := inv.pending caller review point running decides
  obtain ⟨later, laterMember, change⟩ :=
    (step_rows_changed inv.sound outcome).forward row member
  have holds := decides_holds_lock decides
  cases change with
  | kept => exact ⟨row, laterMember, rowId, pending⟩
  | decided moves deciding => exact absurd deciding (inv.reviewsOnly _ _ _)
  | @approved mover input other grantId moves recording named approves was =>
      have same := lock_exclusive inv recording running rfl holds (named.trans rowId)
      rw [same] at moves
      exact absurd moves (still input)
  | @rejected mover input other grantId reason moves recording named rejects was =>
      have same := lock_exclusive inv recording running rfl holds (named.trans rowId)
      rw [same] at moves
      exact absurd moves (still input)

theorem step_pending {lockKey : String → Int64} {world next : World} {event : Event}
    (inv : LockInvariant lockKey world) (outcome : StepOutcome lockKey world event next) :
    ∀ caller review point, next.calls caller = some (.review review point) →
      ReviewPoint.decides point = true →
      ∃ row ∈ next.db.requests, row.id = review.requestId ∧ row.status = .pendingReview := by
  intro caller review point running decides
  rcases review_after outcome running with
    ⟨was, still⟩ | ⟨_, started⟩ | ⟨before, input, _, was, progress⟩
  · exact pending_row_kept inv outcome was decides still
  · rcases start_point started with rfl | rfl <;> cases decides
  · cases progress with
    | worked inside move locks =>
        generalize next.db = left at move ⊢
        cases move with
        | toGrant stored pending approves =>
            exact ⟨_, (find_key_some stored).1, found_id stored, pending⟩
        | toRecord stored pending rejects =>
            exact ⟨_, (find_key_some stored).1, found_id stored, pending⟩
        | granted ran =>
            rw [(grant_frame ran).1]
            exact inv.pending caller review _ was rfl
        | _ => cases decides
    | _ => cases decides

theorem step_lock_invariant {lockKey : String → Int64} {world next : World} {event : Event}
    (inv : LockInvariant lockKey world) (reviews : isReviewEvent event = true)
    (stepped : step lockKey world event = some next) : LockInvariant lockKey next where
  sound := step_sound inv.sound stepped
  reviewsOnly := step_reviews_only inv reviews (step_outcome stepped)
  held := step_held inv (step_outcome stepped)
  owned := step_owned inv (step_outcome stepped)
  pending := step_pending inv (step_outcome stepped)

/-- Among reviews and revocations, a grant under the approval key of a request is
written only by an approval of it, which found the row pending and holds the
lock. -/
theorem fresh_approval_grant {lockKey : String → Int64} {world : World} {event : Event}
    (inv : LockInvariant lockKey world) (reviews : isReviewEvent event = true)
    {row : BudgetGrant} (fresh : NewGrant world event row) {id : String}
    (keyed : row.idempotencyKey = some (approvalKey id)) :
    ∃ caller input review request, event = .advance caller input ∧
      world.calls caller = some (.review review (.grant request)) ∧ review.requestId = id := by
  cases fresh with
  | refill moves running isRow => exact absurd running (inv.reviewsOnly _ _ _)
  | @review caller input review request moves running isRow =>
      rw [isRow] at keyed
      exact ⟨caller, input, review, request, moves, running,
        approval_key_injective (Option.some.inj keyed)⟩
  | admin moves isRow =>
      rw [moves] at reviews
      cases reviews
  | correction moves isRow =>
      rw [isRow] at keyed
      exact absurd (Option.some.inj keyed) (revoke_key_ne_approval_key _ _)

def pendingRequest : AugmentationRequest :=
  decided engineUnavailable.decompose
    (requestRow
      { budgetAccountId := "acct"
        accountId := "acct"
        projectId := none
        period := ⟨"2026-08", Eq.refl true⟩
        requestedTier := .b15
        requestedAmountMicros := 15000000
        idempotencyKey := none } ⟨"r1", 0⟩)

def pendingWorld : World :=
  { World.initial ["acct"] [] defaultEngine with
    db := { BudgetDb.empty ["acct"] [] with requests := [pendingRequest] } }

theorem pending_world_at_rest : AtRest pendingWorld where
  sound := by
    apply sound_with_requests (empty_tables_sound ["acct"] [])
    have fresh : RequestIntegrity ([] ++ [pendingRequest]) := by
      constructor
      · exact unique_keys_append unique_keys_nil (by simp)
      · exact unique_keys_append unique_keys_nil (by simp)
    exact fresh
  noCalls := fun _ => rfl
  noLocks := fun _ => rfl

end LightbridgeAuthz.Budget.ReviewLock
