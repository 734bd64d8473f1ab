import LightbridgeAuthz.Budget.ReviewLock

/-!
# Half-finished approvals

`approve` grants before it records, so a call that fails in between leaves a
pending row with its money already granted. Another `approve` finds the grant
under the same key and finishes the job; `reject` only reads the status. Along
every run in which no rejection records while such a grant is uncompensated, a
request that was refused moved no money.
-/

namespace LightbridgeAuthz.Budget.ReviewRecovery

open Library.EventRun Library.KeyedRows
open Domain GrantLedger Revocation AugmentationRequests
open ServiceWorld ServiceSteps ServiceWrites ReviewLock

set_option autoImplicit false

def Compensated (grants : List BudgetGrant) (grant : BudgetGrant) : Prop :=
  ∃ row ∈ grants, IsCorrectionOf grant row

instance (grants : List BudgetGrant) (grant : BudgetGrant) :
    Decidable (Compensated grants grant) :=
  inferInstanceAs (Decidable (∃ row ∈ grants, _))

/-- Every grant under the approval key of the request is undone. -/
def NoMoneyMoved (db : BudgetDb) (id : String) : Prop :=
  ∀ grant ∈ db.grants, grant.idempotencyKey = some (approvalKey id) →
    Compensated db.grants grant

instance (db : BudgetDb) (id : String) : Decidable (NoMoneyMoved db id) :=
  inferInstanceAs (Decidable (∀ grant ∈ db.grants, _))

/-- A rejection that is about to call `record_review`. -/
def recordingRejection : Call → Option Review
  | .review review (.recordReview _) =>
      match review.action with
      | .reject _ => some review
      | .approve => none
  | _ => none

/-- A rejection about to record finds no approval grant of its request that is
not undone. -/
def RejectsUnpaid (world : World) (event : Event) : Prop :=
  ∀ review ∈ (movingCall world event).bind recordingRejection,
    NoMoneyMoved world.db review.requestId

instance (world : World) (event : Event) : Decidable (RejectsUnpaid world event) :=
  inferInstanceAs (Decidable (∀ review ∈ _, _))

/-- A request refused since `start` has moved no money. -/
def RefusedUnpaid (start world : World) : Prop :=
  ∀ row ∈ world.db.requests, WasPending start row.id → row.status = .denied →
    NoMoneyMoved world.db row.id

theorem compensated_mono {grants more : List BudgetGrant} {grant : BudgetGrant}
    (kept : ∀ row ∈ grants, row ∈ more) (compensated : Compensated grants grant) :
    Compensated more grant := by
  obtain ⟨row, member, undoes⟩ := compensated
  exact ⟨row, kept row member, undoes⟩

theorem step_no_money_moved {lockKey : String → Int64} {world next : World} {event : Event}
    (inv : LockInvariant lockKey world) (reviews : isReviewEvent event = true)
    (outcome : StepOutcome lockKey world event next) {id : String}
    (unpaid : NoMoneyMoved world.db id)
    (notGranting : ∀ caller input review request, event = .advance caller input →
      world.calls caller = some (.review review (.grant request)) → review.requestId ≠ id) :
    NoMoneyMoved next.db id := by
  intro grant member keyed
  apply compensated_mono (grants_kept outcome)
  rcases grant_row_origin outcome member with old | ⟨_, fresh⟩
  · exact unpaid grant old keyed
  · obtain ⟨caller, input, review, request, moves, running, named⟩ :=
      fresh_approval_grant inv reviews fresh keyed
    exact absurd named (notGranting caller input review request moves running)

theorem step_refused_unpaid {lockKey : String → Int64} {start world next : World}
    {event : Event} (inv : LockInvariant lockKey world) (refused : RefusedUnpaid start world)
    (reviews : isReviewEvent event = true) (unpaid : RejectsUnpaid world event)
    (outcome : StepOutcome lockKey world event next) : RefusedUnpaid start next := by
  intro later laterMember wasPending denied
  rcases (step_rows_changed inv.sound outcome).backward later laterMember with
    ⟨row, member, change⟩ | ⟨_, _, _, _, _, running, _⟩
  · cases change with
    | kept =>
        apply step_no_money_moved inv reviews outcome (refused later member wasPending denied)
        intro caller input review request moves running named
        obtain ⟨own, ownMember, ownId, pending⟩ := inv.pending caller review _ running rfl
        have same : own = later :=
          request_eq_of_id inv.sound.requests ownMember member (ownId.trans named)
        rw [same, denied] at pending
        cases pending
    | decided moves running => exact absurd running (inv.reviewsOnly _ _ _)
    | approved moves running named approves pending => cases denied
    | @rejected caller input review grantId reason moves running named rejects pending =>
        apply step_no_money_moved inv reviews outcome
        · have met := unpaid review (by simp [movingCall, moves, running, recordingRejection,
            rejects])
          rw [named] at met
          exact met
        · intro other otherInput otherReview request otherMoves granting
          rw [moves] at otherMoves
          cases otherMoves
          rw [running] at granting
          cases granting
  · exact absurd running (inv.reviewsOnly _ _ _)

/-- From any database at rest, along every run of reviews and revocations that
fail and stop anywhere, if no rejection records while an approval grant of its
request is uncompensated, then every request refused since has moved no
money. -/
theorem refused_request_moved_no_money (lockKey : String → Int64) (start : World)
    (rest : AtRest start) (events : List Event)
    (reviews : ∀ event ∈ events, isReviewEvent event = true)
    (unpaid : Meets (step lockKey) RejectsUnpaid start events) (world : World)
    (ran : runFrom (step lockKey) start events = some world) :
    RefusedUnpaid start world := by
  have refusedAtStart : RefusedUnpaid start start := by
    rintro row member ⟨waiting, waitingMember, waitingId, pending⟩ denied
    have same : waiting = row :=
      request_eq_of_id rest.sound.requests waitingMember member waitingId
    rw [same, denied] at pending
    cases pending
  have reviewing : Meets (step lockKey) (fun _ event => isReviewEvent event = true) start
      events := by
    apply meets_of_forall_mem
    intro event member _
    exact reviews event member
  have kept := run_preserves_of_meets
    (fun current => LockInvariant lockKey current ∧ RefusedUnpaid start current)
    (fun current event next holds condition stepped =>
      ⟨step_lock_invariant holds.1 condition.1 stepped,
        step_refused_unpaid holds.1 holds.2 condition.1 condition.2 (step_outcome stepped)⟩)
    ⟨at_rest_lock_invariant lockKey rest, refusedAtStart⟩ (meets_and reviewing unpaid) ran
  exact kept.2

def stoppedApproval : List Event :=
  [.arrive 0 (.review ⟨"r1", "first", .approve⟩), .advance 0 (plainStep "" 1),
    .advance 0 (plainStep "" 2), .advance 0 (plainStep "g1" 3), .stop 0]

def rejection : List Event :=
  [.arrive 1 (.review ⟨"r1", "second", .reject "too much"⟩), .advance 1 (plainStep "" 5),
    .advance 1 (plainStep "" 6), .advance 1 (plainStep "" 7), .advance 1 (plainStep "" 8),
    .advance 1 (plainStep "" 9)]

/-- The request is rejected after the half-finished approval: it reads as
refused, and the grant stands. -/
theorem stopped_approval_then_rejection :
    ¬ ∀ (lockKey : String → Int64) (start : World) (events : List Event) (world : World),
        AtRest start → (∀ event ∈ events, isReviewEvent event = true) →
        runFrom (step lockKey) start events = some world → RefusedUnpaid start world := by
  intro claimed
  have reached : reaches (step fun _ => 0) pendingWorld (stoppedApproval ++ rejection)
      (fun world => ∃ row ∈ world.db.requests, row.id = "r1" ∧ row.status = .denied ∧
        ¬ NoMoneyMoved world.db row.id) = true := by
    decide +kernel
  obtain ⟨world, ran, found⟩ := exists_of_reaches reached
  obtain ⟨row, member, rowId, denied, moved⟩ := of_decide_eq_true found
  apply moved
  apply claimed (fun _ => 0) pendingWorld (stoppedApproval ++ rejection) world
    pending_world_at_rest (by decide) ran row member _ denied
  exact ⟨pendingRequest, List.mem_singleton.mpr rfl, rowId.symm, rfl⟩

/-- With the left-over grant revoked first, the rejection leaves nothing
behind. -/
theorem revoked_approval_then_rejection :
    ∃ world, runFrom (step fun _ => 0) pendingWorld
        (stoppedApproval ++ .revokeBudgetGrant "admin" "g1" "half-finished" ⟨"g2", 4⟩ ::
          rejection) = some world ∧
      RefusedUnpaid pendingWorld world := by
  have reached : reaches (step fun _ => 0) pendingWorld
      (stoppedApproval ++ .revokeBudgetGrant "admin" "g1" "half-finished" ⟨"g2", 4⟩ ::
        rejection) (fun world => ∃ row ∈ world.db.requests, row.status = .denied) = true := by
    decide +kernel
  obtain ⟨world, ran, _⟩ := exists_of_reaches reached
  refine ⟨world, ran, ?_⟩
  exact refused_request_moved_no_money (fun _ => 0) pendingWorld pending_world_at_rest _
    (by decide) (by decide +kernel) world ran

end LightbridgeAuthz.Budget.ReviewRecovery
