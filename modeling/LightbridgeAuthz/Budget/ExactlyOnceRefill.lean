import LightbridgeAuthz.Budget.IdempotencyKeys

/-!
# Exactly-once refills

All calls that carry one idempotency key share one request row. The look-up, the
insert, the evaluation and the unguarded `record_decision` are separate
statements, so a second call that passed the look-up before the row existed
evaluates again and overwrites what the first one recorded. Along every run in
which no call of the key finds the row already there when it inserts, the row is
paid at most once and an automatic approval is final.
-/

namespace LightbridgeAuthz.Budget.ExactlyOnceRefill

open Library.EventRun Library.KeyedRows
open Domain GrantLedger LedgerReplay Revocation AugmentationRequests RuleData
open ServiceWorld ServiceSteps ServiceWrites IdempotencyKeys

set_option autoImplicit false

/-- A grant written on behalf of a request row: the self-service grant under the
row's own key, or the manual approval under the key derived from its id. -/
def PaysRequest (request : AugmentationRequest) (row : BudgetGrant) : Prop :=
  (row.source = .selfService ∧ row.idempotencyKey = request.idempotencyKey) ∨
    (row.source = .manualApproval ∧ row.idempotencyKey = some (approvalKey request.id))

instance (request : AugmentationRequest) (row : BudgetGrant) :
    Decidable (PaysRequest request row) :=
  inferInstanceAs (Decidable (_ ∨ _))

/-- What exactly-once means for a run that started in `start`: the row of the key
is paid at most once, and after an automatic approval it never changes again. -/
def ExactlyOnce (lockKey : String → Int64) (start : World) (key : String)
    (events : List Event) (world : World) : Prop :=
  (∀ request ∈ world.db.requests, request.idempotencyKey = some key →
    world.db.grants.countP (fun row => PaysRequest request row) ≤ 1) ∧
  ∀ before after middle, events = before ++ after →
    runFrom (step lockKey) start before = some middle →
    ∀ request ∈ middle.db.requests, request.idempotencyKey = some key →
      (request.status = .autoApproved ∨ request.status = .partiallyApproved) →
      request.grantId ≠ none →
      request ∈ world.db.requests ∧
        ∀ later ∈ world.db.requests, later.id = request.id → later = request

def creatingRefill : Call → Option RefillRequest
  | .refill request (.create _) => some request
  | _ => none

/-- A call of the key that is about to insert does not find the row there. -/
def CreatesFreshRow (key : String) (world : World) (event : Event) : Prop :=
  ∀ request ∈ (movingCall world event).bind creatingRefill,
    request.idempotencyKey = some key →
      ∀ row ∈ world.db.requests, row.idempotencyKey ≠ some key

instance (key : String) (world : World) (event : Event) :
    Decidable (CreatesFreshRow key world event) :=
  inferInstanceAs (Decidable (∀ request ∈ _, _))

/-- A refill of the key that works on the row, and where it stands. -/
def WorksOnRow (key : String) (world : World) (caller : Nat) (point : RefillPoint)
    (id : String) : Prop :=
  ∃ request, world.calls caller = some (.refill request point) ∧
    createdId point = some id ∧ request.idempotencyKey = some key

def SelfPaid (key : String) (db : BudgetDb) : Prop :=
  ∃ row ∈ db.grants, row.source = .selfService ∧ row.idempotencyKey = some key

/-- The statuses of a row that its own refill may have paid. -/
def SelfServiceStatus (status : AugmentationStatus) : Prop :=
  status = .created ∨ status = .autoApproved ∨ status = .partiallyApproved

def ReviewStatus (status : AugmentationStatus) : Prop :=
  status = .pendingReview ∨ status = .approved ∨ status = .denied

/-- The row exists, and if it is the row of the key it went to review. -/
def WentToReview (key : String) (db : BudgetDb) (id : String) : Prop :=
  ∃ row ∈ db.requests, row.id = id ∧
    (row.idempotencyKey = some key → ReviewStatus row.status)

/-- The invariant. Its first half says that one call at a time works on the row
and that the row is then still undecided; its second half keeps the two ways
to pay apart by the row's status. -/
structure OnceInvariant (key : String) (world : World) : Prop where
  backed : RefillsBacked world
  sole : ∀ left right leftPoint rightPoint leftId rightId,
    WorksOnRow key world left leftPoint leftId →
    WorksOnRow key world right rightPoint rightId → left = right
  undecided : ∀ caller point id, WorksOnRow key world caller point id →
    ∀ row ∈ world.db.requests, row.id = id → row.status = .created
  selfPaid : SelfPaid key world.db →
    ∃ row ∈ world.db.requests, row.idempotencyKey = some key ∧ SelfServiceStatus row.status
  selfPaidCall : SelfPaid key world.db → ∀ caller point id,
    WorksOnRow key world caller point id →
    ∃ decision, point = .recordDecision id decision ∧
      SelfServiceStatus decision.decompose.status
  reviewing : ∀ caller review point,
    world.calls caller = some (.review review point) → ReviewPoint.decides point = true →
    WentToReview key world.db review.requestId
  reviewPaid : ∀ row ∈ world.db.grants, row.source = .manualApproval →
    ∀ id, row.idempotencyKey = some (approvalKey id) → WentToReview key world.db id

theorem review_status_excludes {status : AugmentationStatus} (review : ReviewStatus status)
    (selfService : SelfServiceStatus status) : False := by
  rcases review with isReview | isReview | isReview <;>
    rcases selfService with isSelf | isSelf | isSelf <;>
      rw [isReview] at isSelf <;> cases isSelf

theorem works_after {key : String} {lockKey : String → Int64} {world next : World}
    {event : Event} (outcome : StepOutcome lockKey world event next) {caller : Nat}
    {point : RefillPoint} {id : String} (works : WorksOnRow key next caller point id) :
    (WorksOnRow key world caller point id ∧ ∀ input, event ≠ .advance caller input) ∨
      (∃ before request input, WorksOnRow key world caller before id ∧
        event = .advance caller input ∧
        world.calls caller = some (.refill request before) ∧
        RefillMove world.engine world.db request input before next.db point) ∨
      ∃ request input requestedTier row, event = .advance caller input ∧
        world.calls caller = some (.refill request (.create requestedTier)) ∧
        request.idempotencyKey = some key ∧ row.id = id ∧
        create world.db (newRequest request requestedTier) input.stamp =
          (next.db, .ok row) := by
  obtain ⟨request, running, created, keyed⟩ := works
  rcases refill_after outcome running with
    ⟨kept, still⟩ | ⟨started, _⟩ | ⟨before, input, moves, was, move⟩
  · exact Or.inl ⟨⟨request, kept, created, keyed⟩, still⟩
  · rw [started] at created
    cases created
  · right
    rcases move_created_id move created with wasCreated | ⟨requestedTier, row, atCreate, rowId, ran⟩
    · exact Or.inl ⟨before, request, input, ⟨request, was, wasCreated, keyed⟩, moves, was, move⟩
    · rw [atCreate] at was
      exact Or.inr ⟨request, input, requestedTier, row, moves, was, keyed, rowId, ran⟩

theorem works_on_keyed_row {key : String} {world : World} (backed : RefillsBacked world)
    {caller : Nat} {point : RefillPoint} {id : String}
    (works : WorksOnRow key world caller point id) :
    ∃ row ∈ world.db.requests, row.id = id ∧ row.idempotencyKey = some key := by
  obtain ⟨request, running, created, keyed⟩ := works
  obtain ⟨row, member, rowId, backs⟩ :=
    (backed.2 caller request point running).created id created
  exact ⟨row, member, rowId, backs.key.trans keyed⟩

theorem decider_works_on_row {key : String} {world : World} (backed : RefillsBacked world)
    {caller : Nat} {request : RefillRequest} {decision : RecordedDecision}
    {row : AugmentationRequest} (member : row ∈ world.db.requests)
    (keyed : row.idempotencyKey = some key)
    (running : world.calls caller = some (.refill request (.recordDecision row.id decision))) :
    WorksOnRow key world caller (.recordDecision row.id decision) row.id := by
  obtain ⟨own, ownMember, ownId, backs⟩ :=
    (backed.2 caller request _ running).created row.id rfl
  have same : own = row :=
    request_eq_of_id backed.1.requests ownMember member ownId
  rw [same] at backs
  exact ⟨request, running, rfl, backs.key.symm.trans keyed⟩

theorem creates_fresh {key : String} {world : World} {event : Event}
    (fresh : CreatesFreshRow key world event) {caller : Nat} {input : StepInput}
    {request : RefillRequest} {requestedTier : BudgetTier}
    (moves : event = .advance caller input)
    (running : world.calls caller = some (.refill request (.create requestedTier)))
    (keyed : request.idempotencyKey = some key) :
    ∀ row ∈ world.db.requests, row.idempotencyKey ≠ some key := by
  apply fresh request _ keyed
  simp [movingCall, moves, running, creatingRefill]

theorem step_sole {key : String} {lockKey : String → Int64} {world next : World}
    {event : Event} (inv : OnceInvariant key world) (fresh : CreatesFreshRow key world event)
    (outcome : StepOutcome lockKey world event next) :
    ∀ left right leftPoint rightPoint leftId rightId,
      WorksOnRow key next left leftPoint leftId →
      WorksOnRow key next right rightPoint rightId → left = right := by
  intro left right leftPoint rightPoint leftId rightId worksLeft worksRight
  have before : ∀ {caller point id}, WorksOnRow key next caller point id →
      (∃ before, WorksOnRow key world caller before id) ∨
        (∃ input, event = .advance caller input) ∧
          ∀ row ∈ world.db.requests, row.idempotencyKey ≠ some key := by
    intro caller point id works
    rcases works_after outcome works with
      ⟨was, _⟩ | ⟨earlier, _, _, was, _⟩ | ⟨request, input, _, _, moves, running, keyed, _⟩
    · exact Or.inl ⟨point, was⟩
    · exact Or.inl ⟨earlier, was⟩
    · exact Or.inr ⟨⟨input, moves⟩, creates_fresh fresh moves running keyed⟩
  rcases before worksLeft with ⟨leftBefore, wasLeft⟩ | ⟨⟨leftInput, leftMoves⟩, noRow⟩
  · rcases before worksRight with ⟨rightBefore, wasRight⟩ | ⟨_, noRow⟩
    · exact inv.sole _ _ _ _ _ _ wasLeft wasRight
    · obtain ⟨row, member, _, keyed⟩ := works_on_keyed_row inv.backed wasLeft
      exact absurd keyed (noRow row member)
  · rcases before worksRight with ⟨rightBefore, wasRight⟩ | ⟨⟨rightInput, rightMoves⟩, _⟩
    · obtain ⟨row, member, _, keyed⟩ := works_on_keyed_row inv.backed wasRight
      exact absurd keyed (noRow row member)
    · rw [leftMoves] at rightMoves
      cases rightMoves
      rfl

theorem works_not_deciding {key : String} {lockKey : String → Int64} {world next : World}
    {event : Event} (outcome : StepOutcome lockKey world event next) {caller : Nat}
    {point : RefillPoint} {id other : String} {input : StepInput} {request : RefillRequest}
    {decision : RecordedDecision} (works : WorksOnRow key next caller point id)
    (moves : event = .advance caller input)
    (deciding : world.calls caller =
      some (.refill request (.recordDecision other decision))) : False := by
  obtain ⟨ownRequest, running, created, _⟩ := works
  rcases refill_after outcome running with
    ⟨_, still⟩ | ⟨started, _⟩ | ⟨before, ownInput, _, was, move⟩
  · exact still input moves
  · rw [started] at created
    cases created
  · rw [deciding] at was
    cases was
    generalize next.db = left at move
    cases move <;> cases created

theorem worked_row_unchanged {key : String} {world : World} {event : Event}
    (inv : OnceInvariant key world) {caller : Nat} {point : RefillPoint} {id : String}
    (works : WorksOnRow key world caller point id)
    (notDeciding : ∀ input request decision, event = .advance caller input →
      world.calls caller ≠ some (.refill request (.recordDecision id decision)))
    {row later : AugmentationRequest} (member : row ∈ world.db.requests) (rowId : row.id = id)
    (change : RowChange world event row later) : later = row := by
  have created := inv.undecided caller point id works row member rowId
  cases change with
  | kept => rfl
  | @decided decider input request decision moves running =>
      obtain ⟨own, ownMember, ownId, keyed⟩ := works_on_keyed_row inv.backed works
      have same : own = row :=
        request_eq_of_id inv.backed.1.requests ownMember member (ownId.trans rowId.symm)
      rw [same] at keyed
      have decides := decider_works_on_row inv.backed member keyed running
      have isCaller := inv.sole _ _ _ _ _ _ decides works
      rw [isCaller] at moves running
      rw [rowId] at running
      exact absurd running (notDeciding input request decision moves)
  | approved moves running named approves pending =>
      rw [created] at pending
      cases pending
  | rejected moves running named rejects pending =>
      rw [created] at pending
      cases pending

theorem step_undecided {key : String} {lockKey : String → Int64} {world next : World}
    {event : Event} (inv : OnceInvariant key world) (fresh : CreatesFreshRow key world event)
    (outcome : StepOutcome lockKey world event next) :
    ∀ caller point id, WorksOnRow key next caller point id →
      ∀ row ∈ next.db.requests, row.id = id → row.status = .created := by
  intro caller point id works row member rowId
  have notDeciding : ∀ input request decision, event = .advance caller input →
      world.calls caller ≠ some (.refill request (.recordDecision id decision)) := by
    intro input request decision moves deciding
    exact works_not_deciding outcome works moves deciding
  have kept : ∀ before, WorksOnRow key world caller before id → row.status = .created := by
    intro before was
    rcases (step_rows_changed inv.backed.1 outcome).backward row member with
      ⟨old, oldMember, change⟩ | ⟨_, _, _, _, _, _, isRow, freshId, _⟩
    · have oldId : old.id = id := (row_change_same_origin change).id.symm.trans rowId
      rw [worked_row_unchanged inv was notDeciding oldMember oldId change]
      exact inv.undecided caller before id was old oldMember oldId
    · rw [isRow]
      rfl
  rcases works_after outcome works with
    ⟨was, _⟩ | ⟨before, _, _, was, _⟩ |
      ⟨request, input, requestedTier, created, moves, running, keyed, createdId, ran⟩
  · exact kept point was
  · exact kept before was
  · have noRow := creates_fresh fresh moves running keyed
    rcases (step_rows_changed inv.backed.1 outcome).backward row member with
      ⟨old, oldMember, change⟩ | ⟨_, _, _, _, _, _, isRow, _⟩
    · generalize next.db = left at ran
      cases create_outcome ran with
      | found otherKeyed stored =>
          obtain ⟨foundMember, foundKey⟩ := find_key_some stored
          exact absurd (foundKey.trans (otherKeyed.symm.trans keyed)) (noRow _ foundMember)
      | inserted freshKey freshId =>
          have oldId := (row_change_same_origin change).id
          exact absurd (oldId.symm.trans (rowId.trans createdId.symm)) (freshId old oldMember)
    · rw [isRow]
      rfl

theorem fresh_self_grant_works {key : String} {world : World} {event : Event}
    {row : BudgetGrant} (fresh : NewGrant world event row)
    (selfService : row.source = .selfService) (keyed : row.idempotencyKey = some key) :
    ∃ caller input createdId facts decision, event = .advance caller input ∧
      WorksOnRow key world caller (.grant createdId facts decision) createdId := by
  cases fresh with
  | @refill caller input request createdId facts decision moves running isRow =>
      rw [isRow] at keyed
      exact ⟨caller, input, createdId, facts, decision, moves, request, running, rfl, keyed⟩
  | review moves running isRow =>
      rw [isRow] at selfService
      cases selfService
  | admin moves isRow =>
      rw [isRow] at selfService
      cases selfService
  | correction moves isRow =>
      rw [isRow] at selfService
      cases selfService

theorem self_paid_before {key : String} {lockKey : String → Int64} {world next : World}
    {event : Event} (outcome : StepOutcome lockKey world event next)
    (paid : SelfPaid key next.db) :
    SelfPaid key world.db ∨
      (next.db.requests = world.db.requests ∧
        ∃ caller input createdId facts decision, event = .advance caller input ∧
          WorksOnRow key world caller (.grant createdId facts decision) createdId) := by
  obtain ⟨row, member, selfService, keyed⟩ := paid
  rcases grant_row_origin outcome member with old | ⟨same, fresh⟩
  · exact Or.inl ⟨row, old, selfService, keyed⟩
  · exact Or.inr ⟨same, fresh_self_grant_works fresh selfService keyed⟩

theorem step_self_paid {key : String} {lockKey : String → Int64} {world next : World}
    {event : Event} (inv : OnceInvariant key world)
    (outcome : StepOutcome lockKey world event next) (paid : SelfPaid key next.db) :
    ∃ row ∈ next.db.requests,
      row.idempotencyKey = some key ∧ SelfServiceStatus row.status := by
  rcases self_paid_before outcome paid with
    before | ⟨same, caller, input, createdId, facts, decision, moves, works⟩
  · obtain ⟨row, member, keyed, status⟩ := inv.selfPaid before
    obtain ⟨later, laterMember, change⟩ :=
      (step_rows_changed inv.backed.1 outcome).forward row member
    refine ⟨later, laterMember,
      (row_change_same_origin change).idempotencyKey.trans keyed, ?_⟩
    cases change with
    | kept => exact status
    | decided moves running =>
        have works := decider_works_on_row inv.backed member keyed running
        obtain ⟨decision, atPoint, recorded⟩ := inv.selfPaidCall before _ _ _ works
        cases atPoint
        exact recorded
    | approved moves running named approves pending =>
        exact absurd status (review_status_excludes (Or.inl pending))
    | rejected moves running named rejects pending =>
        exact absurd status (review_status_excludes (Or.inl pending))
  · obtain ⟨row, member, rowId, keyed⟩ := works_on_keyed_row inv.backed works
    rw [same]
    exact ⟨row, member, keyed, Or.inl (inv.undecided _ _ _ works row member rowId)⟩

theorem approval_self_service_status (decision : Decision) (grantId : String) :
    SelfServiceStatus (approval decision grantId).decompose.status := by
  unfold approval
  split
  · exact Or.inr (Or.inl rfl)
  · exact Or.inr (Or.inr rfl)

theorem step_self_paid_call {key : String} {lockKey : String → Int64} {world next : World}
    {event : Event} (inv : OnceInvariant key world) (fresh : CreatesFreshRow key world event)
    (outcome : StepOutcome lockKey world event next) (paid : SelfPaid key next.db) :
    ∀ caller point id, WorksOnRow key next caller point id →
      ∃ decision, point = .recordDecision id decision ∧
        SelfServiceStatus decision.decompose.status := by
  intro caller point id works
  rcases works_after outcome works with
    ⟨was, still⟩ | ⟨before, request, input, was, moves, running, move⟩ |
      ⟨request, input, _, _, moves, running, keyed, _⟩
  · rcases self_paid_before outcome paid with
      earlier | ⟨_, payer, payerInput, _, _, _, payerMoves, payerWorks⟩
    · exact inv.selfPaidCall earlier caller point id was
    · rw [inv.sole _ _ _ _ _ _ payerWorks was] at payerMoves
      exact absurd payerMoves (still payerInput)
  · rcases self_paid_before outcome paid with
      earlier | ⟨_, payer, payerInput, payerId, facts, decision, payerMoves, payerWorks⟩
    · obtain ⟨decision, atPoint, _⟩ := inv.selfPaidCall earlier caller before id was
      rw [atPoint] at running
      exact (works_not_deciding outcome works moves running).elim
    · have isPayer := inv.sole _ _ _ _ _ _ payerWorks was
      obtain ⟨payerRequest, payerRunning, _⟩ := payerWorks
      rw [isPayer, running] at payerRunning
      cases payerRunning
      obtain ⟨ownRequest, ownRunning, created, _⟩ := works
      generalize next.db = left at move
      cases move with
      | granted ran =>
          cases created
          exact ⟨_, rfl, approval_self_service_status _ _⟩
      | grantFailed left => cases created
      | failed error => cases created
  · have noRow := creates_fresh fresh moves running keyed
    rcases self_paid_before outcome paid with
      earlier | ⟨_, _, _, _, _, _, _, payerWorks⟩
    · obtain ⟨row, member, rowKey, _⟩ := inv.selfPaid earlier
      exact absurd rowKey (noRow row member)
    · obtain ⟨row, member, _, rowKey⟩ := works_on_keyed_row inv.backed payerWorks
      exact absurd rowKey (noRow row member)

theorem step_went_to_review {key : String} {lockKey : String → Int64} {world next : World}
    {event : Event} (inv : OnceInvariant key world)
    (outcome : StepOutcome lockKey world event next) {id : String}
    (went : WentToReview key world.db id) : WentToReview key next.db id := by
  obtain ⟨row, member, rowId, status⟩ := went
  obtain ⟨later, laterMember, change⟩ :=
    (step_rows_changed inv.backed.1 outcome).forward row member
  refine ⟨later, laterMember, (row_change_same_origin change).id.trans rowId, ?_⟩
  intro laterKey
  have keyed := (row_change_same_origin change).idempotencyKey.symm.trans laterKey
  cases change with
  | kept => exact status laterKey
  | decided moves running =>
      have works := decider_works_on_row inv.backed member keyed running
      have created := inv.undecided _ _ _ works row member rfl
      exact absurd (Or.inl created) (review_status_excludes (status keyed))
  | approved moves running named approves pending => exact Or.inr (Or.inl rfl)
  | rejected moves running named rejects pending => exact Or.inr (Or.inr rfl)

theorem went_to_review_of_pending {key : String} {db : BudgetDb} {id : String}
    {row : AugmentationRequest} (stored : findKey requestId db.requests id = some row)
    (pending : row.status = .pendingReview) : WentToReview key db id :=
  ⟨row, (find_key_some stored).1, found_id stored, fun _ => Or.inl pending⟩

theorem step_reviewing {key : String} {lockKey : String → Int64} {world next : World}
    {event : Event} (inv : OnceInvariant key world)
    (outcome : StepOutcome lockKey world event next) :
    ∀ caller review point, next.calls caller = some (.review review point) →
      ReviewPoint.decides point = true → WentToReview key next.db review.requestId := by
  intro caller review point running decides
  apply step_went_to_review inv outcome
  rcases review_after outcome running with
    ⟨was, _⟩ | ⟨_, started⟩ | ⟨before, input, _, was, progress⟩
  · exact inv.reviewing caller review point was decides
  · rcases start_point started with rfl | rfl <;> cases decides
  · cases progress with
    | worked inside move locks =>
        generalize next.db = left at move
        cases move with
        | toGrant stored pending approves => exact went_to_review_of_pending stored pending
        | toRecord stored pending rejects => exact went_to_review_of_pending stored pending
        | granted ran => exact inv.reviewing caller review _ was rfl
        | _ => cases decides
    | _ => cases decides

theorem step_review_paid {key : String} {lockKey : String → Int64} {world next : World}
    {event : Event} (inv : OnceInvariant key world)
    (outcome : StepOutcome lockKey world event next) :
    ∀ row ∈ next.db.grants, row.source = .manualApproval →
      ∀ id, row.idempotencyKey = some (approvalKey id) → WentToReview key next.db id := by
  intro row member manual id keyed
  apply step_went_to_review inv outcome
  rcases grant_row_origin outcome member with old | ⟨_, fresh⟩
  · exact inv.reviewPaid row old manual id keyed
  · cases fresh with
    | @review caller input review request moves running isRow =>
        rw [isRow] at keyed
        have named := approval_key_injective (Option.some.inj keyed)
        rw [← named]
        exact inv.reviewing caller review _ running rfl
    | refill moves running isRow =>
        rw [isRow] at manual
        cases manual
    | admin moves isRow =>
        rw [isRow] at manual
        cases manual
    | correction moves isRow =>
        rw [isRow] at manual
        cases manual

theorem step_once_invariant {key : String} {lockKey : String → Int64} {world next : World}
    {event : Event} (inv : OnceInvariant key world) (fresh : CreatesFreshRow key world event)
    (stepped : step lockKey world event = some next) : OnceInvariant key next where
  backed := step_refills_backed inv.backed stepped
  sole := step_sole inv fresh (step_outcome stepped)
  undecided := step_undecided inv fresh (step_outcome stepped)
  selfPaid := step_self_paid inv (step_outcome stepped)
  selfPaidCall := step_self_paid_call inv fresh (step_outcome stepped)
  reviewing := step_reviewing inv (step_outcome stepped)
  reviewPaid := step_review_paid inv (step_outcome stepped)

theorem initial_once_invariant (key : String) (accounts projects : List String)
    (engine : PolicyEngine) : OnceInvariant key (World.initial accounts projects engine) where
  backed := initial_refills_backed accounts projects engine
  sole := by
    intro left right leftPoint rightPoint leftId rightId works
    obtain ⟨request, running, _⟩ := works
    cases running
  undecided := by
    intro caller point id works row member
    cases member
  selfPaid := by
    intro paid
    obtain ⟨row, member, _⟩ := paid
    cases member
  selfPaidCall := by
    intro paid
    obtain ⟨row, member, _⟩ := paid
    cases member
  reviewing := by
    intro caller review point running
    cases running
  reviewPaid := by
    intro row member
    cases member

theorem paid_at_most_once {key : String} {world : World} (inv : OnceInvariant key world)
    {request : AugmentationRequest} (member : request ∈ world.db.requests)
    (keyed : request.idempotencyKey = some key) :
    world.db.grants.countP (fun row => PaysRequest request row) ≤ 1 := by
  have oneOf : ∃ value, ∀ row ∈ world.db.grants, PaysRequest request row →
      row.idempotencyKey = some value := by
    by_cases paid : SelfPaid key world.db
    · refine ⟨key, ?_⟩
      rintro row rowMember (⟨_, rowKey⟩ | ⟨manual, rowKey⟩)
      · exact rowKey.trans keyed
      · obtain ⟨self, selfMember, selfKey, selfStatus⟩ := inv.selfPaid paid
        obtain ⟨sent, sentMember, sentId, sentStatus⟩ :=
          inv.reviewPaid row rowMember manual request.id rowKey
        have isSelf : self = request :=
          unique_keys_eq inv.backed.1.requests.uniqueIdempotencyKeys selfMember member selfKey
            keyed
        have isSent : sent = request :=
          request_eq_of_id inv.backed.1.requests sentMember member sentId
        rw [isSelf] at selfStatus
        rw [isSent] at sentStatus
        exact absurd selfStatus (review_status_excludes (sentStatus keyed))
    · refine ⟨approvalKey request.id, ?_⟩
      rintro row rowMember (⟨selfService, rowKey⟩ | ⟨_, rowKey⟩)
      · exact absurd ⟨row, rowMember, selfService, rowKey.trans keyed⟩ paid
      · exact rowKey
  obtain ⟨value, sameKey⟩ := oneOf
  have single : world.db.grants.countP (fun row => row.idempotencyKey = some value) ≤ 1 := by
    apply count_le_one_of_unique inv.backed.1.ledger.uniqueIdempotencyKeys
    intro row holds
    exact of_decide_eq_true holds
  refine Nat.le_trans ?_ single
  apply List.countP_mono_left
  intro row rowMember pays
  exact decide_eq_true (sameKey row rowMember (of_decide_eq_true pays))

theorem approved_row_kept {key : String} {lockKey : String → Int64} {world next : World}
    {event : Event} (inv : OnceInvariant key world)
    (outcome : StepOutcome lockKey world event next) {row : AugmentationRequest}
    (member : row ∈ world.db.requests) (keyed : row.idempotencyKey = some key)
    (automatic : row.status = .autoApproved ∨ row.status = .partiallyApproved) :
    row ∈ next.db.requests := by
  obtain ⟨later, laterMember, change⟩ :=
    (step_rows_changed inv.backed.1 outcome).forward row member
  cases change with
  | kept => exact laterMember
  | decided moves running =>
      have works := decider_works_on_row inv.backed member keyed running
      have created := inv.undecided _ _ _ works row member rfl
      rw [created] at automatic
      simp at automatic
  | approved moves running named approves pending =>
      rw [pending] at automatic
      simp at automatic
  | rejected moves running named rejects pending =>
      rw [pending] at automatic
      simp at automatic

/-- Along every run in which no call of the key finds the row already there when
it inserts, whatever else is interleaved, the row of the key is paid at most
once and an automatic approval is final. -/
theorem refill_exactly_once (lockKey : String → Int64) (accounts projects : List String)
    (engine : PolicyEngine) (key : String) (events : List Event)
    (fresh : Meets (step lockKey) (CreatesFreshRow key)
      (World.initial accounts projects engine) events)
    (world : World)
    (ran : runFrom (step lockKey) (World.initial accounts projects engine) events =
      some world) :
    ExactlyOnce lockKey (World.initial accounts projects engine) key events world := by
  have preserve : ∀ current event next, OnceInvariant key current →
      CreatesFreshRow key current event → step lockKey current event = some next →
      OnceInvariant key next := by
    intro current event next inv fresh stepped
    exact step_once_invariant inv fresh stepped
  have start := initial_once_invariant key accounts projects engine
  constructor
  · have inv := run_preserves_of_meets (OnceInvariant key) preserve start fresh ran
    intro request member keyed
    exact paid_at_most_once inv member keyed
  · intro before after middle split reached request member keyed automatic _
    rw [split] at fresh ran
    obtain ⟨front, back⟩ := meets_append_some fresh reached
    obtain ⟨midpoint, sameReached, tail⟩ := run_append_some ran
    rw [reached, Option.some.injEq] at sameReached
    rw [← sameReached] at tail
    have atMiddle := run_preserves_of_meets (OnceInvariant key) preserve start front reached
    have atEnd := run_preserves_of_meets
      (fun current => OnceInvariant key current ∧ request ∈ current.db.requests)
      (fun current event next holds fresh stepped =>
        ⟨preserve current event next holds.1 fresh stepped,
          approved_row_kept holds.1 (step_outcome stepped) holds.2 keyed automatic⟩)
      ⟨atMiddle, member⟩ back tail
    refine ⟨atEnd.2, ?_⟩
    intro later laterMember sameId
    exact request_eq_of_id atEnd.1.backed.1.requests laterMember atEnd.2 sameId

/-- A call taking `count` steps in which nothing fails. -/
def advances (caller count : Nat) (id : String) : List Event :=
  List.replicate count (.advance caller (plainStep id 1))

/-- After a refill without a key, two calls of the key look for its row before it
exists. The first is approved; the second finds the allowance used up and sends
the row to review, where it is approved once more. -/
def reopenedRun : List Event :=
  .arrive 0 (.refill { keyedRefill "acct" with idempotencyKey := none }) ::
    advances 0 10 "first" ++
  [.arrive 1 (.refill (keyedRefill "acct")), .arrive 2 (.refill (keyedRefill "acct"))] ++
  advances 1 1 "" ++ advances 2 1 "" ++ advances 1 9 "second" ++ advances 2 8 "third" ++
  .arrive 3 (.review ⟨"second", "reviewer", .approve⟩) :: advances 3 5 "fourth"

/-- Two concurrent calls of one key are paid twice. -/
theorem concurrent_calls_paid_twice :
    ¬ ∀ (lockKey : String → Int64) (accounts projects : List String) (engine : PolicyEngine)
        (key : String) (events : List Event) (world : World),
        runFrom (step lockKey) (World.initial accounts projects engine) events =
          some world →
        ExactlyOnce lockKey (World.initial accounts projects engine) key events world := by
  intro claimed
  have reached : reaches (step fun _ => 0) (World.initial ["acct"] [] defaultEngine)
      reopenedRun (fun world => ∃ request ∈ world.db.requests,
        request.idempotencyKey = some "k" ∧
          world.db.grants.countP (fun row => PaysRequest request row) = 2) = true := by
    decide +kernel
  obtain ⟨world, ran, twice⟩ := exists_of_reaches reached
  obtain ⟨request, member, keyed, two⟩ := of_decide_eq_true twice
  have once := (claimed _ _ _ _ "k" _ world ran).1 request member keyed
  omega

/-- A refill and its retry after the answer was lost. -/
def retriedRun : List Event :=
  .arrive 0 (.refill (keyedRefill "acct")) :: advances 0 10 "first" ++
    .arrive 1 (.refill (keyedRefill "acct")) :: advances 1 1 ""

theorem retried_refill_exactly_once :
    ∃ world, runFrom (step fun _ => 0) (World.initial ["acct"] [] defaultEngine) retriedRun =
        some world ∧
      ExactlyOnce (fun _ => 0) (World.initial ["acct"] [] defaultEngine) "k" retriedRun
        world := by
  have reached : reaches (step fun _ => 0) (World.initial ["acct"] [] defaultEngine)
      retriedRun (fun world => world.db.grants.length = 1) = true := by
    decide +kernel
  obtain ⟨world, ran, _⟩ := exists_of_reaches reached
  refine ⟨world, ran, ?_⟩
  exact refill_exactly_once (fun _ => 0) ["acct"] [] defaultEngine "k" retriedRun
    (by decide +kernel) world ran

end LightbridgeAuthz.Budget.ExactlyOnceRefill
