import LightbridgeAuthz.Budget.ExactlyOnceRefill

/-!
# Requests and the ledger

What a request says of its grant is written by `record_decision` and
`record_review`, from a row that `grant` answered with; and `grant` answers a
taken key with whatever row holds it. Along every run in which each grant is
asked for under a free key, or one held by a row that fits, the two tables tell
one story: every approval names its own ledger row, of its account, period,
source and amount, and no two requests name the same one.
-/

namespace LightbridgeAuthz.Budget.RequestLedger

open Library.EventRun Library.KeyedRows
open Domain GrantLedger AugmentationRequests RuleData
open ServiceWorld ServiceSteps ServiceWrites IdempotencyKeys ExactlyOnceRefill

set_option autoImplicit false

/-- The request names a ledger row of its accounts and period, with the source
and the amount given. -/
def NamesGrant (grants : List BudgetGrant) (row : AugmentationRequest) (source : GrantSource)
    (amountMicros : Option Int64) : Prop :=
  ∃ grant ∈ grants, row.grantId = some grant.id ∧
    grant.budgetAccountId = row.budgetAccountId ∧ grant.accountId = row.accountId ∧
    grant.period = row.period ∧ grant.source = source ∧ amountMicros = some grant.amountMicros

instance (grants : List BudgetGrant) (row : AugmentationRequest) (source : GrantSource)
    (amountMicros : Option Int64) : Decidable (NamesGrant grants row source amountMicros) :=
  inferInstanceAs (Decidable (∃ grant ∈ grants, _))

def Settled (grants : List BudgetGrant) (row : AugmentationRequest) : Prop :=
  match row.status with
  | .autoApproved => NamesGrant grants row .selfService row.approvedAmountMicros
  | .partiallyApproved => NamesGrant grants row .selfService row.approvedAmountMicros
  | .approved => NamesGrant grants row .manualApproval (some row.requestedAmountMicros)
  | _ => row.grantId = none

structure OneStory (db : BudgetDb) : Prop where
  settled : ∀ row ∈ db.requests, Settled db.grants row
  unshared : ∀ left ∈ db.requests, ∀ right ∈ db.requests, ∀ id,
    left.grantId = some id → right.grantId = some id → left = right

/-- The grant a call is about to ask for, and the request it will record it
on. -/
def grantOrder : Call → Option (String × GrantRequest)
  | .refill request (.grant createdId _ decision) =>
      some (createdId, refillGrant request decision)
  | .review review (.grant request) => some (review.requestId, approvalGrant review request)
  | _ => none

/-- The ledger row under the key a grant is asked for with. -/
def heldRow (grants : List BudgetGrant) (asked : GrantRequest) : Option BudgetGrant :=
  asked.idempotencyKey.bind (findKey BudgetGrant.idempotencyKey grants)

/-- What `grant` will answer with fits the request: the row that holds the key,
or, when none does, the row it will insert. -/
def FitsRequest (grants : List BudgetGrant) (asked : GrantRequest)
    (row : AugmentationRequest) : Prop :=
  (∀ held ∈ heldRow grants asked,
    held.budgetAccountId = row.budgetAccountId ∧ held.accountId = row.accountId ∧
      held.period = row.period ∧ held.source = asked.source ∧
      held.amountMicros = asked.amountMicros) ∧
  (heldRow grants asked = none →
    asked.budgetAccountId = row.budgetAccountId ∧ asked.accountId = row.accountId ∧
      asked.period = row.period)

instance (grants : List BudgetGrant) (asked : GrantRequest) (row : AugmentationRequest) :
    Decidable (FitsRequest grants asked row) :=
  inferInstanceAs (Decidable (_ ∧ _))

/-- A call about to ask for a grant is about to be given one that fits its
request. -/
def GrantsFit (world : World) (event : Event) : Prop :=
  ∀ order ∈ (movingCall world event).bind grantOrder,
    ∀ row ∈ world.db.requests, row.id = order.1 → FitsRequest world.db.grants order.2 row

instance (world : World) (event : Event) : Decidable (GrantsFit world event) :=
  inferInstanceAs (Decidable (∀ order ∈ _, _))

/-- The ledger row was written for this request, or found under its key. -/
structure Earmarked (row : AugmentationRequest) (grant : BudgetGrant) : Prop where
  budgetAccountId : grant.budgetAccountId = row.budgetAccountId
  accountId : grant.accountId = row.accountId
  period : grant.period = row.period
  origin : (grant.source = .selfService ∧ grant.idempotencyKey = row.idempotencyKey) ∨
    (grant.source = .manualApproval ∧ grant.idempotencyKey = some (approvalKey row.id) ∧
      grant.amountMicros = row.requestedAmountMicros)

/-- A request names a grant once it is recorded there, or once a call is about
to record it. -/
inductive Names (world : World) (grantId id : String) : Prop where
  | recorded {row : AugmentationRequest} (member : row ∈ world.db.requests)
      (isRow : row.id = id) (named : row.grantId = some grantId) : Names world grantId id
  | deciding {caller : Nat} {request : RefillRequest} {decision : RecordedDecision}
      (running : world.calls caller = some (.refill request (.recordDecision id decision)))
      (named : decision.decompose.grantId = some grantId) : Names world grantId id
  | reviewing {caller : Nat} {review : Review}
      (running : world.calls caller = some (.review review (.recordReview (some grantId))))
      (isRow : review.requestId = id) : Names world grantId id

/-- The outcome a status stands for, as far as the ledger shows it. -/
def Told (grants : List BudgetGrant) (status : AugmentationStatus) (grantId : Option String)
    (approvedAmountMicros : Option Int64) : Prop :=
  match status with
  | .autoApproved => ∃ grant ∈ grants, grantId = some grant.id ∧ grant.source = .selfService ∧
      approvedAmountMicros = some grant.amountMicros
  | .partiallyApproved => ∃ grant ∈ grants, grantId = some grant.id ∧
      grant.source = .selfService ∧ approvedAmountMicros = some grant.amountMicros
  | .approved => ∃ grant ∈ grants, grantId = some grant.id ∧ grant.source = .manualApproval
  | _ => grantId = none

structure StoryInvariant (world : World) : Prop where
  backed : RefillsBacked world
  reading : ∀ caller review request,
    world.calls caller = some (.review review (.grant request)) →
    ∃ row ∈ world.db.requests, row.id = review.requestId ∧ SameOrigin request row
  earmarked : ∀ grantId id, Names world grantId id →
    ∃ row ∈ world.db.requests, row.id = id ∧
      ∃ grant ∈ world.db.grants, grant.id = grantId ∧ Earmarked row grant
  exclusive : ∀ grantId left right, Names world grantId left → Names world grantId right →
    left = right
  rows : ∀ row ∈ world.db.requests,
    Told world.db.grants row.status row.grantId row.approvedAmountMicros
  decisions : ∀ caller request id decision,
    world.calls caller = some (.refill request (.recordDecision id decision)) →
    Told world.db.grants decision.decompose.status decision.decompose.grantId
      decision.decompose.approvedAmountMicros
  reviews : ∀ caller review grantId,
    world.calls caller = some (.review review (.recordReview grantId)) →
    review.action = .approve → Told world.db.grants .approved grantId none

theorem told_mono {grants more : List BudgetGrant} (kept : ∀ row ∈ grants, row ∈ more)
    {status : AugmentationStatus} {grantId : Option String}
    {approvedAmountMicros : Option Int64}
    (told : Told grants status grantId approvedAmountMicros) :
    Told more status grantId approvedAmountMicros := by
  cases status with
  | autoApproved =>
      obtain ⟨grant, member, rest⟩ := told
      exact ⟨grant, kept grant member, rest⟩
  | partiallyApproved =>
      obtain ⟨grant, member, rest⟩ := told
      exact ⟨grant, kept grant member, rest⟩
  | approved =>
      obtain ⟨grant, member, rest⟩ := told
      exact ⟨grant, kept grant member, rest⟩
  | _ => exact told

theorem earmarked_of_same_origin {row later : AugmentationRequest} {grant : BudgetGrant}
    (earmarked : Earmarked row grant) (same : SameOrigin row later) :
    Earmarked later grant where
  budgetAccountId := earmarked.budgetAccountId.trans same.budgetAccountId.symm
  accountId := earmarked.accountId.trans same.accountId.symm
  period := earmarked.period.trans same.period.symm
  origin := by
    rw [same.idempotencyKey, same.id, same.requestedAmountMicros]
    exact earmarked.origin

/-- A step in which a call is answered with a ledger row it will record on the
request `id`. -/
def GrantAnswered (world : World) (event : Event) (next : World) (id : String)
    (asked : GrantRequest) (row : BudgetGrant) : Prop :=
  ∃ caller input call, event = .advance caller input ∧ world.calls caller = some call ∧
    grantOrder call = some (id, asked) ∧
    GrantLedger.grant world.db asked input.stamp = (next.db, .ok row)

theorem names_before {lockKey : String → Int64} {world next : World} {event : Event}
    (sound : TablesSound world.db) (outcome : StepOutcome lockKey world event next)
    {grantId id : String} (names : Names next grantId id) :
    Names world grantId id ∨
      ∃ asked row, GrantAnswered world event next id asked row ∧ row.id = grantId := by
  cases names with
  | recorded member isRow named =>
      rcases (step_rows_changed sound outcome).backward _ member with
        ⟨row, rowMember, change⟩ | ⟨_, _, _, _, _, _, isFresh, _⟩
      · cases change with
        | kept => exact Or.inl (.recorded rowMember isRow named)
        | decided moves running =>
            have sameId : row.id = id := isRow
            rw [sameId] at running
            exact Or.inl (.deciding running named)
        | @approved caller input review recorded moves running reviewed approves pending =>
            have recordedId : recorded = some grantId := named
            rw [recordedId] at running
            exact Or.inl (.reviewing running (reviewed.trans isRow))
        | rejected moves running reviewed rejects pending => cases named
      · rw [isFresh] at named
        cases named
  | deciding running named =>
      rcases refill_after outcome running with
        ⟨kept, _⟩ | ⟨started, _⟩ | ⟨before, input, moves, was, move⟩
      · exact Or.inl (.deciding kept named)
      · cases started
      · generalize nextDb : next.db = left at move
        cases move with
        | deferred unpaid withheld =>
            rw [unpaid] at named
            cases named
        | @granted createdId facts decision _ row ran =>
            rw [← nextDb] at ran
            refine Or.inr ⟨_, row, ⟨_, input, _, moves, was, rfl, ran⟩, ?_⟩
            unfold approval at named
            split at named
            · exact Option.some.inj named
            · exact Option.some.inj named
  | @reviewing caller review running isRow =>
      rcases review_after outcome running with
        ⟨kept, _⟩ | ⟨_, started⟩ | ⟨before, input, moves, was, progress⟩
      · exact Or.inl (.reviewing kept isRow)
      · rcases start_point started with wrong | wrong <;> cases wrong
      · cases progress with
        | worked inside move locks =>
            generalize nextDb : next.db = left at move
            cases move with
            | granted ran =>
                rw [← nextDb] at ran
                rw [← isRow]
                exact Or.inr ⟨_, _, ⟨_, input, _, moves, was, rfl, ran⟩, rfl⟩

theorem fitting_answer {db next : BudgetDb} {asked : GrantRequest} {stamp : Stamp}
    {row : AugmentationRequest} {grant : BudgetGrant}
    (fits : FitsRequest db.grants asked row)
    (ran : GrantLedger.grant db asked stamp = (next, .ok grant)) :
    grant.budgetAccountId = row.budgetAccountId ∧ grant.accountId = row.accountId ∧
      grant.period = row.period ∧ grant.source = asked.source ∧
      grant.amountMicros = asked.amountMicros := by
  cases grant_outcome ran with
  | replayed keyed stored =>
      apply fits.1
      simp only [heldRow, keyed, Option.bind_some, stored, Option.mem_some_iff]
  | inserted signed freshKey freshId known locked added =>
      have free : heldRow db.grants asked = none := by
        unfold heldRow
        cases keyed : asked.idempotencyKey with
        | none => rfl
        | some key => exact find_key_none.mpr (freshKey key keyed)
      obtain ⟨budgetAccount, account, period⟩ := fits.2 free
      exact ⟨budgetAccount, account, period, rfl, rfl⟩

theorem order_for_request {world : World} (inv : StoryInvariant world) {caller : Nat}
    {call : Call} (running : world.calls caller = some call) {id : String}
    {asked : GrantRequest} (orders : grantOrder call = some (id, asked)) :
    ∃ row ∈ world.db.requests, row.id = id ∧
      ((asked.source = .selfService ∧ asked.idempotencyKey = row.idempotencyKey) ∨
        (asked.source = .manualApproval ∧ asked.idempotencyKey = some (approvalKey row.id) ∧
          asked.amountMicros = row.requestedAmountMicros)) := by
  unfold grantOrder at orders
  split at orders
  · cases orders
    obtain ⟨row, member, rowId, backs⟩ := (inv.backed.2 _ _ _ running).created _ rfl
    exact ⟨row, member, rowId, Or.inl ⟨rfl, backs.key.symm⟩⟩
  · cases orders
    obtain ⟨row, member, rowId, same⟩ := inv.reading _ _ _ running
    refine ⟨row, member, rowId, Or.inr ⟨rfl, ?_, same.requestedAmountMicros.symm⟩⟩
    rw [rowId]
    rfl
  · cases orders

theorem answered_earmarked {world next : World} {event : Event} (inv : StoryInvariant world)
    (fits : GrantsFit world event) {id : String} {asked : GrantRequest} {grant : BudgetGrant}
    (answered : GrantAnswered world event next id asked grant) :
    ∃ row ∈ world.db.requests, row.id = id ∧ Earmarked row grant := by
  obtain ⟨caller, input, call, moves, running, orders, ran⟩ := answered
  obtain ⟨row, member, rowId, asks⟩ := order_for_request inv running orders
  have fitting := fits (id, asked) (by simp [movingCall, moves, running, orders]) row member
    rowId
  obtain ⟨budgetAccount, account, period, source, amount⟩ := fitting_answer fitting ran
  refine ⟨row, member, rowId, budgetAccount, account, period, ?_⟩
  rw [source, amount, grant_ok_key ran]
  exact asks

theorem step_earmarked {lockKey : String → Int64} {world next : World} {event : Event}
    (inv : StoryInvariant world) (fits : GrantsFit world event)
    (outcome : StepOutcome lockKey world event next) {grantId id : String}
    (names : Names next grantId id) :
    ∃ row ∈ next.db.requests, row.id = id ∧
      ∃ grant ∈ next.db.grants, grant.id = grantId ∧ Earmarked row grant := by
  have carried : ∀ row ∈ world.db.requests, row.id = id →
      ∀ grant ∈ next.db.grants, grant.id = grantId → Earmarked row grant →
      ∃ row ∈ next.db.requests, row.id = id ∧
        ∃ grant ∈ next.db.grants, grant.id = grantId ∧ Earmarked row grant := by
    intro row member rowId grant stored isGrant earmarked
    obtain ⟨later, laterMember, same⟩ := request_row_persists (step_db_write outcome) member
    exact ⟨later, laterMember, same.id.trans rowId, grant, stored, isGrant,
      earmarked_of_same_origin earmarked same⟩
  rcases names_before inv.backed.1 outcome names with old | ⟨asked, grant, answered, isGrant⟩
  · obtain ⟨row, member, rowId, grant, stored, isGrant, earmarked⟩ := inv.earmarked _ _ old
    exact carried row member rowId grant (grants_kept outcome grant stored) isGrant earmarked
  · obtain ⟨row, member, rowId, earmarked⟩ := answered_earmarked inv fits answered
    obtain ⟨_, _, _, _, _, _, ran⟩ := answered
    exact carried row member rowId grant (grant_ok_mem ran) isGrant earmarked

theorem earmark_under_key {db : BudgetDb} (sound : TablesSound db)
    {left right : AugmentationRequest} (leftMember : left ∈ db.requests)
    (rightMember : right ∈ db.requests) {grant : BudgetGrant} {key : String}
    (keyed : grant.idempotencyKey = some key) (leftMark : Earmarked left grant)
    (rightMark : Earmarked right grant) : left = right := by
  rcases leftMark.origin with ⟨leftSource, leftKey⟩ | ⟨leftSource, leftKey, _⟩
  · rcases rightMark.origin with ⟨_, rightKey⟩ | ⟨rightSource, _⟩
    · exact unique_keys_eq sound.requests.uniqueIdempotencyKeys leftMember rightMember
        (leftKey.symm.trans keyed) (rightKey.symm.trans keyed)
    · rw [leftSource] at rightSource
      cases rightSource
  · rcases rightMark.origin with ⟨rightSource, _⟩ | ⟨_, rightKey, _⟩
    · rw [leftSource] at rightSource
      cases rightSource
    · rw [leftKey] at rightKey
      exact request_eq_of_id sound.requests leftMember rightMember
        (approval_key_injective (Option.some.inj rightKey))

theorem answered_exclusive {world next : World} {event : Event} (inv : StoryInvariant world)
    (fits : GrantsFit world event) {id other : String} {asked : GrantRequest}
    {grant : BudgetGrant} (answered : GrantAnswered world event next id asked grant)
    (names : Names world grant.id other) : id = other := by
  obtain ⟨row, member, rowId, earmarked⟩ := answered_earmarked inv fits answered
  obtain ⟨holder, holderMember, holderId, held, heldMember, heldId, heldMark⟩ :=
    inv.earmarked _ _ names
  obtain ⟨_, _, _, _, _, _, ran⟩ := answered
  generalize next.db = left at ran
  cases grant_outcome ran with
  | replayed keyed stored =>
      obtain ⟨grantMember, grantKey⟩ := find_key_some stored
      have same : held = grant :=
        unique_keys_eq inv.backed.1.ledger.uniqueIds heldMember grantMember
          (congrArg some heldId) rfl
      rw [same] at heldMark
      rw [← rowId, ← holderId,
        earmark_under_key inv.backed.1 member holderMember grantKey earmarked heldMark]
  | inserted signed freshKey freshId known locked added =>
      exact absurd heldId (freshId held heldMember)

theorem step_exclusive {lockKey : String → Int64} {world next : World} {event : Event}
    (inv : StoryInvariant world) (fits : GrantsFit world event)
    (outcome : StepOutcome lockKey world event next) {grantId left right : String}
    (leftNames : Names next grantId left) (rightNames : Names next grantId right) :
    left = right := by
  rcases names_before inv.backed.1 outcome leftNames with
    leftOld | ⟨leftAsked, leftGrant, leftAnswered, leftId⟩
  · rcases names_before inv.backed.1 outcome rightNames with
      rightOld | ⟨rightAsked, rightGrant, rightAnswered, rightId⟩
    · exact inv.exclusive _ _ _ leftOld rightOld
    · rw [← rightId] at leftOld
      exact (answered_exclusive inv fits rightAnswered leftOld).symm
  · rcases names_before inv.backed.1 outcome rightNames with
      rightOld | ⟨rightAsked, rightGrant, rightAnswered, rightId⟩
    · rw [← leftId] at rightOld
      exact answered_exclusive inv fits leftAnswered rightOld
    · obtain ⟨_, _, _, moves, running, orders, _⟩ := leftAnswered
      obtain ⟨_, _, _, sameMoves, sameRunning, sameOrders, _⟩ := rightAnswered
      rw [moves] at sameMoves
      cases sameMoves
      rw [running] at sameRunning
      cases sameRunning
      rw [orders] at sameOrders
      cases sameOrders
      rfl

/-- An approval about to grant carries the request as it is stored, but for the
columns that may still change. -/
theorem step_reading {lockKey : String → Int64} {world next : World} {event : Event}
    (inv : StoryInvariant world) (outcome : StepOutcome lockKey world event next)
    {caller : Nat} {review : Review} {request : AugmentationRequest}
    (running : next.calls caller = some (.review review (.grant request))) :
    ∃ row ∈ next.db.requests, row.id = review.requestId ∧ SameOrigin request row := by
  have carried : ∀ row ∈ world.db.requests, row.id = review.requestId →
      SameOrigin request row →
      ∃ row ∈ next.db.requests, row.id = review.requestId ∧ SameOrigin request row := by
    intro row member rowId same
    obtain ⟨later, laterMember, toLater⟩ :=
      request_row_persists (step_db_write outcome) member
    refine ⟨later, laterMember, toLater.id.trans rowId, ?_⟩
    exact same_origin_trans same toLater
  rcases review_after outcome running with
    ⟨kept, _⟩ | ⟨_, started⟩ | ⟨before, input, moves, was, progress⟩
  · obtain ⟨row, member, rowId, same⟩ := inv.reading _ _ _ kept
    exact carried row member rowId same
  · rcases start_point started with wrong | wrong <;> cases wrong
  · cases progress with
    | worked inside move locks =>
        generalize next.db = left at move carried ⊢
        cases move with
        | toGrant stored pending approves =>
            exact carried request (find_key_some stored).1 (found_id stored)
              (same_origin_refl request)

theorem step_rows {lockKey : String → Int64} {world next : World} {event : Event}
    (inv : StoryInvariant world) (outcome : StepOutcome lockKey world event next)
    {later : AugmentationRequest} (member : later ∈ next.db.requests) :
    Told next.db.grants later.status later.grantId later.approvedAmountMicros := by
  apply told_mono (grants_kept outcome)
  rcases (step_rows_changed inv.backed.1 outcome).backward later member with
    ⟨row, rowMember, change⟩ | ⟨_, _, _, _, _, _, isFresh, _⟩
  · cases change with
    | kept => exact inv.rows later rowMember
    | decided moves running => exact inv.decisions _ _ _ _ running
    | approved moves running named approves pending =>
        exact inv.reviews _ _ _ running approves
    | rejected moves running named rejects pending => exact rfl
  · rw [isFresh]
    exact rfl

theorem approval_told {grants : List BudgetGrant} {decision : Decision} {grant : BudgetGrant}
    (member : grant ∈ grants) (source : grant.source = .selfService)
    (amount : grant.amountMicros = decision.approvedAmountMicros) :
    Told grants (approval decision grant.id).decompose.status
      (approval decision grant.id).decompose.grantId
      (approval decision grant.id).decompose.approvedAmountMicros := by
  unfold approval
  split
  · exact ⟨grant, member, rfl, source, congrArg some amount.symm⟩
  · exact ⟨grant, member, rfl, source, congrArg some amount.symm⟩

theorem step_decisions {lockKey : String → Int64} {world next : World} {event : Event}
    (inv : StoryInvariant world) (fits : GrantsFit world event)
    (outcome : StepOutcome lockKey world event next) {caller : Nat} {request : RefillRequest}
    {id : String} {decision : RecordedDecision}
    (running : next.calls caller = some (.refill request (.recordDecision id decision))) :
    Told next.db.grants decision.decompose.status decision.decompose.grantId
      decision.decompose.approvedAmountMicros := by
  rcases refill_after outcome running with
    ⟨kept, _⟩ | ⟨started, _⟩ | ⟨before, input, moves, was, move⟩
  · exact told_mono (grants_kept outcome) (inv.decisions _ _ _ _ kept)
  · cases started
  · generalize next.db = left at move ⊢
    cases move with
    | deferred unpaid withheld =>
        rcases withheld with pending | denied
        · rw [pending]
          exact unpaid
        · rw [denied]
          exact unpaid
    | @granted createdId facts evaluated _ grant ran =>
        obtain ⟨row, member, rowId, _⟩ := (inv.backed.2 _ _ _ was).created _ rfl
        have fitting := fits (id, refillGrant request evaluated)
          (by simp [movingCall, moves, was, grantOrder]) row member rowId
        obtain ⟨_, _, _, source, amount⟩ := fitting_answer fitting ran
        exact approval_told (grant_ok_mem ran) source amount

theorem step_reviews {lockKey : String → Int64} {world next : World} {event : Event}
    (inv : StoryInvariant world) (fits : GrantsFit world event)
    (outcome : StepOutcome lockKey world event next) {caller : Nat} {review : Review}
    {grantId : Option String} (approves : review.action = .approve)
    (running : next.calls caller = some (.review review (.recordReview grantId))) :
    Told next.db.grants .approved grantId none := by
  rcases review_after outcome running with
    ⟨kept, _⟩ | ⟨_, started⟩ | ⟨before, input, moves, was, progress⟩
  · exact told_mono (grants_kept outcome) (inv.reviews _ _ _ kept approves)
  · rcases start_point started with wrong | wrong <;> cases wrong
  · cases progress with
    | worked inside move locks =>
        generalize next.db = left at move ⊢
        cases move with
        | toRecord stored pending rejects =>
            rw [approves] at rejects
            cases rejects
        | @granted request _ grant ran =>
            obtain ⟨row, member, rowId, _⟩ := inv.reading _ _ _ was
            have fitting := fits (review.requestId, approvalGrant review request)
              (by simp [movingCall, moves, was, grantOrder]) row member rowId
            obtain ⟨_, _, _, source, _⟩ := fitting_answer fitting ran
            exact ⟨grant, grant_ok_mem ran, rfl, source⟩

theorem step_story_invariant {lockKey : String → Int64} {world next : World} {event : Event}
    (inv : StoryInvariant world) (fits : GrantsFit world event)
    (stepped : step lockKey world event = some next) : StoryInvariant next where
  backed := step_refills_backed inv.backed stepped
  reading := fun _ _ _ running => step_reading inv (step_outcome stepped) running
  earmarked := fun _ _ names => step_earmarked inv fits (step_outcome stepped) names
  exclusive := fun _ _ _ left right =>
    step_exclusive inv fits (step_outcome stepped) left right
  rows := fun _ member => step_rows inv (step_outcome stepped) member
  decisions := fun _ _ _ _ running => step_decisions inv fits (step_outcome stepped) running
  reviews := fun _ _ _ running approves =>
    step_reviews inv fits (step_outcome stepped) approves running

theorem initial_story_invariant (accounts projects : List String) (engine : PolicyEngine) :
    StoryInvariant (World.initial accounts projects engine) := by
  have unnamed : ∀ grantId id,
      ¬ Names (World.initial accounts projects engine) grantId id := by
    intro grantId id names
    cases names with
    | recorded member isRow named => cases member
    | deciding running named => cases running
    | reviewing running isRow => cases running
  constructor
  · exact initial_refills_backed accounts projects engine
  · intro caller review request running
    cases running
  · intro grantId id names
    exact absurd names (unnamed grantId id)
  · intro grantId left right names
    exact absurd names (unnamed grantId left)
  · intro row member
    cases member
  · intro caller request id decision running
    cases running
  · intro caller review grantId running
    cases running

theorem told_grant_earmarked {world : World} (inv : StoryInvariant world)
    {row : AugmentationRequest} (member : row ∈ world.db.requests) {grant : BudgetGrant}
    (stored : grant ∈ world.db.grants) (named : row.grantId = some grant.id) :
    Earmarked row grant := by
  obtain ⟨holder, holderMember, holderId, held, heldMember, heldId, earmarked⟩ :=
    inv.earmarked grant.id row.id (.recorded member rfl named)
  have sameRow : holder = row :=
    request_eq_of_id inv.backed.1.requests holderMember member holderId
  have sameGrant : held = grant :=
    unique_keys_eq inv.backed.1.ledger.uniqueIds heldMember stored (congrArg some heldId) rfl
  rw [← sameRow, ← sameGrant]
  exact earmarked

theorem settled_of_invariant {world : World} (inv : StoryInvariant world)
    {row : AugmentationRequest} (member : row ∈ world.db.requests) :
    Settled world.db.grants row := by
  have told := inv.rows row member
  have automatic : ∀ grant ∈ world.db.grants, row.grantId = some grant.id →
      grant.source = .selfService → row.approvedAmountMicros = some grant.amountMicros →
      NamesGrant world.db.grants row .selfService row.approvedAmountMicros := by
    intro grant stored named source amount
    have mark := told_grant_earmarked inv member stored named
    exact ⟨grant, stored, named, mark.budgetAccountId, mark.accountId, mark.period, source,
      amount⟩
  unfold Settled
  cases status : row.status with
  | autoApproved =>
      rw [status] at told
      obtain ⟨grant, stored, named, source, amount⟩ := told
      exact automatic grant stored named source amount
  | partiallyApproved =>
      rw [status] at told
      obtain ⟨grant, stored, named, source, amount⟩ := told
      exact automatic grant stored named source amount
  | approved =>
      rw [status] at told
      obtain ⟨grant, stored, named, source⟩ := told
      have mark := told_grant_earmarked inv member stored named
      refine ⟨grant, stored, named, mark.budgetAccountId, mark.accountId, mark.period, source,
        ?_⟩
      rcases mark.origin with ⟨otherwise, _⟩ | ⟨_, _, amount⟩
      · rw [source] at otherwise
        cases otherwise
      · rw [amount]
  | _ =>
      rw [status] at told
      exact told

/-- Along every run of refills, reviews, admin grants and revocations in which
each grant is asked for under a free key, or under one held by a row that fits
its request, the requests and the ledger tell one story. -/
theorem requests_and_ledger_agree (lockKey : String → Int64) (accounts projects : List String)
    (engine : PolicyEngine) (events : List Event)
    (fits : Meets (step lockKey) GrantsFit (World.initial accounts projects engine) events)
    (world : World)
    (ran : runFrom (step lockKey) (World.initial accounts projects engine) events =
      some world) : OneStory world.db := by
  have inv := run_preserves_of_meets StoryInvariant
    (fun _ _ _ inv fits stepped => step_story_invariant inv fits stepped)
    (initial_story_invariant accounts projects engine) fits ran
  constructor
  · intro row member
    exact settled_of_invariant inv member
  · intro left leftMember right rightMember id leftNamed rightNamed
    apply request_eq_of_id inv.backed.1.requests leftMember rightMember
    exact inv.exclusive id left.id right.id (.recorded leftMember rfl leftNamed)
      (.recorded rightMember rfl rightNamed)

/-- Two refills under one key, for $6 and for $15, look for its row before it
exists. The first is approved and granted; the second is approved too, is
answered with the first one's ledger row, and records its own amount. -/
def twoAmountsRun : List Event :=
  [.arrive 0 (.refill (keyedRefill "acct")),
    .arrive 1 (.refill { keyedRefill "acct" with requestedAmountMicros := 15000000 })] ++
  advances 0 1 "" ++ advances 1 1 "" ++ advances 0 9 "first" ++ advances 1 9 "second"

/-- The request says that $15 were approved; the row it names is of $6. -/
theorem one_grant_two_amounts :
    ¬ ∀ (lockKey : String → Int64) (accounts projects : List String) (engine : PolicyEngine)
        (events : List Event) (world : World),
        runFrom (step lockKey) (World.initial accounts projects engine) events =
          some world → OneStory world.db := by
  intro claimed
  have reached : reaches (step fun _ => 0) (World.initial ["acct"] [] defaultEngine)
      twoAmountsRun (fun world => ∃ row ∈ world.db.requests, row.status = .autoApproved ∧
        ¬ NamesGrant world.db.grants row .selfService row.approvedAmountMicros) = true := by
    decide +kernel
  obtain ⟨world, ran, found⟩ := exists_of_reaches reached
  obtain ⟨row, member, status, unnamed⟩ := of_decide_eq_true found
  have settled := (claimed _ _ _ _ _ world ran).settled row member
  rw [Settled, status] at settled
  exact unnamed settled

/-- Two refills, the third sent to review; its approval stops once it has granted
and is made again. -/
def reviewedRun : List Event :=
  .arrive 0 (.refill (keyedRefill "acct")) :: advances 0 10 "first" ++
  .arrive 1 (.refill { keyedRefill "acct" with idempotencyKey := none }) ::
    advances 1 10 "second" ++
  .arrive 2 (.refill { keyedRefill "acct" with idempotencyKey := none }) ::
    advances 2 9 "third" ++
  .arrive 3 (.review ⟨"third", "reviewer", .approve⟩) :: advances 3 3 "fourth" ++
  [.stop 3, .arrive 4 (.review ⟨"third", "reviewer", .approve⟩)] ++ advances 4 5 "fifth"

theorem reviewed_run_one_story :
    ∃ world, runFrom (step fun _ => 0) (World.initial ["acct"] [] defaultEngine) reviewedRun =
        some world ∧
      (∃ row ∈ world.db.requests, row.status = .approved) ∧ OneStory world.db := by
  have reached : reaches (step fun _ => 0) (World.initial ["acct"] [] defaultEngine)
      reviewedRun (fun world => ∃ row ∈ world.db.requests, row.status = .approved) = true := by
    decide +kernel
  obtain ⟨world, ran, found⟩ := exists_of_reaches reached
  refine ⟨world, ran, of_decide_eq_true found, ?_⟩
  exact requests_and_ledger_agree (fun _ => 0) ["acct"] [] defaultEngine reviewedRun
    (by decide +kernel) world ran

end LightbridgeAuthz.Budget.RequestLedger
