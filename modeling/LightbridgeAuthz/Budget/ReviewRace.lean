import LightbridgeAuthz.Budget.ReviewLock

/-!
# Racing reviews

Any number of `approve` and `reject` calls on pending requests, in any
interleaving and without failures. The first call to take the lock of a request
decides it; every later one finds it decided. The invariant follows a request
through its phases: pending, with its grant in the ledger only while the
approval that wrote it is about to record, then approved and paid, or denied
and unpaid, with exactly one winner. A grant that held the approval key before
the race outlives a denial.
-/

namespace LightbridgeAuthz.Budget.ReviewRace

open Library.EventRun Library.KeyedRows
open Domain GrantLedger Revocation AugmentationRequests
open ServiceWorld ServiceSteps ServiceWrites ReviewLock

set_option autoImplicit false

def ReasonGiven (review : Review) : Prop :=
  match review.action with
  | .approve => True
  | .reject reason => isBlank reason = false

instance (review : Review) : Decidable (ReasonGiven review) :=
  match action : review.action with
  | .approve => isTrue (by simp [ReasonGiven, action])
  | .reject reason =>
      decidable_of_iff (isBlank reason = false) (by simp [ReasonGiven, action])

/-- What happens in a race: reviews of requests that were pending arrive, with a
reason if they reject, and steps are taken that do not fail. -/
def RaceEvent (start : World) : Event → Prop
  | .arrive _ (.review review) => WasPending start review.requestId ∧ ReasonGiven review
  | .advance _ input => input.fault = none
  | _ => False

instance (start : World) : ∀ event, Decidable (RaceEvent start event)
  | .arrive _ (.review _) => inferInstanceAs (Decidable (_ ∧ _))
  | .arrive _ (.refill _) => isFalse id
  | .advance _ _ => inferInstanceAs (Decidable (_ = _))
  | .stop _ => isFalse id
  | .swapEngine _ => isFalse id
  | .grantBudget _ _ => isFalse id
  | .revokeBudgetGrant _ _ _ _ => isFalse id

def grantingReview : Call → Option (Review × AugmentationRequest)
  | .review review (.grant request) => some (review, request)
  | _ => none

def GrantSucceeds (world : World) : Event → Prop
  | .advance caller input =>
      ∀ granting ∈ (world.calls caller).bind grantingReview,
        (GrantLedger.grant world.db (approvalGrant granting.1 granting.2)
          input.stamp).2.isOk = true
  | _ => True

instance (world : World) : ∀ event, Decidable (GrantSucceeds world event)
  | .advance _ _ => inferInstanceAs (Decidable (∀ granting ∈ _, _))
  | .arrive _ _ => isTrue trivial
  | .stop _ => isTrue trivial
  | .swapEngine _ => isTrue trivial
  | .grantBudget _ _ => isTrue trivial
  | .revokeBudgetGrant _ _ _ _ => isTrue trivial

/-- The answer a review will return, once it is known. -/
def answerOf : ReviewPoint → Option (Except BudgetError AugmentationRequest)
  | .releaseLock result => some result
  | .returned result => some result
  | _ => none

def Won (world : World) (caller : Nat) (id : String) : Prop :=
  ∃ review point answer, world.calls caller = some (.review review point) ∧
    review.requestId = id ∧ answerOf point = some (.ok answer)

def ReturnedOk (world : World) (caller : Nat) (id : String) : Prop :=
  ∃ review answer, world.calls caller = some (.review review (.returned (.ok answer))) ∧
    review.requestId = id

def Paid (db : BudgetDb) (id : String) : Prop :=
  ∃ grant ∈ db.grants, grant.idempotencyKey = some (approvalKey id)

def ApprovalRecording (world : World) (id : String) : Prop :=
  ∃ caller review grantId,
    world.calls caller = some (.review review (.recordReview grantId)) ∧
      review.requestId = id ∧ review.action = .approve

/-- Where the race for a request stands. A grant under its approval key may have
been there before the race. -/
inductive Phase (start world : World) (row : AugmentationRequest) : Prop where
  | pending (status : row.status = .pendingReview)
      (paid : Paid world.db row.id → Paid start.db row.id ∨ ApprovalRecording world row.id)
      (unanswered : ∀ caller review point,
        world.calls caller = some (.review review point) → review.requestId = row.id →
        answerOf point = none)
  | approved (status : row.status = .approved) (named : row.grantId ≠ none)
      (paid : Paid world.db row.id) (won : ∃ caller, Won world caller row.id)
  | denied (status : row.status = .denied)
      (unpaid : Paid world.db row.id → Paid start.db row.id)
      (won : ∃ caller, Won world caller row.id)

/-- What a review about to record passes as `grant_id`. -/
def RecordsOwnGrant (db : BudgetDb) (review : Review) (grantId : Option String) : Prop :=
  match review.action with
  | .approve => ∃ grant ∈ db.grants,
      grant.idempotencyKey = some (approvalKey review.requestId) ∧ grantId = some grant.id
  | .reject _ => True

structure RaceInvariant (lockKey : String → Int64) (start world : World) : Prop where
  lock : LockInvariant lockKey world
  aimed : ∀ caller review point, world.calls caller = some (.review review point) →
    WasPending start review.requestId ∧ ReasonGiven review
  granting : ∀ caller review request,
    world.calls caller = some (.review review (.grant request)) → review.action = .approve
  recording : ∀ caller review grantId,
    world.calls caller = some (.review review (.recordReview grantId)) →
    RecordsOwnGrant world.db review grantId
  phase : ∀ id, WasPending start id →
    ∃ row ∈ world.db.requests, row.id = id ∧ Phase start world row
  losers : ∀ caller review point error,
    world.calls caller = some (.review review point) →
    answerOf point = some (.error error) →
    error = .alreadyReviewed review.requestId ∧
      ∃ winner, ReturnedOk world winner review.requestId
  sole : ∀ left right id, Won world left id → Won world right id → left = right

theorem race_is_review {start : World} {event : Event} (race : RaceEvent start event) :
    isReviewEvent event = true := by
  cases event with
  | arrive caller operation =>
      cases operation with
      | refill request => exact race.elim
      | review review => rfl
  | advance caller input => rfl
  | stop caller => exact race.elim
  | swapEngine engine => exact race.elim
  | grantBudget order stamp => exact race.elim
  | revokeBudgetGrant subject grantId reason stamp => exact race.elim

theorem race_not_stop {start : World} {event : Event} (race : RaceEvent start event)
    (caller : Nat) : event ≠ .stop caller := by
  intro stops
  rw [stops] at race
  exact race

theorem record_outcome_ok {db : BudgetDb} (sound : TablesSound db) {review : Review}
    {grantId : Option String} {now : Instant} {row : AugmentationRequest}
    (member : row ∈ db.requests) (rowId : row.id = review.requestId)
    (pending : row.status = .pendingReview) (given : ReasonGiven review)
    (records : RecordsOwnGrant db review grantId) :
    ∃ answer, (recordOutcome db review grantId now).2 = .ok answer ∧
      ∃ settled ∈ (recordOutcome db review grantId now).1.requests,
        settled.id = review.requestId ∧ settled.status ≠ .pendingReview := by
  have stored := find_key_eq_of_unique sound.requests.uniqueIds member
    (congrArg some rowId)
  unfold recordOutcome
  cases action : review.action with
  | approve =>
      simp only [RecordsOwnGrant, action] at records
      obtain ⟨grant, grantMember, _, isGrant⟩ := records
      obtain ⟨found, search⟩ := find_key_of_mem grantMember
        (show GrantLedger.grantId grant = some grant.id from rfl)
      have inPlace : danglingGrant db grantId = false := by
        simp [danglingGrant, isGrant, search]
      simp only [record_review_ok review.reviewerAccountId now (Or.inl rfl) stored pending
        inPlace]
      refine ⟨_, rfl, _, mem_update_key.mpr ⟨row, member, rfl⟩, ?_⟩
      simp [requestId, rowId, reviewed]
  | reject reason =>
      simp only [ReasonGiven, action] at given
      simp only [record_review_ok review.reviewerAccountId now
        (Or.inr ⟨rfl, reason, rfl, given⟩) stored pending (show danglingGrant db none = false
          from rfl)]
      refine ⟨_, rfl, _, mem_update_key.mpr ⟨row, member, rfl⟩, ?_⟩
      simp [requestId, rowId, reviewed]

section Step

variable {lockKey : String → Int64} {start world next : World} {event : Event}

theorem grant_does_not_fail (calm : GrantSucceeds world event) {caller : Nat}
    {input : StepInput} {review : Review} {request : AugmentationRequest} {error : BudgetError}
    (moves : event = .advance caller input) (noFault : input.fault = none)
    (was : world.calls caller = some (.review review (.grant request)))
    (why : input.fault ≠ none ∨
      (GrantLedger.grant world.db (approvalGrant review request) input.stamp).2 =
        .error error) : False := by
  rw [moves] at calm
  have succeeds := calm (review, request) (by simp [was, grantingReview])
  rcases why with faulted | failed
  · exact faulted noFault
  · simp only at succeeds
    rw [failed] at succeeds
    cases succeeds

theorem race_grant (calm : GrantSucceeds world event) {caller : Nat} {input : StepInput}
    {review : Review} {request : AugmentationRequest} (moves : event = .advance caller input)
    (noFault : input.fault = none) (outcome : StepOutcome lockKey world event next)
    (was : world.calls caller = some (.review review (.grant request))) :
    ∃ grantId, next.calls caller = some (.review review (.recordReview grantId)) := by
  rw [moves] at outcome
  obtain ⟨point, running, progress⟩ := review_moves outcome was
  cases progress with
  | worked inside move locks =>
      generalize next.db = left at move
      cases move with
      | granted ran => exact ⟨_, running⟩
      | grantFailed left why => exact (grant_does_not_fail calm moves noFault was why).elim

theorem race_record (inv : RaceInvariant lockKey start world) {caller : Nat}
    {input : StepInput} {review : Review} {grantId : Option String}
    (moves : event = .advance caller input) (noFault : input.fault = none)
    (outcome : StepOutcome lockKey world event next)
    (was : world.calls caller = some (.review review (.recordReview grantId))) :
    Won next caller review.requestId ∧
      ∃ settled ∈ next.db.requests,
        settled.id = review.requestId ∧ settled.status ≠ .pendingReview := by
  obtain ⟨row, member, rowId, pending⟩ := inv.lock.pending caller review _ was rfl
  obtain ⟨expected, succeeds, settles⟩ :=
    record_outcome_ok inv.lock.sound member rowId pending (inv.aimed caller review _ was).2
      (inv.recording caller review grantId was)
  rw [moves] at outcome
  obtain ⟨point, running, progress⟩ := review_moves outcome was
  cases progress with
  | worked inside move locks =>
      generalize next.db = left at move ⊢
      cases move with
      | @recorded _ _ answer ran =>
          rw [ran] at succeeds settles
          exact ⟨⟨review, _, expected, running, rfl, congrArg some succeeds⟩, settles⟩
      | recordFailed left why => exact absurd noFault why

theorem race_answer (inv : RaceInvariant lockKey start world)
    (calm : GrantSucceeds world event) {caller : Nat} {input : StepInput} {review : Review}
    {before point : ReviewPoint} {result : Except BudgetError AugmentationRequest}
    (moves : event = .advance caller input) (noFault : input.fault = none)
    (was : world.calls caller = some (.review review before))
    (progress : ReviewProgress lockKey world caller review input next before point)
    (answered : answerOf point = some result) :
    answerOf before = some result ∨
      (before = .get ∧ result = .error (.alreadyReviewed review.requestId) ∧
        ∃ row ∈ world.db.requests,
          row.id = review.requestId ∧ row.status ≠ .pendingReview) ∨
      ∃ grantId, before = .recordReview grantId := by
  cases progress with
  | worked inside move locks =>
      generalize next.db = left at move
      cases move with
      | getFailed why =>
          obtain ⟨row, member, rowId, _⟩ := inv.phase _ (inv.aimed caller review _ was).1
          rcases why with faulted | missing
          · exact absurd noFault faulted
          · exact absurd (congrArg some rowId) (find_key_none.mp missing row member)
      | settled stored notPending =>
          cases answered
          exact Or.inr (Or.inl ⟨rfl, rfl, _, (find_key_some stored).1, found_id stored,
            notPending⟩)
      | toGrant stored pending approves => cases answered
      | toRecord stored pending rejects => cases answered
      | granted ran => cases answered
      | grantFailed left why => exact (grant_does_not_fail calm moves noFault was why).elim
      | recorded ran => exact Or.inr (Or.inr ⟨_, rfl⟩)
      | recordFailed left why => exact Or.inr (Or.inr ⟨_, rfl⟩)
  | refused rejects blank db locks =>
      have given := (inv.aimed caller review _ was).2
      simp only [ReasonGiven, rejects, blank] at given
      cases given
  | accepted db locks => cases answered
  | lockFailed why db locks => exact absurd noFault why
  | locked free db locks => cases answered
  | released why db locks =>
      rcases why with faulted | same
      · exact absurd noFault faulted
      · rw [same] at answered
        exact Or.inl answered

theorem no_fault (race : RaceEvent start event) {caller : Nat} {input : StepInput}
    (moves : event = .advance caller input) : input.fault = none := by
  rw [moves] at race
  exact race

theorem answer_kept (race : RaceEvent start event)
    (outcome : StepOutcome lockKey world event next) {caller : Nat} {review : Review}
    {point : ReviewPoint} {result : Except BudgetError AugmentationRequest}
    (was : world.calls caller = some (.review review point))
    (answered : answerOf point = some result) :
    ∃ later, next.calls caller = some (.review review later) ∧
      answerOf later = some result := by
  by_cases moving : ∃ input, event = .advance caller input
  · obtain ⟨input, moves⟩ := moving
    have noFault := no_fault race moves
    rw [moves] at outcome
    obtain ⟨later, running, progress⟩ := review_moves outcome was
    refine ⟨later, running, ?_⟩
    cases progress with
    | worked inside move locks =>
        generalize next.db = left at move
        cases move <;> cases answered
    | released why db locks =>
        rcases why with faulted | same
        · exact absurd noFault faulted
        · rw [same]
          exact answered
    | _ => cases answered
  · have still : ∀ input, event ≠ .advance caller input := fun input moves =>
      moving ⟨input, moves⟩
    exact ⟨point, call_kept outcome was still (race_not_stop race caller), answered⟩

theorem won_kept (race : RaceEvent start event)
    (outcome : StepOutcome lockKey world event next) {caller : Nat} {id : String}
    (won : Won world caller id) : Won next caller id := by
  obtain ⟨review, point, answer, was, named, answered⟩ := won
  obtain ⟨later, running, same⟩ := answer_kept race outcome was answered
  exact ⟨review, later, answer, running, named, same⟩

theorem returned_kept (race : RaceEvent start event)
    (outcome : StepOutcome lockKey world event next) {caller : Nat} {id : String}
    (returned : ReturnedOk world caller id) : ReturnedOk next caller id := by
  obtain ⟨review, answer, was, named⟩ := returned
  have still : ∀ input, event ≠ .advance caller input := by
    intro input moves
    rw [moves] at outcome
    obtain ⟨later, running, progress⟩ := review_moves outcome was
    cases progress with
    | worked inside move locks => cases inside
  exact ⟨review, answer, call_kept outcome was still (race_not_stop race caller), named⟩

theorem won_before (inv : RaceInvariant lockKey start world) (race : RaceEvent start event)
    (calm : GrantSucceeds world event) (outcome : StepOutcome lockKey world event next)
    {caller : Nat} {id : String} (won : Won next caller id) :
    Won world caller id ∨
      ∃ input review grantId, event = .advance caller input ∧
        world.calls caller = some (.review review (.recordReview grantId)) ∧
        review.requestId = id := by
  obtain ⟨review, point, answer, running, named, answered⟩ := won
  rcases review_after outcome running with
    ⟨was, _⟩ | ⟨_, started⟩ | ⟨before, input, moves, was, progress⟩
  · exact Or.inl ⟨review, point, answer, was, named, answered⟩
  · rcases start_point started with rfl | rfl <;> cases answered
  · rcases race_answer inv calm moves (no_fault race moves) was progress answered with
      had | ⟨_, isError, _⟩ | ⟨grantId, atRecord⟩
    · exact Or.inl ⟨review, before, answer, was, named, had⟩
    · cases isError
    · rw [atRecord] at was
      exact Or.inr ⟨input, review, grantId, moves, was, named⟩

theorem phase_of_row (inv : RaceInvariant lockKey start world) {row : AugmentationRequest}
    (member : row ∈ world.db.requests) (wasPending : WasPending start row.id) :
    Phase start world row := by
  obtain ⟨other, otherMember, otherId, phase⟩ := inv.phase row.id wasPending
  rw [request_eq_of_id inv.lock.sound.requests otherMember member otherId] at phase
  exact phase

theorem recording_unwon (inv : RaceInvariant lockKey start world) {caller winner : Nat}
    {review : Review} {grantId : Option String}
    (recording : world.calls caller = some (.review review (.recordReview grantId)))
    (won : Won world winner review.requestId) : False := by
  obtain ⟨row, member, rowId, pending⟩ := inv.lock.pending caller review _ recording rfl
  have wasPending := (inv.aimed caller review _ recording).1
  rw [← rowId] at wasPending won
  obtain ⟨winning, point, answer, running, named, answered⟩ := won
  cases phase_of_row inv member wasPending with
  | pending status paid unanswered =>
      rw [unanswered winner winning point running named] at answered
      cases answered
  | approved status grantNamed paid someWon =>
      rw [pending] at status
      cases status
  | denied status unpaid someWon =>
      rw [pending] at status
      cases status

theorem step_race_sole (inv : RaceInvariant lockKey start world)
    (race : RaceEvent start event) (calm : GrantSucceeds world event)
    (outcome : StepOutcome lockKey world event next) :
    ∀ left right id, Won next left id → Won next right id → left = right := by
  intro left right id leftWon rightWon
  rcases won_before inv race calm outcome leftWon with
    leftBefore | ⟨leftInput, leftReview, _, leftMoves, leftRecording, leftNamed⟩
  · rcases won_before inv race calm outcome rightWon with
      rightBefore | ⟨_, rightReview, _, _, rightRecording, rightNamed⟩
    · exact inv.sole left right id leftBefore rightBefore
    · rw [← rightNamed] at leftBefore
      exact (recording_unwon inv rightRecording leftBefore).elim
  · rcases won_before inv race calm outcome rightWon with
      rightBefore | ⟨rightInput, _, _, rightMoves, _, _⟩
    · rw [← leftNamed] at rightBefore
      exact (recording_unwon inv leftRecording rightBefore).elim
    · rw [leftMoves] at rightMoves
      cases rightMoves
      rfl

theorem winner_returned (inv : RaceInvariant lockKey start world) {caller : Nat}
    {review : Review} (getting : world.calls caller = some (.review review .get))
    {row : AugmentationRequest} (member : row ∈ world.db.requests)
    (rowId : row.id = review.requestId) (notPending : row.status ≠ .pendingReview) :
    ∃ winner, ReturnedOk world winner review.requestId := by
  have wasPending := (inv.aimed caller review _ getting).1
  rw [← rowId] at wasPending
  have someWon : ∃ winner, Won world winner row.id := by
    cases phase_of_row inv member wasPending with
    | pending status paid unanswered => exact absurd status notPending
    | approved status named paid won => exact won
    | denied status unpaid won => exact won
  obtain ⟨winner, winning, point, answer, running, named, answered⟩ := someWon
  cases point with
  | releaseLock result =>
      have isCaller := lock_exclusive inv.lock running getting rfl rfl (named.trans rowId)
      rw [isCaller, getting] at running
      cases running
  | returned result =>
      cases answered
      exact ⟨winner, winning, answer, running, named.trans rowId⟩
  | _ => cases answered

theorem step_race_losers (inv : RaceInvariant lockKey start world)
    (race : RaceEvent start event) (calm : GrantSucceeds world event)
    (outcome : StepOutcome lockKey world event next) :
    ∀ caller review point error, next.calls caller = some (.review review point) →
      answerOf point = some (.error error) →
      error = .alreadyReviewed review.requestId ∧
        ∃ winner, ReturnedOk next winner review.requestId := by
  intro caller review point error running answered
  have before : error = .alreadyReviewed review.requestId ∧
      ∃ winner, ReturnedOk world winner review.requestId := by
    rcases review_after outcome running with
      ⟨was, _⟩ | ⟨_, started⟩ | ⟨before, input, moves, was, progress⟩
    · exact inv.losers caller review point error was answered
    · rcases start_point started with rfl | rfl <;> cases answered
    · rcases race_answer inv calm moves (no_fault race moves) was progress answered with
        had | ⟨atGet, isError, row, member, rowId, notPending⟩ | ⟨grantId, atRecord⟩
      · exact inv.losers caller review before error was had
      · rw [atGet] at was
        cases isError
        exact ⟨rfl, winner_returned inv was member rowId notPending⟩
      · rw [atRecord] at was
        obtain ⟨won, _⟩ := race_record inv moves (no_fault race moves) outcome was
        obtain ⟨_, wonPoint, answer, wonRunning, _, wonAnswer⟩ := won
        rw [running] at wonRunning
        cases wonRunning
        rw [answered] at wonAnswer
        cases wonAnswer
  obtain ⟨isAlready, winner, returned⟩ := before
  exact ⟨isAlready, winner, returned_kept race outcome returned⟩

theorem step_race_aimed (inv : RaceInvariant lockKey start world)
    (race : RaceEvent start event) (outcome : StepOutcome lockKey world event next) :
    ∀ caller review point, next.calls caller = some (.review review point) →
      WasPending start review.requestId ∧ ReasonGiven review := by
  intro caller review point running
  rcases review_after outcome running with
    ⟨was, _⟩ | ⟨arrives, _⟩ | ⟨before, input, _, was, _⟩
  · exact inv.aimed caller review point was
  · rw [arrives] at race
    exact race
  · exact inv.aimed caller review before was

theorem step_race_granting (inv : RaceInvariant lockKey start world)
    (outcome : StepOutcome lockKey world event next) :
    ∀ caller review request, next.calls caller = some (.review review (.grant request)) →
      review.action = .approve := by
  intro caller review request running
  rcases review_after outcome running with
    ⟨was, _⟩ | ⟨_, started⟩ | ⟨before, input, _, _, progress⟩
  · exact inv.granting caller review request was
  · rcases start_point started with atStart | atStart <;> cases atStart
  · cases progress with
    | worked inside move locks =>
        generalize next.db = left at move
        cases move with
        | toGrant stored pending approves => exact approves

theorem step_race_recording (inv : RaceInvariant lockKey start world)
    (outcome : StepOutcome lockKey world event next) :
    ∀ caller review grantId,
      next.calls caller = some (.review review (.recordReview grantId)) →
      RecordsOwnGrant next.db review grantId := by
  intro caller review grantId running
  rcases review_after outcome running with
    ⟨was, _⟩ | ⟨_, started⟩ | ⟨before, input, _, was, progress⟩
  · have records := inv.recording caller review grantId was
    unfold RecordsOwnGrant at records ⊢
    split
    · rename_i approves
      rw [approves] at records
      obtain ⟨grant, member, keyed, isGrant⟩ := records
      exact ⟨grant, grants_kept outcome grant member, keyed, isGrant⟩
    · trivial
  · rcases start_point started with atStart | atStart <;> cases atStart
  · cases progress with
    | worked inside move locks =>
        generalize next.db = left at move ⊢
        cases move with
        | toRecord stored pending rejects => simp [RecordsOwnGrant, rejects]
        | @granted request _ row ran =>
            have approves := inv.granting caller review request was
            simp only [RecordsOwnGrant, approves]
            exact ⟨row, grant_ok_mem ran, grant_ok_key ran, rfl⟩

theorem paid_kept (outcome : StepOutcome lockKey world event next) {id : String}
    (paid : Paid world.db id) : Paid next.db id := by
  obtain ⟨grant, member, keyed⟩ := paid
  exact ⟨grant, grants_kept outcome grant member, keyed⟩

theorem paid_before (inv : RaceInvariant lockKey start world) (race : RaceEvent start event)
    (outcome : StepOutcome lockKey world event next) {id : String}
    (paid : Paid next.db id) :
    Paid world.db id ∨
      ∃ caller input review request, event = .advance caller input ∧
        world.calls caller = some (.review review (.grant request)) ∧
        review.requestId = id := by
  obtain ⟨grant, member, keyed⟩ := paid
  rcases grant_row_origin outcome member with old | ⟨_, fresh⟩
  · exact Or.inl ⟨grant, old, keyed⟩
  · exact Or.inr (fresh_approval_grant inv.lock (race_is_review race) fresh keyed)

theorem pending_after (inv : RaceInvariant lockKey start world) (race : RaceEvent start event)
    (calm : GrantSucceeds world event) (outcome : StepOutcome lockKey world event next)
    (sound : TablesSound next.db) {row : AugmentationRequest}
    (kept : row ∈ next.db.requests) (status : row.status = .pendingReview)
    (paid : Paid world.db row.id → Paid start.db row.id ∨ ApprovalRecording world row.id)
    (unanswered : ∀ caller review point,
      world.calls caller = some (.review review point) → review.requestId = row.id →
      answerOf point = none)
    (member : row ∈ world.db.requests) : Phase start next row := by
  have notRecording : ∀ caller input review grantId, event = .advance caller input →
      world.calls caller = some (.review review (.recordReview grantId)) →
      review.requestId ≠ row.id := by
    intro caller input review grantId moves recording named
    obtain ⟨_, settled, settledMember, settledId, notPending⟩ :=
      race_record inv moves (no_fault race moves) outcome recording
    have same : settled = row :=
      request_eq_of_id sound.requests settledMember kept (settledId.trans named)
    rw [same] at notPending
    exact notPending status
  apply Phase.pending status
  · intro paidNow
    rcases paid_before inv race outcome paidNow with
      already | ⟨caller, input, review, request, moves, granting, named⟩
    · rcases paid already with atStart |
        ⟨caller, review, grantId, recording, named, approves⟩
      · exact Or.inl atStart
      · have still : ∀ input, event ≠ .advance caller input := fun input moves =>
          notRecording caller input review grantId moves recording named
        exact Or.inr ⟨caller, review, grantId,
          call_kept outcome recording still (race_not_stop race caller), named, approves⟩
    · obtain ⟨grantId, recording⟩ := race_grant calm moves (no_fault race moves) outcome
        granting
      exact Or.inr ⟨caller, review, grantId, recording, named,
        inv.granting caller review request granting⟩
  · intro caller review point running named
    cases answered : answerOf point with
    | none => rfl
    | some result =>
        rcases review_after outcome running with
          ⟨was, _⟩ | ⟨_, started⟩ | ⟨before, input, moves, was, progress⟩
        · rw [unanswered caller review point was named] at answered
          cases answered
        · rcases start_point started with rfl | rfl <;> cases answered
        · rcases race_answer inv calm moves (no_fault race moves) was progress answered with
            had | ⟨_, _, other, otherMember, otherId, notPending⟩ | ⟨grantId, atRecord⟩
          · rw [unanswered caller review before was named] at had
            cases had
          · have same : other = row :=
              request_eq_of_id inv.lock.sound.requests otherMember member (otherId.trans named)
            rw [same] at notPending
            exact absurd status notPending
          · rw [atRecord] at was
            exact absurd named (notRecording caller input review grantId moves was)

theorem unpaid_kept (inv : RaceInvariant lockKey start world) (race : RaceEvent start event)
    (outcome : StepOutcome lockKey world event next) {row : AugmentationRequest}
    (member : row ∈ world.db.requests) (settled : row.status ≠ .pendingReview)
    (unpaid : Paid world.db row.id → Paid start.db row.id) (paidNow : Paid next.db row.id) :
    Paid start.db row.id := by
  rcases paid_before inv race outcome paidNow with
    already | ⟨caller, input, review, request, moves, granting, named⟩
  · exact unpaid already
  · obtain ⟨own, ownMember, ownId, pending⟩ :=
      inv.lock.pending caller review _ granting rfl
    have same : own = row :=
      request_eq_of_id inv.lock.sound.requests ownMember member (ownId.trans named)
    rw [same] at pending
    exact absurd pending settled

theorem rejecting_unpaid (inv : RaceInvariant lockKey start world) {caller : Nat}
    {review : Review} {grantId : Option String} {reason : String}
    (recording : world.calls caller = some (.review review (.recordReview grantId)))
    (rejects : review.action = .reject reason) {row : AugmentationRequest}
    (named : review.requestId = row.id)
    (paid : Paid world.db row.id → Paid start.db row.id ∨ ApprovalRecording world row.id)
    (isPaid : Paid world.db row.id) : Paid start.db row.id := by
  rcases paid isPaid with atStart | ⟨approver, approval, _, approving, approvalNamed, approves⟩
  · exact atStart
  · have same := lock_exclusive inv.lock approving recording rfl rfl
      (approvalNamed.trans named.symm)
    rw [same, recording] at approving
    cases approving
    rw [rejects] at approves
    cases approves

theorem step_race_phase (inv : RaceInvariant lockKey start world)
    (race : RaceEvent start event) (calm : GrantSucceeds world event)
    (outcome : StepOutcome lockKey world event next) (sound : TablesSound next.db) :
    ∀ id, WasPending start id → ∃ row ∈ next.db.requests, row.id = id ∧ Phase start next row := by
  intro id wasPending
  obtain ⟨row, member, rowId, phase⟩ := inv.phase id wasPending
  obtain ⟨later, laterMember, change⟩ :=
    (step_rows_changed inv.lock.sound outcome).forward row member
  refine ⟨later, laterMember, (row_change_same_origin change).id.trans rowId, ?_⟩
  cases change with
  | kept =>
      cases phase with
      | pending status paid unanswered =>
          exact pending_after inv race calm outcome sound laterMember status paid unanswered
            member
      | approved status named paid won =>
          exact .approved status named (paid_kept outcome paid)
            (won.imp fun _ => won_kept race outcome)
      | denied status unpaid won =>
          exact .denied status
            (unpaid_kept inv race outcome member (by simp [status]) unpaid)
            (won.imp fun _ => won_kept race outcome)
  | decided moves running => exact absurd running (inv.lock.reviewsOnly _ _ _)
  | @approved caller input review grantId moves running named approves pending =>
      have records := inv.recording caller review grantId running
      simp only [RecordsOwnGrant, approves] at records
      obtain ⟨grant, grantMember, keyed, isGrant⟩ := records
      rw [named] at keyed
      have won := (race_record inv moves (no_fault race moves) outcome running).1
      rw [named] at won
      apply Phase.approved rfl
      · simp [reviewed, isGrant]
      · exact ⟨grant, grants_kept outcome grant grantMember, keyed⟩
      · exact ⟨caller, won⟩
  | @rejected caller input review grantId reason moves running named rejects pending =>
      have won := (race_record inv moves (no_fault race moves) outcome running).1
      rw [named] at won
      refine Phase.denied rfl ?_ ⟨caller, won⟩
      intro paidNow
      rcases paid_before inv race outcome paidNow with
        already | ⟨granter, _, _, _, granterMoves, granting, _⟩
      · cases phase with
        | pending status paid unanswered =>
            exact rejecting_unpaid inv running rejects named paid already
        | approved status grantNamed paid someWon =>
            rw [pending] at status
            cases status
        | denied status unpaid someWon => exact unpaid already
      · rw [moves] at granterMoves
        cases granterMoves
        rw [running] at granting
        cases granting

theorem step_race_invariant (inv : RaceInvariant lockKey start world)
    (race : RaceEvent start event) (calm : GrantSucceeds world event)
    (stepped : step lockKey world event = some next) : RaceInvariant lockKey start next where
  lock := step_lock_invariant inv.lock (race_is_review race) stepped
  aimed := step_race_aimed inv race (step_outcome stepped)
  granting := step_race_granting inv (step_outcome stepped)
  recording := step_race_recording inv (step_outcome stepped)
  phase := step_race_phase inv race calm (step_outcome stepped)
    (step_sound inv.lock.sound stepped)
  losers := step_race_losers inv race calm (step_outcome stepped)
  sole := step_race_sole inv race calm (step_outcome stepped)

end Step

theorem initial_race_invariant (lockKey : String → Int64) {start : World}
    (rest : AtRest start) : RaceInvariant lockKey start start where
  lock := at_rest_lock_invariant lockKey rest
  aimed := by
    intro caller review point running
    exact (at_rest_no_call rest running).elim
  granting := by
    intro caller review request running
    exact (at_rest_no_call rest running).elim
  recording := by
    intro caller review grantId running
    exact (at_rest_no_call rest running).elim
  phase := by
    intro id wasPending
    obtain ⟨row, member, rowId, pending⟩ := wasPending
    refine ⟨row, member, rowId, .pending pending Or.inl ?_⟩
    intro caller review point running
    exact (at_rest_no_call rest running).elim
  losers := by
    intro caller review point error running
    exact (at_rest_no_call rest running).elim
  sole := by
    intro left right id won
    obtain ⟨review, point, answer, running, _⟩ := won
    exact (at_rest_no_call rest running).elim

def approvalGrantCount (db : BudgetDb) (id : String) : Nat :=
  db.grants.countP fun grant => grant.idempotencyKey = some (approvalKey id)

theorem approval_grant_count_one {db : BudgetDb} (integrity : LedgerIntegrity db)
    (id : String) : approvalGrantCount db id = 1 ↔ Paid db id := by
  unfold approvalGrantCount Paid
  rw [count_eq_one_iff_exists integrity.uniqueIdempotencyKeys]
  · simp
  · intro row holds
    exact of_decide_eq_true holds

theorem approval_grant_count_zero {db : BudgetDb} {id : String} (unpaid : ¬ Paid db id) :
    approvalGrantCount db id = 0 := by
  apply List.countP_eq_zero.mpr
  intro grant member holds
  exact unpaid ⟨grant, member, of_decide_eq_true holds⟩

/-- Exactly one call on the request wins as soon as one has returned, and every
other one is told that it is already reviewed. -/
structure OneDecides (world : World) (id : String) : Prop where
  oneWinner : (∃ caller review result,
      world.calls caller = some (.review review (.returned result)) ∧
        review.requestId = id) →
    ∃! caller, ReturnedOk world caller id
  losers : ∀ caller review error,
    world.calls caller = some (.review review (.returned (.error error))) →
    review.requestId = id → error = .alreadyReviewed id

def Unattended (world : World) (id : String) : Prop :=
  ∀ caller review point, world.calls caller = some (.review review point) →
    review.requestId = id → ReviewPoint.inside point = false

/-- The row and the ledger agree about the request whenever no call is at work on
it. -/
def RowAgrees (world : World) (id : String) : Prop :=
  Unattended world id → ∀ row ∈ world.db.requests, row.id = id →
    ((row.status = .approved ∧ row.grantId ≠ none) ↔
      approvalGrantCount world.db id = 1) ∧
    (row.status = .denied → approvalGrantCount world.db id = 0)

structure RaceDecided (world : World) (id : String) : Prop extends OneDecides world id where
  agrees : RowAgrees world id

/-- `events` lead from `start` to `world`: reviews of what was pending, and no step
fails. -/
structure Races (lockKey : String → Int64) (start : World) (events : List Event)
    (world : World) : Prop where
  reviews : ∀ event ∈ events, RaceEvent start event
  calm : Meets (step lockKey) GrantSucceeds start events
  ran : runFrom (step lockKey) start events = some world

theorem returned_ok_won {world : World} {caller : Nat} {id : String}
    (returned : ReturnedOk world caller id) : Won world caller id := by
  obtain ⟨review, answer, running, named⟩ := returned
  exact ⟨review, _, answer, running, named, rfl⟩

theorem one_decides {lockKey : String → Int64} {start world : World}
    (inv : RaceInvariant lockKey start world) (id : String) : OneDecides world id where
  oneWinner := by
    rintro ⟨caller, review, result, running, named⟩
    have someWinner : ∃ winner, ReturnedOk world winner id := by
      cases result with
      | ok answer => exact ⟨caller, review, answer, running, named⟩
      | error error =>
          rw [← named]
          exact (inv.losers caller review _ error running rfl).2
    obtain ⟨winner, returned⟩ := someWinner
    refine ⟨winner, returned, ?_⟩
    intro other otherReturned
    exact inv.sole other winner id (returned_ok_won otherReturned) (returned_ok_won returned)
  losers := by
    intro caller review error running named
    rw [← named]
    exact (inv.losers caller review _ error running rfl).1

theorem row_agrees {lockKey : String → Int64} {start world : World}
    (inv : RaceInvariant lockKey start world) {id : String}
    (wasPending : WasPending start id) (unpaidAtStart : ¬ Paid start.db id) :
    RowAgrees world id := by
  intro idle row member rowId
  rw [approval_grant_count_one inv.lock.sound.ledger]
  rw [← rowId] at wasPending
  cases phase_of_row inv member wasPending with
  | pending status paid unanswered =>
      have unpaid : ¬ Paid world.db id := by
        intro isPaid
        rw [rowId] at paid
        rcases paid isPaid with atStart | ⟨caller, review, grantId, recording, named, _⟩
        · exact unpaidAtStart atStart
        · have outside := idle caller review _ recording named
          cases outside
      simp [status, unpaid]
  | approved status named paid won =>
      rw [rowId] at paid
      simp [status, named, paid]
  | denied status unpaid won =>
      rw [rowId] at unpaid
      have stillUnpaid : ¬ Paid world.db id := fun paid => unpaidAtStart (unpaid paid)
      simp [status, stillUnpaid, approval_grant_count_zero stillUnpaid]

theorem holder_can_step (lockKey : String → Int64) {world : World} {caller : Nat}
    {review : Review} {point : ReviewPoint}
    (running : world.calls caller = some (.review review point))
    (holds : ReviewPoint.holdsLock point = true) (input : StepInput) :
    (step lockKey world (.advance caller input)).isSome = true := by
  cases point with
  | get => simp [step, running, advanceReview]
  | grant request => simp [step, running, advanceReview]
  | recordReview grantId => simp [step, running, advanceReview]
  | releaseLock result => simp [step, running, advanceReview]
  | validateReason => cases holds
  | acquireLock => cases holds
  | returned result => cases holds

theorem race_never_stuck {lockKey : String → Int64} {world : World}
    (inv : LockInvariant lockKey world) {caller : Nat} {review : Review}
    {point : ReviewPoint} (running : world.calls caller = some (.review review point))
    (unreturned : ∀ result, point ≠ .returned result) :
    ∃ mover, ∀ input, input.fault = none →
      (step lockKey world (.advance mover input)).isSome = true := by
  by_cases holds : ReviewPoint.holdsLock point = true
  · exact ⟨caller, fun input _ => holder_can_step lockKey running holds input⟩
  · cases point with
    | validateReason =>
        refine ⟨caller, ?_⟩
        intro input noFault
        simp only [step, running, advanceReview]
        split
        · split <;> rfl
        · rfl
    | acquireLock =>
        cases free : world.locks (lockKey review.requestId) with
        | none =>
            refine ⟨caller, ?_⟩
            intro input noFault
            simp [step, running, advanceReview, noFault, free]
        | some owner =>
            obtain ⟨ownerReview, ownerPoint, ownerRunning, ownerHolds⟩ :=
              inv.owned _ owner free
            exact ⟨owner, fun input _ =>
              holder_can_step lockKey ownerRunning ownerHolds input⟩
    | returned result => exact absurd rfl (unreturned result)
    | _ => exact absurd rfl holds

theorem race_keeps_invariant {lockKey : String → Int64} {start world : World}
    {events : List Event} (rest : AtRest start) (races : Races lockKey start events world) :
    RaceInvariant lockKey start world := by
  have racing : Meets (step lockKey) (fun _ event => RaceEvent start event) start events := by
    apply meets_of_forall_mem
    intro event member _
    exact races.reviews event member
  exact run_preserves_of_meets (RaceInvariant lockKey start)
    (fun _ _ _ inv condition stepped =>
      step_race_invariant inv condition.1 condition.2 stepped)
    (initial_race_invariant lockKey rest) (meets_and racing races.calm) races.ran

def rejection (id : String) : Review := ⟨id, "reviewer", .reject "too much"⟩

/-- A rejection of the request, from its arrival to its return. -/
def rejectionRun (id : String) : List Event :=
  [.arrive 0 (.review (rejection id)),
    .advance 0 (plainStep "" 0), .advance 0 (plainStep "" 0), .advance 0 (plainStep "" 0),
    .advance 0 (plainStep "" 0), .advance 0 (plainStep "" 0)]

theorem set_call_again (calls : Nat → Option Call) (caller : Nat) (first second : Option Call) :
    setCall (setCall calls caller first) caller second = setCall calls caller second := by
  funext other
  by_cases same : other = caller <;> simp [setCall, same]

theorem rejection_denies (lockKey : String → Int64) {start : World} (rest : AtRest start)
    {id : String} (wasPending : WasPending start id) :
    ∃ world, Races lockKey start (rejectionRun id) world ∧ Unattended world id ∧
      world.db.grants = start.db.grants ∧
      ∃ row ∈ world.db.requests, row.id = id ∧ row.status = .denied := by
  have given : isBlank "too much" = false := by decide
  have arrives : RaceEvent start (.arrive 0 (.review (rejection id))) := ⟨wasPending, given⟩
  obtain ⟨row, member, rowId, pending⟩ := wasPending
  have stored : findKey requestId start.db.requests id = some row :=
    find_key_eq_of_unique rest.sound.requests.uniqueIds member (congrArg some rowId)
  have read : AugmentationRequests.get start.db id = .ok row := by
    simp [AugmentationRequests.get, stored]
  have records := record_review_ok "reviewer" (0 : Instant)
    (Or.inr ⟨rfl, "too much", rfl, given⟩) stored pending
    (show danglingGrant start.db none = false from rfl)
  have free := rest.noLocks (lockKey id)
  have idle := rest.noCalls 0
  let recorded := reviewed .denied "reviewer" (some "too much") none 0
  refine ⟨{ start with
      db := { start.db with requests := updateKey requestId start.db.requests id recorded }
      locks := freeLocks (holdLock start.locks (lockKey id) 0) 0
      calls := setCall start.calls 0
        (some (.review (rejection id) (.returned (.ok (recorded row))))) },
    ⟨?_, ?_, ?_⟩, ?_, rfl, ?_⟩
  · intro event among
    simp only [rejectionRun, List.mem_cons, List.not_mem_nil, or_false] at among
    rcases among with rfl | rfl | rfl | rfl | rfl | rfl
    · exact arrives
    all_goals rfl
  · simp [rejectionRun, Meets, GrantSucceeds, step, idle, Operation.start, rejection,
      advanceReview, set_call_self, set_call_again, given, plainStep, free, reviewStep,
      attemptRead, read, pending, attempt, recordOutcome, records, grantingReview]
  · simp [rejectionRun, runFrom, step, idle, Operation.start, rejection, advanceReview,
      set_call_self, set_call_again, given, plainStep, free, reviewStep, attemptRead, read,
      pending, attempt, recordOutcome, records, recorded]
  · intro caller review point running named
    dsimp only at running
    by_cases same : caller = 0
    · rw [same, set_call_self] at running
      cases running
      rfl
    · rw [set_call_other _ same, rest.noCalls caller] at running
      cases running
  · refine ⟨_, mem_update_key.mpr ⟨row, member, rfl⟩, ?_⟩
    simp [requestId, rowId, reviewed, recorded]

/-- From any database at rest, any number of reviews of its pending requests race
each other without failures: every request is decided once and the race is never
stuck. Row and ledger agree about a request after every such race exactly if no
grant held its approval key when the race began. -/
theorem reviews_race_safely (lockKey : String → Int64) (start : World) (rest : AtRest start) :
    (∀ events world, Races lockKey start events world →
      (∀ id, OneDecides world id) ∧
      ∀ caller review point, world.calls caller = some (.review review point) →
        (∀ result, point ≠ .returned result) →
        ∃ mover, ∀ input, input.fault = none →
          (step lockKey world (.advance mover input)).isSome = true) ∧
    ∀ id, WasPending start id →
      ((∀ events world, Races lockKey start events world → RaceDecided world id) ↔
        ¬ Paid start.db id) := by
  constructor
  · intro events world races
    have inv := race_keeps_invariant rest races
    exact ⟨one_decides inv, fun caller review point running unreturned =>
      race_never_stuck inv.lock running unreturned⟩
  · intro id wasPending
    constructor
    · intro decided paid
      obtain ⟨world, races, idle, sameGrants, row, member, rowId, denied⟩ :=
        rejection_denies lockKey rest wasPending
      have none := ((decided _ world races).agrees idle row member rowId).2 denied
      have one := (approval_grant_count_one rest.sound.ledger id).mpr paid
      unfold approvalGrantCount at none one
      rw [sameGrants, one] at none
      cases none
    · intro unpaid events world races
      have inv := race_keeps_invariant rest races
      exact { one_decides inv id with agrees := row_agrees inv wasPending unpaid }

def threeReviews : List Event :=
  [.arrive 0 (.review ⟨"r1", "first", .approve⟩),
    .arrive 1 (.review ⟨"r1", "second", .approve⟩),
    .arrive 2 (.review ⟨"r1", "third", .reject "too much"⟩),
    .advance 1 (plainStep "" 1), .advance 2 (plainStep "" 2), .advance 1 (plainStep "" 3),
    .advance 1 (plainStep "g1" 4), .advance 1 (plainStep "" 5), .advance 1 (plainStep "" 6),
    .advance 2 (plainStep "" 7), .advance 2 (plainStep "" 8), .advance 2 (plainStep "" 9),
    .advance 0 (plainStep "" 10), .advance 0 (plainStep "" 11), .advance 0 (plainStep "" 12)]

theorem three_reviews_decide_once :
    ∃ world, Races (fun _ => 0) pendingWorld threeReviews world ∧
      RaceDecided world "r1" ∧ ∃! caller, ReturnedOk world caller "r1" := by
  have reached : reaches (step fun _ => 0) pendingWorld threeReviews (fun world =>
      world.calls 2 = some (.review ⟨"r1", "third", .reject "too much"⟩
        (.returned (.error (.alreadyReviewed "r1"))))) = true := by
    decide +kernel
  obtain ⟨world, ran, returned⟩ := exists_of_reaches reached
  have races : Races (fun _ => 0) pendingWorld threeReviews world :=
    ⟨by decide +kernel, by decide +kernel, ran⟩
  have unpaid : ¬ Paid pendingWorld.db "r1" := by
    rintro ⟨grant, member, _⟩
    cases member
  have decided := ((reviews_race_safely (fun _ => 0) pendingWorld pending_world_at_rest).2 "r1"
    (by decide)).mpr unpaid _ world races
  exact ⟨world, races, decided,
    decided.oneWinner ⟨2, _, _, of_decide_eq_true returned, rfl⟩⟩

/-- An admin grant whose caller chose the approval key of the pending request. -/
def squattingGrant : AdminGrant where
  budgetAccountId := "acct"
  accountId := "acct"
  projectId := none
  period := ⟨"2026-08", Eq.refl true⟩
  amountMicros := 15000000
  subject := "admin"
  reason := none
  idempotencyKey := some (approvalKey "r1")

def squattedWorld : World :=
  { pendingWorld with db := (grantBudget pendingWorld.db squattingGrant ⟨"g1", 1⟩).1 }

theorem squatted_world_at_rest : AtRest squattedWorld where
  sound := by
    have stepped : step (fun _ => 0) pendingWorld (.grantBudget squattingGrant ⟨"g1", 1⟩) =
        some squattedWorld := rfl
    exact step_sound pending_world_at_rest.sound stepped
  noCalls := fun _ => rfl
  noLocks := fun _ => rfl

/-- The ledger holds a grant under the approval key before the review starts, and
the rejection denies the request all the same. -/
theorem squatted_approval_key_outlives_denial :
    ∃ world, step (fun _ => 0) pendingWorld (.grantBudget squattingGrant ⟨"g1", 1⟩) =
        some squattedWorld ∧
      AtRest squattedWorld ∧ WasPending squattedWorld "r1" ∧
      Races (fun _ => 0) squattedWorld (rejectionRun "r1") world ∧
      (∃ row ∈ world.db.requests, row.id = "r1" ∧ row.status = .denied ∧
        approvalGrantCount world.db "r1" = 1) ∧
      ¬ RaceDecided world "r1" := by
  have pending : WasPending squattedWorld "r1" := by decide
  have one : approvalGrantCount squattedWorld.db "r1" = 1 := by decide
  obtain ⟨world, races, idle, sameGrants, row, member, rowId, denied⟩ :=
    rejection_denies (fun _ => 0) squatted_world_at_rest pending
  have stillOne : approvalGrantCount world.db "r1" = 1 := by
    unfold approvalGrantCount at one ⊢
    rw [sameGrants]
    exact one
  refine ⟨world, rfl, squatted_world_at_rest, pending, races,
    ⟨row, member, rowId, denied, stillOne⟩, ?_⟩
  intro decided
  have none := (decided.agrees idle row member rowId).2 denied
  rw [stillOne] at none
  cases none

end LightbridgeAuthz.Budget.ReviewRace
