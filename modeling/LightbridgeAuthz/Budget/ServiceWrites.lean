import LightbridgeAuthz.Budget.ServiceSteps

/-!
# What a step leaves behind

`StepOutcome` seen from one side at a time: what a step does to the tables
(`DbWrite`), who wrote to the ledger (`LedgerWrite`) and to the requests
(`RequestWrite`, `RowChange`), and where a refill or a review stands afterwards.
The invariants of the later modules are case analyses over these.
-/

namespace LightbridgeAuthz.Budget.ServiceWrites

open Library.EventRun Library.KeyedRows
open Domain GrantLedger LedgerReplay Revocation EffectiveBalance AugmentationRequests RuleData
open ServiceWorld ServiceSteps

set_option autoImplicit false

/-- What a step does to the tables: nothing, or one committed statement. -/
inductive DbWrite (db : BudgetDb) : BudgetDb → Prop where
  | same : DbWrite db db
  | granted {request : GrantRequest} {stamp : Stamp} {next : BudgetDb}
      {answer : Except BudgetError BudgetGrant}
      (ran : GrantLedger.grant db request stamp = (next, answer)) : DbWrite db next
  | created {request : NewAugmentationRequest} {stamp : Stamp} {next : BudgetDb}
      {answer : Except BudgetError AugmentationRequest}
      (ran : create db request stamp = (next, answer)) : DbWrite db next
  | decided {id : String} {decision : RecordedDecision} {next : BudgetDb}
      {answer : Except BudgetError AugmentationRequest}
      (ran : recordDecision db id decision = (next, answer)) : DbWrite db next
  | reviewed {id : String} {status : AugmentationStatus} {reviewedBy : String}
      {rejectionReason grantId : Option String} {now : Instant} {next : BudgetDb}
      {answer : Except BudgetError AugmentationRequest}
      (ran : recordReview db id status reviewedBy rejectionReason grantId now =
        (next, answer)) : DbWrite db next

/-- A statement whose reply was an error either left the tables alone or was
committed; what holds of both holds of what it left. -/
theorem of_left {property : BudgetDb → Prop} {db next written : BudgetDb}
    (left : next = db ∨ next = written) (untouched : property db)
    (committed : property written) : property next := by
  rcases left with same | wrote
  · rw [same]
    exact untouched
  · rw [wrote]
    exact committed

theorem refill_db_write {engine : PolicyEngine} {db next : BudgetDb} {request : RefillRequest}
    {input : StepInput} {point later : RefillPoint}
    (move : RefillMove engine db request input point next later) : DbWrite db next := by
  cases move with
  | created ran => exact .created ran
  | createFailed left => exact of_left left .same (.created rfl)
  | granted ran => exact .granted ran
  | grantFailed left => exact of_left left .same (.granted rfl)
  | recorded ran => exact .decided ran
  | recordFailed left => exact of_left left .same (.decided rfl)
  | _ => exact .same

theorem record_outcome_write {db next : BudgetDb} {review : Review} {grantId : Option String}
    {now : Instant} {answer : Except BudgetError AugmentationRequest}
    (ran : recordOutcome db review grantId now = (next, answer)) : DbWrite db next := by
  unfold recordOutcome at ran
  split at ran
  · exact .reviewed ran
  · exact .reviewed ran

theorem review_db_write {db next : BudgetDb} {review : Review} {input : StepInput}
    {point later : ReviewPoint} (move : ReviewMove db review input point next later) :
    DbWrite db next := by
  cases move with
  | granted ran => exact .granted ran
  | grantFailed left why => exact of_left left .same (.granted rfl)
  | recorded ran => exact record_outcome_write ran
  | recordFailed left why => exact of_left left .same (record_outcome_write rfl)
  | _ => exact .same

theorem step_db_write {lockKey : String → Int64} {world next : World} {event : Event}
    (outcome : StepOutcome lockKey world event next) : DbWrite world.db next.db := by
  cases outcome with
  | refillMoved running unfinished move => exact refill_db_write move
  | reviewMoved running inside move => exact review_db_write move
  | budgetGranted order stamp => exact .granted rfl
  | budgetRevoked subject grantId reason stamp =>
      rcases revoke_is_grant world.db subject grantId reason stamp with
        same | ⟨original, _, ran⟩
      · rw [same]
        exact .same
      · rw [ran]
        exact .granted rfl
  | _ => exact .same

/-- What holds of the tables in every reachable world: the unique indexes, and
the balances being the replayed ledger. -/
structure TablesSound (db : BudgetDb) : Prop where
  ledger : LedgerIntegrity db
  requests : RequestIntegrity db.requests
  replays : Replays db

theorem empty_tables_sound (accounts projects : List String) :
    TablesSound (BudgetDb.empty accounts projects) where
  ledger := empty_integrity accounts projects
  requests := request_integrity_nil
  replays := empty_replays accounts projects

theorem sound_with_requests {db : BudgetDb} (sound : TablesSound db)
    {rows : List AugmentationRequest} (integrity : RequestIntegrity rows) :
    TablesSound { db with requests := rows } where
  ledger := ⟨sound.ledger.uniqueIds, sound.ledger.uniqueIdempotencyKeys,
    sound.ledger.neverRevoked⟩
  requests := integrity
  replays := sound.replays

theorem update_sound {db next : BudgetDb} (sound : TablesSound db) {id : String}
    {change : AugmentationRequest → AugmentationRequest} {admits : AugmentationRequest → Prop}
    {answer : Except BudgetError AugmentationRequest}
    (keeps : ∀ row, SameOrigin row (change row))
    (outcome : UpdateOutcome db id change admits next answer) : TablesSound next := by
  cases outcome with
  | refused error => exact sound
  | updated stored admitted =>
      exact sound_with_requests sound (request_integrity_update sound.requests keeps)

theorem db_write_sound {db next : BudgetDb} (sound : TablesSound db)
    (write : DbWrite db next) : TablesSound next := by
  cases write with
  | same => exact sound
  | granted ran =>
      constructor
      · exact grant_preserves_integrity sound.ledger ran
      · rw [(grant_frame ran).1]
        exact sound.requests
      · exact grant_preserves_replay sound.replays ran
  | created ran =>
      cases create_outcome ran with
      | refused error => exact sound
      | found keyed stored => exact sound
      | inserted freshKey freshId =>
          exact sound_with_requests sound
            (request_integrity_append sound.requests freshKey freshId)
  | decided ran =>
      exact update_sound sound (same_origin_decided _) (record_decision_outcome ran)
  | reviewed ran =>
      exact update_sound sound (same_origin_reviewed _ _ _ _ _) (record_review_outcome ran)

theorem step_sound {lockKey : String → Int64} {world next : World} {event : Event}
    (sound : TablesSound world.db) (stepped : step lockKey world event = some next) :
    TablesSound next.db :=
  db_write_sound sound (step_db_write (step_outcome stepped))

theorem request_row_persists {db next : BudgetDb} (write : DbWrite db next)
    {row : AugmentationRequest} (member : row ∈ db.requests) :
    ∃ later ∈ next.requests, SameOrigin row later := by
  have updated : ∀ (id : String) (change : AugmentationRequest → AugmentationRequest),
      (∀ row, SameOrigin row (change row)) →
      ∃ later ∈ updateKey requestId db.requests id change, SameOrigin row later := by
    intro id change keeps
    refine ⟨_, mem_update_key.mpr ⟨row, member, rfl⟩, ?_⟩
    split
    · exact keeps row
    · exact same_origin_refl row
  cases write with
  | same => exact ⟨row, member, same_origin_refl row⟩
  | granted ran =>
      rw [(grant_frame ran).1]
      exact ⟨row, member, same_origin_refl row⟩
  | created ran =>
      cases create_outcome ran with
      | refused error => exact ⟨row, member, same_origin_refl row⟩
      | found keyed stored => exact ⟨row, member, same_origin_refl row⟩
      | inserted freshKey freshId =>
          exact ⟨row, List.mem_append_left _ member, same_origin_refl row⟩
  | decided ran =>
      cases record_decision_outcome ran with
      | refused error => exact ⟨row, member, same_origin_refl row⟩
      | updated stored admitted => exact updated _ _ (same_origin_decided _)
  | reviewed ran =>
      cases record_review_outcome ran with
      | refused error => exact ⟨row, member, same_origin_refl row⟩
      | updated stored admitted => exact updated _ _ (same_origin_reviewed _ _ _ _ _)

/-- The request row a refill works on, from its creation to its decision. -/
def createdId : RefillPoint → Option String
  | .readEffectiveBalance createdId => some createdId
  | .readGrantCount createdId _ => some createdId
  | .readSpendThisPeriod createdId _ _ => some createdId
  | .readSpendLastPeriod createdId _ _ _ => some createdId
  | .evaluate createdId _ => some createdId
  | .grant createdId _ _ => some createdId
  | .recordDecision createdId _ => some createdId
  | _ => none

theorem set_call_some {calls : Nat → Option Call} {caller other : Nat} {entry : Option Call}
    {call : Call} (running : setCall calls caller entry other = some call) :
    (other = caller ∧ entry = some call) ∨ (other ≠ caller ∧ calls other = some call) := by
  unfold setCall at running
  by_cases same : other = caller
  · exact Or.inl ⟨same, by rwa [if_pos same] at running⟩
  · exact Or.inr ⟨same, by rwa [if_neg same] at running⟩

/-- How a review moves on, with what becomes of the tables and the locks. -/
inductive ReviewProgress (lockKey : String → Int64) (world : World) (caller : Nat)
    (review : Review) (input : StepInput) (next : World) : ReviewPoint → ReviewPoint → Prop where
  | worked {before point : ReviewPoint} (inside : ReviewPoint.inside before = true)
      (move : ReviewMove world.db review input before next.db point)
      (locks : next.locks = world.locks) :
      ReviewProgress lockKey world caller review input next before point
  | refused {reason : String} (rejects : review.action = .reject reason)
      (blank : isBlank reason = true) (db : next.db = world.db)
      (locks : next.locks = world.locks) :
      ReviewProgress lockKey world caller review input next .validateReason
        (.returned (.error .missingRejectionReason))
  | accepted (db : next.db = world.db) (locks : next.locks = world.locks) :
      ReviewProgress lockKey world caller review input next .validateReason .acquireLock
  | lockFailed {error : BudgetError} (why : input.fault ≠ none) (db : next.db = world.db)
      (locks : next.locks = world.locks) :
      ReviewProgress lockKey world caller review input next .acquireLock
        (.returned (.error error))
  | locked (free : world.locks (lockKey review.requestId) = none) (db : next.db = world.db)
      (locks : next.locks = holdLock world.locks (lockKey review.requestId) caller) :
      ReviewProgress lockKey world caller review input next .acquireLock .get
  | released {result answer : Except BudgetError AugmentationRequest}
      (why : input.fault ≠ none ∨ answer = result) (db : next.db = world.db)
      (locks : next.locks = freeLocks world.locks caller) :
      ReviewProgress lockKey world caller review input next (.releaseLock result)
        (.returned answer)

theorem advance_progress {lockKey : String → Int64} {world next : World} {caller : Nat}
    {input : StepInput} (outcome : StepOutcome lockKey world (.advance caller input) next) :
    (∃ request before point, world.calls caller = some (.refill request before) ∧
      next.calls caller = some (.refill request point) ∧
      RefillMove world.engine world.db request input before next.db point) ∨
    ∃ review before point, world.calls caller = some (.review review before) ∧
      next.calls caller = some (.review review point) ∧
      ReviewProgress lockKey world caller review input next before point := by
  have moved : ∀ call, setCall world.calls caller (some call) caller = some call := by
    intro call
    simp [setCall]
  cases outcome with
  | refillMoved running unfinished move =>
      exact Or.inl ⟨_, _, _, running, moved _, move⟩
  | reviewMoved running inside move =>
      exact Or.inr ⟨_, _, _, running, moved _, .worked inside move rfl⟩
  | reasonRefused running rejects blank =>
      exact Or.inr ⟨_, _, _, running, moved _, .refused rejects blank rfl rfl⟩
  | reasonAccepted running =>
      exact Or.inr ⟨_, _, _, running, moved _, .accepted rfl rfl⟩
  | lockFailed running why =>
      exact Or.inr ⟨_, _, _, running, moved _, .lockFailed why rfl rfl⟩
  | locked running free =>
      exact Or.inr ⟨_, _, _, running, moved _, .locked free rfl rfl⟩
  | released running why =>
      exact Or.inr ⟨_, _, _, running, moved _, .released why rfl rfl⟩

theorem call_before {lockKey : String → Int64} {world next : World} {event : Event}
    (outcome : StepOutcome lockKey world event next) {caller : Nat} {call : Call}
    (running : next.calls caller = some call) (still : ∀ input, event ≠ .advance caller input) :
    world.calls caller = some call ∨
      ∃ operation, event = .arrive caller operation ∧ call = operation.start ∧
        next.db = world.db := by
  cases outcome with
  | @arrived arriver operation free =>
      rcases set_call_some running with ⟨same, started⟩ | ⟨_, kept⟩
      · rw [same]
        exact Or.inr ⟨operation, rfl, (Option.some.inj started).symm, rfl⟩
      · exact Or.inl kept
  | stopped stopping =>
      rcases set_call_some running with ⟨_, gone⟩ | ⟨_, kept⟩
      · cases gone
      · exact Or.inl kept
  | swapped engine => exact Or.inl running
  | budgetGranted order stamp => exact Or.inl running
  | budgetRevoked subject grantId reason stamp => exact Or.inl running
  | _ =>
      rcases set_call_some running with ⟨same, _⟩ | ⟨_, kept⟩
      · rw [same] at still
        exact absurd rfl (still _)
      · exact Or.inl kept

theorem absent_after {lockKey : String → Int64} {world next : World} {event : Event}
    (outcome : StepOutcome lockKey world event next) {caller : Nat}
    (absent : world.calls caller = none)
    (notArriving : ∀ operation, event ≠ .arrive caller operation) :
    next.calls caller = none := by
  cases after : next.calls caller with
  | none => rfl
  | some call =>
      by_cases moving : ∃ input, event = .advance caller input
      · obtain ⟨input, moves⟩ := moving
        rw [moves] at outcome
        rcases advance_progress outcome with ⟨_, _, _, was, _⟩ | ⟨_, _, _, was, _⟩
        · rw [absent] at was
          cases was
        · rw [absent] at was
          cases was
      · rcases call_before outcome after (fun input moves => moving ⟨input, moves⟩) with
          was | ⟨operation, arrives, _⟩
        · rw [absent] at was
          cases was
        · exact absurd arrives (notArriving operation)

theorem refill_after {lockKey : String → Int64} {world next : World} {event : Event}
    (outcome : StepOutcome lockKey world event next) {caller : Nat} {request : RefillRequest}
    {point : RefillPoint} (running : next.calls caller = some (.refill request point)) :
    (world.calls caller = some (.refill request point) ∧
        ∀ input, event ≠ .advance caller input) ∨
      (point = .findExisting ∧ next.db = world.db) ∨
      ∃ before input, event = .advance caller input ∧
        world.calls caller = some (.refill request before) ∧
        RefillMove world.engine world.db request input before next.db point := by
  by_cases moving : ∃ input, event = .advance caller input
  · obtain ⟨input, moves⟩ := moving
    rw [moves] at outcome
    rcases advance_progress outcome with
      ⟨asked, before, later, was, after, move⟩ | ⟨_, _, _, _, after, _⟩
    · rw [running] at after
      cases after
      exact Or.inr (Or.inr ⟨before, input, moves, was, move⟩)
    · rw [running] at after
      cases after
  · have still : ∀ input, event ≠ .advance caller input := fun input moves =>
      moving ⟨input, moves⟩
    rcases call_before outcome running still with kept | ⟨operation, _, started, sameDb⟩
    · exact Or.inl ⟨kept, still⟩
    · cases operation with
      | refill asked =>
          cases started
          exact Or.inr (Or.inl ⟨rfl, sameDb⟩)
      | review asked =>
          simp only [Operation.start] at started
          split at started <;> cases started

theorem review_after {lockKey : String → Int64} {world next : World} {event : Event}
    (outcome : StepOutcome lockKey world event next) {caller : Nat} {review : Review}
    {point : ReviewPoint} (running : next.calls caller = some (.review review point)) :
    (world.calls caller = some (.review review point) ∧
        ∀ input, event ≠ .advance caller input) ∨
      (event = .arrive caller (.review review) ∧
        Call.review review point = (Operation.review review).start) ∨
      ∃ before input, event = .advance caller input ∧
        world.calls caller = some (.review review before) ∧
        ReviewProgress lockKey world caller review input next before point := by
  by_cases moving : ∃ input, event = .advance caller input
  · obtain ⟨input, moves⟩ := moving
    rw [moves] at outcome
    rcases advance_progress outcome with
      ⟨_, _, _, _, after, _⟩ | ⟨asked, before, later, was, after, progress⟩
    · rw [running] at after
      cases after
    · rw [running] at after
      cases after
      exact Or.inr (Or.inr ⟨before, input, moves, was, progress⟩)
  · have still : ∀ input, event ≠ .advance caller input := fun input moves =>
      moving ⟨input, moves⟩
    rcases call_before outcome running still with kept | ⟨operation, arrives, started, _⟩
    · exact Or.inl ⟨kept, still⟩
    · cases operation with
      | refill asked => cases started
      | review asked =>
          have asks := started
          simp only [Operation.start] at started
          split at started
          · cases started
            exact Or.inr (Or.inl ⟨arrives, asks⟩)
          · cases started
            exact Or.inr (Or.inl ⟨arrives, asks⟩)

theorem call_kept {lockKey : String → Int64} {world next : World} {event : Event}
    (outcome : StepOutcome lockKey world event next) {caller : Nat} {call : Call}
    (was : world.calls caller = some call) (still : ∀ input, event ≠ .advance caller input)
    (notStopped : event ≠ .stop caller) : next.calls caller = some call := by
  have other : ∀ mover entry, caller ≠ mover →
      setCall world.calls mover entry caller = some call := by
    intro mover entry different
    simpa [setCall, different] using was
  cases outcome with
  | @arrived arriver operation free =>
      apply other
      intro same
      rw [same, free] at was
      cases was
  | @stopped stopper stopping running =>
      apply other
      intro same
      rw [same] at notStopped
      exact notStopped rfl
  | swapped engine => exact was
  | budgetGranted order stamp => exact was
  | budgetRevoked subject grantId reason stamp => exact was
  | _ =>
      apply other
      intro same
      rw [same] at still
      exact still _ rfl

theorem review_moves {lockKey : String → Int64} {world next : World} {caller : Nat}
    {input : StepInput} (outcome : StepOutcome lockKey world (.advance caller input) next)
    {review : Review} {before : ReviewPoint}
    (was : world.calls caller = some (.review review before)) :
    ∃ point, next.calls caller = some (.review review point) ∧
      ReviewProgress lockKey world caller review input next before point := by
  rcases advance_progress outcome with
    ⟨_, _, _, running, _⟩ | ⟨asked, earlier, point, running, after, progress⟩
  · rw [was] at running
    cases running
  · rw [was] at running
    cases running
    exact ⟨point, after, progress⟩

theorem move_created_id {engine : PolicyEngine} {db next : BudgetDb} {request : RefillRequest}
    {input : StepInput} {before point : RefillPoint} {id : String}
    (move : RefillMove engine db request input before next point)
    (isCreated : createdId point = some id) :
    createdId before = some id ∨
      ∃ requestedTier row, before = .create requestedTier ∧ row.id = id ∧
        create db (newRequest request requestedTier) input.stamp = (next, .ok row) := by
  cases move with
  | created ran => exact Or.inr ⟨_, _, rfl, Option.some.inj isCreated, ran⟩
  | balanceRead effectiveBalanceMicros => exact Or.inl isCreated
  | countRead => exact Or.inl isCreated
  | spendThisRead spend => exact Or.inl isCreated
  | spendLastRead spend => exact Or.inl isCreated
  | approved evaluated approves => exact Or.inl isCreated
  | deferred unpaid withheld => exact Or.inl isCreated
  | granted ran => exact Or.inl isCreated
  | _ => cases isCreated

/-- A property of one refill and the tables that holds at the start, survives
every statement and every move of the refill holds of all refills after every
step. -/
theorem refills_preserved {property : BudgetDb → RefillRequest → RefillPoint → Prop}
    (start : ∀ db request, property db request .findExisting)
    (frame : ∀ db next request point, DbWrite db next → property db request point →
      property next request point)
    (move : ∀ engine db next request input before point, TablesSound db →
      RefillMove engine db request input before next point → property db request before →
      property next request point)
    {lockKey : String → Int64} {world next : World} {event : Event}
    (sound : TablesSound world.db)
    (holds : ∀ caller request point, world.calls caller = some (.refill request point) →
      property world.db request point)
    (stepped : step lockKey world event = some next) :
    ∀ caller request point, next.calls caller = some (.refill request point) →
      property next.db request point := by
  intro caller request point running
  have outcome := step_outcome stepped
  rcases refill_after outcome running with
    ⟨kept, _⟩ | ⟨started, _⟩ | ⟨before, input, _, was, moved⟩
  · exact frame _ _ _ _ (step_db_write outcome) (holds caller request point kept)
  · rw [started]
    exact start next.db request
  · exact move _ _ _ _ _ _ _ sound moved (holds caller request before was)

inductive LedgerWrite (world : World) (event : Event) : BudgetDb → Prop where
  | unchanged {next : BudgetDb} (same : next.grants = world.db.grants) :
      LedgerWrite world event next
  | refill {caller : Nat} {input : StepInput} {request : RefillRequest} {createdId : String}
      {facts : Facts} {decision : Decision} {next : BudgetDb}
      {answer : Except BudgetError BudgetGrant} (moves : event = .advance caller input)
      (running : world.calls caller = some (.refill request (.grant createdId facts decision)))
      (ran : GrantLedger.grant world.db (refillGrant request decision) input.stamp =
        (next, answer)) : LedgerWrite world event next
  | review {caller : Nat} {input : StepInput} {review : Review}
      {request : AugmentationRequest} {next : BudgetDb}
      {answer : Except BudgetError BudgetGrant} (moves : event = .advance caller input)
      (running : world.calls caller = some (.review review (.grant request)))
      (ran : GrantLedger.grant world.db (approvalGrant review request) input.stamp =
        (next, answer)) : LedgerWrite world event next
  | admin {order : AdminGrant} {stamp : Stamp} {next : BudgetDb}
      {answer : Except BudgetError BudgetGrant} (moves : event = .grantBudget order stamp)
      (ran : GrantLedger.grant world.db order.request stamp = (next, answer)) :
      LedgerWrite world event next
  | correction {subject grantId reason : String} {stamp : Stamp} {original : BudgetGrant}
      {next : BudgetDb} {answer : Except BudgetError BudgetGrant}
      (moves : event = .revokeBudgetGrant subject grantId reason stamp)
      (ran : GrantLedger.grant world.db (correctionRequest original subject grantId reason)
        stamp = (next, answer)) : LedgerWrite world event next

inductive RequestWrite (world : World) (event : Event) : BudgetDb → Prop where
  | unchanged {next : BudgetDb} (same : next.requests = world.db.requests) :
      RequestWrite world event next
  | created {caller : Nat} {input : StepInput} {request : RefillRequest}
      {requestedTier : BudgetTier} {next : BudgetDb}
      {answer : Except BudgetError AugmentationRequest}
      (moves : event = .advance caller input)
      (running : world.calls caller = some (.refill request (.create requestedTier)))
      (ran : create world.db (newRequest request requestedTier) input.stamp =
        (next, answer)) : RequestWrite world event next
  | decided {caller : Nat} {input : StepInput} {request : RefillRequest} {createdId : String}
      {decision : RecordedDecision} {next : BudgetDb}
      {answer : Except BudgetError AugmentationRequest}
      (moves : event = .advance caller input)
      (running : world.calls caller =
        some (.refill request (.recordDecision createdId decision)))
      (ran : recordDecision world.db createdId decision = (next, answer)) :
      RequestWrite world event next
  | reviewed {caller : Nat} {input : StepInput} {review : Review} {grantId : Option String}
      {next : BudgetDb} {answer : Except BudgetError AugmentationRequest}
      (moves : event = .advance caller input)
      (running : world.calls caller = some (.review review (.recordReview grantId)))
      (ran : recordOutcome world.db review grantId input.stamp.now = (next, answer)) :
      RequestWrite world event next

theorem record_outcome_grants {db next : BudgetDb} {review : Review} {grantId : Option String}
    {now : Instant} {answer : Except BudgetError AugmentationRequest}
    (ran : recordOutcome db review grantId now = (next, answer)) :
    next.grants = db.grants := by
  unfold recordOutcome at ran
  split at ran
  · exact update_grants (record_review_outcome ran)
  · exact update_grants (record_review_outcome ran)

theorem step_ledger_write {lockKey : String → Int64} {world next : World} {event : Event}
    (outcome : StepOutcome lockKey world event next) : LedgerWrite world event next.db := by
  cases outcome with
  | refillMoved running unfinished move =>
      cases move with
      | created ran => exact .unchanged (create_grants ran)
      | createFailed left =>
          exact of_left left (.unchanged rfl) (.unchanged (create_grants rfl))
      | granted ran => exact .refill rfl running ran
      | grantFailed left =>
          exact of_left left (.unchanged rfl) (.refill rfl running rfl)
      | recorded ran => exact .unchanged (update_grants (record_decision_outcome ran))
      | recordFailed left =>
          exact of_left left (.unchanged rfl)
            (.unchanged (update_grants (record_decision_outcome rfl)))
      | _ => exact .unchanged rfl
  | reviewMoved running inside move =>
      cases move with
      | granted ran => exact .review rfl running ran
      | grantFailed left why =>
          exact of_left left (.unchanged rfl) (.review rfl running rfl)
      | recorded ran => exact .unchanged (record_outcome_grants ran)
      | recordFailed left why =>
          exact of_left left (.unchanged rfl) (.unchanged (record_outcome_grants rfl))
      | _ => exact .unchanged rfl
  | budgetGranted order stamp => exact .admin rfl rfl
  | budgetRevoked subject grantId reason stamp =>
      rcases revoke_is_grant world.db subject grantId reason stamp with
        same | ⟨original, _, ran⟩
      · exact .unchanged (by rw [same])
      · rw [ran]
        exact .correction rfl rfl
  | _ => exact .unchanged rfl

theorem step_request_write {lockKey : String → Int64} {world next : World} {event : Event}
    (outcome : StepOutcome lockKey world event next) : RequestWrite world event next.db := by
  cases outcome with
  | refillMoved running unfinished move =>
      cases move with
      | created ran => exact .created rfl running ran
      | createFailed left =>
          exact of_left left (.unchanged rfl) (.created rfl running rfl)
      | granted ran => exact .unchanged (grant_frame ran).1
      | grantFailed left =>
          exact of_left left (.unchanged rfl) (.unchanged (grant_frame rfl).1)
      | recorded ran => exact .decided rfl running ran
      | recordFailed left =>
          exact of_left left (.unchanged rfl) (.decided rfl running rfl)
      | _ => exact .unchanged rfl
  | reviewMoved running inside move =>
      cases move with
      | granted ran => exact .unchanged (grant_frame ran).1
      | grantFailed left why =>
          exact of_left left (.unchanged rfl) (.unchanged (grant_frame rfl).1)
      | recorded ran => exact .reviewed rfl running ran
      | recordFailed left why =>
          exact of_left left (.unchanged rfl) (.reviewed rfl running rfl)
      | _ => exact .unchanged rfl
  | budgetGranted order stamp => exact .unchanged (grant_frame rfl).1
  | budgetRevoked subject grantId reason stamp =>
      rcases revoke_is_grant world.db subject grantId reason stamp with
        same | ⟨original, _, ran⟩
      · exact .unchanged (by rw [same])
      · exact .unchanged (by rw [ran]; exact (grant_frame rfl).1)
  | _ => exact .unchanged rfl

theorem grants_kept {lockKey : String → Int64} {world next : World} {event : Event}
    (outcome : StepOutcome lockKey world event next) :
    ∀ row ∈ world.db.grants, row ∈ next.db.grants := by
  intro row member
  cases step_ledger_write outcome with
  | unchanged same => rwa [same]
  | refill moves running ran => exact mem_grants_of_grant ran member
  | review moves running ran => exact mem_grants_of_grant ran member
  | admin moves ran => exact mem_grants_of_grant ran member
  | correction moves ran => exact mem_grants_of_grant ran member

theorem approval_key_injective {left right : String}
    (same : approvalKey left = approvalKey right) : left = right :=
  (String.append_right_inj "augmentation-approval:").mp same

theorem revoke_key_ne_approval_key (grantId requestId : String) :
    revokeKey grantId ≠ approvalKey requestId := by
  intro same
  have firsts : (revokeKey grantId).toList.head? = (approvalKey requestId).toList.head? :=
    congrArg (fun key => key.toList.head?) same
  unfold revokeKey approvalKey at firsts
  rw [String.toList_append, String.toList_append, List.head?_append,
    List.head?_append] at firsts
  have left : "revoke:".toList.head? = some 'r' := by decide
  have right : "augmentation-approval:".toList.head? = some 'a' := by decide
  rw [left, right] at firsts
  simp at firsts

/-- On whose behalf a step has just appended a ledger row. -/
inductive NewGrant (world : World) (event : Event) (row : BudgetGrant) : Prop where
  | refill {caller : Nat} {input : StepInput} {request : RefillRequest} {createdId : String}
      {facts : Facts} {decision : Decision} (moves : event = .advance caller input)
      (running : world.calls caller = some (.refill request (.grant createdId facts decision)))
      (isRow : row = grantRow (refillGrant request decision) input.stamp) :
      NewGrant world event row
  | review {caller : Nat} {input : StepInput} {review : Review}
      {request : AugmentationRequest} (moves : event = .advance caller input)
      (running : world.calls caller = some (.review review (.grant request)))
      (isRow : row = grantRow (approvalGrant review request) input.stamp) :
      NewGrant world event row
  | admin {order : AdminGrant} {stamp : Stamp} (moves : event = .grantBudget order stamp)
      (isRow : row = grantRow order.request stamp) : NewGrant world event row
  | correction {subject grantId reason : String} {stamp : Stamp} {original : BudgetGrant}
      (moves : event = .revokeBudgetGrant subject grantId reason stamp)
      (isRow : row = grantRow (correctionRequest original subject grantId reason) stamp) :
      NewGrant world event row

theorem grant_row_old_or_new {db next : BudgetDb} {request : GrantRequest} {stamp : Stamp}
    {answer : Except BudgetError BudgetGrant}
    (ran : GrantLedger.grant db request stamp = (next, answer)) {row : BudgetGrant}
    (member : row ∈ next.grants) : row ∈ db.grants ∨ row = grantRow request stamp := by
  rcases grant_appends ran with same | ⟨grown, _⟩
  · rw [same] at member
    exact Or.inl member
  · rw [grown] at member
    simpa using member

theorem grant_row_origin {lockKey : String → Int64} {world next : World} {event : Event}
    (outcome : StepOutcome lockKey world event next) {row : BudgetGrant}
    (member : row ∈ next.db.grants) :
    row ∈ world.db.grants ∨
      (next.db.requests = world.db.requests ∧ NewGrant world event row) := by
  cases step_ledger_write outcome with
  | unchanged same =>
      rw [same] at member
      exact Or.inl member
  | refill moves running ran =>
      exact (grant_row_old_or_new ran member).imp_right fun isRow =>
        ⟨(grant_frame ran).1, .refill moves running isRow⟩
  | review moves running ran =>
      exact (grant_row_old_or_new ran member).imp_right fun isRow =>
        ⟨(grant_frame ran).1, .review moves running isRow⟩
  | admin moves ran =>
      exact (grant_row_old_or_new ran member).imp_right fun isRow =>
        ⟨(grant_frame ran).1, .admin moves isRow⟩
  | correction moves ran =>
      exact (grant_row_old_or_new ran member).imp_right fun isRow =>
        ⟨(grant_frame ran).1, .correction moves isRow⟩

theorem start_point {review : Review} {point : ReviewPoint}
    (started : Call.review review point = (Operation.review review).start) :
    point = .acquireLock ∨ point = .validateReason := by
  simp only [Operation.start] at started
  split at started
  · cases started
    exact Or.inl rfl
  · cases started
    exact Or.inr rfl

inductive RowChange (world : World) (event : Event) (row : AugmentationRequest) :
    AugmentationRequest → Prop where
  | kept : RowChange world event row row
  | decided {caller : Nat} {input : StepInput} {request : RefillRequest}
      {decision : RecordedDecision} (moves : event = .advance caller input)
      (running : world.calls caller =
        some (.refill request (.recordDecision row.id decision))) :
      RowChange world event row (AugmentationRequests.decided decision.decompose row)
  | approved {caller : Nat} {input : StepInput} {review : Review} {grantId : Option String}
      (moves : event = .advance caller input)
      (running : world.calls caller = some (.review review (.recordReview grantId)))
      (named : review.requestId = row.id) (approves : review.action = .approve)
      (pending : row.status = .pendingReview) :
      RowChange world event row
        (reviewed .approved review.reviewerAccountId none grantId input.stamp.now row)
  | rejected {caller : Nat} {input : StepInput} {review : Review} {grantId : Option String}
      {reason : String} (moves : event = .advance caller input)
      (running : world.calls caller = some (.review review (.recordReview grantId)))
      (named : review.requestId = row.id) (rejects : review.action = .reject reason)
      (pending : row.status = .pendingReview) :
      RowChange world event row
        (reviewed .denied review.reviewerAccountId (some reason) none input.stamp.now row)

theorem row_change_same_origin {world : World} {event : Event}
    {row later : AugmentationRequest} (change : RowChange world event row later) :
    SameOrigin row later := by
  cases change with
  | kept => exact same_origin_refl row
  | decided moves running => exact same_origin_decided _ row
  | approved moves running named approves pending => exact same_origin_reviewed _ _ _ _ _ row
  | rejected moves running named rejects pending => exact same_origin_reviewed _ _ _ _ _ row

theorem updated_row {rows : List AugmentationRequest} (unique : UniqueKeys requestId rows)
    {id : String} {change : AugmentationRequest → AugmentationRequest}
    {found row : AugmentationRequest} (stored : findKey requestId rows id = some found)
    (member : row ∈ rows) :
    (if requestId row = some id then change row else row) =
      if row = found then change found else row := by
  obtain ⟨foundMember, foundId⟩ := find_key_some stored
  by_cases same : requestId row = some id
  · have isFound : row = found := unique_keys_eq unique member foundMember same foundId
    rw [if_pos same, if_pos isFound, isFound]
  · have notFound : row ≠ found := by
      intro isFound
      rw [isFound] at same
      exact same foundId
    rw [if_neg same, if_neg notFound]

def FreshRow (world : World) (event : Event) (row : AugmentationRequest) : Prop :=
  ∃ caller input request requestedTier, event = .advance caller input ∧
    world.calls caller = some (.refill request (.create requestedTier)) ∧
    row = requestRow (newRequest request requestedTier) input.stamp ∧
    (∀ old ∈ world.db.requests, old.id ≠ input.stamp.id) ∧
    ∀ key, request.idempotencyKey = some key →
      ∀ old ∈ world.db.requests, old.idempotencyKey ≠ some key

/-- The rows after a step: the old ones, each changed in one of the ways above,
and possibly a fresh one. -/
structure RowsChanged (world : World) (event : Event) (rows : List AugmentationRequest) :
    Prop where
  forward : ∀ row ∈ world.db.requests, ∃ later ∈ rows, RowChange world event row later
  backward : ∀ later ∈ rows,
    (∃ row ∈ world.db.requests, RowChange world event row later) ∨ FreshRow world event later

theorem rows_changed_same (world : World) (event : Event) :
    RowsChanged world event world.db.requests where
  forward := fun row member => ⟨row, member, .kept⟩
  backward := fun row member => Or.inl ⟨row, member, .kept⟩

theorem rows_changed_update {world : World} {event : Event} (sound : TablesSound world.db)
    {id : String} {change : AugmentationRequest → AugmentationRequest}
    {found : AugmentationRequest}
    (stored : findKey requestId world.db.requests id = some found)
    (changes : RowChange world event found (change found)) :
    RowsChanged world event (updateKey requestId world.db.requests id change) := by
  have each : ∀ row ∈ world.db.requests, RowChange world event row
      (if requestId row = some id then change row else row) := by
    intro row member
    rw [updated_row sound.requests.uniqueIds stored member]
    by_cases isFound : row = found
    · rw [if_pos isFound, isFound]
      exact changes
    · rw [if_neg isFound]
      exact .kept
  constructor
  · intro row member
    exact ⟨_, mem_update_key.mpr ⟨row, member, rfl⟩, each row member⟩
  · intro later member
    obtain ⟨row, rowMember, isLater⟩ := mem_update_key.mp member
    rw [← isLater]
    exact Or.inl ⟨row, rowMember, each row rowMember⟩

theorem found_id {rows : List AugmentationRequest} {id : String} {found : AugmentationRequest}
    (stored : findKey requestId rows id = some found) : found.id = id :=
  Option.some.inj (find_key_some stored).2

theorem rows_changed_reviewed {world : World} {event : Event} (sound : TablesSound world.db)
    {caller : Nat} {input : StepInput} {review : Review} {grantId : Option String}
    {next : BudgetDb} {answer : Except BudgetError AugmentationRequest}
    (moves : event = .advance caller input)
    (running : world.calls caller = some (.review review (.recordReview grantId)))
    (ran : recordOutcome world.db review grantId input.stamp.now = (next, answer)) :
    RowsChanged world event next.requests := by
  unfold recordOutcome at ran
  cases action : review.action with
  | approve =>
      rw [action] at ran
      cases record_review_outcome ran with
      | refused error => exact rows_changed_same world event
      | updated stored pending =>
          exact rows_changed_update sound stored
            (.approved moves running (found_id stored).symm action pending)
  | reject reason =>
      rw [action] at ran
      cases record_review_outcome ran with
      | refused error => exact rows_changed_same world event
      | updated stored pending =>
          exact rows_changed_update sound stored
            (.rejected moves running (found_id stored).symm action pending)

theorem step_rows_changed {lockKey : String → Int64} {world next : World} {event : Event}
    (sound : TablesSound world.db) (outcome : StepOutcome lockKey world event next) :
    RowsChanged world event next.db.requests := by
  cases step_request_write outcome with
  | unchanged same =>
      rw [same]
      exact rows_changed_same world event
  | @created caller input request requestedTier nextDb answer moves running ran =>
      generalize next.db = left at ran
      cases create_outcome ran with
      | refused error => exact rows_changed_same world event
      | found keyed stored => exact rows_changed_same world event
      | inserted freshKey freshId =>
          constructor
          · intro row member
            exact ⟨row, List.mem_append_left _ member, .kept⟩
          · intro later member
            rcases List.mem_append.mp member with old | fresh
            · exact Or.inl ⟨later, old, .kept⟩
            · right
              exact ⟨caller, input, request, requestedTier, moves, running,
                List.mem_singleton.mp fresh, freshId, freshKey⟩
  | @decided caller input request createdId decision nextDb answer moves running ran =>
      generalize next.db = left at ran
      cases record_decision_outcome ran with
      | refused error => exact rows_changed_same world event
      | updated stored admitted =>
          rw [← found_id stored] at running
          exact rows_changed_update sound stored (.decided moves running)
  | reviewed moves running ran => exact rows_changed_reviewed sound moves running ran

end LightbridgeAuthz.Budget.ServiceWrites
