import LightbridgeAuthz.Budget.AccountRows

/-!
# Who owns an idempotency key

Idempotency keys are unique across all accounts, and three lookups answer with
the stored row by key alone. A call therefore gets the row of its own account
and period exactly when no row of another account or period holds its key, and
that row otherwise. Apart from its key, what the other accounts have stored
makes no difference to its answer.
-/

namespace LightbridgeAuthz.Budget.IdempotencyKeys

open Library.EventRun Library.KeyedRows
open Domain GrantLedger LedgerReplay Revocation AugmentationRequests RuleData
open ServiceWorld ServiceSteps ServiceWrites AccountRows

set_option autoImplicit false

/-- The row a refill was given: it carries the refill's key, and without a key
it is the refill's own insert. -/
structure Backs (request : RefillRequest) (row : AugmentationRequest) : Prop where
  key : row.idempotencyKey = request.idempotencyKey
  own : request.idempotencyKey = none →
    row.budgetAccountId = request.budgetAccountId ∧ row.period = request.period

/-- The row a refill works on, and the row it answers with, are stored. -/
structure RefillBacked (db : BudgetDb) (request : RefillRequest) (point : RefillPoint) :
    Prop where
  created : ∀ id, createdId point = some id →
    ∃ row ∈ db.requests, row.id = id ∧ Backs request row
  answered : ∀ answer, point = .returned (.ok answer) →
    ∃ row ∈ db.requests, SameOrigin row answer ∧ Backs request row

theorem backs_of_same_origin {request : RefillRequest} {row later : AugmentationRequest}
    (backs : Backs request row) (same : SameOrigin row later) : Backs request later where
  key := same.idempotencyKey.trans backs.key
  own := by
    intro keyless
    rw [same.budgetAccountId, same.period]
    exact backs.own keyless

theorem refill_backed_frame {db next : BudgetDb} {request : RefillRequest}
    {point : RefillPoint} (write : DbWrite db next) (backed : RefillBacked db request point) :
    RefillBacked next request point where
  created := by
    intro id isCreated
    obtain ⟨row, member, rowId, backs⟩ := backed.created id isCreated
    obtain ⟨later, laterMember, same⟩ := request_row_persists write member
    exact ⟨later, laterMember, same.id.trans rowId, backs_of_same_origin backs same⟩
  answered := by
    intro answer isAnswer
    obtain ⟨row, member, toAnswer, backs⟩ := backed.answered answer isAnswer
    obtain ⟨later, laterMember, toLater⟩ := request_row_persists write member
    exact ⟨later, laterMember, same_origin_trans (same_origin_symm toLater) toAnswer,
      backs_of_same_origin backs toLater⟩

theorem created_backs {db next : BudgetDb} {request : RefillRequest} {tier : BudgetTier}
    {stamp : Stamp} {row : AugmentationRequest}
    (ran : create db (newRequest request tier) stamp = (next, .ok row)) :
    row ∈ next.requests ∧ Backs request row := by
  cases create_outcome ran with
  | found keyed stored =>
      obtain ⟨member, rowKey⟩ := find_key_some stored
      refine ⟨member, rowKey.trans keyed.symm, ?_⟩
      intro keyless
      simp only [newRequest, keyless] at keyed
      cases keyed
  | inserted freshKey freshId =>
      refine ⟨by simp, rfl, ?_⟩
      intro keyless
      exact ⟨rfl, rfl⟩

theorem recorded_backed {db next : BudgetDb} {request : RefillRequest} {id : String}
    {decision : RecordedDecision} {answer : AugmentationRequest} (sound : TablesSound db)
    (backed : RefillBacked db request (.recordDecision id decision))
    (ran : recordDecision db id decision = (next, .ok answer)) :
    ∃ row ∈ next.requests, SameOrigin row answer ∧ Backs request row := by
  obtain ⟨row, member, rowId, backs⟩ := backed.created id rfl
  cases record_decision_outcome ran with
  | updated stored admitted =>
      have found := find_key_eq_of_unique sound.requests.uniqueIds member
        (congrArg some rowId)
      rw [stored, Option.some.injEq] at found
      subst found
      refine ⟨_, mem_update_key.mpr ⟨_, member, rfl⟩, ?_, ?_⟩
      · simp only [requestId, rowId, if_true]
        exact same_origin_refl _
      · simp only [requestId, rowId, if_true]
        exact backs_of_same_origin backs (same_origin_decided _ _)

theorem refill_backed_move {engine : PolicyEngine} {db next : BudgetDb}
    {request : RefillRequest} {input : StepInput} {before point : RefillPoint}
    (sound : TablesSound db)
    (move : RefillMove engine db request input before next point)
    (backed : RefillBacked db request before) : RefillBacked next request point := by
  cases move with
  | answered keyed stored =>
      obtain ⟨member, rowKey⟩ := find_key_some stored
      constructor
      · intro id isCreated
        cases isCreated
      · intro answer isAnswer
        cases isAnswer
        refine ⟨_, member, same_origin_refl _, rowKey.trans keyed.symm, ?_⟩
        intro keyless
        rw [keyless] at keyed
        cases keyed
  | created ran =>
      obtain ⟨member, backs⟩ := created_backs ran
      constructor
      · intro id isCreated
        cases isCreated
        exact ⟨_, member, rfl, backs⟩
      · intro answer isAnswer
        cases isAnswer
  | granted ran =>
      constructor
      · intro id isCreated
        rw [(grant_frame ran).1]
        exact backed.created id isCreated
      · intro answer isAnswer
        cases isAnswer
  | recorded ran =>
      constructor
      · intro id isCreated
        cases isCreated
      · intro answer isAnswer
        cases isAnswer
        exact recorded_backed sound backed ran
  | _ =>
      constructor
      · intro id isCreated
        first
          | exact backed.created id isCreated
          | cases isCreated
      · intro answer isAnswer
        cases isAnswer

def RefillsBacked (world : World) : Prop :=
  TablesSound world.db ∧
    ∀ caller request point, world.calls caller = some (.refill request point) →
      RefillBacked world.db request point

theorem step_refills_backed {lockKey : String → Int64} {world next : World} {event : Event}
    (backed : RefillsBacked world) (stepped : step lockKey world event = some next) :
    RefillsBacked next := by
  refine ⟨step_sound backed.1 stepped, refills_preserved ?_ ?_ ?_ backed.1 backed.2 stepped⟩
  · intro db request
    constructor
    · intro id isCreated
      cases isCreated
    · intro answer isAnswer
      cases isAnswer
  · intro db next request point write
    exact refill_backed_frame write
  · intro engine db next request input before point sound move
    exact refill_backed_move sound move

theorem initial_refills_backed (accounts projects : List String) (engine : PolicyEngine) :
    RefillsBacked (World.initial accounts projects engine) := by
  refine ⟨empty_tables_sound accounts projects, ?_⟩
  intro caller request point running
  cases running

/-- A stored request of another account or period holds the refill's key. -/
def RequestKeyHeldElsewhere (db : BudgetDb) (request : RefillRequest) : Prop :=
  ∃ row ∈ db.requests, ∃ key, request.idempotencyKey = some key ∧
    row.idempotencyKey = some key ∧
    ¬ (row.budgetAccountId = request.budgetAccountId ∧ row.period = request.period)

/-- A ledger row of another account or period holds the grant's key. -/
def GrantKeyHeldElsewhere (db : BudgetDb) (request : GrantRequest) : Prop :=
  ∃ row ∈ db.grants, ∃ key, request.idempotencyKey = some key ∧
    row.idempotencyKey = some key ∧
    ¬ (row.budgetAccountId = request.budgetAccountId ∧ row.period = request.period)

theorem refill_answer_own_iff {db : BudgetDb} (sound : TablesSound db)
    {request : RefillRequest} {answer : AugmentationRequest}
    (backed : RefillBacked db request (.returned (.ok answer))) :
    (answer.budgetAccountId = request.budgetAccountId ∧ answer.period = request.period) ↔
      ¬ RequestKeyHeldElsewhere db request := by
  obtain ⟨row, member, same, backs⟩ := backed.answered answer rfl
  rw [same.budgetAccountId, same.period]
  constructor
  · rintro own ⟨holder, holderMember, key, keyed, holderKey, elsewhere⟩
    have isRow : holder = row :=
      unique_keys_eq sound.requests.uniqueIdempotencyKeys holderMember member holderKey
        (backs.key.trans keyed)
    rw [isRow] at elsewhere
    exact elsewhere own
  · intro notHeld
    by_contra elsewhere
    cases keyed : request.idempotencyKey with
    | none => exact elsewhere (backs.own keyed)
    | some key =>
        exact notHeld ⟨row, member, key, keyed, backs.key.trans keyed, elsewhere⟩

theorem grant_answer_own_iff {db next : BudgetDb} (integrity : LedgerIntegrity db)
    {request : GrantRequest} {stamp : Stamp} {row : BudgetGrant}
    (ran : GrantLedger.grant db request stamp = (next, .ok row)) :
    (row.budgetAccountId = request.budgetAccountId ∧ row.period = request.period) ↔
      ¬ GrantKeyHeldElsewhere db request := by
  cases grant_outcome ran with
  | replayed keyed stored =>
      obtain ⟨member, rowKey⟩ := find_key_some stored
      constructor
      · rintro own ⟨holder, holderMember, key, otherKeyed, holderKey, elsewhere⟩
        rw [keyed] at otherKeyed
        cases otherKeyed
        have isRow : holder = row :=
          unique_keys_eq integrity.uniqueIdempotencyKeys holderMember member holderKey rowKey
        rw [isRow] at elsewhere
        exact elsewhere own
      · intro notHeld
        by_contra elsewhere
        exact notHeld ⟨row, member, _, keyed, rowKey, elsewhere⟩
  | inserted signed freshKey freshId known locked added =>
      constructor
      · rintro own ⟨holder, holderMember, key, keyed, holderKey, elsewhere⟩
        exact freshKey key keyed holder holderMember holderKey
      · intro notHeld
        exact ⟨rfl, rfl⟩

theorem refill_answer_elsewhere {db : BudgetDb} (sound : TablesSound db)
    {request : RefillRequest} {answer : AugmentationRequest}
    (backed : RefillBacked db request (.returned (.ok answer)))
    (held : RequestKeyHeldElsewhere db request) :
    ∃ row ∈ db.requests, row.idempotencyKey = request.idempotencyKey ∧
      ¬ (row.budgetAccountId = request.budgetAccountId ∧ row.period = request.period) ∧
      SameOrigin row answer := by
  obtain ⟨row, member, same, backs⟩ := backed.answered answer rfl
  obtain ⟨holder, holderMember, key, keyed, holderKey, elsewhere⟩ := held
  have isRow : holder = row :=
    unique_keys_eq sound.requests.uniqueIdempotencyKeys holderMember member holderKey
      (backs.key.trans keyed)
  rw [isRow] at elsewhere
  exact ⟨row, member, backs.key, elsewhere, same⟩

theorem grant_answer_elsewhere {db next : BudgetDb} {request : GrantRequest} {stamp : Stamp}
    {row : BudgetGrant} (ran : GrantLedger.grant db request stamp = (next, .ok row))
    (held : GrantKeyHeldElsewhere db request) :
    row ∈ db.grants ∧ row.idempotencyKey = request.idempotencyKey := by
  obtain ⟨holder, holderMember, key, keyed, holderKey, elsewhere⟩ := held
  cases grant_outcome ran with
  | replayed otherKeyed stored =>
      obtain ⟨member, rowKey⟩ := find_key_some stored
      exact ⟨member, rowKey.trans otherKeyed.symm⟩
  | inserted signed freshKey freshId known locked added =>
      exact absurd holderKey (freshKey key keyed holder holderMember)

theorem move_answer_stored {engine : PolicyEngine} {db next : BudgetDb}
    {request : RefillRequest} {input : StepInput} {point : RefillPoint}
    {answer : AugmentationRequest}
    (move : RefillMove engine db request input point next (.returned (.ok answer))) :
    answer ∈ next.requests := by
  cases move with
  | answered keyed stored => exact (find_key_some stored).1
  | recorded ran =>
      cases record_decision_outcome ran with
      | updated stored admitted =>
          obtain ⟨member, rowId⟩ := find_key_some stored
          exact mem_update_key.mpr ⟨_, member, by rw [if_pos rowId]⟩

/-- Every row of `next` is of the account, or was there in `db`. -/
structure AddsOnlyTo (account : String) (db next : BudgetDb) : Prop where
  requests : ∀ row ∈ next.requests, row.budgetAccountId = account ∨
    ∃ old ∈ db.requests, SameOrigin old row
  grants : ∀ row ∈ next.grants, row.budgetAccountId = account ∨ row ∈ db.grants

theorem adds_nothing (account : String) (db : BudgetDb) : AddsOnlyTo account db db where
  requests := fun row member => Or.inr ⟨row, member, same_origin_refl row⟩
  grants := fun _ member => Or.inr member

theorem create_adds {db next : BudgetDb} {request : NewAugmentationRequest} {stamp : Stamp}
    {answer : Except BudgetError AugmentationRequest}
    (ran : create db request stamp = (next, answer)) :
    AddsOnlyTo request.budgetAccountId db next := by
  have same := adds_nothing request.budgetAccountId db
  cases create_outcome ran with
  | refused error => exact same
  | found keyed stored => exact same
  | inserted freshKey freshId =>
      refine ⟨?_, same.grants⟩
      intro row member
      rcases List.mem_append.mp member with old | fresh
      · exact same.requests row old
      · rw [List.mem_singleton.mp fresh]
        exact Or.inl rfl

theorem grant_adds {db next : BudgetDb} {request : GrantRequest} {stamp : Stamp}
    {answer : Except BudgetError BudgetGrant}
    (ran : GrantLedger.grant db request stamp = (next, answer)) :
    AddsOnlyTo request.budgetAccountId db next where
  requests := by
    rw [(grant_frame ran).1]
    exact (adds_nothing request.budgetAccountId db).requests
  grants := by
    intro row member
    rcases grant_row_old_or_new ran member with old | fresh
    · exact Or.inr old
    · rw [fresh]
      exact Or.inl rfl

theorem record_adds (account : String) {db next : BudgetDb} {id : String}
    {decision : RecordedDecision} {answer : Except BudgetError AugmentationRequest}
    (ran : recordDecision db id decision = (next, answer)) : AddsOnlyTo account db next := by
  have same := adds_nothing account db
  cases record_decision_outcome ran with
  | refused error => exact same
  | updated stored admitted =>
      refine ⟨?_, same.grants⟩
      intro row member
      obtain ⟨old, oldMember, isRow⟩ := mem_update_key.mp member
      refine Or.inr ⟨old, oldMember, ?_⟩
      rw [← isRow]
      split
      · exact same_origin_decided _ _
      · exact same_origin_refl old

theorem refill_adds {engine : PolicyEngine} {db next : BudgetDb} {request : RefillRequest}
    {input : StepInput} {before point : RefillPoint}
    (move : RefillMove engine db request input before next point) :
    AddsOnlyTo request.budgetAccountId db next := by
  have same := adds_nothing request.budgetAccountId db
  cases move with
  | created ran => exact create_adds ran
  | @createFailed tier next error left =>
      have wrote : create db (newRequest request tier) input.stamp = (_, _) := rfl
      exact of_left left same (create_adds wrote)
  | granted ran => exact grant_adds ran
  | @grantFailed createdId facts decision next error left =>
      have wrote : GrantLedger.grant db (refillGrant request decision) input.stamp = (_, _) :=
        rfl
      exact of_left left same (grant_adds wrote)
  | recorded ran => exact record_adds _ ran
  | recordFailed left => exact of_left left same (record_adds _ rfl)
  | _ => exact same

/-- No row of the other side holds the key of the refill or an id generated for
it. -/
structure OwnLookups (side : String → Bool) (db : BudgetDb) (request : RefillRequest)
    (inputs : List StepInput) : Prop where
  requestKey : RequestKeyWithin side db request.idempotencyKey
  grantKey : GrantKeyWithin side db request.idempotencyKey
  ids : ∀ input ∈ inputs,
    RequestIdWithin side db input.stamp.id ∧ GrantIdWithin side db input.stamp.id

theorem own_lookups_move {engine : PolicyEngine} {side : String → Bool} {db next : BudgetDb}
    {request : RefillRequest} {input : StepInput} {inputs : List StepInput}
    {before point : RefillPoint} (own : side request.budgetAccountId = true)
    (move : RefillMove engine db request input before next point)
    (lookups : OwnLookups side db request inputs) : OwnLookups side next request inputs := by
  obtain ⟨requests, grants⟩ := refill_adds move
  constructor
  · intro row member keyed sameKey
    rcases requests row member with isOwn | ⟨old, oldMember, same⟩
    · rw [isOwn]
      exact own
    · rw [same.idempotencyKey] at keyed sameKey
      rw [same.budgetAccountId]
      exact lookups.requestKey old oldMember keyed sameKey
  · intro row member keyed sameKey
    rcases grants row member with isOwn | old
    · rw [isOwn]
      exact own
    · exact lookups.grantKey row old keyed sameKey
  · intro later among
    constructor
    · intro row member sameId
      rcases requests row member with isOwn | ⟨old, oldMember, same⟩
      · rw [isOwn]
        exact own
      · rw [same.id] at sameId
        rw [same.budgetAccountId]
        exact (lookups.ids later among).1 old oldMember sameId
    · intro row member sameId
      rcases grants row member with isOwn | old
      · rw [isOwn]
        exact own
      · exact (lookups.ids later among).2 row old sameId

/-- A refill that takes one statement for each input, no other call being at
work. -/
def refillAlone (engine : PolicyEngine) (request : RefillRequest) :
    BudgetDb → RefillPoint → List StepInput → BudgetDb × RefillPoint
  | db, point, [] => (db, point)
  | db, point, input :: rest =>
      refillAlone engine request (refillStep engine db request input point).1
        (refillStep engine db request input point).2 rest

theorem refill_alone_own (engine : PolicyEngine) {side : String → Bool}
    {request : RefillRequest} (own : side request.budgetAccountId = true)
    (inputs : List StepInput) {db : BudgetDb} {point : RefillPoint} (sound : TablesSound db)
    (works : WorksWithin side db request point)
    (lookups : OwnLookups side db request inputs) :
    refillAlone engine request (partOf db side) point inputs =
      (partOf (refillAlone engine request db point inputs).1 side,
        (refillAlone engine request db point inputs).2) := by
  induction inputs generalizing db point with
  | nil => rfl
  | cons input rest ih =>
      have now := lookups.ids input List.mem_cons_self
      have inside : LookupsWithin side db request input.stamp point := by
        cases point with
        | findExisting => exact lookups.requestKey
        | create tier => exact ⟨lookups.requestKey, now.1⟩
        | grant id facts decision => exact ⟨lookups.grantKey, now.2⟩
        | _ => trivial
      have later : OwnLookups side db request rest :=
        { lookups with ids := fun other among => lookups.ids other (.tail _ among) }
      simp only [refillAlone, refill_step_own sound own inside works]
      by_cases finished : ∃ result, point = .returned result
      · obtain ⟨result, isReturned⟩ := finished
        rw [isReturned] at works ⊢
        exact ih sound works later
      · have move := refill_move (fun result isReturned => finished ⟨result, isReturned⟩)
          (rfl : refillStep engine db request input point = _)
        have keeps : KeepsWithin side db request input.stamp point :=
          ⟨fun _ => inside, fun elsewhere => by rw [own] at elsewhere; cases elsewhere⟩
        exact ih (db_write_sound sound (refill_db_write move))
          (works_within_move keeps move works) (own_lookups_move own move later)

theorem run_refill_alone {lockKey : String → Int64} {caller : Nat} {request : RefillRequest}
    {inputs : List StepInput} {world last : World} {point : RefillPoint}
    (running : world.calls caller = some (.refill request point))
    (ran : runFrom (step lockKey) world (inputs.map (.advance caller)) = some last) :
    last.calls caller =
      some (.refill request (refillAlone world.engine request world.db point inputs).2) := by
  induction inputs generalizing world point with
  | nil =>
      cases ran
      exact running
  | cons input rest ih =>
      obtain ⟨next, stepped, tail⟩ := run_cons_some ran
      simp only [step, running] at stepped
      have unfinished := advance_refill_unfinished stepped
      rw [advance_refill_eq unfinished, Option.some.injEq] at stepped
      subst stepped
      refine ih ?_ tail
      simp [setCall]

/-- A refill of the account, from its arrival on, while no other call is at work. -/
def refillRun (caller : Nat) (request : RefillRequest) (inputs : List StepInput) :
    List Event :=
  .arrive caller (.refill request) :: inputs.map (.advance caller)

def ofAccount (account : String) : String → Bool := fun other => other == account

/-- Two histories that left the account the same rows answer its refill alike,
whatever the other accounts have stored, unless one of them holds the refill's
key or an id generated for it. -/
theorem refill_ignores_others {lockKey : String → Int64} {left right leftLast rightLast : World}
    (leftSound : TablesSound left.db) (rightSound : TablesSound right.db)
    (sameEngine : left.engine = right.engine) {caller : Nat} {request : RefillRequest}
    {inputs : List StepInput}
    (alike : partOf left.db (ofAccount request.budgetAccountId) =
      partOf right.db (ofAccount request.budgetAccountId))
    (leftOwn : OwnLookups (ofAccount request.budgetAccountId) left.db request inputs)
    (rightOwn : OwnLookups (ofAccount request.budgetAccountId) right.db request inputs)
    (leftRan : runFrom (step lockKey) left (refillRun caller request inputs) = some leftLast)
    (rightRan : runFrom (step lockKey) right (refillRun caller request inputs) =
      some rightLast) : leftLast.calls caller = rightLast.calls caller := by
  have own : ofAccount request.budgetAccountId request.budgetAccountId = true := by
    simp [ofAccount]
  have arrived : ∀ {world last : World},
      runFrom (step lockKey) world (refillRun caller request inputs) = some last →
      last.calls caller = some (.refill request
        (refillAlone world.engine request world.db .findExisting inputs).2) := by
    intro world last ran
    obtain ⟨next, stepped, tail⟩ := run_cons_some ran
    have started : next.calls caller = some (.refill request .findExisting) ∧
        next.engine = world.engine ∧ next.db = world.db := by
      simp only [step] at stepped
      split at stepped
      · cases stepped
      · cases stepped
        simp [setCall, Operation.start]
    have alone := run_refill_alone started.1 tail
    rw [started.2.1, started.2.2] at alone
    exact alone
  have onLeft := refill_alone_own left.engine own inputs leftSound
    (works_within_start _ left.db request) leftOwn
  have onRight := refill_alone_own left.engine own inputs rightSound
    (works_within_start _ right.db request) rightOwn
  rw [alike, onRight] at onLeft
  have sameAnswer := congrArg Prod.snd onLeft
  simp only at sameAnswer
  rw [arrived leftRan, arrived rightRan, ← sameEngine, sameAnswer]

theorem grant_ignores_others {left right : BudgetDb} {request : GrantRequest} {stamp : Stamp}
    (untriggered : request.triggerKey = none)
    (alike : partOf left (ofAccount request.budgetAccountId) =
      partOf right (ofAccount request.budgetAccountId))
    (leftOwn : GrantKeyWithin (ofAccount request.budgetAccountId) left request.idempotencyKey ∧
      GrantIdWithin (ofAccount request.budgetAccountId) left stamp.id)
    (rightOwn : GrantKeyWithin (ofAccount request.budgetAccountId) right
        request.idempotencyKey ∧
      GrantIdWithin (ofAccount request.budgetAccountId) right stamp.id) :
    (GrantLedger.grant left request stamp).2 = (GrantLedger.grant right request stamp).2 := by
  have own : ofAccount request.budgetAccountId request.budgetAccountId = true := by
    simp [ofAccount]
  have onLeft := grant_own request own leftOwn.1 leftOwn.2 untriggered
  have onRight := grant_own request own rightOwn.1 rightOwn.2 untriggered
  rw [alike, onRight] at onLeft
  exact (congrArg Prod.snd onLeft).symm

/-- In every reachable world a refill or a grant that is answered with success
is given a row of its own account and period exactly when no row of another
account or period holds its idempotency key, and that very row otherwise. Between
two reachable worlds with the same rows of an account, its calls are answered
alike unless another account holds what they look up by. -/
theorem answers_own_iff_key_not_held_elsewhere (lockKey : String → Int64)
    (accounts projects : List String) (engine : PolicyEngine) (events : List Event)
    (world : World)
    (ran : runFrom (step lockKey) (World.initial accounts projects engine) events =
      some world) :
    (∀ caller request answer,
      world.calls caller = some (.refill request (.returned (.ok answer))) →
      ((answer.budgetAccountId = request.budgetAccountId ∧ answer.period = request.period) ↔
        ¬ RequestKeyHeldElsewhere world.db request) ∧
      (RequestKeyHeldElsewhere world.db request →
        ∃ row ∈ world.db.requests, row.idempotencyKey = request.idempotencyKey ∧
          ¬ (row.budgetAccountId = request.budgetAccountId ∧ row.period = request.period) ∧
          SameOrigin row answer)) ∧
    (∀ caller input request answer next,
      step lockKey world (.advance caller input) = some next →
      next.calls caller = some (.refill request (.returned (.ok answer))) →
      answer ∈ next.db.requests) ∧
    (∀ request stamp row, (GrantLedger.grant world.db request stamp).2 = .ok row →
      ((row.budgetAccountId = request.budgetAccountId ∧ row.period = request.period) ↔
        ¬ GrantKeyHeldElsewhere world.db request) ∧
      (GrantKeyHeldElsewhere world.db request →
        row ∈ world.db.grants ∧ row.idempotencyKey = request.idempotencyKey)) ∧
    ∀ otherEvents other,
      runFrom (step lockKey) (World.initial accounts projects engine) otherEvents =
        some other →
      (∀ caller request inputs last otherLast, world.engine = other.engine →
        partOf world.db (ofAccount request.budgetAccountId) =
          partOf other.db (ofAccount request.budgetAccountId) →
        OwnLookups (ofAccount request.budgetAccountId) world.db request inputs →
        OwnLookups (ofAccount request.budgetAccountId) other.db request inputs →
        runFrom (step lockKey) world (refillRun caller request inputs) = some last →
        runFrom (step lockKey) other (refillRun caller request inputs) = some otherLast →
        last.calls caller = otherLast.calls caller) ∧
      ∀ request stamp, request.triggerKey = none →
        partOf world.db (ofAccount request.budgetAccountId) =
          partOf other.db (ofAccount request.budgetAccountId) →
        (∀ db ∈ [world.db, other.db],
          GrantKeyWithin (ofAccount request.budgetAccountId) db request.idempotencyKey ∧
            GrantIdWithin (ofAccount request.budgetAccountId) db stamp.id) →
        (GrantLedger.grant world.db request stamp).2 =
          (GrantLedger.grant other.db request stamp).2 := by
  have keeps : ∀ {events reached},
      runFrom (step lockKey) (World.initial accounts projects engine) events = some reached →
      RefillsBacked reached := fun reaches =>
    run_preserves RefillsBacked (fun _ _ _ holds stepped => step_refills_backed holds stepped)
      (initial_refills_backed accounts projects engine) reaches
  obtain ⟨sound, backed⟩ := keeps ran
  refine ⟨?_, ?_, ?_, ?_⟩
  · intro caller request answer returned
    have stored := backed caller request _ returned
    exact ⟨refill_answer_own_iff sound stored, refill_answer_elsewhere sound stored⟩
  · intro caller input request answer next stepped returned
    rcases refill_after (step_outcome stepped) returned with
      ⟨_, still⟩ | ⟨started, _⟩ | ⟨before, _, _, _, move⟩
    · exact absurd rfl (still input)
    · cases started
    · exact move_answer_stored move
  · intro request stamp row answered
    rcases granted : GrantLedger.grant world.db request stamp with ⟨next, answer⟩
    rw [granted] at answered
    cases answered
    exact ⟨grant_answer_own_iff sound.ledger granted, grant_answer_elsewhere granted⟩
  · intro otherEvents other otherRan
    have otherSound := (keeps otherRan).1
    constructor
    · intro caller request inputs last otherLast sameEngine alike own otherOwn lastRan
        otherLastRan
      exact refill_ignores_others sound otherSound sameEngine alike own otherOwn lastRan
        otherLastRan
    · intro request stamp untriggered alike own
      exact grant_ignores_others untriggered alike (own world.db (by simp))
        (own other.db (by simp))

/-- A $6 refill for `account` under the key `k`. -/
def keyedRefill (account : String) : RefillRequest where
  budgetAccountId := account
  accountId := account
  projectId := none
  period := ⟨"2026-08", Eq.refl true⟩
  idempotencyKey := some "k"
  asOf := 0
  requestedAmountMicros := 6000000

/-- Alice's refill is granted under `k`; Bob's refill under `k` is then answered
with Alice's row. -/
def sharedKeyRun : List Event :=
  [.arrive 0 (.refill (keyedRefill "alice")), .advance 0 (plainStep "" 1),
    .advance 0 (plainStep "" 2), .advance 0 (plainStep "r1" 3), .advance 0 (plainStep "" 4),
    .advance 0 (plainStep "" 5), .advance 0 (plainStep "" 6), .advance 0 (plainStep "" 7),
    .advance 0 (plainStep "" 8), .advance 0 (plainStep "g1" 9), .advance 0 (plainStep "" 10),
    .arrive 1 (.refill (keyedRefill "bob")), .advance 1 (plainStep "" 11)]

def sharedKeyDecision : Decision where
  effect := .autoApprove
  approvedAmountMicros := 6000000
  maximumAmountMicros := 6000000
  reasonCodes := ["within_unaided_allowance"]
  matchedRuleIds := ["within-unaided-allowance"]
  policyRevision := "budget-policy-v1"
  requiredApproverRole := none

def sharedKeyAnswer : AugmentationRequest :=
  decided (approval sharedKeyDecision "g1").decompose
    (requestRow (newRequest (keyedRefill "alice") .b15) ⟨"r1", 3⟩)

theorem shared_key_run_reaches :
    reaches (step fun _ => 0) (World.initial ["alice", "bob"] [] defaultEngine) sharedKeyRun
      (fun world => world.calls 1 =
        some (.refill (keyedRefill "bob") (.returned (.ok sharedKeyAnswer)))) = true := by
  decide

/-- The row Bob's refill returns is Alice's. -/
theorem shared_key_crosses_accounts :
    ¬ ∀ (lockKey : String → Int64) (accounts projects : List String) (engine : PolicyEngine)
        (events : List Event) (world : World),
        runFrom (step lockKey) (World.initial accounts projects engine) events =
          some world →
        (∀ caller request answer,
          world.calls caller = some (.refill request (.returned (.ok answer))) →
          answer.budgetAccountId = request.budgetAccountId ∧
            answer.period = request.period) ∧
        ∀ request stamp row, (GrantLedger.grant world.db request stamp).2 = .ok row →
          row.budgetAccountId = request.budgetAccountId ∧ row.period = request.period := by
  intro claimed
  obtain ⟨world, ran, returned⟩ := exists_of_reaches shared_key_run_reaches
  have own := (claimed _ _ _ _ _ world ran).1 1 (keyedRefill "bob") sharedKeyAnswer
    (of_decide_eq_true returned)
  revert own
  decide

/-- In that run Bob's key is indeed held by another account. -/
theorem shared_key_held_elsewhere :
    ∃ world,
      runFrom (step fun _ => 0) (World.initial ["alice", "bob"] [] defaultEngine)
        sharedKeyRun = some world ∧
      RequestKeyHeldElsewhere world.db (keyedRefill "bob") := by
  obtain ⟨world, ran, returned⟩ := exists_of_reaches shared_key_run_reaches
  refine ⟨world, ran, ?_⟩
  have iff := ((answers_own_iff_key_not_held_elsewhere _ _ _ _ _ world ran).1 1
    (keyedRefill "bob") sharedKeyAnswer (of_decide_eq_true returned)).1
  by_contra notHeld
  have own := iff.mpr notHeld
  revert own
  decide

end LightbridgeAuthz.Budget.IdempotencyKeys
