import LightbridgeAuthz.Budget.ServiceSteps
import LightbridgeAuthz.Budget.IdempotencyKeys
import Mathlib.Logic.Relation

/-!
# Refills that end decided

A refill stores its request before it reads a fact, and a retry is answered with
the stored request whatever its status. So a call leaves no undecided request
behind unless one of its steps fails between the insert and the decision; after
such a failure no retry ever decides the request.
-/

namespace LightbridgeAuthz.Budget.SettledRefills

open Library.EventRun Library.KeyedRows
open Domain GrantLedger LedgerReplay EffectiveBalance AugmentationRequests RuleData
open ServiceWorld ServiceSteps

set_option autoImplicit false

/-- What a step of a call meets: the engine that serves it, and its input. -/
abbrev Move := PolicyEngine × StepInput

/-- One call of `request_refill`, statement by statement. -/
def callStep (request : RefillRequest) (state : BudgetDb × RefillPoint) (move : Move) :
    Option (BudgetDb × RefillPoint) :=
  match state.2 with
  | .returned _ => none
  | point => some (refillStep move.1 state.1 request move.2 point)

def IsDecided (status : AugmentationStatus) : Prop :=
  status = .autoApproved ∨ status = .partiallyApproved ∨ status = .pendingReview ∨
    status = .denied

instance (status : AugmentationStatus) : Decidable (IsDecided status) :=
  inferInstanceAs (Decidable (_ ∨ _))

def Settled (before after : BudgetDb) : Prop :=
  ∀ row ∈ after.requests, row ∈ before.requests ∨ IsDecided row.status

def Retried (key : Option String) (before after : BudgetDb) : Prop :=
  ∃ (request : RefillRequest) (moves : List Move) (answer : AugmentationRequest),
    request.idempotencyKey = key ∧
      runFrom (callStep request) (before, .findExisting) moves =
        some (after, .returned (.ok answer))

/-- The step fails between the insert and the decision: the insert is committed
and its reply lost, a fact is not read, the grant fails, or the decision is not
written. A policy engine that fails is a decision. A `SpendReader` may fail by its
type; the two in the code answer `Unavailable` instead. -/
def FailsUndecided (request : RefillRequest) (state : BudgetDb × RefillPoint) (move : Move) :
    Prop :=
  match state.2 with
  | .create requestedTier =>
      (∃ fault ∈ move.2.fault, fault.committed = true) ∧
        ∃ created, (create state.1 (newRequest request requestedTier) move.2.stamp).2 =
          .ok created
  | .readEffectiveBalance _ =>
      move.2.fault ≠ none ∨
        ∃ error, effectiveBalance state.1 request.budgetAccountId request.period request.asOf =
          .error error
  | .readGrantCount _ _ => move.2.fault ≠ none
  | .readSpendThisPeriod _ _ _ => move.2.fault ≠ none
  | .readSpendLastPeriod _ _ _ _ => move.2.fault ≠ none
  | .grant _ _ decision =>
      move.2.fault ≠ none ∨
        ∃ error, (GrantLedger.grant state.1 (refillGrant request decision) move.2.stamp).2 =
          .error error
  | .recordDecision _ _ => ∃ fault ∈ move.2.fault, fault.committed = false
  | _ => False

section Calls

variable {request : RefillRequest} {before : BudgetDb}

/-- The call has stored its request and not decided it. -/
def Opened (before db : BudgetDb) (createdId : String) : Prop :=
  ∃ row, db.requests = before.requests ++ [row] ∧ row.id = createdId ∧ row.status = .created ∧
    ∀ other ∈ before.requests, other.id ≠ createdId

/-- The call has stored nothing, or a request that is decided. -/
def Closed (before db : BudgetDb) : Prop :=
  db.requests = before.requests ∨
    ∃ row, db.requests = before.requests ++ [row] ∧ IsDecided row.status

/-- No request is stored under the key of the call. -/
def KeyFree (before : BudgetDb) (request : RefillRequest) : Prop :=
  ∀ key, request.idempotencyKey = some key → findByIdempotencyKey before key = none

/-- What holds of the tables before each step of a call. -/
def Underway (before : BudgetDb) (request : RefillRequest) (db : BudgetDb) :
    RefillPoint → Prop
  | .findExisting => db = before
  | .checkOffered => db = before ∧ KeyFree before request
  | .create _ => db = before ∧ KeyFree before request
  | .readEffectiveBalance createdId => Opened before db createdId
  | .readGrantCount createdId _ => Opened before db createdId
  | .readSpendThisPeriod createdId _ _ => Opened before db createdId
  | .readSpendLastPeriod createdId _ _ _ => Opened before db createdId
  | .evaluate createdId _ => Opened before db createdId
  | .grant createdId _ _ => Opened before db createdId
  | .recordDecision createdId decision =>
      Opened before db createdId ∧ IsDecided decision.decompose.status ∧
        danglingGrant db decision.decompose.grantId = false
  | .returned _ => False

/-- How a step of a call leaves it: on its way, closed, or failed with its
request undecided. -/
inductive StepEnds (before : BudgetDb) (request : RefillRequest)
    (state : BudgetDb × RefillPoint) (move : Move) : BudgetDb × RefillPoint → Prop where
  | underway {next : BudgetDb} {later : RefillPoint}
      (survives : ¬ FailsUndecided request state move)
      (still : Underway before request next later) :
      StepEnds before request state move (next, later)
  | closed {next : BudgetDb} {answer : Except BudgetError AugmentationRequest}
      (survives : ¬ FailsUndecided request state move) (closes : Closed before next) :
      StepEnds before request state move (next, .returned answer)
  | failed {next : BudgetDb} {createdId : String} (error : BudgetError)
      (fails : FailsUndecided request state move) (opened : Opened before next createdId) :
      StepEnds before request state move (next, .returned (.error error))

theorem opened_of_same {db next : BudgetDb} {createdId : String}
    (opened : Opened before db createdId) (same : next.requests = db.requests) :
    Opened before next createdId := by
  obtain ⟨row, grown, rest⟩ := opened
  exact ⟨row, same.trans grown, rest⟩

theorem read_ends {state next : BudgetDb × RefillPoint} {move : Move} {createdId : String}
    {Value : Type} {answer : Except BudgetError Value} (opened : Opened before state.1 createdId)
    (fails : FailsUndecided request state move ↔
      move.2.fault ≠ none ∨ ∃ error, answer = .error error)
    (stops : ∀ error, attemptRead move.2.fault answer = .error error →
      next = (state.1, .returned (.error error)))
    (continues : ∀ value, attemptRead move.2.fault answer = .ok value →
      ∃ later, next = (state.1, later) ∧ Underway before request state.1 later) :
    StepEnds before request state move next := by
  cases given : move.2.fault with
  | some fault =>
      have failed := fails.mpr (.inl (by rw [given]; exact Option.some_ne_none fault))
      rw [stops (.storageFailed fault.failure) (by rw [given]; rfl)]
      exact .failed _ failed opened
  | none =>
      cases read : answer with
      | error error =>
          rw [stops error (by rw [given, read]; rfl)]
          exact .failed error (fails.mpr (.inr ⟨error, read⟩)) opened
      | ok value =>
          obtain ⟨later, rfl, underway⟩ := continues value (by rw [given, read]; rfl)
          refine .underway ?_ underway
          rw [fails, given, read]
          rintro (faulty | ⟨error, failed⟩)
          · exact faulty rfl
          · cases failed

theorem iff_of_ok {Value : Type} (faulty : Prop) (value : Value) :
    faulty ↔ faulty ∨ ∃ error, (Except.ok value : Except BudgetError Value) = .error error := by
  constructor
  · exact Or.inl
  · rintro (still | ⟨error, failed⟩)
    · exact still
    · cases failed

theorem find_existing_ends {db : BudgetDb} {move : Move} (start : db = before) :
    StepEnds before request (db, .findExisting) move
      (refillStep move.1 db request move.2 .findExisting) := by
  have survives : ¬ FailsUndecided request (db, .findExisting) move := id
  simp only [refillStep]
  cases keyed : request.idempotencyKey with
  | none =>
      refine .underway survives ⟨start, fun key asked => ?_⟩
      rw [keyed] at asked
      cases asked
  | some key =>
      cases move.2.fault with
      | some fault => exact .closed survives (.inl (by rw [start]))
      | none =>
          cases found : findByIdempotencyKey db key with
          | some existing =>
              simp only [attemptRead, found]
              exact .closed survives (.inl (by rw [start]))
          | none =>
              simp only [attemptRead, found]
              refine .underway survives ⟨start, fun other asked => ?_⟩
              rw [keyed] at asked
              rw [← Option.some.inj asked, ← start, found]

theorem check_offered_ends {db : BudgetDb} {move : Move} (start : db = before)
    (free : KeyFree before request) :
    StepEnds before request (db, .checkOffered) move
      (refillStep move.1 db request move.2 .checkOffered) := by
  have survives : ¬ FailsUndecided request (db, .checkOffered) move := id
  simp only [refillStep]
  split_ifs with offered
  · exact .underway survives ⟨start, free⟩
  · exact .closed survives (.inl (by rw [start]))

theorem create_opens {requestedTier : BudgetTier} {stamp : Stamp} {next : BudgetDb}
    {answer : Except BudgetError AugmentationRequest} (free : KeyFree before request)
    (ran : create before (newRequest request requestedTier) stamp = (next, answer)) :
    (∃ created, answer = .ok created ∧ Opened before next created.id) ∨
      (∃ error, answer = .error error) ∧ next = before := by
  cases create_outcome ran with
  | refused error => exact .inr ⟨⟨error, rfl⟩, rfl⟩
  | @found key row keyed stored =>
      have absent := free key keyed
      rw [findByIdempotencyKey, stored] at absent
      cases absent
  | inserted freshKey freshId => exact .inl ⟨_, rfl, _, rfl, rfl, rfl, freshId⟩

theorem create_ends {db : BudgetDb} {requestedTier : BudgetTier} {move : Move}
    (start : db = before) (free : KeyFree before request) :
    StepEnds before request (db, .create requestedTier) move
      (refillStep move.1 db request move.2 (.create requestedTier)) := by
  subst start
  simp only [refillStep]
  rcases ran : create db (newRequest request requestedTier) move.2.stamp with ⟨next, answer⟩
  cases faulty : move.2.fault with
  | none =>
      have survives : ¬ FailsUndecided request (db, .create requestedTier) move := by
        rintro ⟨⟨fault, given, -⟩, -⟩
        rw [faulty] at given
        cases given
      obtain ⟨created, rfl, opened⟩ | ⟨⟨error, rfl⟩, rfl⟩ := create_opens free ran
      · exact .underway survives opened
      · exact .closed survives (.inl rfl)
  | some fault =>
      cases committed : fault.committed with
      | false =>
          refine .closed ?_ (.inl (by simp only [committed, Bool.false_eq_true, if_false]))
          rintro ⟨⟨other, given, written⟩, -⟩
          rw [faulty, Option.mem_some] at given
          rw [← given, committed] at written
          cases written
      | true =>
          simp only [attempt, committed, if_true]
          obtain ⟨created, rfl, opened⟩ | ⟨⟨error, rfl⟩, rfl⟩ := create_opens free ran
          · refine .failed _ ⟨⟨fault, faulty, committed⟩, created, ?_⟩ opened
            rw [ran]
          · refine .closed ?_ (.inl rfl)
            rintro ⟨-, created, succeeded⟩
            rw [ran] at succeeded
            cases succeeded

theorem evaluate_ends {db : BudgetDb} {createdId : String} {facts : Facts} {move : Move}
    (opened : Opened before db createdId) :
    StepEnds before request (db, .evaluate createdId facts) move
      (refillStep move.1 db request move.2 (.evaluate createdId facts)) := by
  have survives : ¬ FailsUndecided request (db, .evaluate createdId facts) move := id
  simp only [refillStep]
  cases evaluated : move.1.evaluate facts request.requestedAmountMicros with
  | error error => exact .underway survives ⟨opened, .inr (.inr (.inl rfl)), rfl⟩
  | ok decision =>
      simp only [afterEvaluation]
      cases effect : decision.effect with
      | autoApprove => exact .underway survives opened
      | autoApproveCapped => exact .underway survives opened
      | manualReview => exact .underway survives ⟨opened, .inr (.inr (.inl rfl)), rfl⟩
      | deny => exact .underway survives ⟨opened, .inr (.inr (.inr rfl)), rfl⟩
      | noAction => exact .underway survives ⟨opened, .inr (.inr (.inr rfl)), rfl⟩

theorem approval_decided (decision : Decision) (grantId : String) :
    IsDecided (approval decision grantId).decompose.status ∧
      (approval decision grantId).decompose.grantId = some grantId := by
  unfold approval
  split_ifs with whole
  · exact ⟨.inl rfl, rfl⟩
  · exact ⟨.inr (.inl rfl), rfl⟩

theorem granted_not_dangling {db : BudgetDb} {row : BudgetGrant} (member : row ∈ db.grants) :
    danglingGrant db (some row.id) = false := by
  have keyed : grantId row = some row.id := rfl
  obtain ⟨found, search⟩ := find_key_of_mem member keyed
  simp only [danglingGrant, search, Option.isNone_some]

theorem grant_ends {db : BudgetDb} {createdId : String} {facts : Facts} {decision : Decision}
    {move : Move} (opened : Opened before db createdId) :
    StepEnds before request (db, .grant createdId facts decision) move
      (refillStep move.1 db request move.2 (.grant createdId facts decision)) := by
  simp only [refillStep]
  rcases ran : GrantLedger.grant db (refillGrant request decision) move.2.stamp with
    ⟨next, answer⟩
  have after : Opened before next createdId := opened_of_same opened (grant_frame ran).1
  cases faulty : move.2.fault with
  | some fault =>
      have fails : FailsUndecided request (db, .grant createdId facts decision) move :=
        .inl (by rw [faulty]; exact Option.some_ne_none fault)
      cases committed : fault.committed with
      | false =>
          simp only [attempt, committed, Bool.false_eq_true, if_false]
          exact .failed _ fails opened
      | true =>
          simp only [attempt, committed, if_true]
          exact .failed _ fails after
  | none =>
      cases answer with
      | error error => exact .failed error (.inr ⟨error, by rw [ran]⟩) after
      | ok row =>
          obtain ⟨decided, named⟩ := approval_decided decision row.id
          refine .underway ?_ ⟨after, decided, ?_⟩
          · rintro (noFault | ⟨error, failed⟩)
            · exact noFault faulty
            · rw [ran] at failed
              cases failed
          · rw [named]
            exact granted_not_dangling (grant_ok_mem ran)

theorem record_closes {db : BudgetDb} {createdId : String} {decision : RecordedDecision}
    (opened : Opened before db createdId) (settles : IsDecided decision.decompose.status)
    (inPlace : danglingGrant db decision.decompose.grantId = false) :
    Closed before (recordDecision db createdId decision).1 := by
  obtain ⟨row, grown, sameId, -, apart⟩ := opened
  have others : ∀ other ∈ before.requests, requestId other ≠ some createdId := by
    intro other member same
    exact apart other member (Option.some.inj same)
  have found : findKey requestId db.requests createdId = some row := by
    rw [grown, find_key_append, find_key_none.mpr others, requestId, sameId, if_pos rfl]
    rfl
  refine .inr ⟨decided decision.decompose row, ?_, settles⟩
  simp only [recordDecision, found, inPlace, Bool.false_eq_true, if_false]
  calc updateKey requestId db.requests createdId (decided decision.decompose)
      = updateKey requestId before.requests createdId (decided decision.decompose) ++
          [decided decision.decompose row] := by
        rw [grown, updateKey, updateKey, List.map_append, List.map_singleton, requestId, sameId,
          if_pos rfl]
    _ = before.requests ++ [decided decision.decompose row] := by
        rw [update_key_of_apart _ others]

theorem record_decision_ends {db : BudgetDb} {createdId : String} {decision : RecordedDecision}
    {move : Move} (opened : Opened before db createdId)
    (decided : IsDecided decision.decompose.status)
    (inPlace : danglingGrant db decision.decompose.grantId = false) :
    StepEnds before request (db, .recordDecision createdId decision) move
      (refillStep move.1 db request move.2 (.recordDecision createdId decision)) := by
  have closes := record_closes opened decided inPlace
  simp only [refillStep]
  cases faulty : move.2.fault with
  | none =>
      refine .closed ?_ closes
      rintro ⟨fault, given, -⟩
      rw [faulty] at given
      cases given
  | some fault =>
      cases committed : fault.committed with
      | false =>
          simp only [attempt, committed, Bool.false_eq_true, if_false]
          exact .failed _ ⟨fault, faulty, committed⟩ opened
      | true =>
          simp only [attempt, committed, if_true]
          refine .closed ?_ closes
          rintro ⟨other, given, lost⟩
          rw [faulty, Option.mem_some] at given
          rw [← given, committed] at lost
          cases lost

theorem call_step_ends {state next : BudgetDb × RefillPoint} {move : Move}
    (underway : Underway before request state.1 state.2)
    (stepped : callStep request state move = some next) :
    StepEnds before request state move next := by
  obtain ⟨db, point⟩ := state
  cases point with
  | findExisting =>
      obtain rfl := Option.some.inj stepped
      exact find_existing_ends underway
  | checkOffered =>
      obtain rfl := Option.some.inj stepped
      exact check_offered_ends underway.1 underway.2
  | create requestedTier =>
      obtain rfl := Option.some.inj stepped
      exact create_ends underway.1 underway.2
  | readEffectiveBalance createdId =>
      obtain rfl := Option.some.inj stepped
      refine read_ends underway Iff.rfl ?_ ?_
      · intro error failed
        simp only [refillStep, failed]
      · intro value read
        refine ⟨.readGrantCount createdId value, ?_, underway⟩
        simp only [refillStep, read]
  | readGrantCount createdId effectiveBalanceMicros =>
      obtain rfl := Option.some.inj stepped
      refine read_ends underway (iff_of_ok _
        (getBalance db request.budgetAccountId request.period)) ?_ ?_
      · intro error failed
        simp only [refillStep, failed]
      · intro value read
        refine ⟨.readSpendThisPeriod createdId effectiveBalanceMicros
          ((value.map BalanceRow.selfServiceGrantCount).getD 0), ?_, underway⟩
        simp only [refillStep, read]
  | readSpendThisPeriod createdId effectiveBalanceMicros selfServiceGrantCount =>
      obtain rfl := Option.some.inj stepped
      refine read_ends underway (iff_of_ok _ move.2.spend) ?_ ?_
      · intro error failed
        simp only [refillStep, failed]
      · intro value read
        refine ⟨.readSpendLastPeriod createdId effectiveBalanceMicros selfServiceGrantCount
          value, ?_, underway⟩
        simp only [refillStep, read]
  | readSpendLastPeriod createdId effectiveBalanceMicros selfServiceGrantCount spend =>
      obtain rfl := Option.some.inj stepped
      refine read_ends underway (iff_of_ok _ move.2.spend) ?_ ?_
      · intro error failed
        simp only [refillStep, failed]
      · intro value read
        refine ⟨.evaluate createdId
          ⟨effectiveBalanceMicros, selfServiceGrantCount, spend, value⟩, ?_, underway⟩
        simp only [refillStep, read]
  | evaluate createdId facts =>
      obtain rfl := Option.some.inj stepped
      exact evaluate_ends underway
  | grant createdId facts decision =>
      obtain rfl := Option.some.inj stepped
      exact grant_ends underway
  | recordDecision createdId decision =>
      obtain rfl := Option.some.inj stepped
      exact record_decision_ends underway.1 underway.2.1 underway.2.2
  | returned answer => cases stepped

theorem run_of_returned {db : BudgetDb} {answer : Except BudgetError AugmentationRequest}
    {moves : List Move} {last : BudgetDb × RefillPoint}
    (ran : runFrom (callStep request) (db, .returned answer) moves = some last) :
    moves = [] ∧ last = (db, .returned answer) := by
  cases moves with
  | nil => exact ⟨rfl, (Option.some.inj ran).symm⟩
  | cons move rest =>
      obtain ⟨next, stepped, -⟩ := run_cons_some ran
      cases stepped

theorem call_ends {state : BudgetDb × RefillPoint} {moves : List Move} {next : BudgetDb}
    {answer : Except BudgetError AugmentationRequest}
    (ran : runFrom (callStep request) state moves = some (next, .returned answer))
    (underway : Underway before request state.1 state.2) :
    (Meets (callStep request) (fun current move => ¬ FailsUndecided request current move) state
        moves ∧ Closed before next) ∨
      (¬ Meets (callStep request) (fun current move => ¬ FailsUndecided request current move)
          state moves ∧ (∃ error, answer = .error error) ∧
        ∃ createdId, Opened before next createdId) := by
  induction moves generalizing state with
  | nil =>
      rw [Option.some.inj ran] at underway
      exact underway.elim
  | cons move rest ih =>
      obtain ⟨middle, stepped, tail⟩ := run_cons_some ran
      have unfolded : Meets (callStep request)
            (fun current move => ¬ FailsUndecided request current move) state (move :: rest) ↔
          ¬ FailsUndecided request state move ∧ Meets (callStep request)
            (fun current move => ¬ FailsUndecided request current move) middle rest := by
        rw [Meets, stepped]
      rw [unfolded]
      cases call_step_ends underway stepped with
      | underway survives still =>
          obtain ⟨meets, closes⟩ | ⟨misses, errs, opened⟩ := ih tail still
          · exact .inl ⟨⟨survives, meets⟩, closes⟩
          · exact .inr ⟨fun met => misses met.2, errs, opened⟩
      | closed survives closes =>
          obtain ⟨rfl, same⟩ := run_of_returned tail
          obtain ⟨rfl, -⟩ := Prod.mk.inj same
          exact .inl ⟨⟨survives, trivial⟩, closes⟩
      | failed error fails opened =>
          obtain ⟨rfl, same⟩ := run_of_returned tail
          obtain ⟨rfl, returned⟩ := Prod.mk.inj same
          exact .inr ⟨fun met => met.1 fails, ⟨error, RefillPoint.returned.inj returned⟩, _,
            opened⟩

end Calls

section Retries

variable {before after last : BudgetDb} {key : Option String}

theorem settled_of_closed (closes : Closed before after) : Settled before after := by
  intro row member
  obtain same | ⟨added, grown, decided⟩ := closes
  · exact .inl (same ▸ member)
  · rw [grown] at member
    obtain stored | fresh := List.mem_append.mp member
    · exact .inl stored
    · rw [List.mem_singleton.mp fresh]
      exact .inr decided

theorem kept_of_closed (closes : Closed before after) {row : AugmentationRequest}
    (member : row ∈ before.requests) : row ∈ after.requests := by
  obtain same | ⟨added, grown, -⟩ := closes
  · rw [same]
    exact member
  · rw [grown]
    exact List.mem_append_left _ member

theorem retried_closes (retried : Retried key before after) : Closed before after := by
  obtain ⟨request, moves, answer, -, ran⟩ := retried
  obtain ⟨-, closes⟩ | ⟨-, ⟨error, errs⟩, -⟩ := call_ends ran rfl
  · exact closes
  · cases errs

theorem retries_settle (settled : Settled before after)
    (retries : Relation.ReflTransGen (Retried key) after last) : Settled before last := by
  induction retries with
  | refl => exact settled
  | tail _ retried ih =>
      intro row member
      obtain stored | decided := settled_of_closed (retried_closes retried) row member
      · exact ih row stored
      · exact .inr decided

theorem retries_keep {row : AugmentationRequest} (member : row ∈ after.requests)
    (retries : Relation.ReflTransGen (Retried key) after last) : row ∈ last.requests := by
  induction retries with
  | refl => exact member
  | tail _ retried ih => exact kept_of_closed (retried_closes retried) ih

/-- A request left undecided stays so, however often the call is retried. -/
theorem opened_stays {createdId : String} (opened : Opened before after createdId)
    (retries : Relation.ReflTransGen (Retried key) after last) : ¬ Settled before last := by
  obtain ⟨row, grown, sameId, created, apart⟩ := opened
  have member : row ∈ after.requests := by
    rw [grown]
    exact List.mem_append_right _ (List.mem_singleton_self row)
  intro settled
  obtain stored | decided := settled row (retries_keep member retries)
  · exact apart row stored sameId
  · rw [created] at decided
    revert decided
    decide

end Retries

/-- A call and its retries leave nothing undecided just when no step of the call
fails between its insert and its decision. -/
theorem settled_iff_no_step_fails_undecided {request : RefillRequest} {before after last : BudgetDb}
    {moves : List Move} {answer : Except BudgetError AugmentationRequest}
    (called : runFrom (callStep request) (before, .findExisting) moves =
      some (after, .returned answer))
    (retries : Relation.ReflTransGen (Retried request.idempotencyKey) after last) :
    Settled before last ↔
      Meets (callStep request) (fun state move => ¬ FailsUndecided request state move)
        (before, .findExisting) moves := by
  obtain ⟨meets, closes⟩ | ⟨misses, -, createdId, opened⟩ := call_ends called rfl
  · exact iff_of_true (retries_settle (settled_of_closed closes) retries) meets
  · exact iff_of_false (opened_stays opened retries) misses

/-- The moves of a call that the default policy serves. -/
def plainMoves : List Move :=
  [(defaultEngine, plainStep "" 1), (defaultEngine, plainStep "" 2),
    (defaultEngine, plainStep "r1" 3), (defaultEngine, plainStep "" 4),
    (defaultEngine, plainStep "" 5), (defaultEngine, plainStep "" 6),
    (defaultEngine, plainStep "" 7), (defaultEngine, plainStep "" 8),
    (defaultEngine, plainStep "g1" 9), (defaultEngine, plainStep "" 10)]

/-- The same call, whose read of the effective balance fails. -/
def failingMoves : List Move :=
  plainMoves.take 3 ++
    [(defaultEngine, { plainStep "" 4 with fault := some ⟨.connectionLost, false⟩ })]

def keyedCall : RefillRequest := IdempotencyKeys.keyedRefill "alice"

def answeredStatus (state : BudgetDb × RefillPoint) : Option AugmentationStatus :=
  match state.2 with
  | .returned (.ok answer) => some answer.status
  | _ => none

theorem answered_of_status {state : BudgetDb × RefillPoint} {status : AugmentationStatus}
    (answered : answeredStatus state = some status) :
    ∃ answer, state = (state.1, .returned (.ok answer)) := by
  obtain ⟨db, point⟩ := state
  match point with
  | .returned (.ok answer) => exact ⟨answer, rfl⟩

/-- A balance that cannot be read once leaves the request undecided for good: the
retry is answered with it as it is. -/
theorem failed_read_stays_undecided :
    (¬ ∀ (request : RefillRequest) (before after : BudgetDb) (moves : List Move)
        (answer : Except BudgetError AugmentationRequest),
        runFrom (callStep request) (before, .findExisting) moves =
          some (after, .returned answer) →
        ∃ last, Relation.ReflTransGen (Retried request.idempotencyKey) after last ∧
          Settled before last) ∧
      ∃ after retried,
        runFrom (callStep keyedCall) (BudgetDb.empty ["alice"] [], .findExisting) failingMoves =
          some (after, .returned (.error (.storageFailed .connectionLost))) ∧
        runFrom (callStep keyedCall) (after, .findExisting) (plainMoves.take 1) = some retried ∧
        answeredStatus retried = some .created := by
  have fails : reaches (callStep keyedCall) (BudgetDb.empty ["alice"] [], .findExisting)
      failingMoves (fun state =>
        decide (state.2 = .returned (.error (.storageFailed .connectionLost))) &&
          decide (state.1.requests.map (fun row => row.status) = [.created]) &&
          reaches (callStep keyedCall) (state.1, .findExisting) (plainMoves.take 1)
            fun again => answeredStatus again == some .created) = true := by
    decide +kernel
  obtain ⟨⟨after, point⟩, ran, checked⟩ := exists_of_reaches fails
  simp only [Bool.and_eq_true, decide_eq_true_eq] at checked
  obtain ⟨⟨rfl, undecided⟩, again⟩ := checked
  constructor
  · intro claimed
    obtain ⟨last, retries, settled⟩ := claimed keyedCall _ after failingMoves _ ran
    obtain ⟨row, member, created⟩ : ∃ row ∈ after.requests, row.status = .created := by
      have listed : AugmentationStatus.created ∈ after.requests.map (fun row => row.status) := by
        rw [undecided]
        exact List.mem_singleton_self _
      exact List.mem_map.mp listed
    obtain stored | decided := settled row (retries_keep member retries)
    · cases stored
    · rw [created] at decided
      revert decided
      decide
  · obtain ⟨retried, ranAgain, same⟩ := exists_of_reaches again
    exact ⟨after, retried, ran, ranAgain, eq_of_beq same⟩

/-- A call that nothing fails, and a retry of it. -/
theorem plain_call_settled :
    ∃ after last answer,
      runFrom (callStep keyedCall) (BudgetDb.empty ["alice"] [], .findExisting) plainMoves =
        some (after, .returned (.ok answer)) ∧
      Retried keyedCall.idempotencyKey after last ∧
      Settled (BudgetDb.empty ["alice"] []) last ∧
      Meets (callStep keyedCall) (fun state move => ¬ FailsUndecided keyedCall state move)
        (BudgetDb.empty ["alice"] [], .findExisting) plainMoves := by
  have answers : reaches (callStep keyedCall) (BudgetDb.empty ["alice"] [], .findExisting)
      plainMoves (fun state => answeredStatus state == some .autoApproved &&
        reaches (callStep keyedCall) (state.1, .findExisting) (plainMoves.take 1)
          fun again => answeredStatus again == some .autoApproved &&
            decide (∀ row ∈ again.1.requests, IsDecided row.status)) = true := by
    decide +kernel
  obtain ⟨first, ran, checked⟩ := exists_of_reaches answers
  obtain ⟨answered, again⟩ := Bool.and_eq_true_iff.mp checked
  obtain ⟨second, ranAgain, rechecked⟩ := exists_of_reaches again
  obtain ⟨reanswered, decided⟩ := Bool.and_eq_true_iff.mp rechecked
  obtain ⟨answer, ends⟩ := answered_of_status (eq_of_beq answered)
  obtain ⟨sameAnswer, endsAgain⟩ := answered_of_status (eq_of_beq reanswered)
  rw [ends] at ran
  rw [endsAgain] at ranAgain
  have retried : Retried keyedCall.idempotencyKey first.1 second.1 :=
    ⟨keyedCall, plainMoves.take 1, sameAnswer, rfl, ranAgain⟩
  have settled : Settled (BudgetDb.empty ["alice"] []) second.1 := fun row member =>
    .inr (of_decide_eq_true decided row member)
  exact ⟨first.1, second.1, answer, ran, retried, settled,
    (settled_iff_no_step_fails_undecided ran (.single retried)).mp settled⟩

end LightbridgeAuthz.Budget.SettledRefills
