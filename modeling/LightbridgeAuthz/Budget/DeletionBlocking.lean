import LightbridgeAuthz.Budget.ReferencedDeletion

/-!
# Who can block a deletion

A refill names an account and a project that only have to exist, and the rows it
leaves refer to them for good. A run is compared with the same run without the
refills of some callers. The budget accounts these refill lie beyond a border;
as long as nothing crosses it and no row beyond it names what is to be deleted,
the two runs agree on the tenancy tables and on every row this side of it.
-/

namespace LightbridgeAuthz.Budget.DeletionBlocking

open Library.EventRun Library.KeyedRows
open Access.Tenancy Access.TenancyOps
open Domain GrantLedger Revocation AugmentationRequests RuleData
open ServiceWorld ServiceSteps ServiceWrites AccountRows RefillProcedure ReferencedDeletion

set_option autoImplicit false

variable {Cost : Type}

/-- What is to be deleted: an account, and the projects that go with it. -/
structure Spared where
  account : String
  projects : String → Bool

/-- The names a row is attributed to are none of these. -/
def Spared.spares (spared : Spared) (accountId : String) (projectId : Option String) : Bool :=
  accountId ≠ spared.account && projectId.all fun project => !spared.projects project

def near (away : String → Bool) : String → Bool := fun account => !away account

/-- A lookup by a key or a generated id does not cross the border. -/
def PaysNear (away : String → Bool) (db : BudgetDb) (key : Option String) (id : String) :
    Prop :=
  GrantKeyWithin (near away) db key ∧ GrantIdWithin (near away) db id

instance (away : String → Bool) (db : BudgetDb) (key : Option String) (id : String) :
    Decidable (PaysNear away db key id) :=
  inferInstanceAs (Decidable (_ ∧ _))

/-- What one event may do. The refills of the removed callers are for accounts
beyond the border and name nothing that is to be deleted; every other refill is
for an account this side of it. Nothing is looked up across it, and no deletion
in the run itself is refused because of rows beyond it alone. -/
def StaysApart (removed : Nat → Bool) (away : String → Bool) (spared : Spared)
    (estate : Estate Cost) : EstateEvent Cost → Prop
  | .budget (.advance caller stamp _) =>
      match estate.calls caller with
      | some (.refill request point) =>
          if removed caller then
            away request.budgetAccountId = true ∧
              spared.spares request.accountId request.projectId = true ∧
              KeyApart (near away) estate.db request point
          else
            away request.budgetAccountId = false ∧
              LookupsWithin (near away) estate.db request stamp point
      | _ => True
  | .budget (.elsewhere (.grantBudget order stamp)) =>
      if away order.budgetAccountId then
        spared.spares order.accountId order.projectId = true
      else PaysNear away estate.db order.idempotencyKey stamp.id
  | .budget (.elsewhere (.revokeBudgetGrant _ id _ stamp)) =>
      ∀ row ∈ estate.db.grants, row.id = id → away row.budgetAccountId = false →
        PaysNear away estate.db (some (revokeKey id)) stamp.id
  | .review review inputs =>
      ∀ row ∈ estate.db.requests, row.id = review.requestId →
        away row.budgetAccountId = false →
        ∀ input ∈ inputs, PaysNear away estate.db (some (approvalKey review.requestId))
          input.stamp.id
  | .operate _ op =>
      (refusingConstraint estate.tenancy (partOf estate.db away) op).isSome = true →
        (refusingConstraint estate.tenancy (partOf estate.db (near away)) op).isSome = true
  | _ => True

instance (removed : Nat → Bool) (away : String → Bool) (spared : Spared) (estate : Estate Cost)
    (event : EstateEvent Cost) : Decidable (StaysApart removed away spared estate event) :=
  match event with
  | .budget (.advance caller stamp _) =>
      match running : estate.calls caller with
      | some (.refill request point) =>
          decidable_of_iff
            (if removed caller then
              away request.budgetAccountId = true ∧
                spared.spares request.accountId request.projectId = true ∧
                KeyApart (near away) estate.db request point
            else
              away request.budgetAccountId = false ∧
                LookupsWithin (near away) estate.db request stamp point)
            (by simp [StaysApart, running])
      | some (.review _ _) => isTrue (by simp [StaysApart, running])
      | none => isTrue (by simp [StaysApart, running])
  | .budget (.elsewhere (.grantBudget order stamp)) =>
      decidable_of_iff
        (if away order.budgetAccountId then
          spared.spares order.accountId order.projectId = true
        else PaysNear away estate.db order.idempotencyKey stamp.id)
        Iff.rfl
  | .budget (.elsewhere (.revokeBudgetGrant _ _ _ _)) =>
      inferInstanceAs (Decidable (∀ row ∈ estate.db.grants, _))
  | .review _ _ => inferInstanceAs (Decidable (∀ row ∈ estate.db.requests, _))
  | .operate _ _ => inferInstanceAs (Decidable (_ → _))
  | .budget (.requestBudgetRefill _ _ _) | .budget (.observe _) | .mutateLedger _ _
  | .budget (.elsewhere (.arrive _ _)) | .budget (.elsewhere (.advance _ _))
  | .budget (.elsewhere (.stop _)) | .budget (.elsewhere (.swapEngine _)) => isTrue trivial

/-- The rows beyond the border name nothing that is to be deleted. -/
structure SparesRows (away : String → Bool) (spared : Spared) (db : BudgetDb) : Prop where
  grants : ∀ row ∈ db.grants, away row.budgetAccountId = true →
    spared.spares row.accountId row.projectId = true
  requests : ∀ row ∈ db.requests, away row.budgetAccountId = true →
    spared.spares row.accountId row.projectId = true

section SparedRows

variable {away : String → Bool} {spared : Spared} {db next : BudgetDb}

theorem grant_spares {request : GrantRequest} {stamp : Stamp}
    {answer : Except BudgetError BudgetGrant} (rows : SparesRows away spared db)
    (named : away request.budgetAccountId = true →
      spared.spares request.accountId request.projectId = true)
    (ran : grant db request stamp = (next, answer)) : SparesRows away spared next := by
  constructor
  · intro row member isAway
    rcases grant_appends ran with same | ⟨appended, _⟩
    · rw [same] at member
      exact rows.grants row member isAway
    · rw [appended] at member
      rcases List.mem_append.mp member with stored | fresh
      · exact rows.grants row stored isAway
      · rw [List.mem_singleton.mp fresh] at isAway ⊢
        exact named isAway
  · rw [(grant_frame ran).1]
    exact rows.requests

theorem create_spares {request : NewAugmentationRequest} {stamp : Stamp}
    {answer : Except BudgetError AugmentationRequest} (rows : SparesRows away spared db)
    (named : away request.budgetAccountId = true →
      spared.spares request.accountId request.projectId = true)
    (ran : create db request stamp = (next, answer)) : SparesRows away spared next := by
  cases create_outcome ran with
  | refused error => exact rows
  | found keyed stored => exact rows
  | inserted freshKey freshId =>
      refine ⟨rows.grants, ?_⟩
      intro row member isAway
      rcases List.mem_append.mp member with stored | fresh
      · exact rows.requests row stored isAway
      · rw [List.mem_singleton.mp fresh] at isAway ⊢
        exact named isAway

theorem origin_spares (rows : SparesRows away spared db) (same : next.grants = db.grants)
    (back : ∀ row ∈ next.requests, ∃ old ∈ db.requests, SameOrigin old row) :
    SparesRows away spared next := by
  constructor
  · rw [same]
    exact rows.grants
  · intro row member isAway
    obtain ⟨old, oldMember, origin⟩ := back row member
    rw [origin.budgetAccountId] at isAway
    rw [origin.accountId, origin.projectId]
    exact rows.requests old oldMember isAway

theorem refill_spares {engine : PolicyEngine} {request : RefillRequest} {input : StepInput}
    {point later : RefillPoint} (rows : SparesRows away spared db)
    (named : away request.budgetAccountId = true →
      spared.spares request.accountId request.projectId = true)
    (move : RefillMove engine db request input point next later) :
    SparesRows away spared next := by
  have recorded : ∀ {id : String} {decision : RecordedDecision} {left : BudgetDb}
      {answer : Except BudgetError AugmentationRequest},
      recordDecision db id decision = (left, answer) → SparesRows away spared left := by
    intro id decision left answer ran
    cases record_decision_outcome ran with
    | refused error => exact rows
    | updated stored admitted =>
        refine origin_spares rows ?_ ?_
        · rfl
        · intro row member
          exact mem_update_related SameOrigin same_origin_refl
            (fun row _ _ => same_origin_decided _ row) member
  cases move with
  | created ran => exact create_spares rows named ran
  | createFailed left => exact of_left left rows (create_spares rows named rfl)
  | granted ran => exact grant_spares rows named ran
  | grantFailed left => exact of_left left rows (grant_spares rows named rfl)
  | recorded ran => exact recorded ran
  | recordFailed left => exact of_left left rows (recorded rfl)
  | _ => exact rows

theorem review_spares {review : Review} {point : ReviewPoint} (inputs : List StepInput)
    (rows : SparesRows away spared db)
    (named : ∀ request, point = .grant request → away request.budgetAccountId = true →
      spared.spares request.accountId request.projectId = true) :
    SparesRows away spared (runReview review db point inputs) := by
  induction inputs generalizing db point with
  | nil => exact rows
  | cons input rest ih =>
      simp only [runReview]
      cases inside : ReviewPoint.inside point with
      | false =>
          rw [review_step_outside inside]
          exact ih rows named
      | true =>
          rcases ran : reviewStep db review input point with ⟨after, later⟩
          have move := review_move inside ran
          have back := review_move_rows_back move
          apply ih
          · cases move with
            | granted paid => exact grant_spares rows (named _ rfl) paid
            | grantFailed left why => exact of_left left rows (grant_spares rows (named _ rfl) rfl)
            | recorded recorded =>
                exact origin_spares rows (record_outcome_grants recorded) back
            | recordFailed left why =>
                apply origin_spares rows _ back
                rcases left with same | wrote
                · rw [same]
                · rw [wrote]
                  exact record_outcome_grants rfl
            | _ => exact rows
          · intro request isGrant isAway
            cases move with
            | toGrant stored pending approves =>
                cases isGrant
                exact rows.requests _ (find_key_some stored).1 isAway
            | _ => cases isGrant

end SparedRows

structure EstateKept (away : String → Bool) (spared : Spared) (estate : Estate Cost) :
    Prop where
  borders : BordersKept (near away) estate.metered.service
  spares : SparesRows away spared estate.db

theorem linked_borders_kept {side : String → Bool} {estate : Estate Cost}
    (kept : BordersKept side estate.metered.service) (tenancy : TenancyDb) :
    BordersKept side ({ estate with tenancy := tenancy }.withDb
      (linked tenancy estate.db)).metered.service where
  sound :=
    { ledger := ⟨kept.sound.ledger.uniqueIds, kept.sound.ledger.uniqueIdempotencyKeys,
        kept.sound.ledger.neverRevoked⟩
      requests := kept.sound.requests
      replays := kept.sound.replays }
  works := by
    intro caller request point running
    have works := kept.works caller request point running
    exact ⟨works.created, works.granted⟩

theorem review_borders_kept {side : String → Bool} {estate : Estate Cost}
    (kept : BordersKept side estate.metered.service) (review : Review)
    (inputs : List StepInput) :
    BordersKept side (estate.withDb
      (reviewRequest estate.db review inputs)).metered.service := by
  have framed : ∀ (rest : List StepInput) (db : BudgetDb) (point : ReviewPoint),
      BordersKept side { estate.metered.service with db := db } →
      BordersKept side
        { estate.metered.service with db := runReview review db point rest } := by
    intro rest
    induction rest with
    | nil =>
        intro db point current
        exact current
    | cons input rest ih =>
        intro db point current
        have write : DbWrite db (reviewStep db review input point).1 := by
          cases inside : ReviewPoint.inside point with
          | false =>
              rw [review_step_outside inside]
              exact .same
          | true => exact review_db_write (review_move inside rfl)
        apply ih
        refine ⟨db_write_sound current.sound write, ?_⟩
        intro caller request position running
        exact works_within_frame write (current.works caller request position running)
  rw [review_request_eq]
  split
  · exact kept
  · exact framed inputs estate.db .get kept

section KeptSteps

variable {deployment : Deployment Cost} {removed : Nat → Bool} {away : String → Bool}
  {spared : Spared} {estate next : Estate Cost}

theorem keeps_within_of_apart {caller : Nat} {stamp : Stamp} {fault : Option Fault}
    {request : RefillRequest} {point : RefillPoint}
    (apart : StaysApart removed away spared estate (.budget (.advance caller stamp fault)))
    (running : estate.calls caller = some (.refill request point)) :
    KeepsWithin (near away) estate.db request stamp point := by
  simp only [StaysApart, running] at apart
  split at apart
  · refine ⟨?_, fun _ => apart.2.2⟩
    intro isNear
    simp [near, apart.1] at isNear
  · refine ⟨fun _ => apart.2, ?_⟩
    intro isAway
    simp [near, apart.1] at isAway

theorem named_of_apart {caller : Nat} {stamp : Stamp} {fault : Option Fault}
    {request : RefillRequest} {point : RefillPoint}
    (apart : StaysApart removed away spared estate (.budget (.advance caller stamp fault)))
    (running : estate.calls caller = some (.refill request point))
    (isAway : away request.budgetAccountId = true) :
    spared.spares request.accountId request.projectId = true := by
  simp only [StaysApart, running] at apart
  split at apart
  · exact apart.2.1
  · rw [apart.1] at isAway
    cases isAway

theorem metered_spares {metered : MeteredWorld Cost} {event : MeteredEvent Cost}
    (rows : SparesRows away spared estate.db)
    (apart : StaysApart removed away spared estate (.budget event))
    (noReview : movesReview event = false)
    (stepped : meteredStep deployment estate.metered event = some metered) :
    SparesRows away spared metered.service.db := by
  cases metered_outcome stepped with
  | observed event => exact rows
  | refused why => exact rows
  | arrived accepted arrived =>
      cases step_outcome arrived with
      | arrived free => exact rows
  | @moved caller stamp fault request point input after running read moved =>
      rcases advance_progress (step_outcome moved) with
        ⟨asked, before, later, was, _, move⟩ | ⟨_, _, _, was, _⟩
      · rw [running] at was
        cases was
        exact refill_spares rows (named_of_apart apart running) move
      · rw [running] at was
        cases was
  | panicked running read stopped =>
      cases step_outcome stopped with
      | stopped stopping => exact rows
  | elsewhere noRefill moved =>
      cases step_outcome moved with
      | stopped stopping => exact rows
      | swapped engine => exact rows
      | budgetGranted order stamp =>
          refine grant_spares rows ?_ rfl
          intro isAway
          have isBeyond : away order.budgetAccountId = true := isAway
          simp only [StaysApart, isBeyond, if_true] at apart
          exact apart
      | budgetRevoked admin grantId reason stamp =>
          rcases revoke_is_grant estate.db admin grantId reason stamp with
            same | ⟨original, found, ran⟩
          · exact same ▸ rows
          · have spares := grant_spares rows
              (rows.grants original (find_key_some found).1) (Eq.symm (Prod.eta
                (grant estate.db (correctionRequest original admin grantId reason) stamp)))
            rw [← ran] at spares
            exact spares
      | _ => cases noReview

theorem estate_kept_step {tiers : List String} {event : EstateEvent Cost}
    (kept : EstateKept away spared estate)
    (apart : StaysApart removed away spared estate event)
    (stepped : estateStep deployment tiers estate event = some next) :
    EstateKept away spared next := by
  cases event with
  | operate subject op =>
      simp only [estateStep] at stepped
      split at stepped
      · cases stepped
        exact kept
      · cases stepped
        exact ⟨linked_borders_kept kept.borders _, kept.spares.grants, kept.spares.requests⟩
  | budget event =>
      simp only [estateStep] at stepped
      split at stepped
      · cases stepped
      · rename_i noReview
        obtain ⟨metered, moved, isNext⟩ := Option.map_eq_some_iff.mp stepped
        subst isNext
        constructor
        · refine metered_borders_kept kept.borders ?_ moved
          intro caller stamp fault request point moves running
          rw [moves] at apart
          exact keeps_within_of_apart apart running
        · exact metered_spares kept.spares apart (by simpa using noReview) moved
  | review review inputs =>
      cases stepped
      refine ⟨review_borders_kept kept.borders review inputs, ?_⟩
      have spares := @review_spares away spared estate.db review .get inputs kept.spares
        (by simp)
      show SparesRows away spared (reviewRequest estate.db review inputs)
      rw [review_request_eq]
      split
      · exact kept.spares
      · exact spares
  | mutateLedger operation id =>
      cases stepped
      rw [mutate_ledger_frame]
      exact kept

end KeptSteps

/-- The rows this side of the border are the same. -/
def SameNear (away : String → Bool) (whole part : BudgetDb) : Prop :=
  partOf whole (near away) = partOf part (near away)

section SameRows

variable {away : String → Bool} {whole part : BudgetDb}

theorem same_near_grant {request : GrantRequest} {stamp : Stamp}
    (same : SameNear away whole part) (untriggered : request.triggerKey = none)
    (wholePays : away request.budgetAccountId = false →
      PaysNear away whole request.idempotencyKey stamp.id)
    (partPays : away request.budgetAccountId = false →
      PaysNear away part request.idempotencyKey stamp.id) :
    SameNear away (grant whole request stamp).1 (grant part request stamp).1 := by
  unfold SameNear at same ⊢
  cases isAway : away request.budgetAccountId with
  | true =>
      have beyond : near away request.budgetAccountId = false := by simp [near, isAway]
      rw [grant_other (Prod.eta (grant whole request stamp)).symm beyond,
        grant_other (Prod.eta (grant part request stamp)).symm beyond]
      exact same
  | false =>
      have isNear : near away request.budgetAccountId = true := by simp [near, isAway]
      obtain ⟨wholeKey, wholeId⟩ := wholePays isAway
      obtain ⟨partKey, partId⟩ := partPays isAway
      have wholeRan := grant_own request isNear wholeKey wholeId untriggered
      have partRan := grant_own request isNear partKey partId untriggered
      rw [same, partRan] at wholeRan
      exact (congrArg Prod.fst wholeRan).symm

theorem near_grant_found (wholeSound : TablesSound whole) (same : SameNear away whole part)
    {row : BudgetGrant} (member : row ∈ part.grants) (isNear : away row.budgetAccountId = false) :
    findKey grantId whole.grants row.id = some row := by
  have inPart : row ∈ (partOf part (near away)).grants :=
    List.mem_filter.mpr ⟨member, by simp [near, isNear]⟩
  rw [← same] at inPart
  exact find_key_eq_of_unique wholeSound.ledger.uniqueIds (List.mem_filter.mp inPart).1 rfl

theorem near_request_found (same : SameNear away whole part) {row : AugmentationRequest}
    (member : row ∈ part.requests) (isNear : away row.budgetAccountId = false) :
    row ∈ whole.requests := by
  have inPart : row ∈ (partOf part (near away)).requests :=
    List.mem_filter.mpr ⟨member, by simp [near, isNear]⟩
  rw [← same] at inPart
  exact (List.mem_filter.mp inPart).1

theorem same_near_symm (same : SameNear away whole part) : SameNear away part whole :=
  Eq.symm same

theorem revoke_beyond {db : BudgetDb} {admin id reason : String} {stamp : Stamp}
    (beyond : ∀ row, findKey grantId db.grants id = some row → away row.budgetAccountId = true) :
    partOf (revokeBudgetGrant db admin id reason stamp).1 (near away) =
      partOf db (near away) := by
  rcases revoke_is_grant db admin id reason stamp with unchanged | ⟨original, found, ran⟩
  · rw [unchanged]
  · have isAway : near away original.budgetAccountId = false := by
      simp [near, beyond original found]
    rw [ran]
    exact grant_other (Prod.eta
      (grant db (correctionRequest original admin id reason) stamp)).symm isAway

theorem same_near_revoke {admin id reason : String} {stamp : Stamp}
    (wholeSound : TablesSound whole) (partSound : TablesSound part)
    (same : SameNear away whole part)
    (wholePays : ∀ row ∈ whole.grants, row.id = id → away row.budgetAccountId = false →
      PaysNear away whole (some (revokeKey id)) stamp.id)
    (partPays : ∀ row ∈ part.grants, row.id = id → away row.budgetAccountId = false →
      PaysNear away part (some (revokeKey id)) stamp.id) :
    SameNear away (revokeBudgetGrant whole admin id reason stamp).1
      (revokeBudgetGrant part admin id reason stamp).1 := by
  by_cases isNear : ∃ row ∈ whole.grants, row.id = id ∧ away row.budgetAccountId = false
  · obtain ⟨row, member, rowId, onThisSide⟩ := isNear
    have wholeFound : findKey grantId whole.grants id = some row :=
      find_key_eq_of_unique wholeSound.ledger.uniqueIds member (congrArg some rowId)
    have partFound := near_grant_found partSound (same_near_symm same) member onThisSide
    rw [rowId] at partFound
    have partMember := (find_key_some partFound).1
    simp only [revokeBudgetGrant, getGrantById, wholeFound, partFound]
    exact same_near_grant same rfl
      (fun _ => wholePays row member rowId onThisSide)
      (fun _ => partPays row partMember rowId onThisSide)
  · have wholeBeyond : ∀ row, findKey grantId whole.grants id = some row →
        away row.budgetAccountId = true := by
      intro row found
      obtain ⟨member, rowId⟩ := find_key_some found
      by_contra onThisSide
      exact isNear ⟨row, member, Option.some.inj rowId, by simpa using onThisSide⟩
    have partBeyond : ∀ row, findKey grantId part.grants id = some row →
        away row.budgetAccountId = true := by
      intro row found
      obtain ⟨member, rowId⟩ := find_key_some found
      by_contra onThisSide
      have isFalse : away row.budgetAccountId = false := by simpa using onThisSide
      have inWhole := near_grant_found wholeSound same member isFalse
      exact isNear ⟨row, (find_key_some inWhole).1, Option.some.inj rowId, isFalse⟩
    unfold SameNear
    rw [revoke_beyond wholeBeyond, revoke_beyond partBeyond]
    exact same

theorem review_near {db : BudgetDb} {review : Review} {row : AugmentationRequest}
    {inputs : List StepInput} (sound : TablesSound db) (member : row ∈ db.requests)
    (rowId : row.id = review.requestId) (onThisSide : away row.budgetAccountId = false)
    (pays : ∀ input ∈ inputs,
      PaysNear away db (some (approvalKey review.requestId)) input.stamp.id) :
    runReview review (partOf db (near away)) .get inputs =
      partOf (runReview review db .get inputs) (near away) := by
  cases inputs with
  | nil => rfl
  | cons input rest =>
      have isNear : near away row.budgetAccountId = true := by simp [near, onThisSide]
      have keyOwn := (pays input List.mem_cons_self).1
      apply run_review_own
      refine ⟨sound, request_id_within sound ⟨row, member, rowId, isNear⟩, ?_, by simp, by simp⟩
      intro _
      exact ⟨keyOwn, fun other isInput => (pays other isInput).2⟩

theorem review_beyond {db : BudgetDb} {review : Review} (inputs : List StepInput)
    (beyond : ∀ row ∈ db.requests, row.id = review.requestId →
      away row.budgetAccountId = true) :
    partOf (runReview review db .get inputs) (near away) = partOf db (near away) := by
  apply run_review_other
  · intro row member rowId
    simp [near, beyond row member rowId]
  · intro request isGrant
    cases isGrant

/-- An approval of a request this side of the border looks nothing up across it. -/
def ReviewPays (away : String → Bool) (review : Review) (inputs : List StepInput)
    (db : BudgetDb) : Prop :=
  ∀ row ∈ db.requests, row.id = review.requestId → away row.budgetAccountId = false →
    ∀ input ∈ inputs, PaysNear away db (some (approvalKey review.requestId)) input.stamp.id

theorem same_near_run_review {review : Review} {inputs : List StepInput}
    (wholeSound : TablesSound whole) (partSound : TablesSound part)
    (same : SameNear away whole part)
    (wholePays : ReviewPays away review inputs whole)
    (partPays : ReviewPays away review inputs part) :
    SameNear away (runReview review whole .get inputs) (runReview review part .get inputs) := by
  unfold SameNear
  by_cases isNear : ∃ row ∈ whole.requests, row.id = review.requestId ∧
      away row.budgetAccountId = false
  · obtain ⟨row, member, rowId, onThisSide⟩ := isNear
    have partMember := near_request_found (same_near_symm same) member onThisSide
    rw [← review_near wholeSound member rowId onThisSide
        (wholePays row member rowId onThisSide),
      ← review_near partSound partMember rowId onThisSide
        (partPays row partMember rowId onThisSide), same]
  · have wholeBeyond : ∀ row ∈ whole.requests, row.id = review.requestId →
        away row.budgetAccountId = true := by
      intro row member rowId
      by_contra onThisSide
      exact isNear ⟨row, member, rowId, by simpa using onThisSide⟩
    have partBeyond : ∀ row ∈ part.requests, row.id = review.requestId →
        away row.budgetAccountId = true := by
      intro row member rowId
      by_contra onThisSide
      have isFalse : away row.budgetAccountId = false := by simpa using onThisSide
      exact isNear ⟨row, near_request_found same member isFalse, rowId, isFalse⟩
    rw [review_beyond inputs wholeBeyond, review_beyond inputs partBeyond]
    exact same

theorem same_near_review {review : Review} {inputs : List StepInput}
    (wholeSound : TablesSound whole) (partSound : TablesSound part)
    (same : SameNear away whole part)
    (wholePays : ReviewPays away review inputs whole)
    (partPays : ReviewPays away review inputs part) :
    SameNear away (reviewRequest whole review inputs) (reviewRequest part review inputs) := by
  have ran := same_near_run_review wholeSound partSound same wholePays partPays
  rw [review_request_eq, review_request_eq]
  split
  · exact same
  · exact ran

theorem same_near_linked (same : SameNear away whole part) (tenancy : TenancyDb) :
    SameNear away (linked tenancy whole) (linked tenancy part) := by
  have relinked : ∀ db : BudgetDb, partOf (linked tenancy db) (near away) =
      linked tenancy (partOf db (near away)) := fun _ => rfl
  unfold SameNear at same ⊢
  rw [relinked, relinked, same]

theorem same_near_refill {engine : PolicyEngine} {request : RefillRequest} {input : StepInput}
    {point : RefillPoint} (wholeSound : TablesSound whole) (partSound : TablesSound part)
    (same : SameNear away whole part) (onThisSide : away request.budgetAccountId = false)
    (wholeLookups : LookupsWithin (near away) whole request input.stamp point)
    (partLookups : LookupsWithin (near away) part request input.stamp point)
    (wholeWorks : WorksWithin (near away) whole request point)
    (partWorks : WorksWithin (near away) part request point) :
    SameNear away (refillStep engine whole request input point).1
        (refillStep engine part request input point).1 ∧
      (refillStep engine whole request input point).2 =
        (refillStep engine part request input point).2 := by
  have isNear : near away request.budgetAccountId = true := by simp [near, onThisSide]
  have wholeRan := @refill_step_own _ engine _ _ _ _ wholeSound isNear wholeLookups wholeWorks
  have partRan := @refill_step_own _ engine _ _ _ _ partSound isNear partLookups partWorks
  rw [same, partRan] at wholeRan
  exact ⟨(congrArg Prod.fst wholeRan).symm, (congrArg Prod.snd wholeRan).symm⟩

theorem refused_alike {tenancy : TenancyDb} {op : TenancyOp} (same : SameNear away whole part)
    (wholeNear : (refusingConstraint tenancy (partOf whole away) op).isSome = true →
      (refusingConstraint tenancy (partOf whole (near away)) op).isSome = true)
    (partNear : (refusingConstraint tenancy (partOf part away) op).isSome = true →
      (refusingConstraint tenancy (partOf part (near away)) op).isSome = true) :
    (refusingConstraint tenancy whole op).isSome =
      (refusingConstraint tenancy part op).isSome := by
  have decided : ∀ db : BudgetDb, ((refusingConstraint tenancy (partOf db away) op).isSome =
        true → (refusingConstraint tenancy (partOf db (near away)) op).isSome = true) →
      ((refusingConstraint tenancy db op).isSome = true ↔
        (refusingConstraint tenancy (partOf db (near away)) op).isSome = true) := by
    intro db onlyNear
    rw [refusing_constraint_iff tenancy db, refused_by_sides db away,
      ← refusing_constraint_iff, ← refusing_constraint_iff]
    exact or_iff_right_of_imp onlyNear
  rw [Bool.eq_iff_iff, decided whole wholeNear, decided part partNear, same]

theorem operate_alike {tiers : List String} {tenancy : TenancyDb} {subject : String}
    {op : TenancyOp} (alike : (refusingConstraint tenancy whole op).isSome =
      (refusingConstraint tenancy part op).isSome) :
    (operateReferenced tiers tenancy whole subject op).toOption =
      (operateReferenced tiers tenancy part subject op).toOption := by
  unfold operateReferenced
  cases operate tiers tenancy subject op with
  | error error => rfl
  | ok next =>
      cases ofWhole : refusingConstraint tenancy whole op with
      | some constraintName =>
          rw [ofWhole, Option.isSome_some] at alike
          obtain ⟨other, ofPart⟩ := Option.isSome_iff_exists.mp alike.symm
          simp [ofPart, Except.toOption]
      | none =>
          rw [ofWhole, Option.isSome_none] at alike
          have ofPart := Option.isSome_eq_false_iff.mp alike.symm
          rw [Option.isNone_iff_eq_none] at ofPart
          simp [ofPart]

end SameRows

end LightbridgeAuthz.Budget.DeletionBlocking
