import LightbridgeAuthz.Budget.GrantLedger

/-!
# Refill requests

`AugmentationRepo`: the request rows and the four statements that touch them.
`create` inserts unless the key is taken, `record_decision` overwrites whatever
the row says, and `record_review` only moves a row that is still pending. As in
the ledger, each statement has one lemma that says everything it can do.
-/

namespace LightbridgeAuthz.Budget.AugmentationRequests

open Library.KeyedRows
open Domain GrantLedger

set_option autoImplicit false

def requestId (row : AugmentationRequest) : Option String := some row.id

structure NewAugmentationRequest where
  budgetAccountId : String
  accountId : String
  projectId : Option String
  period : Period
  requestedTier : BudgetTier
  requestedAmountMicros : Int64
  idempotencyKey : Option String
  deriving DecidableEq, Repr

structure ApprovedDecision where
  policyEffect : Effect
  policyReasonCodes : List String
  matchedRuleIds : List String
  policyRevision : String
  approvedAmountMicros : Int64
  grantId : String
  deriving DecidableEq, Repr

structure UnapprovedDecision where
  policyEffect : Effect
  policyReasonCodes : List String
  matchedRuleIds : List String
  policyRevision : String
  deriving DecidableEq, Repr

inductive RecordedDecision where
  | autoApproved (decision : ApprovedDecision)
  | partiallyApproved (decision : ApprovedDecision)
  | pendingReview (decision : UnapprovedDecision)
  | denied (decision : UnapprovedDecision)
  deriving DecidableEq, Repr

structure DecomposedDecision where
  status : AugmentationStatus
  policyEffect : Effect
  policyReasonCodes : List String
  matchedRuleIds : List String
  policyRevision : String
  approvedAmountMicros : Option Int64
  grantId : Option String
  deriving DecidableEq, Repr

def ApprovedDecision.decompose (decision : ApprovedDecision) (status : AugmentationStatus) :
    DecomposedDecision where
  status := status
  policyEffect := decision.policyEffect
  policyReasonCodes := decision.policyReasonCodes
  matchedRuleIds := decision.matchedRuleIds
  policyRevision := decision.policyRevision
  approvedAmountMicros := some decision.approvedAmountMicros
  grantId := some decision.grantId

def UnapprovedDecision.decompose (decision : UnapprovedDecision)
    (status : AugmentationStatus) : DecomposedDecision where
  status := status
  policyEffect := decision.policyEffect
  policyReasonCodes := decision.policyReasonCodes
  matchedRuleIds := decision.matchedRuleIds
  policyRevision := decision.policyRevision
  approvedAmountMicros := none
  grantId := none

def RecordedDecision.decompose : RecordedDecision → DecomposedDecision
  | .autoApproved decision => decision.decompose .autoApproved
  | .partiallyApproved decision => decision.decompose .partiallyApproved
  | .pendingReview decision => decision.decompose .pendingReview
  | .denied decision => decision.decompose .denied

def requestRow (request : NewAugmentationRequest) (stamp : Stamp) : AugmentationRequest where
  id := stamp.id
  budgetAccountId := request.budgetAccountId
  accountId := request.accountId
  projectId := request.projectId
  period := request.period
  requestedTier := request.requestedTier
  requestedAmountMicros := request.requestedAmountMicros
  status := .created
  policyEffect := none
  policyReasonCodes := none
  matchedRuleIds := none
  policyRevision := none
  approvedAmountMicros := none
  grantId := none
  idempotencyKey := request.idempotencyKey
  reviewedBy := none
  rejectionReason := none
  createdAt := stamp.now
  reviewedAt := none

/-- `AugmentationRepo::create`. The fallback `SELECT` is a statement of its own,
but what it selects by is never updated and no row is deleted, so it finds the
row that made the insert a no-op. -/
def create (db : BudgetDb) (request : NewAugmentationRequest) (stamp : Stamp) :
    BudgetDb × Except BudgetError AugmentationRequest :=
  if conflicts AugmentationRequest.idempotencyKey db.requests request.idempotencyKey then
    match request.idempotencyKey.bind
        (findKey AugmentationRequest.idempotencyKey db.requests) with
    | some row => (db, .ok row)
    | none => (db, .error (.storageFailed .rowNotFound))
  else if conflicts requestId db.requests (some stamp.id) then
    (db, .error (.storageFailed (.uniqueViolation "budget_augmentation_requests_pkey")))
  else if request.budgetAccountId ∉ db.accounts then
    (db, .error (.storageFailed
      (.foreignKeyViolation "budget_augmentation_requests_budget_account_id_fkey")))
  else if request.accountId ∉ db.accounts then
    (db, .error (.storageFailed
      (.foreignKeyViolation "budget_augmentation_requests_account_id_fkey")))
  else if ∃ project ∈ request.projectId, project ∉ db.projects then
    (db, .error (.storageFailed
      (.foreignKeyViolation "budget_augmentation_requests_project_id_fkey")))
  else
    ({ db with requests := db.requests ++ [requestRow request stamp] },
      .ok (requestRow request stamp))

def findByIdempotencyKey (db : BudgetDb) (key : String) : Option AugmentationRequest :=
  findKey AugmentationRequest.idempotencyKey db.requests key

def get (db : BudgetDb) (id : String) : Except BudgetError AugmentationRequest :=
  match findKey requestId db.requests id with
  | some row => .ok row
  | none => .error (.notFound ("augmentation request '" ++ id ++ "'"))

/-- The `SET` list of `REQUEST_UPDATE_DECISION_SQL`. -/
def decided (decision : DecomposedDecision) (row : AugmentationRequest) : AugmentationRequest :=
  { row with
    status := decision.status
    policyEffect := some decision.policyEffect
    policyReasonCodes := some decision.policyReasonCodes
    matchedRuleIds := some decision.matchedRuleIds
    policyRevision := some decision.policyRevision
    approvedAmountMicros := decision.approvedAmountMicros
    grantId := decision.grantId }

/-- Whether a `grant_id` to be stored breaks the reference to `budget_grants`. -/
def danglingGrant (db : BudgetDb) (id : Option String) : Bool :=
  match id with
  | none => false
  | some present => (findKey grantId db.grants present).isNone

/-- `AugmentationRepo::record_decision`: there is no guard on the status. -/
def recordDecision (db : BudgetDb) (id : String) (decision : RecordedDecision) :
    BudgetDb × Except BudgetError AugmentationRequest :=
  match findKey requestId db.requests id with
  | none => (db, .error (.notFound ("augmentation request '" ++ id ++ "'")))
  | some row =>
      if danglingGrant db decision.decompose.grantId then
        (db, .error (.storageFailed
          (.foreignKeyViolation "budget_augmentation_requests_grant_id_fkey")))
      else
        ({ db with requests := updateKey requestId db.requests id (decided decision.decompose) },
          .ok (decided decision.decompose row))

/-- The `SET` list of `REQUEST_UPDATE_REVIEW_SQL`. -/
def reviewed (status : AugmentationStatus) (reviewedBy : String)
    (rejectionReason grantId : Option String) (now : Instant) (row : AugmentationRequest) :
    AugmentationRequest :=
  { row with
    status := status
    reviewedBy := some reviewedBy
    rejectionReason := rejectionReason
    reviewedAt := some now
    grantId := grantId }

def recordReview (db : BudgetDb) (id : String) (status : AugmentationStatus)
    (reviewedBy : String) (rejectionReason grantId : Option String) (now : Instant) :
    BudgetDb × Except BudgetError AugmentationRequest :=
  if status ≠ .approved ∧ status ≠ .denied then
    (db, .error (.invalidReviewOutcome status.asStr))
  else if status = .denied ∧ ¬ ∃ reason ∈ rejectionReason, isBlank reason = false then
    (db, .error .missingRejectionReason)
  else
    match findKey requestId db.requests id with
    | none => (db, .error (.alreadyReviewed id))
    | some row =>
        if row.status ≠ .pendingReview then (db, .error (.alreadyReviewed id))
        else if danglingGrant db grantId then
          (db, .error (.storageFailed
            (.foreignKeyViolation "budget_augmentation_requests_grant_id_fkey")))
        else
          ({ db with
              requests := updateKey requestId db.requests id
                (reviewed status reviewedBy rejectionReason grantId now) },
            .ok (reviewed status reviewedBy rejectionReason grantId now row))

/-- Everything `create` can do. -/
inductive CreateOutcome (db : BudgetDb) (request : NewAugmentationRequest) (stamp : Stamp) :
    BudgetDb → Except BudgetError AugmentationRequest → Prop where
  | refused (error : BudgetError) : CreateOutcome db request stamp db (.error error)
  | found {key : String} {row : AugmentationRequest}
      (keyed : request.idempotencyKey = some key)
      (stored : findKey AugmentationRequest.idempotencyKey db.requests key = some row) :
      CreateOutcome db request stamp db (.ok row)
  | inserted
      (freshKey : ∀ key, request.idempotencyKey = some key →
        ∀ row ∈ db.requests, row.idempotencyKey ≠ some key)
      (freshId : ∀ row ∈ db.requests, row.id ≠ stamp.id) :
      CreateOutcome db request stamp
        { db with requests := db.requests ++ [requestRow request stamp] }
        (.ok (requestRow request stamp))

/-- Everything an `UPDATE … WHERE id = $1` can do, with `admits` the rest of its
`WHERE` clause. -/
inductive UpdateOutcome (db : BudgetDb) (id : String)
    (change : AugmentationRequest → AugmentationRequest)
    (admits : AugmentationRequest → Prop) :
    BudgetDb → Except BudgetError AugmentationRequest → Prop where
  | refused (error : BudgetError) : UpdateOutcome db id change admits db (.error error)
  | updated {row : AugmentationRequest}
      (stored : findKey requestId db.requests id = some row) (admitted : admits row) :
      UpdateOutcome db id change admits
        { db with requests := updateKey requestId db.requests id change } (.ok (change row))

theorem create_outcome {db next : BudgetDb} {request : NewAugmentationRequest} {stamp : Stamp}
    {answer : Except BudgetError AugmentationRequest}
    (ran : create db request stamp = (next, answer)) :
    CreateOutcome db request stamp next answer := by
  unfold create at ran
  by_cases keyTaken : conflicts AugmentationRequest.idempotencyKey db.requests
      request.idempotencyKey = true
  · obtain ⟨key, row, keyed, found⟩ := conflicts_true keyTaken
    rw [if_pos keyTaken] at ran
    simp only [keyed, Option.bind_some, found] at ran
    cases ran
    exact .found keyed found
  · by_cases idTaken : conflicts requestId db.requests (some stamp.id) = true
    · rw [if_neg keyTaken, if_pos idTaken] at ran
      cases ran
      exact .refused _
    · have freshId : ∀ row ∈ db.requests, row.id ≠ stamp.id := by
        intro row member sameId
        exact apart_of_not_conflicts idTaken stamp.id rfl row member
          (by rw [requestId, sameId])
      rw [if_neg keyTaken, if_neg idTaken] at ran
      split at ran
      · cases ran
        exact .refused _
      · split at ran
        · cases ran
          exact .refused _
        · split at ran
          · cases ran
            exact .refused _
          · cases ran
            exact .inserted (apart_of_not_conflicts keyTaken) freshId

theorem record_decision_outcome {db next : BudgetDb} {id : String}
    {decision : RecordedDecision} {answer : Except BudgetError AugmentationRequest}
    (ran : recordDecision db id decision = (next, answer)) :
    UpdateOutcome db id (decided decision.decompose) (fun _ => True) next answer := by
  unfold recordDecision at ran
  cases found : findKey requestId db.requests id with
  | none =>
      simp only [found] at ran
      cases ran
      exact .refused _
  | some row =>
      simp only [found] at ran
      split at ran
      · cases ran
        exact .refused _
      · cases ran
        exact .updated found trivial

theorem record_review_ok {db : BudgetDb} {id : String} {status : AugmentationStatus}
    (reviewedBy : String) {rejectionReason grantId : Option String} (now : Instant)
    {row : AugmentationRequest}
    (valid : status = .approved ∨
      status = .denied ∧ ∃ reason ∈ rejectionReason, isBlank reason = false)
    (stored : findKey requestId db.requests id = some row)
    (pending : row.status = .pendingReview) (inPlace : danglingGrant db grantId = false) :
    recordReview db id status reviewedBy rejectionReason grantId now =
      ({ db with
          requests := updateKey requestId db.requests id
            (reviewed status reviewedBy rejectionReason grantId now) },
        .ok (reviewed status reviewedBy rejectionReason grantId now row)) := by
  unfold recordReview
  rw [stored]
  rcases valid with approves | ⟨denies, given⟩
  · simp [approves, pending, inPlace]
  · have notMissing : ¬ (status = .denied ∧
        ¬ ∃ reason ∈ rejectionReason, isBlank reason = false) := fun missing =>
      missing.2 given
    rw [if_neg notMissing]
    simp [denies, pending, inPlace]

theorem record_review_outcome {db next : BudgetDb} {id : String} {status : AugmentationStatus}
    {reviewedBy : String} {rejectionReason grantId : Option String} {now : Instant}
    {answer : Except BudgetError AugmentationRequest}
    (ran : recordReview db id status reviewedBy rejectionReason grantId now =
      (next, answer)) :
    UpdateOutcome db id (reviewed status reviewedBy rejectionReason grantId now)
      (fun row => row.status = .pendingReview) next answer := by
  unfold recordReview at ran
  split at ran
  · cases ran
    exact .refused _
  · split at ran
    · cases ran
      exact .refused _
    · cases found : findKey requestId db.requests id with
      | none =>
          simp only [found] at ran
          cases ran
          exact .refused _
      | some row =>
          simp only [found] at ran
          by_cases pending : row.status = .pendingReview
          · rw [if_neg (not_not_intro pending)] at ran
            split at ran
            · cases ran
              exact .refused _
            · cases ran
              exact .updated found pending
          · rw [if_pos pending] at ran
            cases ran
            exact .refused _

theorem create_grants {db next : BudgetDb} {request : NewAugmentationRequest} {stamp : Stamp}
    {answer : Except BudgetError AugmentationRequest}
    (ran : create db request stamp = (next, answer)) : next.grants = db.grants := by
  cases create_outcome ran with
  | refused error => rfl
  | found keyed stored => rfl
  | inserted freshKey freshId => rfl

theorem update_grants {db next : BudgetDb} {id : String}
    {change : AugmentationRequest → AugmentationRequest} {admits : AugmentationRequest → Prop}
    {answer : Except BudgetError AugmentationRequest}
    (outcome : UpdateOutcome db id change admits next answer) : next.grants = db.grants := by
  cases outcome with
  | refused error => rfl
  | updated stored admitted => rfl

/-- The columns that no statement writes after the insert. -/
structure SameOrigin (old new : AugmentationRequest) : Prop where
  id : new.id = old.id
  idempotencyKey : new.idempotencyKey = old.idempotencyKey
  budgetAccountId : new.budgetAccountId = old.budgetAccountId
  accountId : new.accountId = old.accountId
  projectId : new.projectId = old.projectId
  period : new.period = old.period
  requestedTier : new.requestedTier = old.requestedTier
  requestedAmountMicros : new.requestedAmountMicros = old.requestedAmountMicros
  createdAt : new.createdAt = old.createdAt

theorem same_origin_refl (row : AugmentationRequest) : SameOrigin row row :=
  ⟨rfl, rfl, rfl, rfl, rfl, rfl, rfl, rfl, rfl⟩

theorem same_origin_symm {row later : AugmentationRequest} (same : SameOrigin row later) :
    SameOrigin later row where
  id := same.id.symm
  idempotencyKey := same.idempotencyKey.symm
  budgetAccountId := same.budgetAccountId.symm
  accountId := same.accountId.symm
  projectId := same.projectId.symm
  period := same.period.symm
  requestedTier := same.requestedTier.symm
  requestedAmountMicros := same.requestedAmountMicros.symm
  createdAt := same.createdAt.symm

theorem same_origin_trans {first second third : AugmentationRequest}
    (left : SameOrigin first second) (right : SameOrigin second third) :
    SameOrigin first third where
  id := right.id.trans left.id
  idempotencyKey := right.idempotencyKey.trans left.idempotencyKey
  budgetAccountId := right.budgetAccountId.trans left.budgetAccountId
  accountId := right.accountId.trans left.accountId
  projectId := right.projectId.trans left.projectId
  period := right.period.trans left.period
  requestedTier := right.requestedTier.trans left.requestedTier
  requestedAmountMicros := right.requestedAmountMicros.trans left.requestedAmountMicros
  createdAt := right.createdAt.trans left.createdAt

theorem same_origin_decided (decision : DecomposedDecision) (row : AugmentationRequest) :
    SameOrigin row (decided decision row) :=
  ⟨rfl, rfl, rfl, rfl, rfl, rfl, rfl, rfl, rfl⟩

theorem same_origin_reviewed (status : AugmentationStatus) (reviewedBy : String)
    (rejectionReason grantId : Option String) (now : Instant) (row : AugmentationRequest) :
    SameOrigin row (reviewed status reviewedBy rejectionReason grantId now row) :=
  ⟨rfl, rfl, rfl, rfl, rfl, rfl, rfl, rfl, rfl⟩

/-- What the primary key and the partial unique index promise. -/
structure RequestIntegrity (rows : List AugmentationRequest) : Prop where
  uniqueIds : UniqueKeys requestId rows
  uniqueIdempotencyKeys : UniqueKeys AugmentationRequest.idempotencyKey rows

theorem request_integrity_nil : RequestIntegrity [] := ⟨unique_keys_nil, unique_keys_nil⟩

theorem request_eq_of_id {rows : List AugmentationRequest} (integrity : RequestIntegrity rows)
    {left right : AugmentationRequest} (leftMember : left ∈ rows) (rightMember : right ∈ rows)
    (sameId : left.id = right.id) : left = right :=
  unique_keys_eq integrity.uniqueIds leftMember rightMember (congrArg some sameId) rfl

theorem request_integrity_append {rows : List AugmentationRequest}
    (integrity : RequestIntegrity rows) {request : NewAugmentationRequest} {stamp : Stamp}
    (freshKey : ∀ key, request.idempotencyKey = some key →
      ∀ row ∈ rows, row.idempotencyKey ≠ some key)
    (freshId : ∀ row ∈ rows, row.id ≠ stamp.id) :
    RequestIntegrity (rows ++ [requestRow request stamp]) := by
  constructor
  · apply unique_keys_append integrity.uniqueIds
    intro id sameId row member rowId
    apply freshId row member
    simp only [requestId, requestRow, Option.some.injEq] at sameId rowId
    rw [rowId, sameId]
  · exact unique_keys_append integrity.uniqueIdempotencyKeys freshKey

theorem request_integrity_update {rows : List AugmentationRequest}
    (integrity : RequestIntegrity rows) {id : String}
    {change : AugmentationRequest → AugmentationRequest}
    (keeps : ∀ row, SameOrigin row (change row)) :
    RequestIntegrity (updateKey requestId rows id change) := by
  constructor
  · apply unique_keys_update integrity.uniqueIds
    intro row
    rw [requestId, requestId, (keeps row).id]
  · apply unique_keys_update integrity.uniqueIdempotencyKeys
    intro row
    exact (keeps row).idempotencyKey

end LightbridgeAuthz.Budget.AugmentationRequests
