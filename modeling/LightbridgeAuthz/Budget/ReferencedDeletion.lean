import LightbridgeAuthz.Access.TenancyOps
import LightbridgeAuthz.Budget.AccountRows

/-!
# Deletions that the budget tables refuse

`budget_grants`, `budget_balances` and `budget_augmentation_requests` refer to
`accounts` and `projects` without `ON DELETE`, so a referenced row cannot be
deleted, and a ledger row can never be taken away: a trigger refuses every
`UPDATE` and `DELETE` on `budget_grants`. The estate joins the tables of the two
domains. Refills go statement by statement as in `ServiceWorld`; a review runs
as far as its inputs reach.
-/

namespace LightbridgeAuthz.Budget.ReferencedDeletion

open Library.EventRun Library.KeyedRows
open Access.Tenancy Access.TenancyOps
open Domain GrantLedger Revocation AugmentationRequests RuleData
open ServiceWorld ServiceSteps ServiceWrites AccountRows RefillProcedure

set_option autoImplicit false

/-- The constraints that refer to `projects`, each with whether a row refers to
the project. -/
def projectReferences (db : BudgetDb) (projectId : String) : List (String × Bool) :=
  [("budget_grants_project_id_fkey",
      db.grants.any fun row => row.projectId == some projectId),
    ("budget_augmentation_requests_project_id_fkey",
      db.requests.any fun row => row.projectId == some projectId)]

/-- The constraints that refer to `accounts`. -/
def accountReferences (db : BudgetDb) (accountId : String) : List (String × Bool) :=
  [("budget_grants_budget_account_id_fkey",
      db.grants.any fun row => row.budgetAccountId == accountId),
    ("budget_grants_account_id_fkey", db.grants.any fun row => row.accountId == accountId),
    ("budget_balances_budget_account_id_fkey",
      db.balances.any fun row => row.budgetAccountId == accountId),
    ("budget_augmentation_requests_budget_account_id_fkey",
      db.requests.any fun row => row.budgetAccountId == accountId),
    ("budget_augmentation_requests_account_id_fkey",
      db.requests.any fun row => row.accountId == accountId)]

/-- The references a deletion would break. The deletion of an account cascades to
its projects, whose references count as well. -/
def brokenReferences (tenancy : TenancyDb) (db : BudgetDb) : TenancyOp → List (String × Bool)
  | .deleteAccountPermanently accountId =>
      (tenancy.projects.filter fun project => project.accountId == accountId).flatMap
          (fun project => projectReferences db project.id) ++
        accountReferences db accountId
  | .deleteProject projectId => projectReferences db projectId
  | _ => []

def refusingConstraint (tenancy : TenancyDb) (db : BudgetDb) (op : TenancyOp) : Option String :=
  ((brokenReferences tenancy db op).find? Prod.snd).map Prod.fst

/-- An operation on the tenancy tables with the budget tables in place. -/
def operateReferenced (tiers : List String) (tenancy : TenancyDb) (db : BudgetDb)
    (subject : String) (op : TenancyOp) : Except AccessError TenancyDb :=
  match operate tiers tenancy subject op with
  | .error error => .error error
  | .ok next =>
      match refusingConstraint tenancy db op with
      | some constraintName => .error (.sqlx (.foreignKeyViolation constraintName))
      | none => .ok next

/-- `budget_grants_forbid_mutation`, which runs before an `UPDATE` or a `DELETE` of
each row of `budget_grants`. -/
def mutateLedger (db : BudgetDb) (operation id : String) :
    BudgetDb × Except BudgetError Unit :=
  match findKey grantId db.grants id with
  | none => (db, .ok ())
  | some row =>
      (db, .error (.storageFailed (.message ("budget_grants is append-only: " ++ operation ++
        " is not permitted (id=" ++ row.id ++ ")"))))

/-- A review that takes one statement for each input. -/
def runReview (review : Review) : BudgetDb → ReviewPoint → List StepInput → BudgetDb
  | db, _, [] => db
  | db, point, input :: rest =>
      runReview review (reviewStep db review input point).1
        (reviewStep db review input point).2 rest

/-- `ReviewService::approve` and `reject`, the latter with its check of the
reason. -/
def reviewRequest (db : BudgetDb) (review : Review) (inputs : List StepInput) : BudgetDb :=
  match review.action with
  | .approve => runReview review db .get inputs
  | .reject reason => if isBlank reason then db else runReview review db .get inputs

theorem mutate_ledger_frame (db : BudgetDb) (operation id : String) :
    (mutateLedger db operation id).1 = db := by
  unfold mutateLedger
  split
  · rfl
  · rfl

/-- The rejections that are refused before their first statement. -/
def refusesReason (review : Review) : Bool :=
  match review.action with
  | .approve => false
  | .reject reason => isBlank reason

theorem review_request_eq (db : BudgetDb) (review : Review) (inputs : List StepInput) :
    reviewRequest db review inputs =
      if refusesReason review then db else runReview review db .get inputs := by
  unfold reviewRequest refusesReason
  cases review.action with
  | approve => rfl
  | reject reason => rfl

variable {Cost : Type}

structure Estate (Cost : Type) where
  tenancy : TenancyDb
  metered : MeteredWorld Cost

def Estate.db (estate : Estate Cost) : BudgetDb := estate.metered.service.db

def Estate.calls (estate : Estate Cost) : Nat → Option Call := estate.metered.service.calls

/-- The tables the foreign keys of the budget tables point at. -/
def linked (tenancy : TenancyDb) (db : BudgetDb) : BudgetDb :=
  { db with
    accounts := tenancy.accounts.map Account.id
    projects := tenancy.projects.map Project.id }

def Estate.withDb (estate : Estate Cost) (db : BudgetDb) : Estate Cost :=
  { estate with
    metered := { estate.metered with service := { estate.metered.service with db := db } } }

def Estate.initial (engine : PolicyEngine) : Estate Cost where
  tenancy := ⟨[], [], []⟩
  metered := MeteredWorld.initial [] [] engine

inductive EstateEvent (Cost : Type) where
  | operate (subject : String) (op : TenancyOp)
  | budget (event : MeteredEvent Cost)
  | review (review : Review) (inputs : List StepInput)
  | mutateLedger (operation id : String)

/-- The events of the service that a review is made of. -/
def movesReview : MeteredEvent Cost → Bool
  | .elsewhere (.arrive _ _) => true
  | .elsewhere (.advance _ _) => true
  | _ => false

/-- One event. A refused operation changes nothing. -/
def estateStep (deployment : Deployment Cost) (tiers : List String) (estate : Estate Cost) :
    EstateEvent Cost → Option (Estate Cost)
  | .operate subject op =>
      match operateReferenced tiers estate.tenancy estate.db subject op with
      | .error _ => some estate
      | .ok tenancy =>
          some ({ estate with tenancy := tenancy }.withDb (linked tenancy estate.db))
  | .budget event =>
      if movesReview event then none
      else
        (meteredStep deployment estate.metered event).map fun next =>
          { estate with metered := next }
  | .review review inputs => some (estate.withDb (reviewRequest estate.db review inputs))
  | .mutateLedger operation id => some (estate.withDb (mutateLedger estate.db operation id).1)

def wouldSucceed (tiers : List String) (estate : Estate Cost) (subject : String)
    (op : TenancyOp) : Bool :=
  match operateReferenced tiers estate.tenancy estate.db subject op with
  | .ok _ => true
  | .error _ => false

/-- A row of the ledger or of the requests names the project. -/
def RefersToProject (db : BudgetDb) (projectId : String) : Prop :=
  (∃ row ∈ db.grants, row.projectId = some projectId) ∨
    ∃ row ∈ db.requests, row.projectId = some projectId

def RefersToAccount (db : BudgetDb) (accountId : String) : Prop :=
  (∃ row ∈ db.grants, row.budgetAccountId = accountId ∨ row.accountId = accountId) ∨
    (∃ row ∈ db.balances, row.budgetAccountId = accountId) ∨
    ∃ row ∈ db.requests, row.budgetAccountId = accountId ∨ row.accountId = accountId

def RefusedBy (tenancy : TenancyDb) (db : BudgetDb) : TenancyOp → Prop
  | .deleteAccountPermanently accountId =>
      (∃ project ∈ tenancy.projects, project.accountId = accountId ∧
        RefersToProject db project.id) ∨ RefersToAccount db accountId
  | .deleteProject projectId => RefersToProject db projectId
  | _ => False

theorem project_references_any (db : BudgetDb) (projectId : String) :
    (projectReferences db projectId).any Prod.snd = true ↔ RefersToProject db projectId := by
  simp [projectReferences, RefersToProject]

theorem account_references_any (db : BudgetDb) (accountId : String) :
    (accountReferences db accountId).any Prod.snd = true ↔ RefersToAccount db accountId := by
  simp only [accountReferences, RefersToAccount, List.any_cons, List.any_nil, Bool.or_false,
    Bool.or_eq_true, List.any_eq_true, beq_iff_eq]
  constructor
  · rintro (⟨row, member, same⟩ | ⟨row, member, same⟩ | balance | ⟨row, member, same⟩ |
      ⟨row, member, same⟩)
    · exact Or.inl ⟨row, member, Or.inl same⟩
    · exact Or.inl ⟨row, member, Or.inr same⟩
    · exact Or.inr (Or.inl balance)
    · exact Or.inr (Or.inr ⟨row, member, Or.inl same⟩)
    · exact Or.inr (Or.inr ⟨row, member, Or.inr same⟩)
  · rintro (⟨row, member, same | same⟩ | balance | ⟨row, member, same | same⟩)
    · exact Or.inl ⟨row, member, same⟩
    · exact Or.inr (Or.inl ⟨row, member, same⟩)
    · exact Or.inr (Or.inr (Or.inl balance))
    · exact Or.inr (Or.inr (Or.inr (Or.inl ⟨row, member, same⟩)))
    · exact Or.inr (Or.inr (Or.inr (Or.inr ⟨row, member, same⟩)))

theorem refusing_constraint_iff (tenancy : TenancyDb) (db : BudgetDb) (op : TenancyOp) :
    (refusingConstraint tenancy db op).isSome = true ↔ RefusedBy tenancy db op := by
  have found : (refusingConstraint tenancy db op).isSome = true ↔
      (brokenReferences tenancy db op).any Prod.snd = true := by
    simp [refusingConstraint, Option.isSome_map, List.find?_isSome]
  rw [found]
  cases op with
  | deleteAccountPermanently accountId =>
      simp only [brokenReferences, RefusedBy, List.any_append, List.any_flatMap,
        Bool.or_eq_true, List.any_eq_true, List.mem_filter, beq_iff_eq]
      simp only [← List.any_eq_true, project_references_any, account_references_any, and_assoc]
  | deleteProject projectId => exact project_references_any db projectId
  | _ => simp [brokenReferences, RefusedBy]

theorem exists_sides {Row : Type} (rows : List Row) (side : Row → Bool) (names : Row → Prop) :
    (∃ row ∈ rows, names row) ↔
      (∃ row ∈ rows.filter side, names row) ∨
        ∃ row ∈ rows.filter (fun row => !side row), names row := by
  simp only [List.mem_filter]
  constructor
  · rintro ⟨row, member, isNamed⟩
    cases onSide : side row with
    | true => exact Or.inl ⟨row, ⟨member, onSide⟩, isNamed⟩
    | false => exact Or.inr ⟨row, ⟨member, by simp [onSide]⟩, isNamed⟩
  · rintro (⟨row, ⟨member, _⟩, isNamed⟩ | ⟨row, ⟨member, _⟩, isNamed⟩)
    · exact ⟨row, member, isNamed⟩
    · exact ⟨row, member, isNamed⟩

section Sides

variable (db : BudgetDb) (side : String → Bool)

theorem refers_to_project_sides (projectId : String) :
    RefersToProject db projectId ↔
      RefersToProject (partOf db side) projectId ∨
        RefersToProject (partOf db fun account => !side account) projectId := by
  unfold RefersToProject partOf
  rw [exists_sides db.grants (fun row => side row.budgetAccountId),
    exists_sides db.requests (fun row => side row.budgetAccountId)]
  exact or_or_or_comm

theorem refers_to_account_sides (accountId : String) :
    RefersToAccount db accountId ↔
      RefersToAccount (partOf db side) accountId ∨
        RefersToAccount (partOf db fun account => !side account) accountId := by
  unfold RefersToAccount partOf
  rw [exists_sides db.grants (fun row => side row.budgetAccountId),
    exists_sides db.balances (fun row => side row.budgetAccountId),
    exists_sides db.requests (fun row => side row.budgetAccountId),
    or_or_or_comm (b := ∃ row ∈ db.balances.filter fun row => !side row.budgetAccountId, _),
    or_or_or_comm]

theorem refused_by_sides (tenancy : TenancyDb) (op : TenancyOp) :
    RefusedBy tenancy db op ↔
      RefusedBy tenancy (partOf db side) op ∨
        RefusedBy tenancy (partOf db fun account => !side account) op := by
  cases op with
  | deleteAccountPermanently accountId =>
      simp only [RefusedBy]
      rw [refers_to_account_sides db side, or_or_or_comm]
      apply or_congr_left
      simp only [refers_to_project_sides db side, and_or_left, exists_or]
  | deleteProject projectId => exact refers_to_project_sides db side projectId
  | _ => simp [RefusedBy]

end Sides

section Reviews

variable {side : String → Bool} {review : Review}

/-- The points from which a review may still write a grant. -/
def mayPay : ReviewPoint → Bool
  | .get => true
  | .grant _ => true
  | _ => false

/-- A review of a request of this side, none of whose lookups crosses the border. -/
structure ReviewWithin (side : String → Bool) (review : Review) (db : BudgetDb)
    (point : ReviewPoint) (inputs : List StepInput) : Prop where
  sound : TablesSound db
  request : RequestIdWithin side db review.requestId
  pays : mayPay point = true →
    GrantKeyWithin side db (some (approvalKey review.requestId)) ∧
      ∀ input ∈ inputs, GrantIdWithin side db input.stamp.id
  grants : ∀ request, point = .grant request → side request.budgetAccountId = true
  records : ∀ grantId, point = .recordReview (some grantId) → GrantIdWithin side db grantId

theorem record_outcome_own {db : BudgetDb} {grantId : Option String} (now : Instant)
    (idOwn : RequestIdWithin side db review.requestId)
    (grantOwn : ∀ present ∈ grantId, GrantIdWithin side db present) :
    recordOutcome (partOf db side) review grantId now =
      (partOf (recordOutcome db review grantId now).1 side,
        (recordOutcome db review grantId now).2) := by
  unfold recordOutcome
  cases review.action with
  | approve => exact record_review_own _ _ now idOwn grantOwn
  | reject reason => exact record_review_own _ _ now idOwn (by simp)

theorem review_step_own {db : BudgetDb} {point : ReviewPoint} {input : StepInput}
    {rest : List StepInput} (within : ReviewWithin side review db point (input :: rest)) :
    reviewStep (partOf db side) review input point =
      (partOf (reviewStep db review input point).1 side,
        (reviewStep db review input point).2) := by
  cases point with
  | get =>
      have sameGet : AugmentationRequests.get (partOf db side) review.requestId =
          AugmentationRequests.get db review.requestId := by
        simp only [AugmentationRequests.get, find_request_part within.request]
      simp only [reviewStep, sameGet]
      cases attemptRead input.fault (AugmentationRequests.get db review.requestId) with
      | error error => rfl
      | ok request =>
          by_cases pending : request.status = .pendingReview
          · cases review.action <;> simp [pending]
          · simp [pending]
  | grant request =>
      obtain ⟨keyOwn, idsOwn⟩ := within.pays rfl
      have idOwn := idsOwn input List.mem_cons_self
      have own := within.grants request rfl
      have commutes := grant_own (approvalGrant review request) own keyOwn idOwn rfl
      simp only [reviewStep]
      rw [attempt_part input.fault commutes]
      rcases attempt input.fault db
        (GrantLedger.grant db (approvalGrant review request) input.stamp) with ⟨next, answer⟩
      cases answer <;> rfl
  | recordReview grantId =>
      have grantOwn : ∀ present ∈ grantId, GrantIdWithin side db present := by
        intro present isPresent
        apply within.records
        rw [Option.mem_def.mp isPresent]
      simp only [reviewStep]
      rw [attempt_part input.fault
        (record_outcome_own input.stamp.now within.request grantOwn)]
  | _ => rfl

theorem review_move_rows_back {db next : BudgetDb} {input : StepInput}
    {point later : ReviewPoint} (move : ReviewMove db review input point next later) :
    ∀ row ∈ next.requests, ∃ old ∈ db.requests, SameOrigin old row := by
  have unchanged : ∀ {left : BudgetDb}, left.requests = db.requests →
      ∀ row ∈ left.requests, ∃ old ∈ db.requests, SameOrigin old row := by
    intro left same row member
    rw [same] at member
    exact ⟨row, member, same_origin_refl row⟩
  have recorded : ∀ {grantId : Option String} {left : BudgetDb}
      {answer : Except BudgetError AugmentationRequest},
      recordOutcome db review grantId input.stamp.now = (left, answer) →
      ∀ row ∈ left.requests, ∃ old ∈ db.requests, SameOrigin old row := by
    intro grantId left answer ran
    have outcome : ∃ status rejectionReason paid, UpdateOutcome db review.requestId
        (reviewed status review.reviewerAccountId rejectionReason paid input.stamp.now)
        (fun row => row.status = .pendingReview) left answer := by
      unfold recordOutcome at ran
      split at ran
      · exact ⟨_, _, _, record_review_outcome ran⟩
      · exact ⟨_, _, _, record_review_outcome ran⟩
    obtain ⟨status, rejectionReason, paid, outcome⟩ := outcome
    cases outcome with
    | refused error => exact unchanged rfl
    | updated stored admitted =>
        intro row member
        exact mem_update_related SameOrigin same_origin_refl
          (fun row _ _ => same_origin_reviewed _ _ _ _ _ row) member
  cases move with
  | granted ran => exact unchanged (grant_frame ran).1
  | grantFailed left why =>
      rcases left with same | wrote
      · rw [same]
        exact unchanged rfl
      · rw [wrote]
        exact unchanged (grant_frame rfl).1
  | recorded ran => exact recorded ran
  | recordFailed left why =>
      rcases left with same | wrote
      · rw [same]
        exact unchanged rfl
      · rw [wrote]
        exact recorded rfl
  | _ => exact unchanged rfl

theorem review_step_outside {db : BudgetDb} {input : StepInput} {point : ReviewPoint}
    (outside : ReviewPoint.inside point = false) :
    reviewStep db review input point = (db, point) := by
  cases point with
  | get => cases outside
  | grant request => cases outside
  | recordReview grantId => cases outside
  | _ => rfl

theorem review_within_step {db : BudgetDb} {point : ReviewPoint} {input : StepInput}
    {rest : List StepInput} (within : ReviewWithin side review db point (input :: rest)) :
    ReviewWithin side review (reviewStep db review input point).1
      (reviewStep db review input point).2 rest := by
  have stillPays : mayPay point = true →
      GrantKeyWithin side db (some (approvalKey review.requestId)) ∧
        ∀ other ∈ rest, GrantIdWithin side db other.stamp.id := by
    intro paying
    obtain ⟨keyOwn, idsOwn⟩ := within.pays paying
    exact ⟨keyOwn, fun other member => idsOwn other (List.mem_cons_of_mem _ member)⟩
  cases inside : ReviewPoint.inside point with
  | false =>
      rw [review_step_outside inside]
      exact ⟨within.sound, within.request, stillPays, within.grants, within.records⟩
  | true =>
      rcases ran : reviewStep db review input point with ⟨next, later⟩
      have move := review_move inside ran
      have sound := db_write_sound within.sound (review_db_write move)
      have request : RequestIdWithin side next review.requestId := by
        intro row member rowId
        obtain ⟨old, oldMember, same⟩ := review_move_rows_back move row member
        rw [same.budgetAccountId]
        exact within.request old oldMember (same.id.symm.trans rowId)
      cases move with
      | @toGrant row stored pending approves =>
          refine ⟨sound, request, fun _ => stillPays rfl, ?_, by simp⟩
          intro asked isGrant
          cases isGrant
          obtain ⟨member, rowId⟩ := find_key_some stored
          exact within.request row member (Option.some.inj rowId)
      | @granted asked after row paid =>
          obtain ⟨keyOwn, _⟩ := within.pays rfl
          obtain ⟨member, rowOwn⟩ := granted_within (within.grants asked rfl) keyOwn paid
          refine ⟨sound, request, by simp [mayPay], by simp, ?_⟩
          intro grantId isRecord
          cases isRecord
          exact grant_id_within sound ⟨row, member, rfl, rowOwn⟩
      | _ => exact ⟨sound, request, by simp [mayPay], by simp, by simp⟩

theorem run_review_own {db : BudgetDb} {point : ReviewPoint} {inputs : List StepInput}
    (within : ReviewWithin side review db point inputs) :
    runReview review (partOf db side) point inputs =
      partOf (runReview review db point inputs) side := by
  induction inputs generalizing db point with
  | nil => rfl
  | cons input rest ih =>
      simp only [runReview, review_step_own within]
      exact ih (review_within_step within)

theorem run_review_other {db : BudgetDb} {point : ReviewPoint} (inputs : List StepInput)
    (apart : ∀ row ∈ db.requests, row.id = review.requestId → side row.budgetAccountId = false)
    (grantsApart : ∀ request, point = .grant request → side request.budgetAccountId = false) :
    partOf (runReview review db point inputs) side = partOf db side := by
  induction inputs generalizing db point with
  | nil => rfl
  | cons input rest ih =>
      simp only [runReview]
      cases inside : ReviewPoint.inside point with
      | false =>
          rw [review_step_outside inside]
          exact ih apart grantsApart
      | true =>
          rcases ran : reviewStep db review input point with ⟨next, later⟩
          have move := review_move inside ran
          have untouched := review_move_other move apart grantsApart
          rw [← untouched]
          apply ih
          · intro row member rowId
            obtain ⟨old, oldMember, same⟩ := review_move_rows_back move row member
            rw [same.budgetAccountId]
            exact apart old oldMember (same.id.symm.trans rowId)
          · intro asked isGrant
            cases move with
            | toGrant stored pending approves =>
                cases isGrant
                obtain ⟨member, rowId⟩ := find_key_some stored
                exact apart _ member (Option.some.inj rowId)
            | _ => cases isGrant

end Reviews

end LightbridgeAuthz.Budget.ReferencedDeletion
