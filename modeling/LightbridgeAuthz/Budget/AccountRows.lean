import LightbridgeAuthz.Budget.RefillProcedure

/-!
# The rows of some budget accounts

`partOf` keeps the ledger, balance and request rows of the budget accounts on
one side of a border. A statement for an account of the other side leaves the
part as it is. A statement for an account of this side does to the part what it
does to the whole tables, when no row of the other side holds the idempotency
key or the generated id it is looked up by: these are the only columns the
three tables share between accounts.
-/

namespace LightbridgeAuthz.Budget.AccountRows

open Library.EventRun Library.KeyedRows
open Domain GrantLedger LedgerReplay Revocation EffectiveBalance AugmentationRequests RuleData
open ServiceWorld ServiceSteps ServiceWrites RefillProcedure

set_option autoImplicit false

/-- The tables with only the rows of the accounts on one side. -/
def partOf (db : BudgetDb) (side : String → Bool) : BudgetDb where
  accounts := db.accounts
  projects := db.projects
  grants := db.grants.filter fun row => side row.budgetAccountId
  balances := db.balances.filter fun row => side row.budgetAccountId
  requests := db.requests.filter fun row => side row.budgetAccountId

/-- No ledger row of the other side holds the key. -/
def GrantKeyWithin (side : String → Bool) (db : BudgetDb) (key : Option String) : Prop :=
  ∀ row ∈ db.grants, row.idempotencyKey ≠ none → row.idempotencyKey = key →
    side row.budgetAccountId = true

def RequestKeyWithin (side : String → Bool) (db : BudgetDb) (key : Option String) : Prop :=
  ∀ row ∈ db.requests, row.idempotencyKey ≠ none → row.idempotencyKey = key →
    side row.budgetAccountId = true

def GrantIdWithin (side : String → Bool) (db : BudgetDb) (id : String) : Prop :=
  ∀ row ∈ db.grants, row.id = id → side row.budgetAccountId = true

def RequestIdWithin (side : String → Bool) (db : BudgetDb) (id : String) : Prop :=
  ∀ row ∈ db.requests, row.id = id → side row.budgetAccountId = true

section Decidability

variable (side : String → Bool) (db : BudgetDb)

instance (key : Option String) : Decidable (GrantKeyWithin side db key) :=
  inferInstanceAs (Decidable (∀ row ∈ db.grants, _))

instance (key : Option String) : Decidable (RequestKeyWithin side db key) :=
  inferInstanceAs (Decidable (∀ row ∈ db.requests, _))

instance (id : String) : Decidable (GrantIdWithin side db id) :=
  inferInstanceAs (Decidable (∀ row ∈ db.grants, _))

instance (id : String) : Decidable (RequestIdWithin side db id) :=
  inferInstanceAs (Decidable (∀ row ∈ db.requests, _))

end Decidability

section OtherSide

variable {db next : BudgetDb} {side : String → Bool}

theorem bootstrapped_balances_other {request : GrantRequest} (now : Instant)
    (elsewhere : side request.budgetAccountId = false) :
    (bootstrappedBalances db request now).filter (fun row => side row.budgetAccountId) =
      db.balances.filter fun row => side row.budgetAccountId := by
  unfold bootstrappedBalances
  split
  · rfl
  · simp [List.filter_append, zeroBalance, elsewhere]

theorem grant_other {request : GrantRequest} {stamp : Stamp}
    {answer : Except BudgetError BudgetGrant} (ran : grant db request stamp = (next, answer))
    (elsewhere : side request.budgetAccountId = false) :
    partOf next side = partOf db side := by
  cases grant_outcome ran with
  | refused error => rfl
  | replayed keyed stored =>
      simp only [partOf, bootstrapped_balances_other stamp.now elsewhere]
  | @inserted old credited signed freshKey freshId known locked added =>
      have target : ∀ row : BalanceRow,
          balanceKey row = some (request.budgetAccountId, request.period) →
          side row.budgetAccountId = false := by
        intro row keyed
        simp only [balanceKey, Option.some.injEq, Prod.mk.injEq] at keyed
        simp [keyed.1, elsewhere]
      have creditedKey : balanceKey credited =
          some (request.budgetAccountId, request.period) :=
        (credit_key added).trans (find_key_some locked).2
      have balances : (updateKey balanceKey (bootstrappedBalances db request stamp.now)
          (request.budgetAccountId, request.period) fun _ => credited).filter
            (fun row => side row.budgetAccountId) =
          db.balances.filter fun row => side row.budgetAccountId := by
        rw [update_key_filter_outside (fun row _ keyed => target row keyed)
          (fun _ _ _ => target credited creditedKey)]
        exact bootstrapped_balances_other stamp.now elsewhere
      simp only [partOf, balances, List.filter_append]
      simp [grantRow, elsewhere]

theorem create_other {request : NewAugmentationRequest} {stamp : Stamp}
    {answer : Except BudgetError AugmentationRequest}
    (ran : create db request stamp = (next, answer))
    (elsewhere : side request.budgetAccountId = false) :
    partOf next side = partOf db side := by
  cases create_outcome ran with
  | refused error => rfl
  | found keyed stored => rfl
  | inserted freshKey freshId =>
      simp only [partOf, List.filter_append]
      simp [requestRow, elsewhere]

theorem update_other {id : String} {change : AugmentationRequest → AugmentationRequest}
    {admits : AugmentationRequest → Prop} {answer : Except BudgetError AugmentationRequest}
    (outcome : UpdateOutcome db id change admits next answer)
    (keeps : ∀ row, SameOrigin row (change row))
    (elsewhere : ∀ row ∈ db.requests, row.id = id → side row.budgetAccountId = false) :
    partOf next side = partOf db side := by
  cases outcome with
  | refused error => rfl
  | updated stored admitted =>
      have target : ∀ row ∈ db.requests, requestId row = some id →
          side row.budgetAccountId = false := by
        intro row member keyed
        exact elsewhere row member (Option.some.inj keyed)
      simp only [partOf]
      rw [update_key_filter_outside]
      · intro row member keyed
        simp [target row member keyed]
      · intro row member keyed
        simp [(keeps row).budgetAccountId, target row member keyed]

end OtherSide

section ThisSide

variable {db : BudgetDb} {side : String → Bool}

theorem find_balance_part {account : String} (own : side account = true) (period : Period) :
    findKey balanceKey (partOf db side).balances (account, period) =
      findKey balanceKey db.balances (account, period) := by
  apply find_key_filter
  intro row _ keyed
  simp only [balanceKey, Option.some.injEq, Prod.mk.injEq] at keyed
  rw [keyed.1]
  exact own

theorem bootstrap_part {account : String} (own : side account = true) (period : Period)
    (now : Instant) :
    bootstrapBalance (partOf db side) account period now =
      (bootstrapBalance db account period now).map fun next => partOf next side := by
  have sameConflict : conflicts balanceKey (partOf db side).balances
      (some (account, period)) = conflicts balanceKey db.balances (some (account, period)) := by
    simp only [conflicts, find_balance_part own]
  unfold bootstrapBalance
  rw [sameConflict]
  split
  · rfl
  · by_cases known : account ∈ db.accounts
    · simp [partOf, known, Except.map, List.filter_append, zeroBalance, own]
    · simp [partOf, known, Except.map]

theorem insert_grant_part {request : GrantRequest} {stamp : Stamp}
    (own : side request.budgetAccountId = true) (keyOwn : GrantKeyWithin side db
      request.idempotencyKey) (idOwn : GrantIdWithin side db stamp.id)
    (untriggered : request.triggerKey = none) :
    insertGrant (partOf db side) request stamp =
      (insertGrant db request stamp).map fun (next, row) => (partOf next side, row) := by
  have sameKey : conflicts BudgetGrant.idempotencyKey
      (partOf db side).grants request.idempotencyKey =
      conflicts BudgetGrant.idempotencyKey db.grants request.idempotencyKey := by
    apply conflicts_filter
    intro key keyed row member rowKey
    exact keyOwn row member (by simp [rowKey]) (rowKey.trans keyed.symm)
  have sameId : conflicts grantId (partOf db side).grants
      (some stamp.id) = conflicts grantId db.grants (some stamp.id) := by
    apply conflicts_filter
    intro id same row member rowId
    cases same
    exact idOwn row member (Option.some.inj rowId)
  have noTrigger : ∀ rows : List BudgetGrant,
      conflicts BudgetGrant.triggerKey rows request.triggerKey = false := by
    intro rows
    rw [untriggered]
    rfl
  unfold insertGrant
  rw [sameKey, sameId, noTrigger, noTrigger]
  by_cases keyTaken : conflicts BudgetGrant.idempotencyKey db.grants
      request.idempotencyKey = true
  · simp [keyTaken, Except.map]
  · by_cases idTaken : conflicts grantId db.grants (some stamp.id) = true
    · simp [keyTaken, idTaken, Except.map]
    · have project : (∃ project ∈ request.projectId,
          project ∉ (partOf db side).projects) ↔
          ∃ project ∈ request.projectId, project ∉ db.projects := Iff.rfl
      by_cases known : request.budgetAccountId ∈ db.accounts
      · by_cases attributed : request.accountId ∈ db.accounts
        · by_cases foreign : ∃ project ∈ request.projectId, project ∉ db.projects
          · simp only [project, if_pos foreign]
            simp [keyTaken, idTaken, known, attributed, partOf, Except.map]
          · simp only [project, if_neg foreign]
            simp [keyTaken, idTaken, known, attributed, partOf, Except.map,
              List.filter_append, grantRow, own]
        · simp [keyTaken, idTaken, known, attributed, partOf, Except.map]
      · simp [keyTaken, idTaken, known, partOf, Except.map]

theorem credit_balance_part {request : GrantRequest} (now : Instant)
    (own : side request.budgetAccountId = true) :
    creditBalance (partOf db side) request now =
      (creditBalance db request now).map fun next => partOf next side := by
  unfold creditBalance
  rw [find_balance_part own]
  cases locked : findKey balanceKey db.balances (request.budgetAccountId, request.period) with
  | none => rfl
  | some row =>
      cases added : credit row request.source request.amountMicros now with
      | none => simp [added, Except.map]
      | some credited =>
          have creditedKey : balanceKey credited =
              some (request.budgetAccountId, request.period) :=
            (credit_key added).trans (find_key_some locked).2
          have balances := @update_key_filter _ _ _ balanceKey db.balances
            (request.budgetAccountId, request.period) (fun _ => credited)
            (fun row => side row.budgetAccountId)
            (by
              intro row _ keyed
              simp only [balanceKey, Option.some.injEq, Prod.mk.injEq] at keyed creditedKey
              rw [keyed.1, creditedKey.1])
          simp only [added, Except.map, partOf, balances]

theorem grant_transaction_part {request : GrantRequest} {stamp : Stamp}
    (own : side request.budgetAccountId = true)
    (keyOwn : GrantKeyWithin side db request.idempotencyKey)
    (idOwn : GrantIdWithin side db stamp.id) (untriggered : request.triggerKey = none) :
    grantTransaction (partOf db side) request stamp =
      (grantTransaction db request stamp).map fun (next, row) =>
        (partOf next side, row) := by
  unfold grantTransaction
  rw [bootstrap_part own]
  cases booted : bootstrapBalance db request.budgetAccountId request.period stamp.now with
  | error failure => rfl
  | ok bootstrapped =>
      have sameGrants : bootstrapped.grants = db.grants := by
        rw [bootstrap_balance_ok booted]
      have bootedKey : GrantKeyWithin side bootstrapped request.idempotencyKey := by
        unfold GrantKeyWithin
        rw [sameGrants]
        exact keyOwn
      have bootedId : GrantIdWithin side bootstrapped stamp.id := by
        unfold GrantIdWithin
        rw [sameGrants]
        exact idOwn
      simp only [Except.map, bind, Except.bind]
      rw [insert_grant_part own bootedKey bootedId untriggered]
      cases inserting : insertGrant bootstrapped request stamp with
      | error failure => rfl
      | ok result =>
          obtain ⟨written, inserted⟩ := result
          cases inserted with
          | some row =>
              simp only [Except.map]
              rw [credit_balance_part stamp.now own]
              cases creditBalance written request stamp.now with
              | error failure => rfl
              | ok credited => rfl
          | none =>
              rcases insert_grant_ok inserting with ⟨same, _, _⟩ | ⟨_, inserts, _⟩
              · have sameFind : request.idempotencyKey.bind (findKey BudgetGrant.idempotencyKey
                    (partOf written side).grants) =
                    request.idempotencyKey.bind
                      (findKey BudgetGrant.idempotencyKey written.grants) := by
                  subst same
                  cases keyed : request.idempotencyKey with
                  | none => rfl
                  | some key =>
                      apply find_key_filter
                      intro row member rowKey
                      exact bootedKey row member (by simp [rowKey])
                        (rowKey.trans keyed.symm)
                simp only [Except.map, sameFind]
                cases request.idempotencyKey.bind
                    (findKey BudgetGrant.idempotencyKey written.grants) with
                | none => rfl
                | some row => rfl
              · cases inserts

theorem grant_own (request : GrantRequest) {stamp : Stamp}
    (own : side request.budgetAccountId = true)
    (keyOwn : GrantKeyWithin side db request.idempotencyKey)
    (idOwn : GrantIdWithin side db stamp.id) (untriggered : request.triggerKey = none) :
    grant (partOf db side) request stamp =
      (partOf (grant db request stamp).1 side, (grant db request stamp).2) := by
  unfold grant
  rw [grant_transaction_part own keyOwn idOwn untriggered]
  cases validateAmountSign request.source request.amountMicros with
  | error error => rfl
  | ok _ =>
      cases grantTransaction db request stamp with
      | error failure => rfl
      | ok result => rfl

theorem create_own (request : NewAugmentationRequest) {stamp : Stamp}
    (own : side request.budgetAccountId = true)
    (keyOwn : RequestKeyWithin side db request.idempotencyKey)
    (idOwn : RequestIdWithin side db stamp.id) :
    create (partOf db side) request stamp =
      (partOf (create db request stamp).1 side, (create db request stamp).2) := by
  have sameKey : conflicts AugmentationRequest.idempotencyKey
      (partOf db side).requests request.idempotencyKey =
      conflicts AugmentationRequest.idempotencyKey db.requests request.idempotencyKey := by
    apply conflicts_filter
    intro key keyed row member rowKey
    exact keyOwn row member (by simp [rowKey]) (rowKey.trans keyed.symm)
  have sameId : conflicts requestId (partOf db side).requests
      (some stamp.id) = conflicts requestId db.requests (some stamp.id) := by
    apply conflicts_filter
    intro id same row member rowId
    cases same
    exact idOwn row member (Option.some.inj rowId)
  unfold create
  rw [sameKey, sameId]
  by_cases keyTaken : conflicts AugmentationRequest.idempotencyKey db.requests
      request.idempotencyKey = true
  · obtain ⟨key, row, keyed, found⟩ := conflicts_true keyTaken
    have partFound : findKey AugmentationRequest.idempotencyKey
        (partOf db side).requests key = some row := by
      rw [← found]
      apply find_key_filter
      intro row member rowKey
      exact keyOwn row member (by simp [rowKey]) (rowKey.trans keyed.symm)
    rw [if_pos keyTaken, if_pos keyTaken]
    simp only [keyed, Option.bind_some, found, partFound]
  · by_cases idTaken : conflicts requestId db.requests (some stamp.id) = true
    · simp [keyTaken, idTaken]
    · have project : (∃ project ∈ request.projectId,
          project ∉ (partOf db side).projects) ↔
          ∃ project ∈ request.projectId, project ∉ db.projects := Iff.rfl
      by_cases known : request.budgetAccountId ∈ db.accounts
      · by_cases attributed : request.accountId ∈ db.accounts
        · by_cases foreign : ∃ project ∈ request.projectId, project ∉ db.projects
          · simp only [project, if_pos foreign]
            simp [keyTaken, idTaken, known, attributed, partOf]
          · simp only [project, if_neg foreign]
            simp [keyTaken, idTaken, known, attributed, partOf, List.filter_append,
              requestRow, own]
        · simp [keyTaken, idTaken, known, attributed, partOf]
      · simp [keyTaken, idTaken, known, partOf]

theorem find_request_part {id : String} (idOwn : RequestIdWithin side db id) :
    findKey requestId (partOf db side).requests id = findKey requestId db.requests id := by
  apply find_key_filter
  intro row member rowId
  exact idOwn row member (Option.some.inj rowId)

theorem dangling_grant_part {id : Option String}
    (grantOwn : ∀ present ∈ id, GrantIdWithin side db present) :
    danglingGrant (partOf db side) id = danglingGrant db id := by
  cases id with
  | none => rfl
  | some present =>
      have inside : findKey grantId (partOf db side).grants present =
          findKey grantId db.grants present := by
        apply find_key_filter
        intro row member rowId
        exact grantOwn present rfl row member (Option.some.inj rowId)
      simp only [danglingGrant, inside]

theorem update_request_part {id : String} {change : AugmentationRequest → AugmentationRequest}
    (keeps : ∀ row, SameOrigin row (change row)) :
    partOf { db with requests := updateKey requestId db.requests id change } side =
      { partOf db side with
        requests := updateKey requestId (partOf db side).requests id change } := by
  have sameRows : (updateKey requestId db.requests id change).filter
        (fun row => side row.budgetAccountId) =
      updateKey requestId (db.requests.filter fun row => side row.budgetAccountId) id change := by
    apply update_key_filter
    intro row _ _
    rw [(keeps row).budgetAccountId]
  simp only [partOf, sameRows]

theorem record_decision_own {id : String} {decision : RecordedDecision}
    (idOwn : RequestIdWithin side db id)
    (grantOwn : ∀ grantId ∈ decision.decompose.grantId, GrantIdWithin side db grantId) :
    recordDecision (partOf db side) id decision =
      (partOf (recordDecision db id decision).1 side,
        (recordDecision db id decision).2) := by
  unfold recordDecision
  rw [find_request_part idOwn, dangling_grant_part grantOwn]
  cases findKey requestId db.requests id with
  | none => rfl
  | some row =>
      by_cases dangling : danglingGrant db decision.decompose.grantId = true
      · simp [dangling]
      · simp only [if_neg dangling, update_request_part (same_origin_decided _)]

theorem record_review_own {id : String} {status : AugmentationStatus} (reviewedBy : String)
    (rejectionReason : Option String) {grantId : Option String} (now : Instant)
    (idOwn : RequestIdWithin side db id)
    (grantOwn : ∀ present ∈ grantId, GrantIdWithin side db present) :
    recordReview (partOf db side) id status reviewedBy rejectionReason grantId now =
      (partOf (recordReview db id status reviewedBy rejectionReason grantId now).1 side,
        (recordReview db id status reviewedBy rejectionReason grantId now).2) := by
  unfold recordReview
  rw [find_request_part idOwn, dangling_grant_part grantOwn]
  split
  · rfl
  · split
    · rfl
    · cases findKey requestId db.requests id with
      | none => rfl
      | some row =>
          by_cases pending : row.status = .pendingReview
          · by_cases dangling : danglingGrant db grantId = true
            · simp [pending, dangling]
            · simp only [pending, ne_eq, not_true_eq_false, if_false, if_neg dangling,
                update_request_part (same_origin_reviewed _ _ _ _ _)]
          · simp [pending]

theorem effective_balance_own {account : String} (own : side account = true) (period : Period)
    (asOf : Instant) :
    effectiveBalance (partOf db side) account period asOf =
      effectiveBalance db account period asOf := by
  have sameGroup : group (partOf db side).grants account period =
      group db.grants account period := by
    simp only [group, partOf, List.filter_filter]
    apply List.filter_congr
    intro row _
    by_cases same : groupKey row = (account, period)
    · have isOwn : row.budgetAccountId = account := congrArg Prod.fst same
      simp [same, isOwn, own]
    · simp [same]
  unfold effectiveBalance inForceTotal
  rw [sameGroup]

theorem attempt_part {Value : Type} (fault : Option Fault)
    {part result : BudgetDb × Except BudgetError Value}
    (commutes : part = (partOf result.1 side, result.2)) :
    attempt fault (partOf db side) part =
      (partOf (attempt fault db result).1 side, (attempt fault db result).2) := by
  subst commutes
  cases fault with
  | none => rfl
  | some fault =>
      simp only [attempt]
      split
      · rfl
      · rfl

end ThisSide

/-- What a step of a refill looks up by is held by no row of the other side. -/
def LookupsWithin (side : String → Bool) (db : BudgetDb) (request : RefillRequest)
    (stamp : Stamp) : RefillPoint → Prop
  | .findExisting => RequestKeyWithin side db request.idempotencyKey
  | .create _ =>
      RequestKeyWithin side db request.idempotencyKey ∧ RequestIdWithin side db stamp.id
  | .grant _ _ _ =>
      GrantKeyWithin side db request.idempotencyKey ∧ GrantIdWithin side db stamp.id
  | _ => True

instance (side : String → Bool) (db : BudgetDb) (request : RefillRequest) (stamp : Stamp)
    (point : RefillPoint) : Decidable (LookupsWithin side db request stamp point) :=
  match point with
  | .findExisting => inferInstanceAs (Decidable (RequestKeyWithin _ _ _))
  | .create _ => inferInstanceAs (Decidable (_ ∧ _))
  | .grant _ _ _ => inferInstanceAs (Decidable (_ ∧ _))
  | .checkOffered | .readEffectiveBalance _ | .readGrantCount _ _
  | .readSpendThisPeriod _ _ _ | .readSpendLastPeriod _ _ _ _ | .evaluate _ _
  | .recordDecision _ _ | .returned _ => isTrue trivial

/-- The request that a refill of the other side is about to create carries no key
of this side: it would be answered with this side's row. -/
def KeyApart (side : String → Bool) (db : BudgetDb) (request : RefillRequest) :
    RefillPoint → Prop
  | .create _ =>
      ∀ row ∈ db.requests, side row.budgetAccountId = true → row.idempotencyKey ≠ none →
        row.idempotencyKey ≠ request.idempotencyKey
  | _ => True

instance (side : String → Bool) (db : BudgetDb) (request : RefillRequest)
    (point : RefillPoint) : Decidable (KeyApart side db request point) :=
  match point with
  | .create _ => inferInstanceAs (Decidable (∀ row ∈ db.requests, _))
  | .findExisting | .checkOffered | .readEffectiveBalance _ | .readGrantCount _ _
  | .readSpendThisPeriod _ _ _ | .readSpendLastPeriod _ _ _ _ | .evaluate _ _
  | .grant _ _ _ | .recordDecision _ _ | .returned _ => isTrue trivial

/-- No lookup of the step crosses the border, in either direction. -/
structure KeepsWithin (side : String → Bool) (db : BudgetDb) (request : RefillRequest)
    (stamp : Stamp) (point : RefillPoint) : Prop where
  inside : side request.budgetAccountId = true → LookupsWithin side db request stamp point
  outside : side request.budgetAccountId = false → KeyApart side db request point

/-- The request row a refill works on is on the refill's side, and on this side
so is the grant it is about to refer to. -/
structure WorksWithin (side : String → Bool) (db : BudgetDb) (request : RefillRequest)
    (point : RefillPoint) : Prop where
  created : ∀ id, createdId point = some id →
    ∃ row ∈ db.requests, row.id = id ∧
      side row.budgetAccountId = side request.budgetAccountId
  granted : ∀ id decision, point = .recordDecision id decision →
    side request.budgetAccountId = true → ∀ grantId ∈ decision.decompose.grantId,
      ∃ row ∈ db.grants, row.id = grantId ∧ side row.budgetAccountId = true

theorem request_id_within {db : BudgetDb} (sound : TablesSound db) {side : String → Bool}
    {id : String} (stored : ∃ row ∈ db.requests, row.id = id ∧ side row.budgetAccountId = true) :
    RequestIdWithin side db id := by
  obtain ⟨row, member, rowId, isOwn⟩ := stored
  intro other otherMember otherId
  rw [request_eq_of_id sound.requests otherMember member (otherId.trans rowId.symm)]
  exact isOwn

theorem grant_id_within {db : BudgetDb} (sound : TablesSound db) {side : String → Bool}
    {id : String} (stored : ∃ row ∈ db.grants, row.id = id ∧ side row.budgetAccountId = true) :
    GrantIdWithin side db id := by
  obtain ⟨row, member, rowId, isOwn⟩ := stored
  intro other otherMember otherId
  have same : other = row :=
    unique_keys_eq sound.ledger.uniqueIds otherMember member (congrArg some otherId)
      (congrArg some rowId)
  rw [same]
  exact isOwn

theorem refill_step_own {side : String → Bool} {engine : PolicyEngine} {db : BudgetDb}
    {request : RefillRequest} {input : StepInput} {point : RefillPoint} (sound : TablesSound db)
    (own : side request.budgetAccountId = true)
    (lookups : LookupsWithin side db request input.stamp point)
    (works : WorksWithin side db request point) :
    refillStep engine (partOf db side) request input point =
      (partOf (refillStep engine db request input point).1 side,
        (refillStep engine db request input point).2) := by
  cases point with
  | findExisting =>
      simp only [refillStep]
      cases keyed : request.idempotencyKey with
      | none => rfl
      | some key =>
          have sameFind : findByIdempotencyKey (partOf db side) key =
              findByIdempotencyKey db key := by
            apply find_key_filter
            intro row member rowKey
            exact lookups row member (by simp [rowKey]) (rowKey.trans keyed.symm)
          simp only [sameFind]
          cases attemptRead input.fault (.ok (findByIdempotencyKey db key)) with
          | error error => rfl
          | ok found => cases found <;> rfl
  | checkOffered =>
      simp only [refillStep]
      split
      · rfl
      · rfl
  | create requestedTier =>
      obtain ⟨keyOwn, idOwn⟩ := lookups
      have commutes := create_own (newRequest request requestedTier) own keyOwn idOwn
      simp only [refillStep]
      rw [attempt_part input.fault commutes]
      rcases attempt input.fault db
        (create db (newRequest request requestedTier) input.stamp) with ⟨next, answer⟩
      cases answer <;> rfl
  | readEffectiveBalance createdId =>
      simp only [refillStep, effective_balance_own own]
      cases attemptRead input.fault
        (effectiveBalance db request.budgetAccountId request.period request.asOf) <;> rfl
  | readGrantCount createdId effectiveBalanceMicros =>
      simp only [refillStep, getBalance, find_balance_part own]
      cases attemptRead input.fault (.ok (findKey balanceKey db.balances
        (request.budgetAccountId, request.period))) <;> rfl
  | readSpendThisPeriod createdId effectiveBalanceMicros selfServiceGrantCount =>
      simp only [refillStep]
      cases attemptRead input.fault (.ok input.spend) <;> rfl
  | readSpendLastPeriod createdId effectiveBalanceMicros selfServiceGrantCount spend =>
      simp only [refillStep]
      cases attemptRead input.fault (.ok input.spend) <;> rfl
  | evaluate createdId facts => rfl
  | grant createdId facts decision =>
      obtain ⟨keyOwn, idOwn⟩ := lookups
      have commutes := grant_own (refillGrant request decision) own keyOwn idOwn rfl
      simp only [refillStep]
      rw [attempt_part input.fault commutes]
      rcases attempt input.fault db
        (grant db (refillGrant request decision) input.stamp) with ⟨next, answer⟩
      cases answer <;> rfl
  | recordDecision id decision =>
      have idOwn : RequestIdWithin side db id := by
        obtain ⟨row, member, rowId, border⟩ := works.created id rfl
        exact request_id_within sound ⟨row, member, rowId, border.trans own⟩
      have grantOwn : ∀ grantId ∈ decision.decompose.grantId,
          GrantIdWithin side db grantId := by
        intro grantId isGranted
        exact grant_id_within sound (works.granted id decision rfl own grantId isGranted)
      simp only [refillStep]
      rw [attempt_part input.fault (record_decision_own idOwn grantOwn)]
  | returned result => rfl

theorem part_of_left {db next written : BudgetDb} {side : String → Bool}
    (left : next = db ∨ next = written)
    (committed : partOf written side = partOf db side) :
    partOf next side = partOf db side := by
  rcases left with same | wrote
  · rw [same]
  · rw [wrote]
    exact committed

theorem refill_move_other {engine : PolicyEngine} {db next : BudgetDb}
    {request : RefillRequest} {input : StepInput} {point later : RefillPoint}
    {side : String → Bool} (sound : TablesSound db)
    (move : RefillMove engine db request input point next later)
    (elsewhere : side request.budgetAccountId = false)
    (works : WorksWithin side db request point) :
    partOf next side = partOf db side := by
  have notCreated : ∀ id, createdId point = some id →
      ∀ row ∈ db.requests, row.id = id → side row.budgetAccountId = false := by
    intro id isCreated row member rowId
    obtain ⟨stored, storedMember, storedId, border⟩ := works.created id isCreated
    rw [request_eq_of_id sound.requests member storedMember (rowId.trans storedId.symm), border]
    exact elsewhere
  cases move with
  | created ran => exact create_other ran elsewhere
  | createFailed left =>
      exact part_of_left left (create_other rfl elsewhere)
  | granted ran => exact grant_other ran elsewhere
  | grantFailed left =>
      exact part_of_left left (grant_other rfl elsewhere)
  | recorded ran =>
      exact update_other (record_decision_outcome ran) (same_origin_decided _)
        (notCreated _ rfl)
  | recordFailed left =>
      exact part_of_left left
        (update_other (record_decision_outcome rfl) (same_origin_decided _) (notCreated _ rfl))
  | _ => rfl

theorem review_move_other {side : String → Bool} {db after : BudgetDb} {review : Review}
    {input : StepInput} {point later : ReviewPoint}
    (move : ReviewMove db review input point after later)
    (apart : ∀ row ∈ db.requests, row.id = review.requestId → side row.budgetAccountId = false)
    (grantsApart : ∀ request, point = .grant request → side request.budgetAccountId = false) :
    partOf after side = partOf db side := by
  have recorded : ∀ {grantId : Option String} {left : BudgetDb}
      {answer : Except BudgetError AugmentationRequest},
      recordOutcome db review grantId input.stamp.now = (left, answer) →
      partOf left side = partOf db side := by
    intro grantId left answer ran
    unfold recordOutcome at ran
    split at ran
    · exact update_other (record_review_outcome ran) (same_origin_reviewed _ _ _ _ _) apart
    · exact update_other (record_review_outcome ran) (same_origin_reviewed _ _ _ _ _) apart
  cases move with
  | granted ran => exact grant_other ran (grantsApart _ rfl)
  | grantFailed left why => exact part_of_left left (grant_other rfl (grantsApart _ rfl))
  | recorded ran => exact recorded ran
  | recordFailed left why => exact part_of_left left (recorded rfl)
  | _ => rfl

theorem grant_row_persists {db next : BudgetDb} (write : DbWrite db next) {row : BudgetGrant}
    (member : row ∈ db.grants) : row ∈ next.grants := by
  cases write with
  | same => exact member
  | granted ran => exact mem_grants_of_grant ran member
  | created ran =>
      rw [create_grants ran]
      exact member
  | decided ran =>
      rw [update_grants (record_decision_outcome ran)]
      exact member
  | reviewed ran =>
      rw [update_grants (record_review_outcome ran)]
      exact member

theorem works_within_frame {side : String → Bool} {db next : BudgetDb} {request : RefillRequest}
    {point : RefillPoint} (write : DbWrite db next)
    (works : WorksWithin side db request point) : WorksWithin side next request point where
  created := by
    intro id isCreated
    obtain ⟨row, member, rowId, border⟩ := works.created id isCreated
    obtain ⟨later, laterMember, same⟩ := request_row_persists write member
    refine ⟨later, laterMember, same.id.trans rowId, ?_⟩
    rw [same.budgetAccountId]
    exact border
  granted := by
    intro id decision isPoint own grantId isGranted
    obtain ⟨row, member, found⟩ := works.granted id decision isPoint own grantId isGranted
    exact ⟨row, grant_row_persists write member, found⟩

theorem created_within {side : String → Bool} {db next : BudgetDb} {request : RefillRequest}
    {tier : BudgetTier} {stamp : Stamp} {row : AugmentationRequest}
    (keeps : KeepsWithin side db request stamp (.create tier))
    (ran : create db (newRequest request tier) stamp = (next, .ok row)) :
    row ∈ next.requests ∧ side row.budgetAccountId = side request.budgetAccountId := by
  cases create_outcome ran with
  | found keyed stored =>
      obtain ⟨member, rowKey⟩ := find_key_some stored
      have present : row.idempotencyKey ≠ none := by simp [rowKey]
      have sameKey : row.idempotencyKey = request.idempotencyKey := rowKey.trans keyed.symm
      refine ⟨member, ?_⟩
      cases own : side request.budgetAccountId with
      | true => exact (keeps.inside own).1 row member present sameKey
      | false =>
          cases rowSide : side row.budgetAccountId with
          | false => rfl
          | true => exact absurd sameKey (keeps.outside own row member rowSide present)
  | inserted freshKey freshId => exact ⟨by simp, rfl⟩

theorem granted_within {side : String → Bool} {db next : BudgetDb} {request : GrantRequest}
    {stamp : Stamp} {row : BudgetGrant} (own : side request.budgetAccountId = true)
    (keyOwn : GrantKeyWithin side db request.idempotencyKey)
    (ran : grant db request stamp = (next, .ok row)) :
    row ∈ next.grants ∧ side row.budgetAccountId = true := by
  refine ⟨grant_ok_mem ran, ?_⟩
  cases grant_outcome ran with
  | replayed keyed stored =>
      obtain ⟨member, rowKey⟩ := find_key_some stored
      exact keyOwn row member (by simp [rowKey]) (rowKey.trans keyed.symm)
  | inserted signed freshKey freshId known locked added => exact own

theorem works_within_move {engine : PolicyEngine} {side : String → Bool} {db next : BudgetDb}
    {request : RefillRequest} {input : StepInput} {before point : RefillPoint}
    (keeps : KeepsWithin side db request input.stamp before)
    (move : RefillMove engine db request input before next point)
    (works : WorksWithin side db request before) : WorksWithin side next request point := by
  cases move with
  | created ran =>
      constructor
      · intro id isCreated
        cases isCreated
        obtain ⟨member, border⟩ := created_within keeps ran
        exact ⟨_, member, rfl, border⟩
      · intro id decision isPoint
        cases isPoint
  | deferred unpaid withheld =>
      constructor
      · exact works.created
      · intro id decision isPoint own grantId isGranted
        cases isPoint
        rw [unpaid] at isGranted
        cases isGranted
  | granted ran =>
      constructor
      · intro id isCreated
        rw [(grant_frame ran).1]
        exact works.created id isCreated
      · intro id decision isPoint own grantId isGranted
        cases isPoint
        obtain ⟨member, isOwn⟩ := granted_within own (keeps.inside own).1 ran
        refine ⟨_, member, ?_, isOwn⟩
        unfold approval at isGranted
        split at isGranted
        · exact Option.some.inj isGranted
        · exact Option.some.inj isGranted
  | _ =>
      constructor
      · intro id isCreated
        first
          | exact works.created id isCreated
          | cases isCreated
      · intro id decision isPoint
        cases isPoint

/-- The tables are sound, and every refill works on its side of the border. -/
structure BordersKept (side : String → Bool) (world : World) : Prop where
  sound : TablesSound world.db
  works : ∀ caller request point, world.calls caller = some (.refill request point) →
    WorksWithin side world.db request point

theorem works_within_start (side : String → Bool) (db : BudgetDb) (request : RefillRequest) :
    WorksWithin side db request .findExisting where
  created := by
    intro id isCreated
    cases isCreated
  granted := by
    intro id decision isPoint
    cases isPoint

theorem initial_borders_kept (side : String → Bool) (accounts projects : List String)
    (engine : PolicyEngine) : BordersKept side (World.initial accounts projects engine) where
  sound := empty_tables_sound accounts projects
  works := by
    intro caller request point running
    cases running

theorem service_borders_kept {lockKey : String → Int64} {side : String → Bool}
    {world next : World} {event : Event} (kept : BordersKept side world)
    (keeps : ∀ caller input request point, event = .advance caller input →
      world.calls caller = some (.refill request point) →
      KeepsWithin side world.db request input.stamp point)
    (stepped : step lockKey world event = some next) : BordersKept side next := by
  refine ⟨step_sound kept.sound stepped, ?_⟩
  intro caller request point running
  have outcome := step_outcome stepped
  rcases refill_after outcome running with
    ⟨was, _⟩ | ⟨started, _⟩ | ⟨before, input, moves, was, moved⟩
  · exact works_within_frame (step_db_write outcome) (kept.works caller request point was)
  · rw [started]
    exact works_within_start side next.db request
  · exact works_within_move (keeps caller input request before moves was) moved
      (kept.works caller request before was)

theorem metered_borders_kept {Cost : Type} {deployment : Deployment Cost}
    {side : String → Bool} {world next : MeteredWorld Cost} {event : MeteredEvent Cost}
    (kept : BordersKept side world.service)
    (keeps : ∀ caller stamp fault request point, event = .advance caller stamp fault →
      world.service.calls caller = some (.refill request point) →
      KeepsWithin side world.service.db request stamp point)
    (stepped : meteredStep deployment world event = some next) :
    BordersKept side next.service := by
  have untouched : ∀ service other, step deployment.lockKey world.service other = some service →
      (∀ caller input request point, other = .advance caller input →
        world.service.calls caller ≠ some (.refill request point)) →
      BordersKept side service := by
    intro service other moved noRefill
    refine service_borders_kept kept ?_ moved
    intro caller input request point moves running
    exact absurd running (noRefill caller input request point moves)
  cases metered_outcome stepped with
  | observed event => exact kept
  | refused why => exact kept
  | arrived accepted arrived =>
      apply untouched _ _ arrived
      intro caller input request point moves
      cases moves
  | @moved caller stamp fault request point input after running read moved =>
      refine service_borders_kept kept ?_ moved
      intro mover other asked position moves asking
      cases moves
      rw [running] at asking
      cases asking
      rw [step_input_stamp read]
      exact keeps caller stamp fault request point rfl running
  | panicked running read stopped =>
      apply untouched _ _ stopped
      intro caller input request point moves
      cases moves
  | elsewhere noRefill moved =>
      apply untouched _ _ moved
      intro caller input request point moves running
      rw [moves] at noRefill
      simp [movesRefill, running] at noRefill

end LightbridgeAuthz.Budget.AccountRows
