import LightbridgeAuthz.ApiKeys.StoreSides

/-!
# The key writes of one side

Revocation, renaming, soft deletion, creation and rotation of API keys meet what
the split asks of a write: the row that a call writes is one that its caller
sees, and the row that it issues is of its project's side.
-/

namespace LightbridgeAuthz.ApiKeys.KeyWriteSides

open Library.KeyedRows
open Access.Tenancy Access.TenancyOps Access.TenantSides
open KeyTable KeySides RosterCalls StoreCalls StoreSides

set_option autoImplicit false

variable {side : StoreSide} {config : StoreConfig} {store : AuthzStore} {subject : String}

structure SameKey (row other : ApiKeyRow) : Prop where
  id : other.id = row.id
  hash : other.keyHash = row.keyHash
  project : other.projectId = row.projectId
  owner : other.ownerAccountId = row.ownerAccountId

theorem same_key_holds {row other : ApiKeyRow} (same : SameKey row other)
    (held : side.Holds row) : side.Holds other where
  id := by rw [same.id, same.project, held.id]
  hash := by rw [same.hash, same.project, held.hash]
  owner := by rw [same.owner, same.project, held.owner]

theorem sound_with_updated_keys (sound : side.Sound store) {id : String}
    {change : ApiKeyRow → ApiKeyRow} (keeps : ∀ row, SameKey row (change row)) :
    side.Sound (store.withKeys (updateKey keyId store.keys id change)) where
  apart := sound.apart
  billed := sound.billed
  keyed := update_key_id_holds sound.keyed fun row => same_key_holds (keeps row)
  accountsStand := sound.accountsStand
  projectsStand := sound.projectsStand
  keysStand := by
    intro row member
    obtain ⟨stored, storedMember, isRow⟩ := mem_update_key.mp member
    have stands := sound.keysStand stored storedMember
    subst isRow
    split
    · rw [(keeps stored).project, (keeps stored).owner]
      exact stands
    · exact stands

theorem part_with_keys (keys : List ApiKeyRow) :
    side.part (store.withKeys keys) = (side.part store).withKeys (side.keys keys) := rfl

theorem revoke_api_key_separates (sound : side.Sound store) (id : String) (now : Int) :
    side.Separates store subject fun rows => (revokeApiKey rows subject id now).map (·, none) := by
  have revoked : ∀ {next}, revokeApiKey store subject id now = .ok next →
      ∃ keys, setApiKeyStatus store.tenancy store.keys subject id .revoked (some now) none =
        .ok keys ∧ next = store.withKeys keys := by
    intro next done
    unfold revokeApiKey at done
    cases ran : setApiKeyStatus store.tenancy store.keys subject id .revoked (some now) none with
    | error error => simp [ran, Except.map] at done
    | ok keys =>
        simp only [ran, Except.map, Except.ok.injEq] at done
        exact ⟨keys, rfl, done.symm⟩
  apply plain_separates
  · intro next done
    obtain ⟨keys, ran, isNext⟩ := revoked done
    rw [isNext, (set_api_key_status_ok ran).1]
    apply sound_with_updated_keys sound
    exact fun row => ⟨rfl, rfl, rfl, rfl⟩
  · intro next other done
    obtain ⟨keys, ran, isNext⟩ := revoked done
    rw [isNext, part_with_keys, set_api_key_status_beyond sound.apart sound.keyed other ran]
    rfl
  · intro own
    unfold revokeApiKey
    rw [show (side.part store).tenancy = side.tenancy store.tenancy from rfl,
      show (side.part store).keys = side.keys store.keys from rfl,
      set_api_key_status_part sound.apart sound.keyed own]
    cases setApiKeyStatus store.tenancy store.keys subject id .revoked (some now) none with
    | error error => rfl
    | ok keys => rfl

theorem visible_key_part (sound : side.Sound store) (own : side.accounts subject = true)
    (row : ApiKeyRow) :
    visibleKey (side.part store) subject row = visibleKey store subject row := by
  unfold visibleKey
  rw [show (side.part store).tenancy = side.tenancy store.tenancy from rfl,
    sees_project_part sound.apart own]

theorem selected_key_part (sound : side.Sound store) (own : side.accounts subject = true)
    (id : String) : selectedKey (side.part store) subject id = selectedKey store subject id := by
  apply filtered_key_part sound.apart sound.keyed own
  · intro row visible
    exact (Bool.and_eq_true_iff.mp visible).2
  · exact visible_key_part sound own

theorem selected_key_on_side (sound : side.Sound store) {id : String} {row : ApiKeyRow}
    (selected : selectedKey store subject id = some row) :
    side.keyIds id = side.accounts subject := by
  obtain ⟨found, visible⟩ := Option.filter_eq_some_iff.mp selected
  exact (key_on_side sound.apart sound.keyed found (Bool.and_eq_true_iff.mp visible).2).1

theorem selected_key_separates (sound : side.Sound store) (id : String)
    (keysOf : AuthzStore → List ApiKeyRow) {change : ApiKeyRow → ApiKeyRow}
    (keeps : ∀ row, SameKey row (change row))
    (whole : keysOf store = updateKey keyId store.keys id change)
    (inPart : side.accounts subject = true →
      keysOf (side.part store) = updateKey keyId (side.keys store.keys) id change) :
    side.Separates store subject
      fun rows => (withSelectedKey rows subject id (keysOf rows)).map (·, none) := by
  apply plain_separates
  · intro next done
    unfold withSelectedKey at done
    split at done
    · cases done
    · cases done
      rw [whole]
      exact sound_with_updated_keys sound keeps
  · intro next other done
    unfold withSelectedKey at done
    split at done
    · cases done
    · rename_i row selected
      cases done
      rw [part_with_keys, whole, update_key_id_beyond sound.keyed]
      · rfl
      · exact fun row => (keeps row).project
      · exact (selected_key_on_side sound selected).trans other
  · intro own
    unfold withSelectedKey
    rw [selected_key_part sound own]
    cases selectedKey store subject id with
    | none => rfl
    | some row =>
        simp only [Except.map, part_with_keys]
        rw [inPart own, whole, update_key_id_part fun row => (keeps row).project]

theorem update_api_key_separates (sound : side.Sound store) (id name : String) :
    side.Separates store subject
      fun rows => (updateApiKey rows subject id name).map (·, none) := by
  refine selected_key_separates sound id
    (fun rows => renameKey rows.tenancy rows.keys subject id name) ?_ rfl ?_
  · intro row
    split_ifs <;> exact ⟨rfl, rfl, rfl, rfl⟩
  · intro own
    simp only [renameKey, StoreSide.part, sees_project_part sound.apart own]

theorem delete_api_key_separates (sound : side.Sound store) (id : String) (now : Int) :
    side.Separates store subject
      fun rows => (deleteApiKey rows subject id now).map (·, none) := by
  refine selected_key_separates sound id
    (fun rows => softDelete rows.tenancy rows.keys subject id now) ?_ rfl ?_
  · intro row
    split_ifs <;> exact ⟨rfl, rfl, rfl, rfl⟩
  · intro own
    simp only [softDelete, StoreSide.part, sees_project_part sound.apart own]

theorem issued_holds {issue : Issue} {projectId : String}
    (draws : side.Draws config.apiKeys subject issue)
    (onSide : side.projects projectId = side.accounts subject) {project : Option Project}
    {requested : Int} {secret : IssuedSecret} {row : ApiKeyRow}
    (isId : row.id = issue.newId) (isSecret : issue.issueSecret project = .ok secret)
    (issued : IssuedRow config.apiKeys subject projectId issue.now requested secret row) :
    side.Holds row where
  id := by rw [isId, draws.id, issued.project, onSide]
  hash := by rw [issued.hash, draws.hash project secret isSecret, issued.project, onSide]
  owner := by rw [issued.owner, issued.project, onSide]

theorem plan_creation_id {config : KeyConfig} {projectId newId : String} {input : CreateApiKey}
    {now : Int} {issued : Except AccessError IssuedSecret} {row : ApiKeyRow}
    (planned : planCreation config subject projectId input now newId issued = .ok row) :
    row.id = newId := by
  unfold planCreation at planned
  simp only [Bind.bind, Except.bind] at planned
  split at planned
  · cases planned
  · split at planned
    · cases planned
    · split at planned
      · cases planned
      · cases planned
        rfl

theorem plan_rotation_id {config : KeyConfig} {existing : ApiKeyRow} {input : RotateApiKey}
    {now : Int} {newId : String} {issued : Except AccessError IssuedSecret} {plan : RotationPlan}
    (planned : planRotation config subject existing input now newId issued = .ok plan) :
    plan.newKey.id = newId := by
  unfold planRotation at planned
  simp only [Bind.bind, Except.bind] at planned
  split at planned
  · cases planned
  · split at planned
    · cases planned
    · split at planned
      · cases planned
      · cases planned
        rfl

theorem issuing_separates (sound : side.Sound store)
    {issuing : AuthzStore → Except AccessError (List ApiKeyRow × ApiKeyRow)}
    (keyed : ∀ {keys row}, issuing store = .ok (keys, row) → ∀ other ∈ keys, side.Holds other)
    (stands : ∀ {keys row}, issuing store = .ok (keys, row) → ∀ other ∈ keys,
      (getProjectById store.tenancy other.projectId).isSome = true ∧
        (getAccountById store.tenancy other.ownerAccountId).isSome = true)
    (beyond : ∀ {keys row}, side.accounts subject = false → issuing store = .ok (keys, row) →
      side.keys keys = side.keys store.keys)
    (own : side.accounts subject = true →
      issuing (side.part store) =
        (issuing store).map fun issued => (side.keys issued.1, issued.2)) :
    side.Separates store subject
      fun rows => (issuing rows).map fun issued => (rows.withKeys issued.1, some issued.2) where
  keeps := by
    intro next issued done
    cases ran : issuing store with
    | error error => simp [ran, Except.map] at done
    | ok written =>
        simp only [ran, Except.map, Except.ok.injEq, Prod.mk.injEq] at done
        rw [← done.1]
        exact ⟨sound.apart, sound.billed, keyed ran, sound.accountsStand, sound.projectsStand,
          stands ran⟩
  beyond := by
    intro next issued other done
    cases ran : issuing store with
    | error error => simp [ran, Except.map] at done
    | ok written =>
        simp only [ran, Except.map, Except.ok.injEq, Prod.mk.injEq] at done
        rw [← done.1, part_with_keys, beyond other ran]
        rfl
  own := by
    intro mine
    rw [own mine]
    cases issuing store with
    | error error => rfl
    | ok written => rfl

theorem insert_key_stands {tenancy : TenancyDb} {keys next : List ApiKeyRow} {row : ApiKeyRow}
    (inserted : insertKey tenancy keys row = .ok next) :
    (getProjectById tenancy row.projectId).isSome = true ∧
      (getAccountById tenancy row.ownerAccountId).isSome = true := by
  unfold insertKey at inserted
  split_ifs at inserted with _ _ _ noProject noOwner
  constructor
  · simpa [Option.isSome_iff_ne_none] using noProject
  · simpa [Option.isSome_iff_ne_none] using noOwner

theorem create_api_key_ok {projectId : String} {input : CreateApiKey} {issue : Issue}
    {keys : List ApiKeyRow} {row : ApiKeyRow}
    (done : createApiKey config store subject projectId input issue = .ok (keys, row)) :
    planCreation config.apiKeys subject projectId input issue.now issue.newId
        (issue.issueSecret (visibleProject store.tenancy subject projectId)) = .ok row ∧
      authorizeProjectLead store.tenancy projectId subject = .ok () ∧
      insertKey store.tenancy store.keys row = .ok keys := by
  unfold createApiKey at done
  simp only [bind, Except.bind] at done
  split at done
  · cases done
  · rename_i planned isPlanned
    split at done
    · cases done
    · rename_i authorized
      split at done
      · cases done
      · rename_i inserted isInserted
        cases done
        exact ⟨isPlanned, authorized, isInserted⟩

theorem create_api_key_separates (sound : side.Sound store) (projectId : String)
    (input : CreateApiKey) {issue : Issue} (draws : side.Draws config.apiKeys subject issue) :
    side.Separates store subject fun rows =>
      (createApiKey config rows subject projectId input issue).map fun issued =>
        (rows.withKeys issued.1, some issued.2) := by
  have held : ∀ {row}, planCreation config.apiKeys subject projectId input issue.now issue.newId
      (issue.issueSecret (visibleProject store.tenancy subject projectId)) = .ok row →
      authorizeProjectLead store.tenancy projectId subject = .ok () →
      side.Holds row ∧ side.projects row.projectId = side.accounts subject := by
    intro row planned authorized
    obtain ⟨requested, secret, _, isSecret, isRow⟩ := plan_creation_parts planned
    have onSide := (authorized_on_side sound.apart authorized).1
    exact ⟨issued_holds draws onSide (plan_creation_id planned) isSecret isRow,
      by rw [isRow.project, onSide]⟩
  apply issuing_separates sound
  · intro keys row done
    obtain ⟨planned, authorized, inserted⟩ := create_api_key_ok done
    exact insert_key_holds sound.keyed (held planned authorized).1 inserted
  · intro keys row done
    obtain ⟨planned, authorized, inserted⟩ := create_api_key_ok done
    rw [(insert_key_ok inserted).1]
    intro other member
    rcases List.mem_append.mp member with stored | created
    · exact sound.keysStand other stored
    · rw [List.mem_singleton.mp created]
      exact insert_key_stands inserted
  · intro keys row other done
    obtain ⟨planned, authorized, inserted⟩ := create_api_key_ok done
    exact insert_key_beyond ((held planned authorized).2.trans other) inserted
  · intro own
    unfold createApiKey
    rw [show (side.part store).tenancy = side.tenancy store.tenancy from rfl,
      show (side.part store).keys = side.keys store.keys from rfl,
      visible_project_part sound.apart own, authorize_lead_part sound.apart own]
    simp only [bind, Except.bind]
    cases planned : planCreation config.apiKeys subject projectId input issue.now issue.newId
        (issue.issueSecret (visibleProject store.tenancy subject projectId)) with
    | error error => rfl
    | ok row =>
        cases authorized : authorizeProjectLead store.tenancy projectId subject with
        | error error => rfl
        | ok done =>
            obtain ⟨isHeld, onSide⟩ := held planned authorized
            simp only [insert_key_part sound.keyed isHeld (onSide.trans own)]
            cases insertKey store.tenancy store.keys row with
            | error error => rfl
            | ok keys => rfl

theorem rotate_api_key_ok {id : String} {input : RotateApiKey} {issue : Issue}
    {keys : List ApiKeyRow} {row : ApiKeyRow}
    (done : rotateApiKey config store subject id input issue = .ok (keys, row)) :
    ∃ existing plan, getApiKey store.tenancy store.keys subject id = some existing ∧
      planRotation config.apiKeys subject existing input issue.now issue.newId
        (issue.issueSecret (visibleProject store.tenancy subject existing.projectId)) =
          .ok plan ∧
      row = plan.newKey ∧
      rotateApiKeyTransaction store.tenancy store.keys subject id plan.status plan.revokedAt
        plan.oldExpiresAt plan.newKey = .ok keys := by
  unfold rotateApiKey at done
  split at done
  · cases done
  · rename_i existing got
    simp only [bind, Except.bind] at done
    split at done
    · cases done
    · rename_i plan planned
      split at done
      · cases done
      · rename_i rotated isRotated
        cases done
        exact ⟨existing, plan, got, planned, rfl, isRotated⟩

theorem rotate_transaction_stands (sound : side.Sound store) {id : String}
    {status : ApiKeyStatus} {revokedAt expiresAt : Option Int} {newKey : ApiKeyRow}
    {keys : List ApiKeyRow}
    (done : rotateApiKeyTransaction store.tenancy store.keys subject id status revokedAt
      expiresAt newKey = .ok keys) :
    ∀ row ∈ keys, (getProjectById store.tenancy row.projectId).isSome = true ∧
      (getAccountById store.tenancy row.ownerAccountId).isSome = true := by
  unfold rotateApiKeyTransaction at done
  split at done
  · cases done
  · rename_i rows updated
    split_ifs at done
    rw [(insert_key_ok done).1, (set_api_key_status_ok updated).1]
    intro row member
    rcases List.mem_append.mp member with stored | created
    · have later : side.Sound (store.withKeys
          (updateKey keyId store.keys id (withStatus status revokedAt expiresAt))) := by
        apply sound_with_updated_keys sound
        exact fun row => ⟨rfl, rfl, rfl, rfl⟩
      exact later.keysStand row stored
    · rw [List.mem_singleton.mp created]
      exact insert_key_stands done

theorem rotate_api_key_separates (sound : side.Sound store) (id : String)
    (input : RotateApiKey) {issue : Issue} (draws : side.Draws config.apiKeys subject issue) :
    side.Separates store subject fun rows =>
      (rotateApiKey config rows subject id input issue).map fun issued =>
        (rows.withKeys issued.1, some issued.2) := by
  have held : ∀ {existing plan},
      getApiKey store.tenancy store.keys subject id = some existing →
      planRotation config.apiKeys subject existing input issue.now issue.newId
        (issue.issueSecret (visibleProject store.tenancy subject existing.projectId)) =
          .ok plan →
      side.Holds plan.newKey ∧
        side.projects plan.newKey.projectId = side.accounts subject := by
    intro existing plan got planned
    obtain ⟨_, requested, secret, _, isSecret, isRow⟩ := plan_rotation_parts planned
    have onSide := (get_api_key_on_side sound.apart sound.keyed got).2
    exact ⟨issued_holds draws onSide (plan_rotation_id planned) isSecret isRow,
      by rw [isRow.project, onSide]⟩
  apply issuing_separates sound
  · intro keys row done
    obtain ⟨existing, plan, got, planned, _, rotated⟩ := rotate_api_key_ok done
    exact rotate_transaction_holds sound.keyed (held got planned).1 rotated
  · intro keys row done
    obtain ⟨existing, plan, got, planned, _, rotated⟩ := rotate_api_key_ok done
    exact rotate_transaction_stands sound rotated
  · intro keys row other done
    obtain ⟨existing, plan, got, planned, _, rotated⟩ := rotate_api_key_ok done
    exact rotate_transaction_beyond sound.apart sound.keyed other rotated
  · intro own
    unfold rotateApiKey
    rw [show (side.part store).tenancy = side.tenancy store.tenancy from rfl,
      show (side.part store).keys = side.keys store.keys from rfl,
      get_api_key_part sound.apart sound.keyed own]
    cases got : getApiKey store.tenancy store.keys subject id with
    | none => rfl
    | some existing =>
        simp only [bind, Except.bind, visible_project_part sound.apart own]
        cases planned : planRotation config.apiKeys subject existing input issue.now issue.newId
            (issue.issueSecret (visibleProject store.tenancy subject existing.projectId)) with
        | error error => rfl
        | ok plan =>
            obtain ⟨isHeld, onSide⟩ := held got planned
            simp only [rotate_transaction_part sound.apart sound.keyed own isHeld
              (onSide.trans own)]
            cases rotateApiKeyTransaction store.tenancy store.keys subject id plan.status
                plan.revokedAt plan.oldExpiresAt plan.newKey with
            | error error => rfl
            | ok keys => rfl

end LightbridgeAuthz.ApiKeys.KeyWriteSides
