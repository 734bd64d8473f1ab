import LightbridgeAuthz.Access.Tenancy
import LightbridgeAuthz.Library.ChronoTime

/-!
# The rows of `api_keys`

The table, the view `api_key_validation` that decides whether a key is
accepted, the statements that write the table, and what `create_api_key` and
`rotate_api_key` compute before they write. The telemetry columns
`last_used_at` and `last_ip` are left out: nothing here reads them.
-/

namespace LightbridgeAuthz.ApiKeys.KeyTable

open Library.KeyedRows Library.ChronoTime
open Access.Tenancy

set_option autoImplicit false

inductive ApiKeyStatus where
  | active
  | revoked
  deriving DecidableEq, Repr

structure ApiKeyRow where
  id : String
  projectId : String
  name : String
  keyPrefix : String
  keyHash : String
  createdAt : Int
  expiresAt : Option Int
  status : ApiKeyStatus
  revokedAt : Option Int
  deletedAt : Option Int
  billingPlan : String
  ownerAccountId : String
  deriving DecidableEq, Repr

def keyId (row : ApiKeyRow) : Option String := some row.id

def keyHash (row : ApiKeyRow) : Option String := some row.keyHash

/-- The `effective_status` column. -/
inductive EffectiveStatus where
  | keyRevoked
  | keyExpired
  | projectSuspended
  | accountSuspended
  | active
  deriving DecidableEq, Repr

def effectiveStatus (row : ApiKeyRow) (project : Project) (account : Account) (now : Int) :
    EffectiveStatus :=
  if row.status ≠ .active then .keyRevoked
  else if row.expiresAt.any (· ≤ now) then .keyExpired
  else if project.status ≠ .active then .projectSuspended
  else if account.status ≠ .active then .accountSuspended
  else .active

/-- What the view `api_key_validation` shows of a key, read at `now`. -/
def apiKeyValidation (tenancy : TenancyDb) (now : Int) (row : ApiKeyRow) :
    Option EffectiveStatus :=
  if row.deletedAt.isSome then none
  else
    (getProjectById tenancy row.projectId).bind fun project =>
      (getAccountById tenancy project.accountId).map fun account =>
        effectiveStatus row project account now

def accepts (tenancy : TenancyDb) (now : Int) (row : ApiKeyRow) : Bool :=
  apiKeyValidation tenancy now row == some .active

def Valid (tenancy : TenancyDb) (keys : List ApiKeyRow) (id : String) (now : Int) : Prop :=
  ∃ row, findKey keyId keys id = some row ∧ accepts tenancy now row = true

instance (tenancy : TenancyDb) (keys : List ApiKeyRow) (id : String) (now : Int) :
    Decidable (Valid tenancy keys id now) :=
  decidable_of_iff ((findKey keyId keys id).any (accepts tenancy now) = true)
    (by simp [Valid, Option.any_eq_true])

def live (now : Int) (row : ApiKeyRow) : Bool :=
  row.status == .active && row.deletedAt.isNone && row.expiresAt.all (now < ·)

/-- The part that the key's project and account answer. -/
def serves (tenancy : TenancyDb) (projectId : String) : Bool :=
  (getProjectById tenancy projectId).any fun project =>
    project.status == .active &&
      (getAccountById tenancy project.accountId).any fun account => account.status == .active

/-- `api_keys.expires_at` is not null, `id` and `key_hash` are unique, and the
project and the owner exist. -/
def insertKey (tenancy : TenancyDb) (keys : List ApiKeyRow) (row : ApiKeyRow) :
    Except AccessError (List ApiKeyRow) :=
  if row.expiresAt.isNone then .error (.sqlx (.notNullViolation "expires_at"))
  else if conflicts keyId keys (keyId row) then
    .error (.sqlx (.uniqueViolation "api_keys_pkey"))
  else if conflicts keyHash keys (keyHash row) then
    .error (.sqlx (.uniqueViolation "api_keys_key_hash_key"))
  else if (getProjectById tenancy row.projectId).isNone then
    .error (.sqlx (.foreignKeyViolation "api_keys_project_id_fkey"))
  else if (getAccountById tenancy row.ownerAccountId).isNone then
    .error (.sqlx (.foreignKeyViolation "api_keys_owner_account_id_fkey"))
  else .ok (keys ++ [row])

/-- `SET status = $1, revoked_at = COALESCE($2, revoked_at), expires_at =
COALESCE($3, expires_at)`. -/
def withStatus (status : ApiKeyStatus) (revokedAt expiresAt : Option Int) (row : ApiKeyRow) :
    ApiKeyRow :=
  { row with
    status := status
    revokedAt := revokedAt.or row.revokedAt
    expiresAt := expiresAt.or row.expiresAt }

/-- The key of an id, for a subject who sees its project. -/
def getApiKey (tenancy : TenancyDb) (keys : List ApiKeyRow) (subject id : String) :
    Option ApiKeyRow :=
  (findKey keyId keys id).filter fun row => seesProject tenancy subject row.projectId

def setApiKeyStatus (tenancy : TenancyDb) (keys : List ApiKeyRow) (subject id : String)
    (status : ApiKeyStatus) (revokedAt expiresAt : Option Int) :
    Except AccessError (List ApiKeyRow) :=
  match getApiKey tenancy keys subject id with
  | none => .error .notFound
  | some _ => .ok (updateKey keyId keys id (withStatus status revokedAt expiresAt))

/-- The transaction of a rotation: the old key's row is updated and the new
one inserted, or neither is. -/
def rotateApiKeyTransaction (tenancy : TenancyDb) (keys : List ApiKeyRow) (subject id : String)
    (status : ApiKeyStatus) (revokedAt expiresAt : Option Int) (newKey : ApiKeyRow) :
    Except AccessError (List ApiKeyRow) :=
  match setApiKeyStatus tenancy keys subject id status revokedAt expiresAt with
  | .error error => .error error
  | .ok updated =>
      if seesProject tenancy subject newKey.projectId then insertKey tenancy updated newKey
      else .error .notFound

/-- The generated `model.ApiKey.delete`: soft, and blind to deleted rows. -/
def softDelete (tenancy : TenancyDb) (keys : List ApiKeyRow) (subject id : String)
    (now : Int) : List ApiKeyRow :=
  updateKey keyId keys id fun row =>
    if row.deletedAt.isNone && seesProject tenancy subject row.projectId then
      { row with deletedAt := some now }
    else row

/-- The generated `model.ApiKey.update`: the name is the one writable field. -/
def renameKey (tenancy : TenancyDb) (keys : List ApiKeyRow) (subject id name : String) :
    List ApiKeyRow :=
  updateKey keyId keys id fun row =>
    if row.deletedAt.isNone && seesProject tenancy subject row.projectId then
      { row with name := name }
    else row

structure RotateApiKey where
  name : Option String
  expiresAt : Option Int
  gracePeriodSeconds : Option Int64
  deriving DecidableEq, Repr

structure CreateApiKey where
  name : String
  expiresAt : Option Int
  billingPlan : String
  deriving DecidableEq, Repr

structure IssuedSecret where
  secret : String
  expiresAt : Option Int
  deriving DecidableEq, Repr

def resolveRotatedExpiresAt (input existing : Option Int) : Option Int := input.or existing

def resolveIssuedExpiresAt (requested issued : Option Int) : Option Int :=
  match requested, issued with
  | some requested, some issued => some (min requested issued)
  | some requested, none => some requested
  | none, some issued => some issued
  | none, none => none

def validateExpiresAt (expiresAt : Option Int) (now : Int) (maxLifetimeDays : UInt32) :
    Except AccessError Int :=
  match expiresAt with
  | none =>
      .error (.badRequest
        "expiresAt is required: api keys may not be created or rotated without an expiry")
  | some expiresAt =>
      if expiresAt ≤ now then .error (.badRequest "expiresAt must be in the future")
      else
        match afterDays now maxLifetimeDays.toNat with
        | none => .error .panicked
        | some maxAllowed =>
            if maxAllowed < expiresAt then
              .error (.badRequest
                ("expiresAt exceeds the configured maximum api key lifetime of " ++
                  toString maxLifetimeDays ++ " day(s)"))
            else .ok expiresAt

structure KeyConfig where
  hashApiKey : String → String
  maxLifetimeDays : UInt32
  billingPlans : List String

/-- The `Billing` catalogue's check of a plan. -/
def KeyConfig.allowsPlan (config : KeyConfig) (plan : String) : Bool :=
  plan ≠ "" && config.billingPlans.contains plan

/-- The first eight characters, after `lbk_secret_` if it stands there. -/
def keyPrefixOf (secret : String) : String :=
  let chars := secret.toList
  let marker := "lbk_secret_".toList
  String.ofList ((if chars.take marker.length = marker then chars.drop marker.length
    else chars).take 8)

/-- What a rotation does to the old key: in grace it is set active with the
sooner of its expiry and the end of the grace period, else it is revoked. The
status of the key that was read plays no part. -/
def graceOutcome (existing : ApiKeyRow) (gracePeriodSeconds : Option Int64) (now : Int) :
    Except AccessError (ApiKeyStatus × Option Int × Option Int) :=
  match gracePeriodSeconds.filter (0 < ·) with
  | none => .ok (.revoked, some now, none)
  | some grace =>
      match afterSeconds now grace.toInt with
      | none => .error .panicked
      | some graceExp =>
          match existing.expiresAt with
          | some existingExp =>
              .ok (.active, none, some (if existingExp < graceExp then existingExp else graceExp))
          | none => .ok (.active, none, some graceExp)

/-- The arguments of `rotate_api_key_transaction` that the handler computes. -/
structure RotationPlan where
  status : ApiKeyStatus
  revokedAt : Option Int
  oldExpiresAt : Option Int
  newKey : ApiKeyRow
  deriving DecidableEq, Repr

/-- `rotate_api_key` from the row it has read to its transaction. `issued` is
the answer of `issue_api_key_secret`. -/
def planRotation (config : KeyConfig) (subject : String) (existing : ApiKeyRow)
    (input : RotateApiKey) (now : Int) (newId : String)
    (issued : Except AccessError IssuedSecret) : Except AccessError RotationPlan := do
  let (status, revokedAt, oldExpiresAt) ← graceOutcome existing input.gracePeriodSeconds now
  let requested ← validateExpiresAt
    (resolveRotatedExpiresAt input.expiresAt existing.expiresAt) now config.maxLifetimeDays
  let issued ← issued
  .ok
    { status := status
      revokedAt := revokedAt
      oldExpiresAt := oldExpiresAt
      newKey :=
        { id := newId
          projectId := existing.projectId
          name := input.name.getD existing.name
          keyPrefix := keyPrefixOf issued.secret
          keyHash := config.hashApiKey issued.secret
          createdAt := now
          expiresAt := resolveIssuedExpiresAt (some requested) issued.expiresAt
          status := .active
          revokedAt := none
          deletedAt := none
          billingPlan := existing.billingPlan
          ownerAccountId := subject } }

/-- `create_api_key` up to the repository call. -/
def planCreation (config : KeyConfig) (subject projectId : String) (input : CreateApiKey)
    (now : Int) (newId : String) (issued : Except AccessError IssuedSecret) :
    Except AccessError ApiKeyRow := do
  if ¬ config.allowsPlan input.billingPlan then
    .error (.badRequest ("unknown billing_plan '" ++ input.billingPlan ++
      "': must be one of the configured plans [" ++ ", ".intercalate config.billingPlans ++ "]"))
  let requested ← validateExpiresAt input.expiresAt now config.maxLifetimeDays
  let issued ← issued
  .ok
    { id := newId
      projectId := projectId
      name := input.name
      keyPrefix := keyPrefixOf issued.secret
      keyHash := config.hashApiKey issued.secret
      createdAt := now
      expiresAt := resolveIssuedExpiresAt (some requested) issued.expiresAt
      status := .active
      revokedAt := none
      deletedAt := none
      billingPlan := input.billingPlan
      ownerAccountId := subject }

theorem effective_status_active_iff {row : ApiKeyRow} {project : Project} {account : Account}
    {now : Int} :
    effectiveStatus row project account now = .active ↔
      row.status = .active ∧ row.expiresAt.all (now < ·) = true ∧
        project.status = .active ∧ account.status = .active := by
  have unexpired : row.expiresAt.all (now < ·) = !row.expiresAt.any (· ≤ now) := by
    cases row.expiresAt with
    | none => rfl
    | some expiry =>
        by_cases reached : expiry ≤ now
        · simp [reached, Int.not_lt.mpr reached]
        · simp [reached, Int.not_le.mp reached]
  rw [unexpired]
  unfold effectiveStatus
  split_ifs <;> simp_all

theorem accepts_eq (tenancy : TenancyDb) (now : Int) (row : ApiKeyRow) :
    accepts tenancy now row = (live now row && serves tenancy row.projectId) := by
  rw [Bool.eq_iff_iff]
  unfold accepts apiKeyValidation live serves
  cases row.deletedAt with
  | some deleted => simp
  | none =>
      cases getProjectById tenancy row.projectId with
      | none => simp
      | some project =>
          cases owner : getAccountById tenancy project.accountId with
          | none => simp [owner]
          | some account => simp [owner, effective_status_active_iff, and_assoc]

theorem grace_outcome_active_expires (existing : ApiKeyRow) (grace : Option Int64) (now : Int)
    (revokedAt : Option Int) :
    graceOutcome existing grace now ≠ .ok (.active, revokedAt, none) := by
  unfold graceOutcome
  split
  · simp
  · split
    · simp
    · split <;> simp

theorem insert_key_ok {tenancy : TenancyDb} {keys next : List ApiKeyRow} {row : ApiKeyRow}
    (inserted : insertKey tenancy keys row = .ok next) :
    next = keys ++ [row] ∧ ∀ old ∈ keys, keyId old ≠ some row.id := by
  unfold insertKey at inserted
  split_ifs at inserted with _ taken
  exact ⟨(Except.ok.inj inserted).symm, apart_of_not_conflicts taken row.id rfl⟩

theorem set_api_key_status_ok {tenancy : TenancyDb} {keys next : List ApiKeyRow}
    {subject id : String} {status : ApiKeyStatus} {revokedAt expiresAt : Option Int}
    (updated : setApiKeyStatus tenancy keys subject id status revokedAt expiresAt = .ok next) :
    next = updateKey keyId keys id (withStatus status revokedAt expiresAt) ∧
      ∃ row, findKey keyId keys id = some row := by
  unfold setApiKeyStatus at updated
  split at updated
  · cases updated
  · rename_i row visible
    exact ⟨(Except.ok.inj updated).symm, row, (Option.filter_eq_some_iff.mp visible).1⟩

theorem rotate_api_key_transaction_ok {tenancy : TenancyDb} {keys next : List ApiKeyRow}
    {subject id : String} {status : ApiKeyStatus} {revokedAt expiresAt : Option Int}
    {newKey : ApiKeyRow}
    (rotated : rotateApiKeyTransaction tenancy keys subject id status revokedAt expiresAt newKey =
      .ok next) :
    next = updateKey keyId keys id (withStatus status revokedAt expiresAt) ++ [newKey] ∧
      (∃ row, findKey keyId keys id = some row) ∧
      ∀ old ∈ updateKey keyId keys id (withStatus status revokedAt expiresAt),
        keyId old ≠ some newKey.id := by
  unfold rotateApiKeyTransaction at rotated
  split at rotated
  · cases rotated
  · rename_i updated changed
    obtain ⟨isUpdate, found⟩ := set_api_key_status_ok changed
    split_ifs at rotated
    obtain ⟨isNext, fresh⟩ := insert_key_ok rotated
    rw [← isUpdate]
    exact ⟨isNext, found, fresh⟩

/-- What the rows that creation and rotation insert have in common. -/
structure IssuedRow (config : KeyConfig) (subject projectId : String) (now requested : Int)
    (secret : IssuedSecret) (row : ApiKeyRow) : Prop where
  project : row.projectId = projectId
  owner : row.ownerAccountId = subject
  created : row.createdAt = now
  expiry : row.expiresAt = resolveIssuedExpiresAt (some requested) secret.expiresAt
  hash : row.keyHash = config.hashApiKey secret.secret
  undeleted : row.deletedAt = none

theorem plan_rotation_parts {config : KeyConfig} {subject : String} {existing : ApiKeyRow}
    {input : RotateApiKey} {now : Int} {newId : String}
    {issued : Except AccessError IssuedSecret} {plan : RotationPlan}
    (planned : planRotation config subject existing input now newId issued = .ok plan) :
    graceOutcome existing input.gracePeriodSeconds now =
        .ok (plan.status, plan.revokedAt, plan.oldExpiresAt) ∧
      ∃ requested secret,
        validateExpiresAt (resolveRotatedExpiresAt input.expiresAt existing.expiresAt) now
          config.maxLifetimeDays = .ok requested ∧
        issued = .ok secret ∧
        IssuedRow config subject existing.projectId now requested secret plan.newKey := by
  unfold planRotation at planned
  cases grace : graceOutcome existing input.gracePeriodSeconds now with
  | error error => simp [grace, Bind.bind, Except.bind] at planned
  | ok outcome =>
      obtain ⟨status, revokedAt, oldExpiresAt⟩ := outcome
      simp only [grace, Bind.bind, Except.bind] at planned
      split at planned
      · cases planned
      · rename_i requested validated
        split at planned
        · cases planned
        · rename_i secret
          cases planned
          exact ⟨rfl, requested, secret, validated, rfl, rfl, rfl, rfl, rfl, rfl, rfl⟩

theorem plan_creation_parts {config : KeyConfig} {subject projectId : String}
    {input : CreateApiKey} {now : Int} {newId : String}
    {issued : Except AccessError IssuedSecret} {row : ApiKeyRow}
    (planned : planCreation config subject projectId input now newId issued = .ok row) :
    ∃ requested secret,
      validateExpiresAt input.expiresAt now config.maxLifetimeDays = .ok requested ∧
      issued = .ok secret ∧
      IssuedRow config subject projectId now requested secret row := by
  unfold planCreation at planned
  simp only [Bind.bind, Except.bind] at planned
  split at planned
  · cases planned
  · split at planned
    · cases planned
    · rename_i requested validated
      split at planned
      · cases planned
      · rename_i secret
        cases planned
        exact ⟨requested, secret, validated, rfl, rfl, rfl, rfl, rfl, rfl, rfl⟩

theorem plan_rotation_ok {config : KeyConfig} {subject : String} {existing : ApiKeyRow}
    {input : RotateApiKey} {now : Int} {newId : String}
    {issued : Except AccessError IssuedSecret} {plan : RotationPlan}
    (planned : planRotation config subject existing input now newId issued = .ok plan) :
    graceOutcome existing input.gracePeriodSeconds now =
        .ok (plan.status, plan.revokedAt, plan.oldExpiresAt) ∧
      plan.newKey.projectId = existing.projectId := by
  obtain ⟨grace, _, _, _, _, row⟩ := plan_rotation_parts planned
  exact ⟨grace, row.project⟩

end LightbridgeAuthz.ApiKeys.KeyTable
