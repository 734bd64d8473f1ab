import LightbridgeAuthz.Library.EventRun
import LightbridgeAuthz.ApiKeys.KeyTable

/-!
# Calls on API keys, statement by statement

`rotateApiKey` reads the key in one statement, issues a secret and computes
what to write, and writes it in one transaction; `createApiKey` issues, asks
for ownership and for the role in two queries and then inserts. Revocation,
soft deletion and renaming are one statement each. Any number of calls are in
flight, the clock advances and accounts, projects and rosters change between
any two statements. Deleting an account or a project that has keys is not
among the events: the foreign keys would take the keys with it.
-/

namespace LightbridgeAuthz.ApiKeys.KeyCalls

open Library.EventRun Library.KeyedRows
open Access.Tenancy KeyTable

set_option autoImplicit false

structure RotateRequest where
  subject : String
  keyId : String
  input : RotateApiKey
  deriving DecidableEq, Repr

structure CreateRequest where
  subject : String
  projectId : String
  input : CreateApiKey
  deriving DecidableEq, Repr

inductive RotatePoint where
  | select
  | issue (existing : ApiKeyRow)
  | transact (existing : ApiKeyRow) (now : Int) (plan : RotationPlan)
  | returned (answer : Except AccessError ApiKeyRow)

inductive CreatePoint where
  | issue
  | authorizeOwner (row : ApiKeyRow)
  | authorizeLead (row : ApiKeyRow)
  | insert (row : ApiKeyRow)
  | returned (answer : Except AccessError ApiKeyRow)

inductive KeyCall where
  | rotate (request : RotateRequest) (point : RotatePoint)
  | create (request : CreateRequest) (point : CreatePoint)

structure IssueInput where
  newId : String
  issued : Except AccessError IssuedSecret

structure KeyWorld where
  tenancy : TenancyDb
  keys : List ApiKeyRow
  clock : Int
  calls : Nat → Option KeyCall

inductive KeyEvent where
  | tick (elapsed : Nat)
  | changeTenancy (tenancy : TenancyDb)
  | rotateApiKey (caller : Nat) (request : RotateRequest)
  | createApiKey (caller : Nat) (request : CreateRequest)
  | advance (caller : Nat) (input : IssueInput)
  | revokeApiKey (subject id : String)
  | softDelete (subject id : String)
  | rename (subject id name : String)

def setCall (calls : Nat → Option KeyCall) (caller : Nat) (call : KeyCall) :
    Nat → Option KeyCall :=
  fun other => if other = caller then some call else calls other

theorem set_call_some {calls : Nat → Option KeyCall} {caller other : Nat} {call found : KeyCall}
    (isCall : setCall calls caller call other = some found) :
    (other = caller ∧ call = found) ∨ (other ≠ caller ∧ calls other = some found) := by
  unfold setCall at isCall
  split at isCall
  · rename_i same
    exact Or.inl ⟨same, Option.some.inj isCall⟩
  · rename_i different
    exact Or.inr ⟨different, isCall⟩

def rotateMove (config : KeyConfig) (world : KeyWorld) (request : RotateRequest)
    (input : IssueInput) : RotatePoint → Option (List ApiKeyRow × RotatePoint)
  | .select =>
      match getApiKey world.tenancy world.keys request.subject request.keyId with
      | none => some (world.keys, .returned (.error .notFound))
      | some existing => some (world.keys, .issue existing)
  | .issue existing =>
      match planRotation config request.subject existing request.input world.clock input.newId
          input.issued with
      | .error error => some (world.keys, .returned (.error error))
      | .ok plan => some (world.keys, .transact existing world.clock plan)
  | .transact _ _ plan =>
      match rotateApiKeyTransaction world.tenancy world.keys request.subject request.keyId
          plan.status plan.revokedAt plan.oldExpiresAt plan.newKey with
      | .error error => some (world.keys, .returned (.error error))
      | .ok keys => some (keys, .returned (.ok plan.newKey))
  | .returned _ => none

def createMove (config : KeyConfig) (world : KeyWorld) (request : CreateRequest)
    (input : IssueInput) : CreatePoint → Option (List ApiKeyRow × CreatePoint)
  | .issue =>
      match planCreation config request.subject request.projectId request.input world.clock
          input.newId input.issued with
      | .error error => some (world.keys, .returned (.error error))
      | .ok row => some (world.keys, .authorizeOwner row)
  | .authorizeOwner row =>
      match authorizeOwner world.tenancy request.projectId request.subject with
      | .error error => some (world.keys, .returned (.error error))
      | .ok (some ()) => some (world.keys, .insert row)
      | .ok none => some (world.keys, .authorizeLead row)
  | .authorizeLead row =>
      match authorizeLead world.tenancy request.projectId request.subject with
      | .error error => some (world.keys, .returned (.error error))
      | .ok () => some (world.keys, .insert row)
  | .insert row =>
      match insertKey world.tenancy world.keys row with
      | .error error => some (world.keys, .returned (.error error))
      | .ok keys => some (keys, .returned (.ok row))
  | .returned _ => none

def keepsKeys (tenancy : TenancyDb) (keys : List ApiKeyRow) : Bool :=
  keys.all fun row =>
    (getProjectById tenancy row.projectId).isSome &&
      (getAccountById tenancy row.ownerAccountId).isSome

def keyStep (config : KeyConfig) (world : KeyWorld) : KeyEvent → Option KeyWorld
  | .tick elapsed => some { world with clock := world.clock + elapsed }
  | .changeTenancy tenancy =>
      if keepsKeys tenancy world.keys then some { world with tenancy := tenancy } else none
  | .rotateApiKey caller request =>
      match world.calls caller with
      | some _ => none
      | none => some { world with calls := setCall world.calls caller (.rotate request .select) }
  | .createApiKey caller request =>
      match world.calls caller with
      | some _ => none
      | none => some { world with calls := setCall world.calls caller (.create request .issue) }
  | .advance caller input =>
      match world.calls caller with
      | some (.rotate request point) =>
          (rotateMove config world request input point).map fun moved =>
            { world with
              keys := moved.1
              calls := setCall world.calls caller (.rotate request moved.2) }
      | some (.create request point) =>
          (createMove config world request input point).map fun moved =>
            { world with
              keys := moved.1
              calls := setCall world.calls caller (.create request moved.2) }
      | none => none
  | .revokeApiKey subject id =>
      match setApiKeyStatus world.tenancy world.keys subject id .revoked (some world.clock)
          none with
      | .error _ => some world
      | .ok keys => some { world with keys := keys }
  | .softDelete subject id =>
      some { world with keys := softDelete world.tenancy world.keys subject id world.clock }
  | .rename subject id name =>
      some { world with keys := renameKey world.tenancy world.keys subject id name }

structure KeyStart (world : KeyWorld) : Prop where
  uniqueIds : UniqueKeys keyId world.keys
  idle : ∀ caller, world.calls caller = none

inductive KeyChange (world : KeyWorld) : KeyEvent → List ApiKeyRow → Prop where
  | kept {event : KeyEvent} : KeyChange world event world.keys
  | inserted {caller : Nat} {input : IssueInput} {request : CreateRequest} {row : ApiKeyRow}
      (call : world.calls caller = some (.create request (.insert row)))
      (fresh : ∀ old ∈ world.keys, keyId old ≠ some row.id) :
      KeyChange world (.advance caller input) (world.keys ++ [row])
  | rotated {caller : Nat} {input : IssueInput} {request : RotateRequest}
      {existing row : ApiKeyRow} {now : Int} {plan : RotationPlan}
      (call : world.calls caller = some (.rotate request (.transact existing now plan)))
      (found : findKey keyId world.keys request.keyId = some row)
      (fresh : ∀ old ∈ updateKey keyId world.keys request.keyId
          (withStatus plan.status plan.revokedAt plan.oldExpiresAt),
        keyId old ≠ some plan.newKey.id) :
      KeyChange world (.advance caller input)
        (updateKey keyId world.keys request.keyId
          (withStatus plan.status plan.revokedAt plan.oldExpiresAt) ++ [plan.newKey])
  | revoked (subject id : String) :
      KeyChange world (.revokeApiKey subject id)
        (updateKey keyId world.keys id (withStatus .revoked (some world.clock) none))
  | deleted (subject id : String) :
      KeyChange world (.softDelete subject id)
        (softDelete world.tenancy world.keys subject id world.clock)
  | renamed (subject id name : String) :
      KeyChange world (.rename subject id name)
        (renameKey world.tenancy world.keys subject id name)

section Step

variable {config : KeyConfig} {world next : KeyWorld} {event : KeyEvent}

theorem rotate_move_change {caller : Nat} {request : RotateRequest} {input : IssueInput}
    {point after : RotatePoint} {keys : List ApiKeyRow}
    (call : world.calls caller = some (.rotate request point))
    (moved : rotateMove config world request input point = some (keys, after)) :
    KeyChange world (.advance caller input) keys := by
  cases point with
  | select =>
      simp only [rotateMove] at moved
      split at moved <;> cases moved <;> exact .kept
  | issue existing =>
      simp only [rotateMove] at moved
      split at moved <;> cases moved <;> exact .kept
  | transact existing now plan =>
      simp only [rotateMove] at moved
      split at moved
      · cases moved
        exact .kept
      · rename_i written rotated
        cases moved
        obtain ⟨isNext, ⟨row, found⟩, fresh⟩ := rotate_api_key_transaction_ok rotated
        rw [isNext]
        exact .rotated call found fresh
  | returned answer => cases moved

theorem create_move_change {caller : Nat} {request : CreateRequest} {input : IssueInput}
    {point after : CreatePoint} {keys : List ApiKeyRow}
    (call : world.calls caller = some (.create request point))
    (moved : createMove config world request input point = some (keys, after)) :
    KeyChange world (.advance caller input) keys := by
  cases point with
  | issue =>
      simp only [createMove] at moved
      split at moved <;> cases moved <;> exact .kept
  | authorizeOwner row =>
      simp only [createMove] at moved
      split at moved <;> cases moved <;> exact .kept
  | authorizeLead row =>
      simp only [createMove] at moved
      split at moved <;> cases moved <;> exact .kept
  | insert row =>
      simp only [createMove] at moved
      split at moved
      · cases moved
        exact .kept
      · rename_i written inserted
        cases moved
        obtain ⟨isNext, fresh⟩ := insert_key_ok inserted
        rw [isNext]
        exact .inserted call fresh
  | returned answer => cases moved

theorem step_change (stepped : keyStep config world event = some next) :
    KeyChange world event next.keys := by
  cases event with
  | tick elapsed =>
      cases stepped
      exact .kept
  | changeTenancy tenancy =>
      simp only [keyStep] at stepped
      split_ifs at stepped
      cases stepped
      exact .kept
  | rotateApiKey caller request =>
      simp only [keyStep] at stepped
      split at stepped <;> cases stepped
      exact .kept
  | createApiKey caller request =>
      simp only [keyStep] at stepped
      split at stepped <;> cases stepped
      exact .kept
  | advance caller input =>
      simp only [keyStep] at stepped
      split at stepped
      · rename_i request point call
        obtain ⟨⟨keys, after⟩, moved, isNext⟩ := Option.map_eq_some_iff.mp stepped
        rw [← isNext]
        exact rotate_move_change call moved
      · rename_i request point call
        obtain ⟨⟨keys, after⟩, moved, isNext⟩ := Option.map_eq_some_iff.mp stepped
        rw [← isNext]
        exact create_move_change call moved
      · cases stepped
  | revokeApiKey subject id =>
      simp only [keyStep] at stepped
      split at stepped
      · cases stepped
        exact .kept
      · rename_i written updated
        cases stepped
        rw [(set_api_key_status_ok updated).1]
        exact .revoked subject id
  | softDelete subject id =>
      cases stepped
      exact .deleted subject id
  | rename subject id name =>
      cases stepped
      exact .renamed subject id name

theorem step_surroundings (stepped : keyStep config world event = some next) :
    (∃ elapsed : Nat, event = .tick elapsed ∧
      next = { world with clock := world.clock + elapsed }) ∨
    (∃ tenancy, event = .changeTenancy tenancy ∧ next = { world with tenancy := tenancy }) ∨
    (next.clock = world.clock ∧ next.tenancy = world.tenancy) := by
  cases event with
  | tick elapsed =>
      cases stepped
      exact Or.inl ⟨elapsed, rfl, rfl⟩
  | changeTenancy tenancy =>
      simp only [keyStep] at stepped
      split_ifs at stepped
      cases stepped
      exact Or.inr (Or.inl ⟨tenancy, rfl, rfl⟩)
  | rotateApiKey caller request =>
      simp only [keyStep] at stepped
      split at stepped <;> cases stepped
      exact Or.inr (Or.inr ⟨rfl, rfl⟩)
  | createApiKey caller request =>
      simp only [keyStep] at stepped
      split at stepped <;> cases stepped
      exact Or.inr (Or.inr ⟨rfl, rfl⟩)
  | advance caller input =>
      simp only [keyStep] at stepped
      split at stepped
      · obtain ⟨moved, _, isNext⟩ := Option.map_eq_some_iff.mp stepped
        cases isNext
        exact Or.inr (Or.inr ⟨rfl, rfl⟩)
      · obtain ⟨moved, _, isNext⟩ := Option.map_eq_some_iff.mp stepped
        cases isNext
        exact Or.inr (Or.inr ⟨rfl, rfl⟩)
      · cases stepped
  | revokeApiKey subject id =>
      simp only [keyStep] at stepped
      split at stepped <;> cases stepped <;> exact Or.inr (Or.inr ⟨rfl, rfl⟩)
  | softDelete subject id =>
      cases stepped
      exact Or.inr (Or.inr ⟨rfl, rfl⟩)
  | rename subject id name =>
      cases stepped
      exact Or.inr (Or.inr ⟨rfl, rfl⟩)

theorem step_clock (stepped : keyStep config world event = some next) :
    world.clock ≤ next.clock := by
  rcases step_surroundings stepped with ⟨elapsed, _, isNext⟩ | ⟨tenancy, _, isNext⟩ | ⟨same, _⟩
  · rw [isNext]
    exact Int.le_add_of_nonneg_right (Int.natCast_nonneg elapsed)
  · subst isNext
    exact Int.le_refl _
  · exact Int.le_of_eq same.symm

theorem key_change_unique {keys : List ApiKeyRow} (unique : UniqueKeys keyId world.keys)
    (change : KeyChange world event keys) : UniqueKeys keyId keys := by
  cases change with
  | kept => exact unique
  | inserted call fresh =>
      apply unique_keys_append unique
      intro value isValue
      cases isValue
      exact fresh
  | rotated call found fresh =>
      apply unique_keys_append
      · exact unique_keys_update unique fun _ => rfl
      · intro value isValue
        cases isValue
        exact fresh
  | revoked subject id => exact unique_keys_update unique fun _ => rfl
  | deleted subject id =>
      apply unique_keys_update unique
      intro row
      split_ifs <;> rfl
  | renamed subject id name =>
      apply unique_keys_update unique
      intro row
      split_ifs <;> rfl

theorem step_unique (unique : UniqueKeys keyId world.keys)
    (stepped : keyStep config world event = some next) : UniqueKeys keyId next.keys :=
  key_change_unique unique (step_change stepped)

theorem key_change_related {keys : List ApiKeyRow} (change : KeyChange world event keys)
    (related : ApiKeyRow → ApiKeyRow → Prop) (refl : ∀ row, related row row)
    (rotates : ∀ caller input request existing now plan, event = .advance caller input →
      world.calls caller = some (.rotate request (.transact existing now plan)) →
      ∀ row, findKey keyId world.keys request.keyId = some row →
        related row (withStatus plan.status plan.revokedAt plan.oldExpiresAt row))
    (revokes : ∀ row, related row (withStatus .revoked (some world.clock) none row))
    (deletes : ∀ row, related row { row with deletedAt := some world.clock })
    (renames : ∀ row name, related row { row with name := name })
    {id : String} {row : ApiKeyRow} (found : findKey keyId world.keys id = some row) :
    ∃ later, findKey keyId keys id = some later ∧ related row later := by
  cases change with
  | kept => exact ⟨row, found, refl row⟩
  | inserted call fresh => exact ⟨row, find_key_append_of_some found, refl row⟩
  | rotated call isTarget fresh =>
      obtain ⟨later, foundLater, isRelated⟩ := find_key_update_related related refl
        (withStatus _ _ _) (fun _ => rfl)
        (fun old isOld => rotates _ _ _ _ _ _ rfl call old isOld) found
      exact ⟨later, find_key_append_of_some foundLater, isRelated⟩
  | revoked subject target =>
      exact find_key_update_related related refl (withStatus _ _ _) (fun _ => rfl)
        (fun old _ => revokes old) found
  | deleted subject target =>
      apply find_key_update_related related refl _ _ _ found
      · intro old
        split_ifs <;> rfl
      · intro old _
        split_ifs
        · exact deletes old
        · exact refl old
  | renamed subject target name =>
      apply find_key_update_related related refl _ _ _ found
      · intro old
        split_ifs <;> rfl
      · intro old _
        split_ifs
        · exact renames old name
        · exact refl old

/-- Where a call that stands somewhere after a step comes from. -/
inductive CallOrigin (config : KeyConfig) (world : KeyWorld) (keys : List ApiKeyRow)
    (caller : Nat) : KeyEvent → KeyCall → Prop where
  | stood {event : KeyEvent} {call : KeyCall} (was : world.calls caller = some call) :
      CallOrigin config world keys caller event call
  | rotationArrived (request : RotateRequest) :
      CallOrigin config world keys caller (.rotateApiKey caller request) (.rotate request .select)
  | creationArrived (request : CreateRequest) :
      CallOrigin config world keys caller (.createApiKey caller request) (.create request .issue)
  | rotationMoved {input : IssueInput} {request : RotateRequest} {before point : RotatePoint}
      (was : world.calls caller = some (.rotate request before))
      (moved : rotateMove config world request input before = some (keys, point)) :
      CallOrigin config world keys caller (.advance caller input) (.rotate request point)
  | creationMoved {input : IssueInput} {request : CreateRequest} {before point : CreatePoint}
      (was : world.calls caller = some (.create request before))
      (moved : createMove config world request input before = some (keys, point)) :
      CallOrigin config world keys caller (.advance caller input) (.create request point)

theorem call_origin {caller : Nat} {call : KeyCall}
    (stepped : keyStep config world event = some next) (stands : next.calls caller = some call) :
    CallOrigin config world next.keys caller event call := by
  cases event with
  | tick elapsed =>
      cases stepped
      exact .stood stands
  | changeTenancy tenancy =>
      simp only [keyStep] at stepped
      split_ifs at stepped
      cases stepped
      exact .stood stands
  | rotateApiKey other arrived =>
      simp only [keyStep] at stepped
      split at stepped <;> cases stepped
      rcases set_call_some stands with ⟨same, isCall⟩ | ⟨_, was⟩
      · rw [same, ← isCall]
        exact .rotationArrived arrived
      · exact .stood was
  | createApiKey other arrived =>
      simp only [keyStep] at stepped
      split at stepped <;> cases stepped
      rcases set_call_some stands with ⟨same, isCall⟩ | ⟨_, was⟩
      · rw [same, ← isCall]
        exact .creationArrived arrived
      · exact .stood was
  | advance other input =>
      simp only [keyStep] at stepped
      split at stepped
      · rename_i request before was
        obtain ⟨⟨keys, after⟩, moved, isNext⟩ := Option.map_eq_some_iff.mp stepped
        cases isNext
        rcases set_call_some stands with ⟨same, isCall⟩ | ⟨_, kept⟩
        · rw [same, ← isCall]
          exact .rotationMoved was moved
        · exact .stood kept
      · rename_i request before was
        obtain ⟨⟨keys, after⟩, moved, isNext⟩ := Option.map_eq_some_iff.mp stepped
        cases isNext
        rcases set_call_some stands with ⟨same, isCall⟩ | ⟨_, kept⟩
        · rw [same, ← isCall]
          exact .creationMoved was moved
        · exact .stood kept
      · cases stepped
  | revokeApiKey subject id =>
      simp only [keyStep] at stepped
      split at stepped <;> cases stepped <;> exact .stood stands
  | softDelete subject id =>
      cases stepped
      exact .stood stands
  | rename subject id name =>
      cases stepped
      exact .stood stands

theorem issue_origin {caller : Nat} {request : RotateRequest} {existing : ApiKeyRow}
    (stepped : keyStep config world event = some next)
    (call : next.calls caller = some (.rotate request (.issue existing))) :
    world.calls caller = some (.rotate request (.issue existing)) ∨
      (next.keys = world.keys ∧
        getApiKey world.tenancy world.keys request.subject request.keyId = some existing) := by
  have origin := call_origin stepped call
  generalize next.keys = keys at origin ⊢
  cases origin with
  | stood was => exact Or.inl was
  | @rotationMoved input _ before _ was moved =>
      cases before with
      | select =>
          simp only [rotateMove] at moved
          split at moved
          · cases moved
          · rename_i read
            cases moved
            exact Or.inr ⟨rfl, read⟩
      | issue snapshot =>
          simp only [rotateMove] at moved
          split at moved <;> cases moved
      | transact snapshot now plan =>
          simp only [rotateMove] at moved
          split at moved <;> cases moved
      | returned answer => cases moved

theorem transact_origin {caller : Nat} {request : RotateRequest} {existing : ApiKeyRow}
    {now : Int} {plan : RotationPlan} (stepped : keyStep config world event = some next)
    (call : next.calls caller = some (.rotate request (.transact existing now plan))) :
    world.calls caller = some (.rotate request (.transact existing now plan)) ∨
      (next.keys = world.keys ∧ world.calls caller = some (.rotate request (.issue existing)) ∧
        ∃ input : IssueInput, planRotation config request.subject existing request.input now
          input.newId input.issued = .ok plan) := by
  have origin := call_origin stepped call
  generalize next.keys = keys at origin ⊢
  cases origin with
  | stood was => exact Or.inl was
  | @rotationMoved input _ before _ was moved =>
      cases before with
      | select =>
          simp only [rotateMove] at moved
          split at moved <;> cases moved
      | issue snapshot =>
          simp only [rotateMove] at moved
          split at moved
          · cases moved
          · rename_i planned
            cases moved
            exact Or.inr ⟨rfl, was, input, planned⟩
      | transact snapshot reading planned =>
          simp only [rotateMove] at moved
          split at moved <;> cases moved
      | returned answer => cases moved

/-- A rotation about to write is going to write what it planned from its
snapshot. -/
def FollowsPlan (world : KeyWorld) : Prop :=
  ∀ caller request existing now plan,
    world.calls caller = some (.rotate request (.transact existing now plan)) →
      graceOutcome existing request.input.gracePeriodSeconds now =
          .ok (plan.status, plan.revokedAt, plan.oldExpiresAt) ∧
        plan.newKey.projectId = existing.projectId

theorem step_follows_plan (follows : FollowsPlan world)
    (stepped : keyStep config world event = some next) : FollowsPlan next := by
  intro caller request existing now plan call
  rcases transact_origin stepped call with was | ⟨_, _, input, planned⟩
  · exact follows caller request existing now plan was
  · exact plan_rotation_ok planned

theorem start_follows_plan (start : KeyStart world) : FollowsPlan world := by
  intro caller request existing now plan call
  rw [start.idle caller] at call
  cases call

end Step

/-- An owner, a lead and a plain member of one project. -/
def sampleTenancy : TenancyDb where
  accounts := [⟨"owner", .active⟩, ⟨"lead", .active⟩, ⟨"dev", .active⟩]
  projects := [⟨"p1", "owner", .active, true, none, .allowAll⟩]
  members := [⟨"p1", "lead", .lead, none⟩, ⟨"p1", "dev", .member, none⟩]

/-- A key of the project that expires after eleven days. -/
def sampleKey : ApiKeyRow where
  id := "k1"
  projectId := "p1"
  name := "ci"
  keyPrefix := "abcdefgh"
  keyHash := "sha256:s1"
  createdAt := 0
  expiresAt := some 1000000000000
  status := .active
  revokedAt := none
  deletedAt := none
  billingPlan := "starter"
  ownerAccountId := "owner"

def sampleConfig : KeyConfig where
  hashApiKey := fun secret => "sha256:" ++ secret
  maxLifetimeDays := 90
  billingPlans := ["starter"]

def sampleWorld : KeyWorld where
  tenancy := sampleTenancy
  keys := [sampleKey]
  clock := 1000000
  calls := fun _ => none

/-- A rotation by a plain member, from its call to its return. -/
def rotateBy (caller : Nat) (id newId : String) (grace : Option Int64) : List KeyEvent :=
  .rotateApiKey caller ⟨"dev", id, ⟨none, none, grace⟩⟩ ::
    List.replicate 3 (.advance caller ⟨newId, .ok ⟨newId ++ "-secret", none⟩⟩)

theorem sample_world_starts : KeyStart sampleWorld where
  uniqueIds := by decide
  idle := fun _ => rfl

end LightbridgeAuthz.ApiKeys.KeyCalls
