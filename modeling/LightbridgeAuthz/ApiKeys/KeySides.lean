import LightbridgeAuthz.Access.TenantSides
import LightbridgeAuthz.ApiKeys.RosterCalls

/-!
# The API keys of one side

The keys of one side's projects, when ids and hashes of keys are drawn apart: the
statements on `api_keys` see and write for a side's subject what they would if
the other side had no keys, and for a subject of the other side they leave the
side's keys as they are.
-/

namespace LightbridgeAuthz.ApiKeys.KeySides

open Library.KeyedRows
open Access.Tenancy Access.TenancyOps Access.TenantSides
open KeyTable RosterCalls

set_option autoImplicit false

/-- A side with the ids and hashes of the keys it draws. -/
structure KeySide extends Side where
  keyIds : String → Bool
  keyHashes : String → Bool

/-- A key's id, hash and owner are of its project's side. -/
structure KeySide.Holds (side : KeySide) (row : ApiKeyRow) : Prop where
  id : side.keyIds row.id = side.projects row.projectId
  hash : side.keyHashes row.keyHash = side.projects row.projectId
  owner : side.accounts row.ownerAccountId = side.projects row.projectId

def KeySide.keys (side : KeySide) (keys : List ApiKeyRow) : List ApiKeyRow :=
  keys.filter fun row => side.projects row.projectId

variable {side : KeySide} {tenancy : TenancyDb} {keys next : List ApiKeyRow} {subject id : String}

theorem find_key_id_part (holds : ∀ row ∈ keys, side.Holds row) (id : String) :
    findKey keyId (side.keys keys) id =
      if side.keyIds id then findKey keyId keys id else none := by
  apply find_key_part
  intro row member keyed
  rw [← (holds row member).id, Option.some.inj keyed]

theorem conflicts_id_part (holds : ∀ row ∈ keys, side.Holds row)
    (drawn : side.keyIds id = true) :
    conflicts keyId (side.keys keys) (some id) = conflicts keyId keys (some id) := by
  apply conflicts_filter
  intro present isPresent row member keyed
  cases isPresent
  rw [← (holds row member).id, Option.some.inj keyed, drawn]

theorem conflicts_hash_part (holds : ∀ row ∈ keys, side.Holds row) {hash : String}
    (drawn : side.keyHashes hash = true) :
    conflicts keyHash (side.keys keys) (some hash) = conflicts keyHash keys (some hash) := by
  apply conflicts_filter
  intro present isPresent row member keyed
  cases isPresent
  rw [← (holds row member).hash, Option.some.inj keyed, drawn]

theorem update_key_id_part {change : ApiKeyRow → ApiKeyRow}
    (keeps : ∀ row, (change row).projectId = row.projectId) :
    side.keys (updateKey keyId keys id change) = updateKey keyId (side.keys keys) id change := by
  apply update_key_filter
  intro row _ _
  rw [keeps]

theorem update_key_id_beyond (holds : ∀ row ∈ keys, side.Holds row)
    {change : ApiKeyRow → ApiKeyRow} (keeps : ∀ row, (change row).projectId = row.projectId)
    (beyond : side.keyIds id = false) :
    side.keys (updateKey keyId keys id change) = side.keys keys := by
  apply update_key_filter_outside
  · intro row member keyed
    rw [← (holds row member).id, Option.some.inj keyed, beyond]
  · intro row member keyed
    rw [keeps, ← (holds row member).id, Option.some.inj keyed, beyond]

theorem update_key_id_holds (holds : ∀ row ∈ keys, side.Holds row)
    {change : ApiKeyRow → ApiKeyRow}
    (keeps : ∀ row, side.Holds row → side.Holds (change row)) :
    ∀ row ∈ updateKey keyId keys id change, side.Holds row := by
  intro row member
  obtain ⟨stored, storedMember, isRow⟩ := mem_update_key.mp member
  subst isRow
  split
  · exact keeps stored (holds stored storedMember)
  · exact holds stored storedMember

theorem key_on_side (apart : side.Apart tenancy) (holds : ∀ row ∈ keys, side.Holds row)
    {row : ApiKeyRow} (found : findKey keyId keys id = some row)
    (seen : seesProject tenancy subject row.projectId = true) :
    side.keyIds id = side.accounts subject ∧
      side.projects row.projectId = side.accounts subject := by
  obtain ⟨member, keyed⟩ := find_key_some found
  have onSide := sees_project_on_side apart seen
  rw [← Option.some.inj keyed, (holds row member).id]
  exact ⟨onSide, onSide⟩

theorem get_api_key_on_side (apart : side.Apart tenancy) (holds : ∀ row ∈ keys, side.Holds row)
    {row : ApiKeyRow} (got : getApiKey tenancy keys subject id = some row) :
    side.keyIds id = side.accounts subject ∧
      side.projects row.projectId = side.accounts subject := by
  obtain ⟨found, seen⟩ := Option.filter_eq_some_iff.mp got
  exact key_on_side apart holds found seen

theorem filtered_key_part (apart : side.Apart tenancy) (holds : ∀ row ∈ keys, side.Holds row)
    (own : side.accounts subject = true) {test partTest : ApiKeyRow → Bool}
    (asks : ∀ row, test row = true → seesProject tenancy subject row.projectId = true)
    (same : ∀ row, partTest row = test row) (id : String) :
    (findKey keyId (side.keys keys) id).filter partTest =
      (findKey keyId keys id).filter test := by
  rw [show partTest = test from funext same, find_key_id_part holds]
  cases inside : side.keyIds id with
  | true => rfl
  | false =>
      cases found : findKey keyId keys id with
      | none => rfl
      | some row =>
          cases passes : test row with
          | false => simp [Option.filter, passes]
          | true =>
              have onSide := (key_on_side apart holds found (asks row passes)).1
              rw [inside, own] at onSide
              cases onSide

theorem get_api_key_part (apart : side.Apart tenancy) (holds : ∀ row ∈ keys, side.Holds row)
    (own : side.accounts subject = true) (id : String) :
    getApiKey (side.tenancy tenancy) (side.keys keys) subject id =
      getApiKey tenancy keys subject id :=
  filtered_key_part apart holds own (fun _ seen => seen)
    (fun row => sees_project_part apart own row.projectId) id

section Status

variable {status : ApiKeyStatus} {revokedAt expiresAt : Option Int}

theorem set_api_key_status_part (apart : side.Apart tenancy)
    (holds : ∀ row ∈ keys, side.Holds row) (own : side.accounts subject = true) :
    setApiKeyStatus (side.tenancy tenancy) (side.keys keys) subject id status revokedAt expiresAt =
      (setApiKeyStatus tenancy keys subject id status revokedAt expiresAt).map side.keys := by
  unfold setApiKeyStatus
  rw [get_api_key_part apart holds own]
  cases getApiKey tenancy keys subject id with
  | none => rfl
  | some row =>
      rw [Except.map, update_key_id_part]
      exact fun _ => rfl

theorem set_api_key_status_beyond (apart : side.Apart tenancy)
    (holds : ∀ row ∈ keys, side.Holds row) (other : side.accounts subject = false)
    (done : setApiKeyStatus tenancy keys subject id status revokedAt expiresAt = .ok next) :
    side.keys next = side.keys keys := by
  unfold setApiKeyStatus at done
  split at done
  · cases done
  · rename_i row got
    cases done
    apply update_key_id_beyond holds
    · exact fun _ => rfl
    · exact (get_api_key_on_side apart holds got).1.trans other

theorem set_api_key_status_holds (holds : ∀ row ∈ keys, side.Holds row)
    (done : setApiKeyStatus tenancy keys subject id status revokedAt expiresAt = .ok next) :
    ∀ row ∈ next, side.Holds row := by
  rw [(set_api_key_status_ok done).1]
  exact update_key_id_holds holds fun row held => ⟨held.id, held.hash, held.owner⟩

end Status

theorem insert_key_part (holds : ∀ row ∈ keys, side.Holds row) {row : ApiKeyRow}
    (held : side.Holds row) (inside : side.projects row.projectId = true) :
    insertKey (side.tenancy tenancy) (side.keys keys) row =
      (insertKey tenancy keys row).map side.keys := by
  have drawnId : side.keyIds row.id = true := held.id.trans inside
  have drawnHash : side.keyHashes row.keyHash = true := held.hash.trans inside
  have ownerInside : side.accounts row.ownerAccountId = true := held.owner.trans inside
  unfold insertKey
  rw [show keyId row = some row.id from rfl, show keyHash row = some row.keyHash from rfl,
    conflicts_id_part holds drawnId, conflicts_hash_part holds drawnHash, get_project_part,
    get_account_part, if_pos inside, if_pos ownerInside]
  split_ifs
  · rfl
  · rfl
  · rfl
  · rfl
  · rfl
  · simp [Except.map, KeySide.keys, inside]

theorem insert_key_holds (holds : ∀ row ∈ keys, side.Holds row) {row : ApiKeyRow}
    (held : side.Holds row) (inserted : insertKey tenancy keys row = .ok next) :
    ∀ stored ∈ next, side.Holds stored := by
  rw [(insert_key_ok inserted).1]
  intro stored member
  rcases List.mem_append.mp member with old | created
  · exact holds stored old
  · rw [List.mem_singleton.mp created]
    exact held

theorem insert_key_beyond {row : ApiKeyRow} (beyond : side.projects row.projectId = false)
    (inserted : insertKey tenancy keys row = .ok next) :
    side.keys next = side.keys keys := by
  rw [(insert_key_ok inserted).1]
  simp [KeySide.keys, beyond]

section Rotation

variable {status : ApiKeyStatus} {revokedAt expiresAt : Option Int} {newKey : ApiKeyRow}

theorem rotate_transaction_part (apart : side.Apart tenancy)
    (holds : ∀ row ∈ keys, side.Holds row) (own : side.accounts subject = true)
    (held : side.Holds newKey) (inside : side.projects newKey.projectId = true) :
    rotateApiKeyTransaction (side.tenancy tenancy) (side.keys keys) subject id status revokedAt
        expiresAt newKey =
      (rotateApiKeyTransaction tenancy keys subject id status revokedAt expiresAt newKey).map
        side.keys := by
  unfold rotateApiKeyTransaction
  rw [set_api_key_status_part apart holds own, sees_project_part apart own]
  cases updated : setApiKeyStatus tenancy keys subject id status revokedAt expiresAt with
  | error error => rfl
  | ok rows =>
      have rowsHold := set_api_key_status_holds holds updated
      simp only [Except.map]
      split_ifs
      · exact insert_key_part rowsHold held inside
      · rfl

theorem rotate_transaction_beyond (apart : side.Apart tenancy)
    (holds : ∀ row ∈ keys, side.Holds row) (other : side.accounts subject = false)
    (done : rotateApiKeyTransaction tenancy keys subject id status revokedAt expiresAt newKey =
      .ok next) :
    side.keys next = side.keys keys := by
  unfold rotateApiKeyTransaction at done
  split at done
  · cases done
  · rename_i rows updated
    split_ifs at done with seen
    rw [insert_key_beyond ((sees_project_on_side apart seen).trans other) done,
      set_api_key_status_beyond apart holds other updated]

theorem rotate_transaction_holds (holds : ∀ row ∈ keys, side.Holds row)
    (held : side.Holds newKey)
    (done : rotateApiKeyTransaction tenancy keys subject id status revokedAt expiresAt newKey =
      .ok next) :
    ∀ row ∈ next, side.Holds row := by
  unfold rotateApiKeyTransaction at done
  split at done
  · cases done
  · rename_i rows updated
    split_ifs at done
    exact insert_key_holds (set_api_key_status_holds holds updated) held done

end Rotation

end LightbridgeAuthz.ApiKeys.KeySides
