import LightbridgeAuthz.Library.KeyedRows

/-!
# Tables that store typed rows

A table of stored rows that were all written from typed ones. A codec carries the
round trip of one row; the lookups, the inserts and the updates of the stored table
are then those of the typed table, whatever the keys are stored as.
-/

namespace LightbridgeAuthz.Library.RowCodecs

open Library.KeyedRows

set_option autoImplicit false

/-- How a typed value is stored, and how it is read again. -/
structure Codec (Typed Stored Failure : Type*) where
  encode : Typed → Stored
  decode : Stored → Except Failure Typed
  reads : ∀ value, decode (encode value) = .ok value

section Values

variable {Typed Stored Failure : Type*} (codec : Codec Typed Stored Failure)

theorem encode_injective : Function.Injective codec.encode := by
  intro left right same
  have reads := codec.reads left
  rw [same, codec.reads right] at reads
  exact (Except.ok.inj reads).symm

theorem encode_eq_iff {left right : Typed} :
    codec.encode left = codec.encode right ↔ left = right :=
  (encode_injective codec).eq_iff

theorem encode_mem_iff {value : Typed} {values : List Typed} :
    codec.encode value ∈ values.map codec.encode ↔ value ∈ values := by
  rw [List.mem_map]
  constructor
  · rintro ⟨other, member, same⟩
    exact encode_injective codec same ▸ member
  · intro member
    exact ⟨value, member, rfl⟩

def optional : Codec (Option Typed) (Option Stored) Failure where
  encode value := value.map codec.encode
  decode stored :=
    match stored with
    | none => .ok none
    | some present => (codec.decode present).map some
  reads value := by
    cases value with
    | none => rfl
    | some present =>
        simp only [Option.map_some, codec.reads]
        rfl

theorem decode_table (rows : List Typed) : (rows.map codec.encode).mapM codec.decode = .ok rows := by
  induction rows with
  | nil => rfl
  | cons row rest ih =>
      rw [List.map_cons, List.mapM_cons, codec.reads, ih]
      rfl

theorem map_m_stored {Input : Type*} {read : Input → Except Failure Typed}
    {storedRead : Input → Except Failure Stored} {store : Typed → Stored}
    (each : ∀ input, storedRead input = (read input).map store) (inputs : List Input) :
    inputs.mapM storedRead = (inputs.mapM read).map (List.map store) := by
  induction inputs with
  | nil => rfl
  | cons input rest ih =>
      rw [List.mapM_cons, List.mapM_cons, each, ih]
      cases read input with
      | error failure => rfl
      | ok value =>
          cases rest.mapM read with
          | error failure => rfl
          | ok values => rfl

end Values

section Tables

variable {Typed Stored Key StoredKey : Type*} [DecidableEq Key] [DecidableEq StoredKey]
  {encode : Typed → Stored} {key : Typed → Option Key} {storedKey : Stored → Option StoredKey}
  {storeKey : Key → StoredKey}

structure StoresKeys (encode : Typed → Stored) (key : Typed → Option Key)
    (storedKey : Stored → Option StoredKey) (storeKey : Key → StoredKey) : Prop where
  injective : Function.Injective storeKey
  stored : ∀ row, storedKey (encode row) = (key row).map storeKey

omit [DecidableEq Key] [DecidableEq StoredKey] in
theorem stored_key_iff (stores : StoresKeys encode key storedKey storeKey) {row : Typed}
    {value : Key} : storedKey (encode row) = some (storeKey value) ↔ key row = some value := by
  rw [stores.stored, Option.map_eq_some_iff]
  constructor
  · rintro ⟨found, isKey, same⟩
    rw [isKey, stores.injective same]
  · intro isKey
    exact ⟨value, isKey, rfl⟩

theorem find_key_stored (stores : StoresKeys encode key storedKey storeKey) (rows : List Typed)
    (value : Key) :
    findKey storedKey (rows.map encode) (storeKey value) =
      (findKey key rows value).map encode := by
  rw [findKey, findKey, List.find?_map]
  congr 2
  funext row
  exact decide_eq_decide.mpr (stored_key_iff stores)

theorem conflicts_stored (stores : StoresKeys encode key storedKey storeKey) (rows : List Typed)
    (value : Option Key) :
    conflicts storedKey (rows.map encode) (value.map storeKey) = conflicts key rows value := by
  cases value with
  | none => rfl
  | some present =>
      rw [Option.map_some, conflicts, conflicts, find_key_stored stores, Option.isSome_map]

theorem update_key_stored (stores : StoresKeys encode key storedKey storeKey)
    {change : Typed → Typed} {storedChange : Stored → Stored}
    (follows : ∀ row, storedChange (encode row) = encode (change row)) (rows : List Typed)
    (value : Key) :
    updateKey storedKey (rows.map encode) (storeKey value) storedChange =
      (updateKey key rows value change).map encode := by
  rw [updateKey, updateKey, List.map_map, List.map_map]
  apply List.map_congr_left
  intro row _
  simp only [Function.comp_apply, stored_key_iff stores]
  split
  · exact follows row
  · rfl

omit [DecidableEq Key] in
theorem stores_same {sameKey : Stored → Option Key}
    (stored : ∀ row, sameKey (encode row) = key row) : StoresKeys encode key sameKey id where
  injective := Function.injective_id
  stored row := by rw [stored, Option.map_id, id]

theorem find_key_same {sameKey : Stored → Option Key}
    (stored : ∀ row, sameKey (encode row) = key row) (rows : List Typed) (value : Key) :
    findKey sameKey (rows.map encode) value = (findKey key rows value).map encode :=
  find_key_stored (stores_same stored) rows value

theorem conflicts_same {sameKey : Stored → Option Key}
    (stored : ∀ row, sameKey (encode row) = key row) (rows : List Typed) (value : Option Key) :
    conflicts sameKey (rows.map encode) value = conflicts key rows value := by
  have agree := conflicts_stored (stores_same stored) rows value
  rwa [Option.map_id, id] at agree

theorem update_key_same {sameKey : Stored → Option Key}
    (stored : ∀ row, sameKey (encode row) = key row) {change : Typed → Typed}
    {storedChange : Stored → Stored}
    (follows : ∀ row, storedChange (encode row) = encode (change row)) (rows : List Typed)
    (value : Key) :
    updateKey sameKey (rows.map encode) value storedChange =
      (updateKey key rows value change).map encode :=
  update_key_stored (stores_same stored) follows rows value

omit [DecidableEq Key] [DecidableEq StoredKey] in
theorem filter_stored {selects : Typed → Bool} {storedSelects : Stored → Bool}
    (agree : ∀ row, storedSelects (encode row) = selects row) (rows : List Typed) :
    (rows.map encode).filter storedSelects = (rows.filter selects).map encode := by
  rw [List.filter_map]
  congr 2
  funext row
  exact agree row

end Tables

end LightbridgeAuthz.Library.RowCodecs
