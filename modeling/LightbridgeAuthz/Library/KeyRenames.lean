import Mathlib.Data.List.Nodup
import Mathlib.Data.List.Perm.Basic

/-!
# Renaming primary keys

A statement renames the keys of several rows one row at a time: a new key that is
taken at that moment aborts it. References follow in the same order, each by a
search for the old key. Where the statement succeeds, both amount to one
simultaneous renaming, which keeps the keys distinct.
-/

namespace LightbridgeAuthz.Library.KeyRenames

set_option autoImplicit false

variable {Key Value : Type*} [DecidableEq Key]

theorem lookup_map_values {Result : Type*} (change : Value → Result) (key : Key)
    (pairs : List (Key × Value)) :
    (pairs.map fun pair => (pair.1, change pair.2)).lookup key =
      (pairs.lookup key).map change := by
  induction pairs with
  | nil => rfl
  | cons pair rest ih =>
      obtain ⟨first, content⟩ := pair
      rw [List.map_cons, List.lookup_cons, List.lookup_cons]
      cases key == first with
      | true => rfl
      | false => exact ih

theorem lookup_iff_of_nodup {pairs : List (Key × Value)} (distinct : (pairs.map Prod.fst).Nodup)
    (key : Key) (value : Value) :
    pairs.lookup key = some value ↔ (key, value) ∈ pairs := by
  induction pairs with
  | nil => simp
  | cons pair rest ih =>
      obtain ⟨first, content⟩ := pair
      rw [List.map_cons, List.nodup_cons] at distinct
      rw [List.lookup_cons, List.mem_cons, Prod.mk.injEq]
      by_cases here : key = first
      · subst here
        have absent : (key, value) ∉ rest := fun member =>
          distinct.1 (List.mem_map.mpr ⟨(key, value), member, rfl⟩)
        simp [absent, eq_comm]
      · have other : (key == first) = false := by simpa using here
        simp [other, here, ih distinct.2]

theorem lookup_reverse_of_nodup {pairs : List (Key × Value)}
    (distinct : (pairs.map Prod.fst).Nodup) (key : Key) :
    pairs.reverse.lookup key = pairs.lookup key := by
  have backwards : (pairs.reverse.map Prod.fst).Nodup := by
    rw [List.map_reverse]
    exact List.nodup_reverse.mpr distinct
  apply Option.ext
  intro value
  rw [lookup_iff_of_nodup backwards, lookup_iff_of_nodup distinct, List.mem_reverse]

omit [DecidableEq Key] in
theorem pairs_nodup {Row : Type*} (key : Row → Key) (content : Row → Option Value)
    {rows : List Row} (distinct : (rows.map key).Nodup) :
    ((rows.filterMap fun row =>
      (content row).map fun value => (key row, value)).map Prod.fst).Nodup := by
  have part : ((rows.filterMap fun row =>
      (content row).map fun value => (key row, value)).map Prod.fst).Sublist (rows.map key) := by
    clear distinct
    induction rows with
    | nil => exact List.Sublist.refl _
    | cons row rest ih =>
        rw [List.filterMap_cons, List.map_cons]
        cases content row with
        | none => exact ih.cons (key row)
        | some value => exact ih.cons_cons (key row)
  exact distinct.sublist part

omit [DecidableEq Key] in
theorem mem_pairs {Row : Type*} (key : Row → Key) (content : Row → Option Value)
    (rows : List Row) (name : Key) (value : Value) :
    (name, value) ∈ rows.filterMap (fun row =>
        (content row).map fun value => (key row, value)) ↔
      ∃ row ∈ rows, key row = name ∧ content row = some value := by
  rw [List.mem_filterMap]
  constructor
  · rintro ⟨row, member, paired⟩
    obtain ⟨found, isValue, same⟩ := Option.map_eq_some_iff.mp paired
    cases same
    exact ⟨row, member, rfl, isValue⟩
  · rintro ⟨row, member, rfl, isValue⟩
    exact ⟨row, member, by rw [isValue, Option.map_some]⟩

theorem lookup_pairs {Row : Type*} (key : Row → Key) (content : Row → Option Value)
    {rows : List Row} (distinct : (rows.map key).Nodup) (name : Key) (value : Value) :
    (rows.filterMap fun row => (content row).map fun value => (key row, value)).lookup name =
        some value ↔
      ∃ row ∈ rows, key row = name ∧ content row = some value := by
  rw [lookup_iff_of_nodup (pairs_nodup key content distinct), mem_pairs]

def renamed (renames : List (Key × Key)) (key : Key) : Key := (renames.lookup key).getD key

def renameKey (old new key : Key) : Key := if key = old then new else key

/-- The keys after the rows are renamed in turn; `none` where a new key is taken. -/
def renameKeys : List (Key × Key) → List Key → Option (List Key)
  | [], keys => some keys
  | (old, new) :: rest, keys =>
      if new ∈ keys then none else renameKeys rest (keys.map (renameKey old new))

/-- What becomes of a reference as the renames cascade in turn. -/
def cascade (renames : List (Key × Key)) (key : Key) : Key :=
  renames.foldl (fun current pair => renameKey pair.1 pair.2 current) key

theorem rename_key_nodup {old new : Key} {keys : List Key} (distinct : keys.Nodup)
    (free : new ∉ keys) : (keys.map (renameKey old new)).Nodup := by
  apply List.Nodup.map_on _ distinct
  intro left inLeft right inRight same
  unfold renameKey at same
  split_ifs at same with isLeft isRight isRight
  · rw [isLeft, isRight]
  · exact absurd (same ▸ inRight) free
  · exact absurd (same ▸ inLeft) free
  · exact same

variable {renames : List (Key × Key)} {keys after : List Key}

theorem rename_keys_some (distinct : keys.Nodup) (olds : (renames.map Prod.fst).Nodup)
    (present : ∀ pair ∈ renames, pair.1 ∈ keys) (success : renameKeys renames keys = some after) :
    after = keys.map (renamed renames) ∧ after.Nodup ∧
      ∀ key ∈ keys, cascade renames key = renamed renames key := by
  induction renames generalizing keys with
  | nil =>
      rw [renameKeys, Option.some.injEq] at success
      subst success
      have nothing : renamed ([] : List (Key × Key)) = id := rfl
      exact ⟨by rw [nothing, List.map_id], distinct, fun _ _ => rfl⟩
  | cons pair rest ih =>
      obtain ⟨old, new⟩ := pair
      rw [renameKeys] at success
      split_ifs at success with taken
      rw [List.map_cons, List.nodup_cons] at olds
      have free : ∀ later ∈ rest, later.1 ≠ old ∧ later.1 ≠ new := by
        intro later member
        constructor
        · intro same
          exact olds.1 (same ▸ List.mem_map.mpr ⟨later, member, rfl⟩)
        · intro same
          exact taken (same ▸ present later (List.mem_cons_of_mem _ member))
      have stays : ∀ later ∈ rest, later.1 ∈ keys.map (renameKey old new) := by
        intro later member
        refine List.mem_map.mpr ⟨later.1, present later (List.mem_cons_of_mem _ member), ?_⟩
        exact if_neg (free later member).1
      obtain ⟨isAfter, apart, follows⟩ :=
        ih (rename_key_nodup distinct taken) olds.2 stays success
      have once : ∀ key ∈ keys,
          renamed rest (renameKey old new key) = renamed ((old, new) :: rest) key := by
        intro key member
        by_cases here : key = old
        · subst here
          have unnamed : rest.lookup new = none := by
            rw [List.lookup_eq_none_iff]
            intro later inRest
            simpa using (free later inRest).2.symm
          simp [renamed, renameKey, unnamed]
        · have other : (key == old) = false := by simpa using here
          simp [renamed, renameKey, here, List.lookup_cons, other]
      refine ⟨?_, apart, ?_⟩
      · rw [isAfter, List.map_map]
        exact List.map_congr_left once
      · intro key member
        have later := follows (renameKey old new key) (List.mem_map.mpr ⟨key, member, rfl⟩)
        exact later.trans (once key member)

end LightbridgeAuthz.Library.KeyRenames
