import LightbridgeAuthz.Library.KeyedRows
import Mathlib.Data.List.Nodup

/-!
# Indexes and references

A unique index on a table and a reference from its rows into another table, and
the statements that keep them: an insertion, a deletion, an update of the row of
one key.
-/

namespace LightbridgeAuthz.Library.References

open Library.KeyedRows

set_option autoImplicit false

variable {Row Key Other : Type*}

def Refers (reference : Row → Other) (ids : List Other) (rows : List Row) : Prop :=
  ∀ row ∈ rows, reference row ∈ ids

theorem refers_mono {reference : Row → Other} {ids more : List Other} {rows : List Row}
    (refers : Refers reference ids rows) (grows : ids ⊆ more) : Refers reference more rows :=
  fun row member => grows (refers row member)

theorem refers_part {reference : Row → Other} {ids : List Other} {rows part : List Row}
    (refers : Refers reference ids rows) (fewer : part ⊆ rows) : Refers reference ids part :=
  fun row member => refers row (fewer member)

theorem refers_append {reference : Row → Other} {ids : List Other} {rows : List Row}
    (refers : Refers reference ids rows) {fresh : Row} (stands : reference fresh ∈ ids) :
    Refers reference ids (rows ++ [fresh]) := by
  intro row member
  rcases List.mem_append.mp member with stored | isFresh
  · exact refers row stored
  · rw [List.mem_singleton.mp isFresh]
    exact stands

theorem refers_filter {Target : Type*} {reference : Row → Other} {identity : Target → Other}
    {targets : List Target} {rows part : List Row} {stays : Target → Bool}
    (refers : Refers reference (targets.map identity) rows)
    (left : ∀ row ∈ part, row ∈ rows ∧
      ∀ target ∈ targets, identity target = reference row → stays target = true) :
    Refers reference ((targets.filter stays).map identity) part := by
  intro row member
  obtain ⟨stored, remains⟩ := left row member
  obtain ⟨target, isTarget, same⟩ := List.mem_map.mp (refers row stored)
  exact List.mem_map.mpr
    ⟨target, List.mem_filter.mpr ⟨isTarget, remains target isTarget same⟩, same⟩

theorem unique_keys_filter {key : Row → Option Key} {rows : List Row}
    (unique : UniqueKeys key rows) (selects : Row → Bool) :
    UniqueKeys key (rows.filter selects) :=
  List.Pairwise.filter selects unique

theorem nodup_of_unique {identity : Row → Key} {rows : List Row}
    (unique : UniqueKeys (fun row => some (identity row)) rows) :
    (rows.map identity).Nodup := by
  refine List.pairwise_map.mpr (unique.imp ?_)
  rintro left right (absent | differ) same
  · cases absent
  · exact differ (congrArg some same)

variable [DecidableEq Key]

theorem part_ids {Part : Type*} {half : Part → Key} {identity : Row → Key} {parts : List Part}
    {rows : List Row} (paired : parts.map half = rows.map identity)
    (nodup : (rows.map identity).Nodup) (stays : Row → Bool) :
    (parts.filter fun part => decide (half part ∈ (rows.filter stays).map identity)).map half =
      (rows.filter stays).map identity := by
  have halves : (parts.filter fun part =>
      decide (half part ∈ (rows.filter stays).map identity)).map half =
        (parts.map half).filter fun id => decide (id ∈ (rows.filter stays).map identity) := by
    rw [List.filter_map]
    rfl
  rw [halves, paired, List.filter_map]
  apply congrArg (List.map identity)
  apply List.filter_congr
  intro row member
  rw [Function.comp_apply, Bool.eq_iff_iff, decide_eq_true_iff]
  constructor
  · intro listed
    obtain ⟨other, isOther, same⟩ := List.mem_map.mp listed
    obtain ⟨stored, remains⟩ := List.mem_filter.mp isOther
    rw [← List.inj_on_of_nodup_map nodup stored member same]
    exact remains
  · intro remains
    exact List.mem_map.mpr ⟨row, List.mem_filter.mpr ⟨member, remains⟩, rfl⟩

theorem refers_update {reference : Row → Other} {ids : List Other} {key : Row → Option Key}
    {rows : List Row} {value : Key} {change : Row → Row} (refers : Refers reference ids rows)
    (stands : ∀ row ∈ rows, reference (change row) ∈ ids) :
    Refers reference ids (updateKey key rows value change) := by
  intro row member
  obtain ⟨old, stored, same⟩ := mem_update_key.mp member
  rw [← same]
  split
  · exact stands old stored
  · exact refers old stored

theorem update_key_ids {identity : Row → Other} {key : Row → Option Key} {rows : List Row}
    {value : Key} (change : Row → Row) (keeps : ∀ row, identity (change row) = identity row) :
    (updateKey key rows value change).map identity = rows.map identity := by
  rw [updateKey, List.map_map]
  apply List.map_congr_left
  intro row _
  rw [Function.comp_apply]
  split
  · exact keeps row
  · rfl

theorem unique_keys_change {key : Row → Option Key} {index : Row → Option Other}
    {rows : List Row} {value : Key} {change : Row → Row} (keyed : UniqueKeys key rows)
    (unique : UniqueKeys index rows)
    (apart : ∀ row ∈ rows, key row = some value → ∀ other ∈ rows, key other ≠ some value →
      ∀ taken, index (change row) = some taken → index other ≠ some taken) :
    UniqueKeys index (updateKey key rows value change) := by
  refine List.pairwise_map.mpr ((keyed.and unique).imp_of_mem ?_)
  rintro left right leftMember rightMember ⟨keysApart, indexesApart⟩
  by_cases leftIs : key left = some value
  · have rightIsNot : key right ≠ some value := by
      rcases keysApart with absent | differ
      · cases absent.symm.trans leftIs
      · exact fun rightIs => differ (leftIs.trans rightIs.symm)
    rw [if_pos leftIs, if_neg rightIsNot]
    cases taken : index (change left) with
    | none => exact Or.inl rfl
    | some found =>
        exact Or.inr fun same => apart left leftMember leftIs right rightMember rightIsNot found
          taken same.symm
  · rw [if_neg leftIs]
    by_cases rightIs : key right = some value
    · rw [if_pos rightIs]
      cases stored : index left with
      | none => exact Or.inl rfl
      | some found =>
          exact Or.inr fun same => apart right rightMember rightIs left leftMember leftIs found
            same.symm stored
    · rw [if_neg rightIs]
      exact indexesApart

end LightbridgeAuthz.Library.References
