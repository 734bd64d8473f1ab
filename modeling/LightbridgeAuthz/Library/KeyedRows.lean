import Mathlib.Data.List.Basic
import Mathlib.Tactic.Common

/-!
# Tables with unique keys

A table is a list of rows in insertion order. A unique index is a projection
to an optional key: `none` is SQL's NULL, which never collides, so one
definition covers primary keys, unique columns and partial unique indexes.
-/

namespace LightbridgeAuthz.Library.KeyedRows

set_option autoImplicit false

variable {Row Key : Type*} [DecidableEq Key] {key : Row → Option Key}

def UniqueKeys (key : Row → Option Key) (rows : List Row) : Prop :=
  rows.Pairwise fun left right => key left = none ∨ key left ≠ key right

instance (key : Row → Option Key) (rows : List Row) : Decidable (UniqueKeys key rows) :=
  inferInstanceAs (Decidable (rows.Pairwise _))

def findKey (key : Row → Option Key) (rows : List Row) (value : Key) : Option Row :=
  rows.find? fun row => key row = some value

/-- Whether a row about to be inserted under `value` meets a stored row. NULL
meets nothing. -/
def conflicts (key : Row → Option Key) (rows : List Row) (value : Option Key) : Bool :=
  match value with
  | none => false
  | some present => (findKey key rows present).isSome

/-- `UPDATE … WHERE key = value`. -/
def updateKey (key : Row → Option Key) (rows : List Row) (value : Key) (change : Row → Row) :
    List Row :=
  rows.map fun row => if key row = some value then change row else row

theorem find_key_some {rows : List Row} {value : Key} {row : Row}
    (found : findKey key rows value = some row) : row ∈ rows ∧ key row = some value := by
  refine ⟨List.mem_of_find?_eq_some found, ?_⟩
  simpa using List.find?_some found

theorem find_key_none {rows : List Row} {value : Key} :
    findKey key rows value = none ↔ ∀ row ∈ rows, key row ≠ some value := by
  simp [findKey, List.find?_eq_none]

theorem apart_of_not_conflicts {rows : List Row} {value : Option Key}
    (clear : ¬ conflicts key rows value = true) :
    ∀ present, value = some present → ∀ row ∈ rows, key row ≠ some present := by
  intro present isPresent
  subst isPresent
  exact find_key_none.mp (by simpa [conflicts] using clear)

theorem conflicts_false_iff {rows : List Row} {value : Key} :
    conflicts key rows (some value) = false ↔ ∀ row ∈ rows, key row ≠ some value := by
  rw [← find_key_none, conflicts, Option.isSome_eq_false_iff, Option.isNone_iff_eq_none]

theorem conflicts_true {rows : List Row} {value : Option Key}
    (conflict : conflicts key rows value = true) :
    ∃ present row, value = some present ∧ findKey key rows present = some row := by
  cases value with
  | none => simp [conflicts] at conflict
  | some present =>
      obtain ⟨row, found⟩ := Option.isSome_iff_exists.mp conflict
      exact ⟨present, row, rfl, found⟩

theorem find_key_of_mem {rows : List Row} {value : Key} {row : Row}
    (member : row ∈ rows) (holds : key row = some value) :
    ∃ found, findKey key rows value = some found := by
  cases search : findKey key rows value with
  | none => exact absurd holds (find_key_none.mp search row member)
  | some found => exact ⟨found, rfl⟩

omit [DecidableEq Key] in
theorem unique_keys_eq {rows : List Row} (unique : UniqueKeys key rows) {value : Key}
    {left right : Row} (leftMember : left ∈ rows) (rightMember : right ∈ rows)
    (leftKey : key left = some value) (rightKey : key right = some value) : left = right := by
  induction rows with
  | nil => simp at leftMember
  | cons head tail ih =>
      obtain ⟨headApart, tailUnique⟩ := List.pairwise_cons.mp unique
      rcases List.mem_cons.mp leftMember with leftHead | leftTail
      · rcases List.mem_cons.mp rightMember with rightHead | rightTail
        · rw [leftHead, rightHead]
        · subst leftHead
          have apart := headApart right rightTail
          simp [leftKey, rightKey] at apart
      · rcases List.mem_cons.mp rightMember with rightHead | rightTail
        · subst rightHead
          have apart := headApart left leftTail
          simp [leftKey, rightKey] at apart
        · exact ih tailUnique leftTail rightTail

theorem find_key_eq_of_unique {rows : List Row} (unique : UniqueKeys key rows) {value : Key}
    {row : Row} (member : row ∈ rows) (holds : key row = some value) :
    findKey key rows value = some row := by
  obtain ⟨found, search⟩ := find_key_of_mem member holds
  obtain ⟨foundMember, foundKey⟩ := find_key_some search
  rw [search, unique_keys_eq unique foundMember member foundKey holds]

omit [DecidableEq Key] in
theorem unique_keys_nil : UniqueKeys key ([] : List Row) := List.Pairwise.nil

omit [DecidableEq Key] in
theorem unique_keys_append {rows : List Row} (unique : UniqueKeys key rows) {fresh : Row}
    (apart : ∀ value, key fresh = some value → ∀ row ∈ rows, key row ≠ some value) :
    UniqueKeys key (rows ++ [fresh]) := by
  refine List.pairwise_append.mpr ⟨unique, List.pairwise_singleton _ _, ?_⟩
  intro row member other otherMember
  have same : other = fresh := by simpa using otherMember
  subst same
  cases rowKey : key row with
  | none => exact Or.inl rfl
  | some value =>
      refine Or.inr fun equal => ?_
      exact apart value equal.symm row member rowKey

omit [DecidableEq Key] in
theorem unique_keys_map {rows : List Row} (unique : UniqueKeys key rows) {change : Row → Row}
    (keeps : ∀ row, key (change row) = key row) : UniqueKeys key (rows.map change) := by
  refine List.pairwise_map.mpr (unique.imp ?_)
  intro left right apart
  simpa only [keeps] using apart

theorem unique_keys_update {Other : Type*} {other : Row → Option Other} {rows : List Row}
    (unique : UniqueKeys other rows) {value : Key} {change : Row → Row}
    (keeps : ∀ row, other (change row) = other row) :
    UniqueKeys other (updateKey key rows value change) := by
  apply unique_keys_map unique
  intro row
  split_ifs
  · exact keeps row
  · rfl

omit [DecidableEq Key] in
theorem count_le_one_of_unique {rows : List Row} (unique : UniqueKeys key rows) {value : Key}
    {selects : Row → Bool} (keyed : ∀ row, selects row = true → key row = some value) :
    rows.countP selects ≤ 1 := by
  induction rows with
  | nil => simp
  | cons head tail ih =>
      obtain ⟨headApart, tailUnique⟩ := List.pairwise_cons.mp unique
      by_cases hit : selects head = true
      · have noOther : tail.countP selects = 0 := by
          apply List.countP_eq_zero.mpr
          intro row member otherHit
          have apart := headApart row member
          simp [keyed head hit, keyed row otherHit] at apart
        simp [hit, noOther]
      · rw [List.countP_cons_of_neg hit]
        exact ih tailUnique

omit [DecidableEq Key] in
theorem count_eq_one_iff_exists {rows : List Row} (unique : UniqueKeys key rows) {value : Key}
    {selects : Row → Bool} (keyed : ∀ row, selects row = true → key row = some value) :
    rows.countP selects = 1 ↔ ∃ row ∈ rows, selects row = true := by
  have atMost := count_le_one_of_unique unique keyed
  have positive : 0 < rows.countP selects ↔ ∃ row ∈ rows, selects row = true :=
    List.countP_pos_iff
  rw [← positive]
  omega

theorem find_key_append {rows : List Row} {value : Key} {fresh : Row} :
    findKey key (rows ++ [fresh]) value =
      (findKey key rows value).or (if key fresh = some value then some fresh else none) := by
  by_cases same : key fresh = some value <;> simp [findKey, List.find?_append, same]

theorem find_key_update_same {rows : List Row} {value : Key} (change : Row → Row) {old : Row}
    (found : findKey key rows value = some old) (keyed : key (change old) = some value) :
    findKey key (updateKey key rows value change) value = some (change old) := by
  induction rows with
  | nil => simp [findKey] at found
  | cons head tail ih =>
      by_cases same : key head = some value
      · have isHead : head = old := by simpa [findKey, same] using found
        rw [← isHead] at keyed ⊢
        simp [findKey, updateKey, same, keyed]
      · have later : findKey key tail value = some old := by
          simpa [findKey, same] using found
        have found := ih later
        simpa [findKey, updateKey, same] using found

theorem find_key_update_other {rows : List Row} {value other : Key} {change : Row → Row}
    (keyed : ∀ row ∈ rows, key row = some value → key (change row) = some value)
    (different : other ≠ value) :
    findKey key (updateKey key rows value change) other = findKey key rows other := by
  induction rows with
  | nil => rfl
  | cons head tail ih =>
      have rest := ih fun row member => keyed row (List.mem_cons_of_mem _ member)
      unfold findKey updateKey at rest ⊢
      by_cases same : key head = some value
      · have changedKey := keyed head List.mem_cons_self same
        simp [same, changedKey, different.symm, rest]
      · by_cases hit : key head = some other
        · simp [hit, different]
        · simp [same, hit, rest]

theorem find_key_append_of_some {rows : List Row} {value : Key} {row fresh : Row}
    (found : findKey key rows value = some row) :
    findKey key (rows ++ [fresh]) value = some row := by
  rw [find_key_append, found]
  rfl

/-- After an update that keeps the keys, a lookup finds the row it found before,
or the changed one: either way a row related to it. -/
theorem find_key_update_related (related : Row → Row → Prop) (refl : ∀ row, related row row)
    {rows : List Row} {target : Key} (change : Row → Row)
    (keeps : ∀ row, key (change row) = key row)
    (changed : ∀ row, findKey key rows target = some row → related row (change row))
    {value : Key} {row : Row} (found : findKey key rows value = some row) :
    ∃ later, findKey key (updateKey key rows target change) value = some later ∧
      related row later := by
  by_cases same : value = target
  · subst same
    have keyed : key (change row) = some value := by
      rw [keeps row]
      exact (find_key_some found).2
    exact ⟨change row, find_key_update_same change found keyed, changed row found⟩
  · refine ⟨row, ?_, refl row⟩
    rw [find_key_update_other _ same]
    · exact found
    · intro other _ keyed
      rw [keeps other]
      exact keyed

theorem mem_update_related (related : Row → Row → Prop) (refl : ∀ row, related row row)
    {rows : List Row} {value : Key} {change : Row → Row}
    (changed : ∀ row ∈ rows, key row = some value → related row (change row))
    {later : Row} (member : later ∈ updateKey key rows value change) :
    ∃ row ∈ rows, related row later := by
  obtain ⟨row, stored, isLater⟩ := List.mem_map.mp member
  subst isLater
  split
  · rename_i target
    exact ⟨row, stored, changed row stored target⟩
  · exact ⟨row, stored, refl row⟩

theorem count_update_le {rows : List Row} {value : Key} {change : Row → Row}
    {selects : Row → Bool} (narrows : ∀ row, selects (change row) = true → selects row = true) :
    (updateKey key rows value change).countP selects ≤ rows.countP selects := by
  unfold updateKey
  rw [List.countP_map]
  apply List.countP_mono_left
  intro row _ selected
  simp only [Function.comp_apply] at selected
  split_ifs at selected
  · exact narrows row selected
  · exact selected

theorem update_key_of_apart {rows : List Row} {value : Key} (change : Row → Row)
    (apart : ∀ row ∈ rows, key row ≠ some value) : updateKey key rows value change = rows := by
  unfold updateKey
  calc rows.map (fun row => if key row = some value then change row else row)
      = rows.map id := List.map_congr_left fun row member => if_neg (apart row member)
    _ = rows := List.map_id rows

theorem count_update_key {rows : List Row} (unique : UniqueKeys key rows) {value : Key}
    {row : Row} (found : findKey key rows value = some row) (change : Row → Row)
    (selects : Row → Bool) :
    (updateKey key rows value change).countP selects + (if selects row then 1 else 0) =
      rows.countP selects + (if selects (change row) then 1 else 0) := by
  induction rows with
  | nil => simp [findKey] at found
  | cons head tail ih =>
      obtain ⟨headApart, tailUnique⟩ := List.pairwise_cons.mp unique
      by_cases same : key head = some value
      · have isHead : head = row := by simpa [findKey, same] using found
        subst isHead
        have apart : ∀ other ∈ tail, key other ≠ some value := by
          intro other member keyed
          have different := headApart other member
          simp [same, keyed] at different
        have untouched := update_key_of_apart change apart
        unfold updateKey at untouched ⊢
        rw [List.map_cons, if_pos same, untouched, List.countP_cons, List.countP_cons]
        omega
      · have later : findKey key tail value = some row := by
          simpa [findKey, same] using found
        have rest := ih tailUnique later
        unfold updateKey at rest ⊢
        rw [List.map_cons, if_neg same, List.countP_cons, List.countP_cons]
        omega

theorem mem_update_key {rows : List Row} {value : Key} {change : Row → Row} {row : Row} :
    row ∈ updateKey key rows value change ↔
      ∃ old ∈ rows, (if key old = some value then change old else old) = row := by
  simp [updateKey]

theorem find_key_filter {rows : List Row} {value : Key} {selects : Row → Bool}
    (inside : ∀ row ∈ rows, key row = some value → selects row = true) :
    findKey key (rows.filter selects) value = findKey key rows value := by
  induction rows with
  | nil => rfl
  | cons head tail ih =>
      have rest := ih fun row member => inside row (List.mem_cons_of_mem _ member)
      unfold findKey at rest ⊢
      by_cases hit : key head = some value
      · have selected := inside head List.mem_cons_self hit
        simp [hit, selected]
      · cases selected : selects head with
        | true => simpa [selected, hit] using rest
        | false => simpa [selected, hit] using rest

/-- Where the key decides which rows are in a part of the table, a lookup in the part
is the lookup in the table, or finds nothing. -/
theorem find_key_part {rows : List Row} {value : Key} {selects : Row → Bool} (side : Bool)
    (decides : ∀ row ∈ rows, key row = some value → selects row = side) :
    findKey key (rows.filter selects) value = if side then findKey key rows value else none := by
  cases side with
  | true => exact find_key_filter decides
  | false =>
      apply find_key_none.mpr
      intro row member hit
      obtain ⟨stored, selected⟩ := List.mem_filter.mp member
      rw [decides row stored hit] at selected
      cases selected

theorem conflicts_filter {rows : List Row} {value : Option Key} {selects : Row → Bool}
    (inside : ∀ present, value = some present → ∀ row ∈ rows, key row = some present →
      selects row = true) :
    conflicts key (rows.filter selects) value = conflicts key rows value := by
  cases value with
  | none => rfl
  | some present => simp only [conflicts, find_key_filter (inside present rfl)]

theorem update_key_filter {rows : List Row} {value : Key} {change : Row → Row}
    {selects : Row → Bool}
    (keeps : ∀ row ∈ rows, key row = some value → selects (change row) = selects row) :
    (updateKey key rows value change).filter selects =
      updateKey key (rows.filter selects) value change := by
  induction rows with
  | nil => rfl
  | cons head tail ih =>
      have rest := ih fun row member => keeps row (List.mem_cons_of_mem _ member)
      unfold updateKey at rest ⊢
      by_cases hit : key head = some value
      · have same := keeps head List.mem_cons_self hit
        cases selected : selects head with
        | true => simp [hit, same, selected, rest]
        | false => simp [hit, same, selected, rest]
      · cases selected : selects head with
        | true => simp [hit, selected, rest]
        | false => simp [hit, selected, rest]

theorem update_key_filter_outside {rows : List Row} {value : Key} {change : Row → Row}
    {selects : Row → Bool}
    (outside : ∀ row ∈ rows, key row = some value → selects row = false)
    (stays : ∀ row ∈ rows, key row = some value → selects (change row) = false) :
    (updateKey key rows value change).filter selects = rows.filter selects := by
  rw [update_key_filter]
  · apply update_key_of_apart
    intro row member hit
    obtain ⟨stored, selected⟩ := List.mem_filter.mp member
    rw [outside row stored hit] at selected
    cases selected
  · intro row member hit
    rw [outside row member hit, stays row member hit]

end LightbridgeAuthz.Library.KeyedRows
