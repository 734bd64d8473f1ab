import Mathlib.Algebra.BigOperators.Group.List.Basic
import Mathlib.Data.List.Dedup

/-!
# Sums by group

Rows are grouped by a key and each group is summed. Every row is in one group, so
groups whose keys become the same under a coarser key add up to its group.
-/

namespace LightbridgeAuthz.Library.GroupedSums

set_option autoImplicit false

variable {Row Key Coarse Total : Type*} [DecidableEq Key] [DecidableEq Coarse]
  [AddCommMonoid Total]

def groupTotal (rows : List Row) (key : Row → Key) (value : Row → Total) (group : Key) : Total :=
  ((rows.filter fun row => key row = group).map value).sum

theorem sum_at_key {keys : List Key} (distinct : keys.Nodup) (key : Key) (value : Total) :
    (keys.map fun group => if key = group then value else 0).sum =
      if key ∈ keys then value else 0 := by
  induction keys with
  | nil => simp
  | cons first rest ih =>
      obtain ⟨absent, later⟩ := List.nodup_cons.mp distinct
      rw [List.map_cons, List.sum_cons, ih later]
      by_cases here : key = first
      · rw [if_pos here, here, if_neg absent, if_pos List.mem_cons_self, add_zero]
      · rw [if_neg here, zero_add]
        simp only [List.mem_cons, here, false_or]

theorem sum_of_groups {keys : List Key} (distinct : keys.Nodup) (rows : List Row)
    (key : Row → Key) (value : Row → Total) :
    (keys.map (groupTotal rows key value)).sum =
      ((rows.filter fun row => key row ∈ keys).map value).sum := by
  induction rows with
  | nil =>
      have none : groupTotal ([] : List Row) key value = fun _ => 0 := rfl
      rw [none]
      simp
  | cons row rest ih =>
      have first : ∀ group, groupTotal (row :: rest) key value group =
          (if key row = group then value row else 0) + groupTotal rest key value group := by
        intro group
        unfold groupTotal
        by_cases here : key row = group
        · rw [List.filter_cons_of_pos (by simpa using here), List.map_cons, List.sum_cons,
            if_pos here]
        · rw [List.filter_cons_of_neg (by simpa using here), if_neg here, zero_add]
      rw [funext first, List.sum_map_add, ih, sum_at_key distinct]
      by_cases listed : key row ∈ keys
      · rw [if_pos listed, List.filter_cons_of_pos (by simpa using listed), List.map_cons,
          List.sum_cons]
      · rw [if_neg listed, List.filter_cons_of_neg (by simpa using listed), zero_add]

theorem coarse_group_total {keys : List Key} (distinct : keys.Nodup) {rows : List Row}
    {key : Row → Key} (listed : ∀ row ∈ rows, key row ∈ keys) (value : Row → Total)
    (coarsen : Key → Coarse) (group : Coarse) :
    ((keys.filter fun fine => coarsen fine = group).map (groupTotal rows key value)).sum =
      groupTotal rows (fun row => coarsen (key row)) value group := by
  rw [sum_of_groups (distinct.filter _), groupTotal]
  congr 2
  apply List.filter_congr
  intro row member
  simp only [List.mem_filter, listed row member, true_and, decide_eq_true_eq]

theorem length_filter_key {keys : List Key} (distinct : keys.Nodup) {key : Key}
    (member : key ∈ keys) : (keys.filter fun group => key = group).length = 1 := by
  have counted := List.count_eq_one_of_mem distinct member
  rw [List.count, List.countP_eq_length_filter] at counted
  rw [← counted]
  congr 2
  funext group
  rw [Bool.eq_iff_iff, decide_eq_true_eq, beq_iff_eq]
  exact eq_comm

end LightbridgeAuthz.Library.GroupedSums
