import Mathlib.Data.List.Basic
import Mathlib.Tactic.Common

/-!
# Calls in slots

The calls of a service in their order of arrival: a call keeps its slot for ever,
an arrival takes the next one and a step replaces the call in one slot.
-/

namespace LightbridgeAuthz.Library.CallSlots

set_option autoImplicit false

variable {Call : Type*} {calls : List Call} {slot caller : Nat} {found old new : Call}

theorem slot_of_append (there : (calls ++ [new])[slot]? = some found) :
    calls[slot]? = some found ∨ found = new := by
  rw [List.getElem?_append] at there
  split_ifs at there
  · exact Or.inl there
  · exact Or.inr (List.mem_singleton.mp (List.mem_of_getElem? there))

theorem slot_of_set (there : (calls.set caller new)[slot]? = some found) :
    (slot = caller ∧ found = new) ∨ (slot ≠ caller ∧ calls[slot]? = some found) := by
  by_cases same : slot = caller
  · subst same
    have replaced : new = found := by
      rw [List.getElem?_set_self'] at there
      obtain ⟨_, _, isFound⟩ := Option.map_eq_some_iff.mp there
      exact isFound
    exact Or.inl ⟨rfl, replaced.symm⟩
  · rw [List.getElem?_set_ne (Ne.symm same)] at there
    exact Or.inr ⟨same, there⟩

theorem slot_append_of_some (was : calls[slot]? = some old) (new : Call) :
    (calls ++ [new])[slot]? = some old := by
  rw [List.getElem?_append_left (List.getElem?_eq_some_iff.mp was).1]
  exact was

theorem slot_set_of_some (was : calls[slot]? = some old) (caller : Nat) (new : Call) :
    (calls.set caller new)[slot]? = some (if slot = caller then new else old) := by
  split_ifs with same
  · subst same
    exact List.getElem?_set_self (List.getElem?_eq_some_iff.mp was).1
  · rw [List.getElem?_set_ne (Ne.symm same)]
    exact was

theorem count_set (was : calls[caller]? = some old) (new : Call) (selects : Call → Bool) :
    (calls.set caller new).countP selects + (if selects old then 1 else 0) =
      calls.countP selects + (if selects new then 1 else 0) := by
  induction calls generalizing caller with
  | nil => simp at was
  | cons head tail ih =>
      cases caller with
      | zero =>
          have isHead : head = old := by simpa using was
          subst isHead
          rw [List.set_cons_zero, List.countP_cons, List.countP_cons]
          omega
      | succ later =>
          have rest := ih (by simpa using was)
          rw [List.set_cons_succ, List.countP_cons, List.countP_cons]
          omega

end LightbridgeAuthz.Library.CallSlots
