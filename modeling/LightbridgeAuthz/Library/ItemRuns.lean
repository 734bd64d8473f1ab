import Mathlib.Data.List.TakeWhile

/-!
# Runs of items

A text that is put together from runs is taken apart again where each run ends
before an item that is not in it.
-/

namespace LightbridgeAuthz.Library.ItemRuns

set_option autoImplicit false

variable {Item : Type*} {inRun : Item → Bool}

/-- No run goes on in `rest`. -/
def Stops (inRun : Item → Bool) (rest : List Item) : Prop :=
  ∀ item ∈ rest.head?, inRun item = false

theorem stops_append {front rest : List Item} (some : front ≠ [])
    (outside : ∀ item ∈ front, inRun item = false) : Stops inRun (front ++ rest) := by
  intro item isHead
  cases front with
  | nil => exact absurd rfl some
  | cons first others =>
      obtain rfl := Option.some.inj isHead
      exact outside first List.mem_cons_self

theorem take_run {run rest : List Item} (inside : ∀ item ∈ run, inRun item = true)
    (stops : Stops inRun rest) : (run ++ rest).takeWhile inRun = run := by
  rw [List.takeWhile_append_of_pos inside]
  cases rest with
  | nil => exact List.append_nil run
  | cons item others =>
      rw [List.takeWhile_cons, stops item rfl]
      exact List.append_nil run

theorem drop_run {run rest : List Item} (inside : ∀ item ∈ run, inRun item = true)
    (stops : Stops inRun rest) : (run ++ rest).dropWhile inRun = rest := by
  rw [List.dropWhile_append_of_pos inside]
  cases rest with
  | nil => rfl
  | cons item others =>
      rw [List.dropWhile_cons, stops item rfl]
      rfl

def strip (inRun : Item → Bool) (text : List Item) : List Item :=
  ((text.dropWhile inRun).reverse.dropWhile inRun).reverse

theorem mem_of_take_run {text : List Item} {item : Item} (member : item ∈ text.takeWhile inRun) :
    inRun item = true := List.mem_takeWhile_imp member

theorem exists_strip (inRun : Item → Bool) (text : List Item) :
    ∃ lead trail, text = lead ++ (strip inRun text ++ trail) ∧
      (∀ item ∈ lead, inRun item = true) ∧ ∀ item ∈ trail, inRun item = true := by
  refine ⟨text.takeWhile inRun, ((text.dropWhile inRun).reverse.takeWhile inRun).reverse, ?_,
    fun item member => mem_of_take_run member,
    fun item member => mem_of_take_run (List.mem_reverse.mp member)⟩
  rw [strip, ← List.reverse_append, List.takeWhile_append_dropWhile, List.reverse_reverse,
    List.takeWhile_append_dropWhile]

theorem strip_between {lead core trail : List Item} (before : ∀ item ∈ lead, inRun item = true)
    (begins : Stops inRun core) (ends : Stops inRun core.reverse) (some : core ≠ [])
    (after : ∀ item ∈ trail, inRun item = true) :
    strip inRun (lead ++ (core ++ trail)) = core := by
  have begun : Stops inRun (core ++ trail) := by
    intro item isHead
    cases core with
    | nil => exact absurd rfl some
    | cons first others => exact begins item isHead
  rw [strip, drop_run before begun, List.reverse_append,
    drop_run (fun item member => after item (List.mem_reverse.mp member)) ends,
    List.reverse_reverse]

end LightbridgeAuthz.Library.ItemRuns
