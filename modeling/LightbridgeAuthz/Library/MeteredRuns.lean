import Mathlib.Tactic.Common

/-!
# Runs on a meter

A run spends units and ends in an outcome. Under a limit it is cut off at the
first unit beyond the limit, with an outcome of its own. A run that is counted
on a shared meter starts where the runs before it have left the meter.
-/

namespace LightbridgeAuthz.Library.MeteredRuns

set_option autoImplicit false

variable {Outcome : Type*}

/-- The run as it shows on a meter that stands at `spent`. -/
def cutOff (limit : Nat) (exceeded : Outcome) (spent : Nat) (run : Nat × Outcome) :
    Nat × Outcome :=
  if spent + run.1 ≤ limit then (spent + run.1, run.2) else (limit + 1, exceeded)

variable {limit spent units : Nat} {exceeded outcome : Outcome}

theorem cut_off_within (within : spent + units ≤ limit) :
    cutOff limit exceeded spent (units, outcome) = (spent + units, outcome) := by
  simp only [cutOff, if_pos within]

theorem cut_off_beyond (beyond : limit < spent + units) :
    cutOff limit exceeded spent (units, outcome) = (limit + 1, exceeded) := by
  simp only [cutOff, if_neg (Nat.not_le.mpr beyond)]

theorem cut_off_free (within : spent ≤ limit) :
    cutOff limit exceeded spent (0, outcome) = (spent, outcome) :=
  cut_off_within (by omega)

theorem cut_off_tick (within : spent ≤ limit) (run : Nat × Outcome) :
    (if limit < spent + 1 then (spent + 1, exceeded)
      else cutOff limit exceeded (spent + 1) run) =
        cutOff limit exceeded spent (run.1 + 1, run.2) := by
  by_cases beyond : limit < spent + 1
  · have last : limit = spent := by omega
    rw [if_pos beyond, cut_off_beyond (by omega), last]
  · rw [if_neg beyond]
    unfold cutOff
    have same : spent + 1 + run.1 = spent + (run.1 + 1) := by omega
    rw [same]

theorem cut_off_after (units : Nat) (run : Nat × Outcome) :
    cutOff limit exceeded (spent + units) run =
      cutOff limit exceeded spent (units + run.1, run.2) := by
  unfold cutOff
  have same : spent + units + run.1 = spent + (units + run.1) := by omega
  rw [same]

end LightbridgeAuthz.Library.MeteredRuns
