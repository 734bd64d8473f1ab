import Mathlib.Tactic.Common

/-!
# Range-checked integer columns

A database column of type `bigint` or `integer` refuses a value outside its
range instead of wrapping. A checked cast is exact or refuses; nothing is ever
truncated.
-/

namespace LightbridgeAuthz.Library.CheckedInt

set_option autoImplicit false

def toBigint (value : Int) : Option Int64 :=
  if Int64.minValue.toInt ≤ value ∧ value ≤ Int64.maxValue.toInt then
    some (Int64.ofInt value)
  else none

def toInteger (value : Int) : Option Int32 :=
  if Int32.minValue.toInt ≤ value ∧ value ≤ Int32.maxValue.toInt then
    some (Int32.ofInt value)
  else none

theorem to_bigint_some {value : Int} {column : Int64} :
    toBigint value = some column ↔ column.toInt = value := by
  unfold toBigint
  constructor
  · intro cast
    split_ifs at cast with inRange
    rw [← Option.some.inj cast]
    exact Int64.toInt_ofInt_of_le inRange.1 (by
      have bound := inRange.2
      have top : Int64.maxValue.toInt = 2 ^ 63 - 1 := by decide
      omega)
  · intro same
    have low := Int64.le_toInt column
    have high := Int64.toInt_lt column
    have inRange : Int64.minValue.toInt ≤ value ∧ value ≤ Int64.maxValue.toInt := by
      have bottom : Int64.minValue.toInt = -2 ^ 63 := by decide
      have top : Int64.maxValue.toInt = 2 ^ 63 - 1 := by decide
      omega
    rw [if_pos inRange, ← same, Int64.ofInt_toInt]

theorem to_bigint_cut {value : Int} (low : Int64.minValue.toInt ≤ value) :
    ((toBigint value).getD Int64.maxValue).toInt = min value Int64.maxValue.toInt := by
  by_cases high : value ≤ Int64.maxValue.toInt
  · have fits : toBigint value = some (Int64.ofInt value) := if_pos ⟨low, high⟩
    rw [fits, Option.getD_some, to_bigint_some.mp fits, Int.min_eq_left high]
  · have refused : toBigint value = none := if_neg fun inside => high inside.2
    rw [refused, Option.getD_none, Int.min_eq_right (by omega)]

theorem to_integer_some {value : Int} {column : Int32} :
    toInteger value = some column ↔ column.toInt = value := by
  unfold toInteger
  constructor
  · intro cast
    split_ifs at cast with inRange
    rw [← Option.some.inj cast]
    exact Int32.toInt_ofInt_of_le inRange.1 (by
      have bound := inRange.2
      have top : Int32.maxValue.toInt = 2 ^ 31 - 1 := by decide
      omega)
  · intro same
    have low := Int32.le_toInt column
    have high := Int32.toInt_lt column
    have inRange : Int32.minValue.toInt ≤ value ∧ value ≤ Int32.maxValue.toInt := by
      have bottom : Int32.minValue.toInt = -2 ^ 31 := by decide
      have top : Int32.maxValue.toInt = 2 ^ 31 - 1 := by decide
      omega
    rw [if_pos inRange, ← same, Int32.ofInt_toInt]

/-- Negation of a 64-bit value is exact except at the least value, which it
leaves as it is. -/
theorem neg_to_int {value : Int64} (notLeast : value ≠ Int64.minValue) :
    (-value).toInt = -value.toInt := by
  have low := Int64.le_toInt value
  have high := Int64.toInt_lt value
  have notBottom : value.toInt ≠ -2 ^ 63 := by
    intro bottom
    exact notLeast (Int64.toInt_inj.mp (by rw [bottom]; decide))
  rw [Int64.toInt_neg]
  apply Int.bmod_eq_of_le <;> omega

end LightbridgeAuthz.Library.CheckedInt
