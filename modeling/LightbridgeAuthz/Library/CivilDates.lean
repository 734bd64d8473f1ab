import Mathlib.Order.Monotone.Basic
import Mathlib.Tactic.Common
import Mathlib.Tactic.IntervalCases

/-!
# Months of the Gregorian calendar

Months are numbered through from January of the year 0, in the proleptic
Gregorian calendar, and days from its first day. The first day of a month is the
sum of the months before it; the month of a day is found by taking months off.
A closed form of the first day, with years counted from March, agrees.
-/

namespace LightbridgeAuthz.Library.CivilDates

set_option autoImplicit false

def IsLeapYear (year : Nat) : Prop := year % 4 = 0 ∧ (year % 100 ≠ 0 ∨ year % 400 = 0)

instance (year : Nat) : Decidable (IsLeapYear year) := inferInstanceAs (Decidable (_ ∧ _))

def daysInMonth (year month : Nat) : Nat :=
  if month = 2 then if IsLeapYear year then 29 else 28
  else if month = 4 ∨ month = 6 ∨ month = 9 ∨ month = 11 then 30
  else 31

def monthNumber (year month : Nat) : Nat := 12 * year + (month - 1)

def yearOf (number : Nat) : Nat := number / 12

def monthOf (number : Nat) : Nat := number % 12 + 1

def monthLength (number : Nat) : Nat := daysInMonth (yearOf number) (monthOf number)

def daysBefore : Nat → Nat
  | 0 => 0
  | number + 1 => daysBefore number + monthLength number

/-- The month that is `day` days after the first of month `number`. -/
def monthFrom : Nat → Nat → Nat → Nat
  | 0, number, _ => number
  | fuel + 1, number, day =>
      if day < monthLength number then number
      else monthFrom fuel (number + 1) (day - monthLength number)

def monthOfDay (day : Nat) : Nat := monthFrom (day + 1) 0 day

theorem month_length_pos (number : Nat) : 0 < monthLength number := by
  unfold monthLength daysInMonth
  split_ifs <;> omega

theorem days_before_strict_mono : StrictMono daysBefore :=
  strictMono_nat_of_lt_succ fun number => by
    rw [daysBefore]
    exact Nat.lt_add_of_pos_right (month_length_pos number)

theorem month_from_spec {fuel : Nat} (number day : Nat) (enough : day < fuel) :
    daysBefore (monthFrom fuel number day) ≤ daysBefore number + day ∧
      daysBefore number + day < daysBefore (monthFrom fuel number day + 1) := by
  induction fuel generalizing number day with
  | zero => omega
  | succ fuel ih =>
      rw [monthFrom]
      split_ifs with within
      · rw [daysBefore]
        omega
      · have positive := month_length_pos number
        have later := ih (number + 1) (day - monthLength number) (by omega)
        rw [daysBefore] at later
        omega

theorem month_of_day_spec (day : Nat) :
    daysBefore (monthOfDay day) ≤ day ∧ day < daysBefore (monthOfDay day + 1) := by
  have found := month_from_spec 0 day (Nat.lt_succ_self day)
  rw [daysBefore, Nat.zero_add] at found
  exact found

theorem month_of_day_iff {day number : Nat} :
    monthOfDay day = number ↔ daysBefore number ≤ day ∧ day < daysBefore (number + 1) := by
  obtain ⟨reached, notNext⟩ := month_of_day_spec day
  constructor
  · rintro rfl
    exact ⟨reached, notNext⟩
  · rintro ⟨since, before⟩
    have notLater := days_before_strict_mono.lt_iff_lt.mp (Nat.lt_of_le_of_lt reached before)
    have notEarlier := days_before_strict_mono.lt_iff_lt.mp (Nat.lt_of_le_of_lt since notNext)
    omega

/-- The first day of a month, with the leap day at the end of a year that is
counted from March. -/
def closedForm (year month : Nat) : Int :=
  let marchYear : Int := if month ≤ 2 then (year : Int) - 1 else year
  let marchMonth : Int := if month ≤ 2 then (month : Int) + 9 else (month : Int) - 3
  let leapDays := marchYear / 4 - marchYear / 100 + marchYear / 400
  365 * marchYear + leapDays + (153 * marchMonth + 2) / 5 + 60

theorem leap_days_of_year (year : Nat) :
    (year : Int) / 4 - (year : Int) / 100 + (year : Int) / 400 =
      (((year : Int) - 1) / 4 - ((year : Int) - 1) / 100 + ((year : Int) - 1) / 400) +
        (daysInMonth year 2 - 28) := by
  rw [daysInMonth, if_pos rfl]
  split_ifs with leap
  · obtain ⟨fourth, hundredth | fourHundredth⟩ := leap
    · omega
    · omega
  · have ordinary : year % 4 = 0 → year % 100 = 0 ∧ year % 400 ≠ 0 := by
      intro fourth
      unfold IsLeapYear at leap
      omega
    by_cases fourth : year % 4 = 0
    · have century := ordinary fourth
      omega
    · omega

theorem closed_form_next_month {year month : Nat} (lower : 1 ≤ month) (upper : month < 12) :
    closedForm year (month + 1) = closedForm year month + daysInMonth year month := by
  by_cases february : month = 2
  · have leapDays := leap_days_of_year year
    subst february
    simp only [closedForm]
    norm_num
    omega
  · unfold closedForm daysInMonth
    interval_cases month <;> simp at february ⊢ <;> omega

theorem closed_form_next_year (year : Nat) :
    closedForm (year + 1) 1 = closedForm year 12 + daysInMonth year 12 := by
  unfold closedForm daysInMonth
  simp
  omega

theorem closed_form_eq (number : Nat) :
    closedForm (yearOf number) (monthOf number) = daysBefore number := by
  induction number with
  | zero => rfl
  | succ number ih =>
      rw [daysBefore, Int.natCast_add, ← ih, monthLength]
      by_cases last : monthOf number = 12
      · have year : yearOf (number + 1) = yearOf number + 1 := by
          unfold yearOf monthOf at *
          omega
        have month : monthOf (number + 1) = 1 := by
          unfold monthOf at *
          omega
        rw [year, month, last]
        exact closed_form_next_year (yearOf number)
      · have year : yearOf (number + 1) = yearOf number := by
          unfold yearOf monthOf at *
          omega
        have month : monthOf (number + 1) = monthOf number + 1 := by
          unfold monthOf at *
          omega
        rw [year, month]
        exact closed_form_next_month (by unfold monthOf; omega) (by unfold monthOf at *; omega)

end LightbridgeAuthz.Library.CivilDates
