import LightbridgeAuthz.Library.CivilDates
import LightbridgeAuthz.Budget.RefillProcedure
import LightbridgeAuthz.Budget.TierStamp

/-!
# Periods and the time line

A period is a text of four and two digits; the months it stands for follow each
other without a gap, in the order of the texts, and the period of an instant is
the one whose bounds hold it. Both readings of the calendar, `monthStart` for
`NaiveDate::from_ymd_opt` and `utcMonth` for `Datelike` on `Utc`, stand for chrono's
proleptic Gregorian calendar. The one period that has no predecessor is the
first, `0000-01`: the subtraction of its year underflows, and panics or wraps
around to a text that is no period.
-/

namespace LightbridgeAuthz.Budget.PeriodTiling

open Library.CivilDates
open Domain RefillProcedure TierStamp
open Sessions.RefreshTokens (parseDigits)

set_option autoImplicit false

section Texts

/-- `format!("{year:04}-{month:02}")`, whatever the year. -/
def ymdText (year month : Nat) : String := zeroPadded 4 year ++ "-" ++ zeroPadded 2 month

/-- The text that `Period::previous` builds; `none` is a panic. The year is a
`u32`, whose underflow panics only in a build with overflow checks. -/
def previousText (overflowChecks : Bool) (period : Period) : Option String :=
  if Period.month period = 1 then
    if Period.year period = 0 ∧ overflowChecks = true then none
    else some (ymdText (UInt32.ofNat (Period.year period) - 1).toNat 12)
  else some (ymdText (Period.year period) (Period.month period - 1))

def ofCalendar (calendar : CalendarMonth) : Period :=
  ⟨calendar.text, calendar_text_well_formed calendar⟩

theorem calendar_text_list (calendar : CalendarMonth) :
    calendar.text.toList =
      [(calendar.year / 1000).digitChar, (calendar.year / 100 % 10).digitChar,
        (calendar.year / 10 % 10).digitChar, (calendar.year % 10).digitChar, '-',
        (calendar.month / 10).digitChar, (calendar.month % 10).digitChar] :=
  String.toList_ofList

theorem zero_padded_list (width value : Nat) :
    (zeroPadded width value).toList =
      List.replicate (width - (Nat.toDigits 10 value).length) '0' ++ Nat.toDigits 10 value :=
  String.toList_ofList

theorem zero_padded_succ {width : Nat} (positive : 0 < width) (value : Nat) :
    (zeroPadded (width + 1) value).toList =
      (zeroPadded width (value / 10)).toList ++ [(value % 10).digitChar] := by
  rw [zero_padded_list, zero_padded_list]
  by_cases small : value < 10
  · have tens : value / 10 = 0 := by omega
    have units : value % 10 = value := by omega
    have zeros : List.replicate (width - ['0'].length) '0' ++ ['0'] = List.replicate width '0' := by
      obtain ⟨rest, rfl⟩ : ∃ rest, width = rest + 1 := ⟨width - 1, by omega⟩
      exact List.replicate_succ'.symm
    rw [tens, units, Nat.toDigits_of_lt_base small, Nat.toDigits_zero, zeros]
    rfl
  · rw [Nat.toDigits_of_base_le (by omega) (by omega), List.length_append, List.append_assoc,
      List.length_singleton, Nat.add_sub_add_right]

theorem zero_padded_digit {value : Nat} (bound : value < 10) :
    (zeroPadded 1 value).toList = [value.digitChar] := by
  rw [zero_padded_list, Nat.toDigits_of_lt_base bound]
  rfl

theorem ymd_text_eq (calendar : CalendarMonth) :
    ymdText calendar.year calendar.month = calendar.text := by
  have year := calendar.yearBound
  have month := calendar.monthUpper
  have years : (zeroPadded 4 calendar.year).toList =
      [(calendar.year / 1000).digitChar, (calendar.year / 100 % 10).digitChar,
        (calendar.year / 10 % 10).digitChar, (calendar.year % 10).digitChar] := by
    have hundreds : calendar.year / 10 / 10 = calendar.year / 100 := by omega
    have thousands : calendar.year / 100 / 10 = calendar.year / 1000 := by omega
    rw [zero_padded_succ (by omega), zero_padded_succ (by omega), zero_padded_succ (by omega),
      hundreds, thousands, zero_padded_digit (by omega)]
    rfl
  have months : (zeroPadded 2 calendar.month).toList =
      [(calendar.month / 10).digitChar, (calendar.month % 10).digitChar] := by
    rw [zero_padded_succ (by omega), zero_padded_digit (by omega)]
    rfl
  rw [← String.toList_inj, ymdText, String.toList_append, String.toList_append, years, months,
    calendar_text_list]
  rfl

theorem parse_digit_chars {digits : List Nat} (given : digits ≠ [])
    (bounded : ∀ digit ∈ digits, digit < 10) :
    parseDigits (digits.map Nat.digitChar) =
      some (digits.foldl (fun value digit => 10 * value + digit) 0) := by
  have allDigits : (digits.map Nat.digitChar).all Char.isDigit = true := by
    rw [List.all_map, List.all_eq_true]
    exact fun digit member => digit_char_is_digit digit (bounded digit member)
  have values : ∀ start, (digits.map Nat.digitChar).foldl
      (fun value digit => 10 * value + (digit.toNat - '0'.toNat)) start =
        digits.foldl (fun value digit => 10 * value + digit) start := by
    clear given allDigits
    induction digits with
    | nil => exact fun start => rfl
    | cons digit rest ih =>
        intro start
        have later := ih fun other member => bounded other (List.mem_cons_of_mem _ member)
        rw [List.map_cons, List.foldl_cons, List.foldl_cons, later,
          digit_char_value digit (bounded digit List.mem_cons_self)]
  rw [parseDigits, if_pos ⟨by simpa using given, allDigits⟩, values 0]

theorem read_calendar (calendar : CalendarMonth) :
    Period.year (ofCalendar calendar) = calendar.year ∧
      Period.month (ofCalendar calendar) = calendar.month := by
  have yearBound := calendar.yearBound
  have monthBound := calendar.monthUpper
  have text : (ofCalendar calendar).text.toList =
      [calendar.year / 1000, calendar.year / 100 % 10, calendar.year / 10 % 10,
        calendar.year % 10].map Nat.digitChar ++
      '-' :: [calendar.month / 10, calendar.month % 10].map Nat.digitChar :=
    calendar_text_list calendar
  constructor
  · rw [Period.year, text]
    show (parseDigits ([calendar.year / 1000, calendar.year / 100 % 10, calendar.year / 10 % 10,
      calendar.year % 10].map Nat.digitChar)).getD 0 = calendar.year
    rw [parse_digit_chars (by simp) (by simp; omega)]
    simp only [List.foldl_cons, List.foldl_nil, Option.getD_some]
    omega
  · rw [Period.month, text]
    show (parseDigits ([calendar.month / 10, calendar.month % 10].map Nat.digitChar)).getD 0 =
      calendar.month
    rw [parse_digit_chars (by simp) (by simp; omega)]
    simp only [List.foldl_cons, List.foldl_nil, Option.getD_some]
    omega

theorem digit_of_is_digit {char : Char} (isDigit : char.isDigit = true) :
    ∃ digit < 10, char = Nat.digitChar digit := by
  have bounds : 48 ≤ char.toNat ∧ char.toNat ≤ 57 := by
    simpa [Char.isDigit, UInt32.le_iff_toNat_le] using isDigit
  refine ⟨char.toNat - 48, by omega, ?_⟩
  have written : ∀ code < 10, Char.ofNat (48 + code) = Nat.digitChar code := by decide
  have same := written (char.toNat - 48) (by omega)
  rw [Nat.add_sub_cancel' bounds.1, Char.ofNat_toNat] at same
  exact same

theorem eq_of_calendar (period : Period) : ∃ calendar, period = ofCalendar calendar := by
  obtain ⟨text, wellFormed⟩ := period
  have parsed := wellFormed
  unfold wellFormedPeriod at parsed
  split at parsed
  · rename_i y₁ y₂ y₃ y₄ dash m₁ m₂ chars
    simp only [Bool.and_eq_true, beq_iff_eq, List.all_cons, List.all_nil, decide_eq_true_eq]
      at parsed
    obtain ⟨⟨rfl, thousand, hundred, ten, one, tens, units, -⟩, lower, upper⟩ := parsed
    obtain ⟨a, aBound, rfl⟩ := digit_of_is_digit thousand
    obtain ⟨b, bBound, rfl⟩ := digit_of_is_digit hundred
    obtain ⟨c, cBound, rfl⟩ := digit_of_is_digit ten
    obtain ⟨d, dBound, rfl⟩ := digit_of_is_digit one
    obtain ⟨e, eBound, rfl⟩ := digit_of_is_digit tens
    obtain ⟨f, fBound, rfl⟩ := digit_of_is_digit units
    rw [digit_char_value e eBound, digit_char_value f fBound] at lower upper
    refine ⟨⟨1000 * a + 100 * b + 10 * c + d, 10 * e + f, by omega, by omega, by omega⟩, ?_⟩
    have digits : (1000 * a + 100 * b + 10 * c + d) / 1000 = a ∧
        (1000 * a + 100 * b + 10 * c + d) / 100 % 10 = b ∧
        (1000 * a + 100 * b + 10 * c + d) / 10 % 10 = c ∧
        (1000 * a + 100 * b + 10 * c + d) % 10 = d ∧ (10 * e + f) / 10 = e ∧
        (10 * e + f) % 10 = f := by omega
    obtain ⟨isA, isB, isC, isD, isE, isF⟩ := digits
    rw [Period.mk.injEq, ← String.toList_inj, chars]
    refine Eq.trans ?_ (calendar_text_list _).symm
    simp only [isA, isB, isC, isD, isE, isF]
  · cases parsed

end Texts

section Bounds

/-- Midnight of the first of a month, in microseconds since the epoch. -/
def startOf (number : Nat) : Int := ((daysBefore number : Int) - 719528) * 86400000000

def numberOf (period : Period) : Nat :=
  monthNumber (Period.year period) (Period.month period)

theorem start_lt_iff {earlier later : Nat} :
    startOf earlier < startOf later ↔ earlier < later := by
  rw [← days_before_strict_mono.lt_iff_lt]
  unfold startOf
  omega

theorem month_start_closed (year month : Nat) :
    monthStart year month = (closedForm year month - 719528) * 86400000000 := by
  unfold monthStart closedForm
  exact congrArg (fun days : Int => days * 86400000000) (by simp only; omega)

theorem month_start_eq (number : Nat) :
    monthStart (yearOf number) (monthOf number) = startOf number := by
  rw [month_start_closed, closed_form_eq, startOf]

theorem read_bounds (period : Period) :
    Period.year period < 10000 ∧ 1 ≤ Period.month period ∧ Period.month period ≤ 12 := by
  obtain ⟨calendar, rfl⟩ := eq_of_calendar period
  obtain ⟨year, month⟩ := read_calendar calendar
  rw [year, month]
  exact ⟨calendar.yearBound, calendar.monthLower, calendar.monthUpper⟩

theorem eq_of_number {period other : Period} (same : numberOf period = numberOf other) :
    period = other := by
  have bounds := read_bounds period
  have otherBounds := read_bounds other
  have years : Period.year period = Period.year other := by
    unfold numberOf monthNumber at same
    omega
  have months : Period.month period = Period.month other := by
    unfold numberOf monthNumber at same
    omega
  obtain ⟨calendar, rfl⟩ := eq_of_calendar period
  obtain ⟨otherCalendar, rfl⟩ := eq_of_calendar other
  rw [(read_calendar calendar).1, (read_calendar otherCalendar).1] at years
  rw [(read_calendar calendar).2, (read_calendar otherCalendar).2] at months
  have alike : calendar = otherCalendar := by
    cases calendar
    cases otherCalendar
    simp only at years months
    subst years months
    rfl
  rw [alike]

theorem period_bounds_eq (period : Period) :
    periodBoundsUtc period = (startOf (numberOf period), startOf (numberOf period + 1)) := by
  obtain ⟨-, lower, upper⟩ := read_bounds period
  have year : yearOf (numberOf period) = Period.year period := by
    unfold numberOf monthNumber yearOf
    omega
  have month : monthOf (numberOf period) = Period.month period := by
    unfold numberOf monthNumber monthOf
    omega
  rw [periodBoundsUtc, ← month_start_eq, ← month_start_eq, year, month]
  split_ifs with december
  · have nextYear : yearOf (numberOf period + 1) = Period.year period + 1 := by
      unfold numberOf monthNumber yearOf
      omega
    have january : monthOf (numberOf period + 1) = 1 := by
      unfold numberOf monthNumber monthOf
      omega
    rw [nextYear, january]
  · have sameYear : yearOf (numberOf period + 1) = Period.year period := by
      unfold numberOf monthNumber yearOf
      omega
    have nextMonth : monthOf (numberOf period + 1) = Period.month period + 1 := by
      unfold numberOf monthNumber monthOf
      omega
    rw [sameYear, nextMonth]

theorem digit_char_lt_iff {digit other : Nat} (bound : digit < 10) (otherBound : other < 10) :
    digit.digitChar < other.digitChar ↔ digit < other := by
  have all : ∀ left < 10, ∀ right < 10,
      Nat.digitChar left < Nat.digitChar right ↔ left < right := by decide
  exact all digit bound other otherBound

theorem digit_char_eq_iff {digit other : Nat} (bound : digit < 10) (otherBound : other < 10) :
    digit.digitChar = other.digitChar ↔ digit = other := by
  have all : ∀ left < 10, ∀ right < 10,
      Nat.digitChar left = Nat.digitChar right ↔ left = right := by decide
  exact all digit bound other otherBound

theorem digits_of_period (period : Period) :
    ∃ a < 10, ∃ b < 10, ∃ c < 10, ∃ d < 10, ∃ e < 10, ∃ f < 10,
      period.text.toList = [a.digitChar, b.digitChar, c.digitChar, d.digitChar, '-',
        e.digitChar, f.digitChar] ∧
      numberOf period = 12 * (1000 * a + 100 * b + 10 * c + d) + (10 * e + f - 1) ∧
      1 ≤ 10 * e + f ∧ 10 * e + f ≤ 12 := by
  obtain ⟨calendar, rfl⟩ := eq_of_calendar period
  obtain ⟨year, month⟩ := read_calendar calendar
  have yearBound := calendar.yearBound
  have lower := calendar.monthLower
  have upper := calendar.monthUpper
  refine ⟨_, ?_, _, ?_, _, ?_, _, ?_, _, ?_, _, ?_, calendar_text_list calendar, ?_, ?_⟩
  · omega
  · omega
  · omega
  · omega
  · omega
  · omega
  · rw [numberOf, year, month, monthNumber]
    omega
  · omega

theorem text_lt_iff (period other : Period) :
    period.text < other.text ↔ numberOf period < numberOf other := by
  obtain ⟨a, ha, b, hb, c, hc, d, hd, e, he, f, hf, text, number, lower, upper⟩ :=
    digits_of_period period
  obtain ⟨a', ha', b', hb', c', hc', d', hd', e', he', f', hf', text', number', lower', upper'⟩ :=
    digits_of_period other
  have dash : ¬ '-' < '-' := by decide
  rw [String.lt_iff, text, text', number, number']
  simp only [List.cons_lt_cons_iff, digit_char_lt_iff ha ha', digit_char_lt_iff hb hb',
    digit_char_lt_iff hc hc', digit_char_lt_iff hd hd', digit_char_lt_iff he he',
    digit_char_lt_iff hf hf', digit_char_eq_iff ha ha', digit_char_eq_iff hb hb',
    digit_char_eq_iff hc hc', digit_char_eq_iff hd hd', digit_char_eq_iff he he',
    digit_char_eq_iff hf hf', dash, List.not_lt_nil, and_false, or_false, false_or, true_and]
  omega

end Bounds

section Clock

theorem year_and_month_of (number : Nat) (bound : number < 120000) :
    yearOf number < 10000 ∧ 1 ≤ monthOf number ∧ monthOf number ≤ 12 := by
  unfold yearOf monthOf
  omega

def calendarOf (number : Nat) (bound : number < 120000) : CalendarMonth where
  year := yearOf number
  month := monthOf number
  yearBound := (year_and_month_of number bound).1
  monthLower := (year_and_month_of number bound).2.1
  monthUpper := (year_and_month_of number bound).2.2

theorem number_of_calendar {number : Nat} (bound : number < 120000) :
    numberOf (ofCalendar (calendarOf number bound)) = number := by
  obtain ⟨year, month⟩ := read_calendar (calendarOf number bound)
  rw [numberOf, year, month, monthNumber]
  simp only [calendarOf, yearOf, monthOf]
  omega

/-- The day of an instant in nanoseconds since the epoch, from the first of the
year 0. -/
def dayOf (nanos : Int) : Int := nanos / 86400000000000 + 719528

/-- It stands for chrono's `year()` and `month()` of an instant, within the years that a
period can write. -/
def utcMonth (nanos : Int) : CalendarMonth :=
  calendarOf (min (monthOfDay (dayOf nanos).toNat) 119999) (by omega)

def InYears (nanos : Int) : Prop :=
  -62167219200000000000 ≤ nanos ∧ nanos < 253402300800000000000

theorem month_in_years {nanos : Int} (inYears : InYears nanos) :
    monthOfDay (dayOf nanos).toNat < 120000 := by
  obtain ⟨reached, -⟩ := month_of_day_spec (dayOf nanos).toNat
  have last : closedForm (yearOf 120000) (monthOf 120000) = 3652425 := by decide
  rw [closed_form_eq] at last
  have before : daysBefore (monthOfDay (dayOf nanos).toNat) < daysBefore 120000 := by
    unfold InYears at inYears
    unfold dayOf at reached ⊢
    omega
  exact days_before_strict_mono.lt_iff_lt.mp before

theorem current_eq_iff {nanos : Int} (inYears : InYears nanos) (period : Period) :
    Period.current utcMonth nanos = period ↔
      (periodBoundsUtc period).1 * 1000 ≤ nanos ∧ nanos < (periodBoundsUtc period).2 * 1000 := by
  have within := month_in_years inYears
  have read : numberOf (Period.current utcMonth nanos) = monthOfDay (dayOf nanos).toNat := by
    have number := number_of_calendar
      (show min (monthOfDay (dayOf nanos).toNat) 119999 < 120000 by omega)
    have least : min (monthOfDay (dayOf nanos).toNat) 119999 = monthOfDay (dayOf nanos).toNat := by
      omega
    exact number.trans least
  have reads : Period.current utcMonth nanos = period ↔
      monthOfDay (dayOf nanos).toNat = numberOf period := by
    rw [← read]
    exact ⟨fun same => by rw [same], eq_of_number⟩
  rw [reads, month_of_day_iff, period_bounds_eq]
  show _ ↔ startOf (numberOf period) * 1000 ≤ nanos ∧ nanos < startOf (numberOf period + 1) * 1000
  unfold InYears at inYears
  unfold startOf dayOf
  omega

end Clock

section Previous

theorem ymd_text_of_period (period : Period) :
    ymdText (Period.year period) (Period.month period) = period.text := by
  obtain ⟨calendar, rfl⟩ := eq_of_calendar period
  rw [(read_calendar calendar).1, (read_calendar calendar).2]
  exact ymd_text_eq calendar

theorem previous_year {year : Nat} (positive : 0 < year) (bound : year < 10000) :
    (UInt32.ofNat year - 1).toNat = year - 1 := by
  have small : year < UInt32.size := by
    simp only [UInt32.size]
    omega
  have value : (UInt32.ofNat year).toNat = year := UInt32.toNat_ofNat_of_lt' small
  have noUnderflow : (1 : UInt32) ≤ UInt32.ofNat year := by
    rw [UInt32.le_iff_toNat_le, value]
    exact positive
  rw [UInt32.toNat_sub_of_le _ _ noUnderflow, value]
  rfl

theorem previous_eq_parsed (period : Period) :
    Period.previous period =
      (previousText true period).bind fun text => (Period.parse text).toOption := by
  have bounds := read_bounds period
  have parsed : ∀ year month, Period.fromYmd year month =
      (some (ymdText year month)).bind fun text => (Period.parse text).toOption := by
    intro year month
    rw [Option.bind_some, ymdText, Period.fromYmd]
  unfold Period.previous previousText
  by_cases january : Period.month period = 1
  · by_cases first : Period.year period = 0
    · rw [if_pos january, if_pos january, if_pos first, if_pos ⟨first, rfl⟩, Option.bind_none]
    · rw [if_pos january, if_pos january, if_neg first, if_neg fun both => first both.1,
        previous_year (Nat.pos_of_ne_zero first) bounds.1, parsed]
  · rw [if_neg january, if_neg january, parsed]

theorem previous_text_of_pred (overflowChecks : Bool) {period before : Period}
    (follows : numberOf period = numberOf before + 1) :
    previousText overflowChecks period = some before.text := by
  have bounds := read_bounds period
  have beforeBounds := read_bounds before
  unfold numberOf monthNumber at follows
  unfold previousText
  by_cases january : Period.month period = 1
  · have year : (UInt32.ofNat (Period.year period) - 1).toNat = Period.year before := by
      rw [previous_year (by omega) bounds.1]
      omega
    have december : Period.month before = 12 := by omega
    have later : ¬ (Period.year period = 0 ∧ overflowChecks = true) := by omega
    rw [if_pos january, if_neg later, year, ← ymd_text_of_period before, december]
  · have year : Period.year period = Period.year before := by omega
    have month : Period.month period - 1 = Period.month before := by omega
    rw [if_neg january, year, month, ymd_text_of_period before]

theorem exists_previous {period : Period} (later : 0 < numberOf period) :
    ∃ before, numberOf period = numberOf before + 1 := by
  have bounds := read_bounds period
  have bound : numberOf period - 1 < 120000 := by
    unfold numberOf monthNumber
    omega
  refine ⟨ofCalendar (calendarOf (numberOf period - 1) bound), ?_⟩
  rw [number_of_calendar]
  omega

def firstPeriod : Period := ⟨"0000-01", by decide⟩

theorem first_period_iff (period : Period) :
    period.text = "0000-01" ↔ numberOf period = 0 := by
  have first : numberOf firstPeriod = 0 := by decide
  constructor
  · intro text
    have same : period = firstPeriod := by
      cases period
      cases text
      rfl
    rw [same, first]
  · intro number
    rw [eq_of_number (number.trans first.symm)]
    rfl

theorem first_period_has_no_previous (overflowChecks : Bool) (before : Period) :
    previousText overflowChecks firstPeriod ≠ some before.text := by
  cases overflowChecks with
  | true =>
      have panics : previousText true firstPeriod = none := by decide
      intro same
      rw [panics] at same
      cases same
  | false =>
      have wraps : (previousText false firstPeriod).all
          (fun text => wellFormedPeriod text = false) = true := by decide +kernel
      intro same
      rw [same] at wraps
      have malformed := of_decide_eq_true wraps
      rw [before.wellFormed] at malformed
      cases malformed

end Previous

/-- What a period promises as a part of the time line. -/
structure TilesTime (overflowChecks : Bool) (period : Period) : Prop where
  previous : ∃ before : Period, previousText overflowChecks period = some before.text ∧
    (periodBoundsUtc before).2 = (periodBoundsUtc period).1
  nonempty : (periodBoundsUtc period).1 < (periodBoundsUtc period).2
  current : ∀ nanos, InYears nanos →
    (Period.current utcMonth nanos = period ↔
      (periodBoundsUtc period).1 * 1000 ≤ nanos ∧ nanos < (periodBoundsUtc period).2 * 1000)
  order : ∀ other : Period,
    period.text < other.text ↔ (periodBoundsUtc period).1 < (periodBoundsUtc other).1

/-- Periods tile time but for the first of them, which has no predecessor. -/
theorem tiles_time_iff (overflowChecks : Bool) (period : Period) :
    TilesTime overflowChecks period ↔ period.text ≠ "0000-01" := by
  rw [ne_eq, first_period_iff]
  constructor
  · intro tiles first
    obtain ⟨before, written, -⟩ := tiles.previous
    have same : period = firstPeriod := eq_of_number (first.trans (by decide))
    rw [same] at written
    exact first_period_has_no_previous overflowChecks before written
  · intro later
    obtain ⟨before, follows⟩ := exists_previous (Nat.pos_of_ne_zero later)
    refine ⟨⟨before, previous_text_of_pred overflowChecks follows, ?_⟩, ?_, ?_, ?_⟩
    · rw [period_bounds_eq, period_bounds_eq, follows]
    · rw [period_bounds_eq]
      exact start_lt_iff.mpr (Nat.lt_succ_self _)
    · exact fun nanos inYears => current_eq_iff inYears period
    · intro other
      rw [text_lt_iff, period_bounds_eq, period_bounds_eq]
      exact start_lt_iff.symm

/-- `0000-01` is accepted, and has no predecessor in either build. -/
theorem first_period_does_not_tile :
    (∃ period, Period.parse "0000-01" = .ok period) ∧
      ¬ ∀ (overflowChecks : Bool) (text : String) (period : Period),
        Period.parse text = .ok period → TilesTime overflowChecks period := by
  have accepted : Period.parse "0000-01" = .ok firstPeriod := by decide
  refine ⟨⟨firstPeriod, accepted⟩, fun claimed => ?_⟩
  obtain ⟨before, written, -⟩ := (claimed true "0000-01" firstPeriod accepted).previous
  exact first_period_has_no_previous true before written

end LightbridgeAuthz.Budget.PeriodTiling
