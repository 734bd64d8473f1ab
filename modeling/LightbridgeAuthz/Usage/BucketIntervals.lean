import LightbridgeAuthz.Library.ItemRuns
import LightbridgeAuthz.Usage.UsageQueries

/-!
# Bucket intervals

A bucket is validated by a regular expression on a trimmed copy, and Postgres reads
the text itself. The two differ on digits and spaces beyond ASCII, on zero, and on
the size of the count.
-/

namespace LightbridgeAuthz.Usage.BucketIntervals

open Library.ItemRuns
open Budget.Domain (isWhitespace)
open Sessions.RefreshTokens (parseDigits)
open Sessions.TokenGrants (trim)
open OtlpEvents Ingestion UsageQueries

set_option autoImplicit false

structure Interval where
  days : Int
  micros : Int
  deriving DecidableEq, Repr

def asciiSpace (char : Char) : Bool :=
  (9 ≤ char.toNat && char.toNat ≤ 13) || char.toNat == 32

/-- One field of an interval: days are counted in 32 bits, the rest is a `bigint` of
microseconds. -/
def fieldInterval (number : Nat) (unit : String) : Option Interval :=
  (bucketUnits.lookup unit).bind fun micros =>
    if micros = 86400000000 then
      if number ≤ Int32.maxValue.toInt then some ⟨number, 0⟩ else none
    else if number * micros ≤ Int64.maxValue.toInt then some ⟨0, number * micros⟩
    else none

/-- The cast of a text to an interval, for texts of one field. -/
def readInterval (text : String) : Option Interval :=
  let field := text.toList.dropWhile asciiSpace
  let afterCount := (field.dropWhile Char.isDigit).dropWhile asciiSpace
  if (afterCount.dropWhile Char.isAlpha).all asciiSpace then
    (parseDigits (field.takeWhile Char.isDigit)).bind fun number =>
      fieldInterval number (String.ofList (afterCount.takeWhile Char.isAlpha))
  else none

/-- The stride that `date_bin` makes of an interval. -/
def dateBinStride (interval : Interval) : Option Int :=
  let stride := interval.days * 86400000000 + interval.micros
  if 0 < stride ∧ stride ≤ Int64.maxValue.toInt then some stride else none

/-- The text of a bucket as it is documented, white space around it included. -/
structure Written (bucket : String) (lead count gap : List Char) (unit : String)
    (trail : List Char) : Prop where
  text : bucket.toList = lead ++ (count ++ (gap ++ unit.toList) ++ trail)
  before : ∀ char ∈ lead, asciiSpace char = true
  counted : count ≠ []
  digits : ∀ char ∈ count, char.isDigit = true
  spaced : gap ≠ []
  spaces : ∀ char ∈ gap, asciiSpace char = true
  isUnit : (bucketUnits.lookup unit).isSome = true
  after : ∀ char ∈ trail, asciiSpace char = true

def Documented (bucket : String) : Prop :=
  ∃ lead count gap unit trail, Written bucket lead count gap unit trail

/-- The text that the query binds is an interval that `date_bin` takes. -/
def Executable (bucket : String) : Prop :=
  ∃ interval stride, readInterval bucket = some interval ∧ dateBinStride interval = some stride

/-- The count of a bucket and the microseconds of its unit. -/
def bucketField (bucket : String) : Option (Nat × Int) :=
  let (count, _, unit) := splitBucket Char.isDigit (trim bucket).toList
  (parseDigits count).bind fun number =>
    (bucketUnits.lookup unit).map fun micros => (number, micros)

/-- Nothing but ASCII, and a positive count of at most `i64::MAX` microseconds. -/
structure WithinLimits (bucket : String) : Prop where
  ascii : ∀ char ∈ bucket.toList, char.toNat < 128
  positive : ∀ number micros, bucketField bucket = some (number, micros) → 0 < number
  fits : ∀ number micros, bucketField bucket = some (number, micros) →
    number * micros ≤ Int64.maxValue.toInt

structure ValidatedRuns (otherDigit : Char → Bool) (bucket : String) : Prop where
  executable : validateBucketInterval otherDigit bucket = .ok () → Executable bucket
  answered : validateBucketInterval otherDigit bucket = .ok () →
    ∀ sumDoubles table request, request.bucket = bucket →
      queryUsage sumDoubles otherDigit table request ≠ .error (.sqlx "the bucket is no stride")
  complete : Documented bucket → validateBucketInterval otherDigit bucket = .ok ()

theorem whitespace_ascii (char : Char) (small : char.toNat < 128) :
    isWhitespace char = asciiSpace char := by
  unfold isWhitespace asciiSpace
  rw [Bool.eq_iff_iff]
  simp only [Bool.or_eq_true, Bool.and_eq_true, decide_eq_true_eq, beq_iff_eq]
  omega

theorem ascii_of_space {char : Char} (isSpace : asciiSpace char = true) : char.toNat < 128 := by
  simp only [asciiSpace, Bool.or_eq_true, Bool.and_eq_true, decide_eq_true_eq,
    beq_iff_eq] at isSpace
  omega

theorem alpha_range {char : Char} (isLetter : char.isAlpha = true) :
    65 ≤ char.toNat ∧ char.toNat ≤ 122 := by
  have ranges : char.isAlpha =
      (decide ('A'.val ≤ char.val ∧ char.val ≤ 'Z'.val) ||
        (decide ('a'.val ≤ char.val) && decide (char.val ≤ 'z'.val))) := rfl
  rw [ranges] at isLetter
  simp only [Bool.or_eq_true, Bool.and_eq_true, decide_eq_true_eq,
    UInt32.le_iff_toNat_le] at isLetter
  have isNat : char.val.toNat = char.toNat := rfl
  have upper : 'A'.val.toNat = 65 ∧ 'Z'.val.toNat = 90 := ⟨rfl, rfl⟩
  have lower : 'a'.val.toNat = 97 ∧ 'z'.val.toNat = 122 := ⟨rfl, rfl⟩
  omega

theorem ascii_of_alpha {char : Char} (isLetter : char.isAlpha = true) : char.toNat < 128 := by
  have range := alpha_range isLetter
  omega

theorem ascii_of_digit {char : Char} (isDigit : char.isDigit = true) : char.toNat < 128 := by
  simp only [Char.isDigit, Bool.and_eq_true, decide_eq_true_eq,
    UInt32.le_iff_toNat_le] at isDigit
  have isNat : char.val.toNat = char.toNat := rfl
  have top : '9'.val.toNat = 57 := rfl
  omega

theorem digit_not_space {char : Char} (isDigit : char.isDigit = true) :
    asciiSpace char = false := by
  simp only [Char.isDigit, Bool.and_eq_true, decide_eq_true_eq,
    UInt32.le_iff_toNat_le] at isDigit
  have isNat : char.val.toNat = char.toNat := rfl
  have bottom : '0'.val.toNat = 48 := rfl
  rw [Bool.eq_false_iff]
  simp only [asciiSpace, ne_eq, Bool.or_eq_true, Bool.and_eq_true, decide_eq_true_eq, beq_iff_eq]
  omega

theorem alpha_not_space {char : Char} (isLetter : char.isAlpha = true) :
    asciiSpace char = false := by
  have above := alpha_range isLetter
  rw [Bool.eq_false_iff]
  simp only [asciiSpace, ne_eq, Bool.or_eq_true, Bool.and_eq_true, decide_eq_true_eq, beq_iff_eq]
  omega

theorem whitespace_of_space {char : Char} (isSpace : asciiSpace char = true) :
    isWhitespace char = true := (whitespace_ascii char (ascii_of_space isSpace)).trans isSpace

theorem digit_not_whitespace {char : Char} (isDigit : char.isDigit = true) :
    isWhitespace char = false :=
  (whitespace_ascii char (ascii_of_digit isDigit)).trans (digit_not_space isDigit)

theorem alpha_not_whitespace {char : Char} (isLetter : char.isAlpha = true) :
    isWhitespace char = false :=
  (whitespace_ascii char (ascii_of_alpha isLetter)).trans (alpha_not_space isLetter)

theorem space_not_digit {char : Char} (isSpace : asciiSpace char = true) :
    char.isDigit = false := by
  rw [Bool.eq_false_iff]
  intro isDigit
  rw [digit_not_space isDigit] at isSpace
  cases isSpace

theorem space_not_alpha {char : Char} (isSpace : asciiSpace char = true) :
    char.isAlpha = false := by
  rw [Bool.eq_false_iff]
  intro isLetter
  rw [alpha_not_space isLetter] at isSpace
  cases isSpace

theorem trim_strip (bucket : String) :
    (trim bucket).toList = strip isWhitespace bucket.toList := String.toList_ofList

theorem unit_listed {unit : String} {micros : Int}
    (found : bucketUnits.lookup unit = some micros) : (unit, micros) ∈ bucketUnits := by
  obtain ⟨front, back, isTable, _⟩ := List.lookup_eq_some_iff.mp found
  rw [isTable]
  exact List.mem_append_right _ List.mem_cons_self

theorem unit_letters {unit : String} (isUnit : (bucketUnits.lookup unit).isSome = true) :
    unit.toList ≠ [] ∧ ∀ char ∈ unit.toList, char.isAlpha = true := by
  have every : ∀ entry ∈ bucketUnits,
      entry.1.toList ≠ [] ∧ entry.1.toList.all Char.isAlpha = true := by decide +kernel
  obtain ⟨micros, found⟩ := Option.isSome_iff_exists.mp isUnit
  obtain ⟨named, letters⟩ := every (unit, micros) (unit_listed found)
  exact ⟨named, List.all_eq_true.mp letters⟩

section WrittenBuckets

variable {bucket unit : String} {lead count gap trail : List Char}

theorem written_trim (written : Written bucket lead count gap unit trail) :
    (trim bucket).toList = count ++ (gap ++ unit.toList) := by
  obtain ⟨named, letters⟩ := unit_letters written.isUnit
  have begins : Stops isWhitespace (count ++ (gap ++ unit.toList)) :=
    stops_append written.counted fun char member =>
      digit_not_whitespace (written.digits char member)
  have ends : Stops isWhitespace (count ++ (gap ++ unit.toList)).reverse := by
    rw [List.reverse_append, List.reverse_append, List.append_assoc]
    exact stops_append (List.reverse_ne_nil_iff.mpr named) fun char member =>
      alpha_not_whitespace (letters char (List.mem_reverse.mp member))
  rw [trim_strip, written.text]
  exact strip_between (fun char member => whitespace_of_space (written.before char member)) begins
    ends (List.append_ne_nil_of_left_ne_nil written.counted _)
    (fun char member => whitespace_of_space (written.after char member))

theorem written_split (written : Written bucket lead count gap unit trail) :
    splitBucket Char.isDigit (trim bucket).toList = (count, gap, unit) := by
  obtain ⟨named, letters⟩ := unit_letters written.isUnit
  have spaces : ∀ char ∈ gap, isWhitespace char = true :=
    fun char member => whitespace_of_space (written.spaces char member)
  have afterDigits : Stops Char.isDigit (gap ++ unit.toList) :=
    stops_append written.spaced fun char member =>
      space_not_digit (written.spaces char member)
  have afterSpaces : Stops isWhitespace unit.toList := by
    rw [← List.append_nil unit.toList]
    exact stops_append named fun char member => alpha_not_whitespace (letters char member)
  rw [written_trim written, splitBucket, take_run written.digits afterDigits,
    drop_run written.digits afterDigits, take_run spaces afterSpaces,
    drop_run spaces afterSpaces, String.ofList_toList]

theorem written_read (written : Written bucket lead count gap unit trail) :
    readInterval bucket = (parseDigits count).bind fun number => fieldInterval number unit := by
  obtain ⟨named, letters⟩ := unit_letters written.isUnit
  have afterLead : Stops asciiSpace (count ++ (gap ++ unit.toList) ++ trail) := by
    rw [List.append_assoc]
    exact stops_append written.counted fun char member =>
      digit_not_space (written.digits char member)
  have afterDigits : Stops Char.isDigit (gap ++ (unit.toList ++ trail)) :=
    stops_append written.spaced fun char member =>
      space_not_digit (written.spaces char member)
  have afterSpaces : Stops asciiSpace (unit.toList ++ trail) :=
    stops_append named fun char member => alpha_not_space (letters char member)
  have afterUnit : Stops Char.isAlpha trail := by
    intro char isHead
    exact space_not_alpha (written.after char (List.mem_of_mem_head? isHead))
  have ended : trail.all asciiSpace = true := List.all_eq_true.mpr written.after
  rw [readInterval, written.text, drop_run written.before afterLead, List.append_assoc,
    List.append_assoc]
  simp only [take_run written.digits afterDigits, drop_run written.digits afterDigits,
    drop_run written.spaces afterSpaces, take_run letters afterUnit, drop_run letters afterUnit,
    ended, if_true, String.ofList_toList]

theorem written_field (written : Written bucket lead count gap unit trail) :
    bucketField bucket = (parseDigits count).bind fun number =>
      (bucketUnits.lookup unit).map fun micros => (number, micros) := by
  rw [bucketField, written_split written]

theorem written_accepted (otherDigit : Char → Bool)
    (written : Written bucket lead count gap unit trail) :
    validateBucketInterval otherDigit bucket = .ok () := by
  obtain ⟨_, letters⟩ := unit_letters written.isUnit
  have ascii : ∀ char ∈ (trim bucket).toList, char.toNat < 128 := by
    rw [written_trim written]
    intro char member
    obtain inCount | inRest := List.mem_append.mp member
    · exact ascii_of_digit (written.digits char inCount)
    obtain inGap | inUnit := List.mem_append.mp inRest
    · exact ascii_of_space (written.spaces char inGap)
    · exact ascii_of_alpha (letters char inUnit)
  simp only [validateBucketInterval, split_bucket_ascii otherDigit ascii, written_split written]
  exact if_pos ⟨written.counted, written.spaced, written.isUnit⟩

end WrittenBuckets

theorem ok_of_if {condition : Prop} [Decidable condition] {error : Error}
    (accepted : (if condition then Except.ok () else .error error) = .ok ()) : condition := by
  by_contra refused
  rw [if_neg refused] at accepted
  cases accepted

theorem documented_of_accepted {otherDigit : Char → Bool} {bucket : String}
    (accepted : validateBucketInterval otherDigit bucket = .ok ())
    (ascii : ∀ char ∈ bucket.toList, char.toNat < 128) : Documented bucket := by
  obtain ⟨lead, trail, isText, before, after⟩ := exists_strip isWhitespace bucket.toList
  rw [← trim_strip] at isText
  have inner : ∀ char ∈ (trim bucket).toList, char.toNat < 128 := by
    intro char member
    apply ascii
    rw [isText]
    exact List.mem_append_right _ (List.mem_append_left _ member)
  have space : ∀ char ∈ bucket.toList, isWhitespace char = true → asciiSpace char = true :=
    fun char member isSpace => (whitespace_ascii char (ascii char member)).symm.trans isSpace
  rw [validateBucketInterval, split_bucket_ascii otherDigit inner] at accepted
  obtain ⟨counted, spaced, isUnit⟩ := ok_of_if accepted
  refine ⟨lead, _, _, _, trail, ?_, ?_, counted, ?_, spaced, ?_, isUnit, ?_⟩
  · rw [String.toList_ofList, List.takeWhile_append_dropWhile, List.takeWhile_append_dropWhile]
    exact isText
  · intro char member
    exact space char (isText ▸ List.mem_append_left _ member) (before char member)
  · exact fun char member => mem_of_take_run member
  · intro char member
    have inText : char ∈ (trim bucket).toList :=
      (List.dropWhile_sublist _).subset ((List.takeWhile_sublist _).subset member)
    apply space char _ (mem_of_take_run member)
    rw [isText]
    exact List.mem_append_right _ (List.mem_append_left _ inText)
  · intro char member
    exact space char (isText ▸ List.mem_append_right _ (List.mem_append_right _ member))
      (after char member)

theorem read_interval_ascii {bucket : String} {interval : Interval}
    (reads : readInterval bucket = some interval) : ∀ char ∈ bucket.toList, char.toNat < 128 := by
  have pieces : ∀ inRun : Char → Bool, (∀ char, inRun char = true → char.toNat < 128) →
      ∀ text : List Char, (∀ char ∈ text.dropWhile inRun, char.toNat < 128) →
        ∀ char ∈ text, char.toNat < 128 := by
    intro inRun small text rest char member
    rw [← List.takeWhile_append_dropWhile (p := inRun) (l := text)] at member
    obtain inside | outside := List.mem_append.mp member
    · exact small char (mem_of_take_run inside)
    · exact rest char outside
  simp only [readInterval] at reads
  split at reads
  · rename_i ended
    apply pieces asciiSpace fun char => ascii_of_space
    apply pieces Char.isDigit fun char => ascii_of_digit
    apply pieces asciiSpace fun char => ascii_of_space
    apply pieces Char.isAlpha fun char => ascii_of_alpha
    exact fun char member => ascii_of_space (List.all_eq_true.mp ended char member)
  · cases reads

theorem field_stride (number : Nat) (unit : String) :
    (fieldInterval number unit).bind dateBinStride =
      (bucketUnits.lookup unit).bind fun micros =>
        if 0 < number * micros ∧ number * micros ≤ Int64.maxValue.toInt then
          some (number * micros)
        else none := by
  have top : Int64.maxValue.toInt = 9223372036854775807 := rfl
  have days : Int32.maxValue.toInt = 2147483647 := rfl
  unfold fieldInterval
  cases bucketUnits.lookup unit with
  | none => rfl
  | some micros =>
      simp only [Option.bind_some]
      by_cases inDays : micros = 86400000000
      · subst inDays
        rw [if_pos rfl]
        by_cases fits : (number : Int) ≤ Int32.maxValue.toInt
        · rw [if_pos fits, Option.bind_some, dateBinStride, add_zero]
        · rw [if_neg fits, Option.bind_none, if_neg (by omega)]
      · rw [if_neg inDays]
        by_cases fits : number * micros ≤ Int64.maxValue.toInt
        · rw [if_pos fits, Option.bind_some, dateBinStride, zero_mul, zero_add]
        · rw [if_neg fits, Option.bind_none, if_neg (fun inside => fits inside.2)]

theorem unit_positive {unit : String} {micros : Int}
    (found : bucketUnits.lookup unit = some micros) : 0 < micros := by
  have every : ∀ entry ∈ bucketUnits, 0 < entry.2 := by decide +kernel
  exact every (unit, micros) (unit_listed found)

theorem bucket_field_positive {bucket : String} {number : Nat} {micros : Int}
    (isField : bucketField bucket = some (number, micros)) : 0 < micros := by
  simp only [bucketField] at isField
  obtain ⟨_, _, named⟩ := Option.bind_eq_some_iff.mp isField
  obtain ⟨unitMicros, found, pair⟩ := Option.map_eq_some_iff.mp named
  rw [← (Prod.mk.inj pair).2]
  exact unit_positive found

theorem documented_stride {bucket : String} (documented : Documented bucket) :
    (readInterval bucket).bind dateBinStride =
      (bucketField bucket).bind fun field =>
        if 0 < field.1 * field.2 ∧ field.1 * field.2 ≤ Int64.maxValue.toInt then
          some (field.1 * field.2)
        else none := by
  obtain ⟨lead, count, gap, unit, trail, written⟩ := documented
  rw [written_read written, written_field written]
  cases parseDigits count with
  | none => rfl
  | some number =>
      rw [Option.bind_some, Option.bind_some, field_stride]
      cases bucketUnits.lookup unit <;> rfl

theorem executable_iff {otherDigit : Char → Bool} {bucket : String}
    (accepted : validateBucketInterval otherDigit bucket = .ok ()) :
    Executable bucket ↔ WithinLimits bucket := by
  constructor
  · rintro ⟨interval, stride, reads, bins⟩
    have ascii := read_interval_ascii reads
    have strides := documented_stride (documented_of_accepted accepted ascii)
    rw [reads, Option.bind_some, bins] at strides
    obtain ⟨⟨number, micros⟩, isField, taken⟩ := Option.bind_eq_some_iff.mp strides.symm
    have limits : 0 < number * micros ∧ number * micros ≤ Int64.maxValue.toInt := by
      by_contra outside
      rw [if_neg outside] at taken
      cases taken
    have positive : 0 < (number : Int) :=
      Int.pos_of_mul_pos_left limits.1 (bucket_field_positive isField)
    refine ⟨ascii, fun other unit isOther => ?_, fun other unit isOther => ?_⟩
    · obtain ⟨rfl, rfl⟩ := Prod.mk.inj (Option.some.inj (isField.symm.trans isOther))
      exact Int.natCast_pos.mp positive
    · obtain ⟨rfl, rfl⟩ := Prod.mk.inj (Option.some.inj (isField.symm.trans isOther))
      exact limits.2
  · intro within
    have documented := documented_of_accepted accepted within.ascii
    obtain ⟨number, micros, isField⟩ : ∃ number micros,
        bucketField bucket = some (number, micros) := by
      obtain ⟨lead, count, gap, unit, trail, written⟩ := documented
      obtain ⟨micros, found⟩ := Option.isSome_iff_exists.mp written.isUnit
      have parsed : (parseDigits count).isSome = true := by
        rw [parseDigits, if_pos ⟨written.counted, List.all_eq_true.mpr written.digits⟩]
        rfl
      obtain ⟨number, isNumber⟩ := Option.isSome_iff_exists.mp parsed
      exact ⟨number, micros, by rw [written_field written, isNumber, found]; rfl⟩
    have positive : 0 < (number : Int) * micros :=
      Int.mul_pos (Int.natCast_pos.mpr (within.positive number micros isField))
        (bucket_field_positive isField)
    have strides := documented_stride documented
    rw [isField, Option.bind_some, if_pos ⟨positive, within.fits number micros isField⟩] at strides
    obtain ⟨interval, reads, bins⟩ := Option.bind_eq_some_iff.mp strides
    exact ⟨interval, _, reads, bins⟩

theorem bucket_stride_eq (bucket : String) :
    bucketStride bucket =
      if bucket.toList.all fun char => char.toNat < 128 then
        (bucketField bucket).bind fun field =>
          if 0 < field.1 * field.2 ∧ field.1 * field.2 ≤ Int64.maxValue.toInt then
            some (field.1 * field.2)
          else none
      else none := by
  simp only [bucketStride, bucketField]
  cases parseDigits (splitBucket Char.isDigit (trim bucket).toList).1 with
  | none => rfl
  | some number =>
      cases bucketUnits.lookup (splitBucket Char.isDigit (trim bucket).toList).2.2 <;> rfl

theorem stride_of_accepted {otherDigit : Char → Bool} {bucket : String}
    (accepted : validateBucketInterval otherDigit bucket = .ok ()) :
    bucketStride bucket = (readInterval bucket).bind dateBinStride := by
  rw [bucket_stride_eq]
  by_cases ascii : ∀ char ∈ bucket.toList, char.toNat < 128
  · have all : (bucket.toList.all fun char => decide (char.toNat < 128)) = true :=
      List.all_eq_true.mpr fun char member => decide_eq_true (ascii char member)
    rw [if_pos all, documented_stride (documented_of_accepted accepted ascii)]
  · have notAll : ¬ (bucket.toList.all fun char => decide (char.toNat < 128)) = true :=
      fun all => ascii fun char member => of_decide_eq_true (List.all_eq_true.mp all char member)
    have unread : readInterval bucket = none :=
      Option.eq_none_iff_forall_ne_some.mpr fun interval reads =>
        ascii (read_interval_ascii reads)
    rw [if_neg notAll, unread, Option.bind_none]

theorem query_not_stuck {otherDigit : Char → Bool} {request : UsageQueryRequest} {stride : Int}
    (accepted : validateBucketInterval otherDigit request.bucket = .ok ())
    (reads : bucketStride request.bucket = some stride)
    (sumDoubles : List F64 → Option F64) (table : List UsageRow) :
    queryUsage sumDoubles otherDigit table request ≠ .error (.sqlx "the bucket is no stride") := by
  unfold queryUsage repoQueryUsage
  simp only [accepted, reads]
  cases (groupKeys request stride table).mapM fun key =>
      seriesPoint sumDoubles (groupRows request stride table key) key with
  | none => split_ifs <;> simp
  | some points => split_ifs <;> simp

/-- A bucket runs as validated exactly where validation refuses it or it is within limits. -/
theorem validated_bucket_runs_iff (otherDigit : Char → Bool) (bucket : String) :
    ValidatedRuns otherDigit bucket ↔
      (validateBucketInterval otherDigit bucket = .ok () → WithinLimits bucket) := by
  constructor
  · intro runs accepted
    exact (executable_iff accepted).mp (runs.executable accepted)
  · intro limited
    refine ⟨fun accepted => (executable_iff accepted).mpr (limited accepted), ?_, ?_⟩
    · rintro accepted sumDoubles table request rfl
      obtain ⟨interval, stride, reads, bins⟩ := (executable_iff accepted).mpr (limited accepted)
      have strided : bucketStride request.bucket = some stride := by
        rw [stride_of_accepted accepted, reads, Option.bind_some, bins]
      exact query_not_stuck accepted strided sumDoubles table
    · rintro ⟨lead, count, gap, unit, trail, written⟩
      exact written_accepted otherDigit written

/-- Zero hours pass validation, and Postgres takes no stride of zero. -/
theorem zero_hours_not_executable :
    validateBucketInterval (fun _ => false) "0 hours" = .ok () ∧ ¬ Executable "0 hours" := by
  have accepted : validateBucketInterval (fun _ => false) "0 hours" = .ok () := by
    decide +kernel
  have field : bucketField "0 hours" = some (0, 3600000000) := by decide +kernel
  refine ⟨accepted, fun executable => ?_⟩
  have within := (executable_iff accepted).mp executable
  exact absurd (within.positive 0 3600000000 field) (lt_irrefl 0)

end LightbridgeAuthz.Usage.BucketIntervals
