import Mathlib.Data.List.Basic
import Mathlib.Data.List.TakeDrop

/-!
# Text patterns

Patterns over text as a backtracking matcher reads them: every way a pattern matches the
head of a text, the preferred way first, and the replacement of every leftmost match.
-/

namespace LightbridgeAuthz.Library.TextPatterns

set_option autoImplicit false

/-- `many` repeats a character class as often as it can; `opt` prefers to match. -/
inductive Pattern where
  | one (test : Char → Bool)
  | seq (first second : Pattern)
  | alt (preferred other : Pattern)
  | many (test : Char → Bool)
  | opt (inner : Pattern)
  | group (index : Nat) (inner : Pattern)

namespace Pattern

def char (letter : Char) : Pattern := one (· == letter)

end Pattern

/-- One way to match: what it takes from the text, what it leaves and what its groups hold. -/
structure Found where
  taken : List Char
  rest : List Char
  captures : List (Nat × List Char)
deriving DecidableEq, Repr

namespace Found

def get (found : Found) (index : Nat) : Option (List Char) := found.captures.lookup index

def before (first second : Found) : Found :=
  ⟨first.taken ++ second.taken, second.rest, first.captures ++ second.captures⟩

def inGroup (index : Nat) (found : Found) : Found :=
  { found with captures := (index, found.taken) :: found.captures }

end Found

/-- What a repeated class can take, the longest first. -/
def splits (test : Char → Bool) : List Char → List Found
  | [] => [⟨[], [], []⟩]
  | letter :: letters =>
      if test letter then
        (splits test letters).map (fun found => { found with taken := letter :: found.taken }) ++
          [⟨[], letter :: letters, []⟩]
      else [⟨[], letter :: letters, []⟩]

/-- Every way the pattern matches the head of the text, in the order of preference. -/
def ways : Pattern → List Char → List Found
  | .one _, [] => []
  | .one test, letter :: letters => if test letter then [⟨[letter], letters, []⟩] else []
  | .seq first second, text =>
      (ways first text).flatMap fun found => (ways second found.rest).map found.before
  | .alt preferred other, text => ways preferred text ++ ways other text
  | .many test, text => splits test text
  | .opt inner, text => ways inner text ++ [⟨[], text, []⟩]
  | .group index inner, text => (ways inner text).map (Found.inGroup index)

def firstWay (pattern : Pattern) (text : List Char) : Option Found := (ways pattern text).head?

/-- The text with every leftmost match replaced, for a pattern that matches no empty text.
`skipped` characters still belong to the match before. -/
def replaceFrom (pattern : Pattern) (replacement : Found → List Char) :
    Nat → List Char → List Char
  | _, [] => []
  | skipped + 1, _ :: letters => replaceFrom pattern replacement skipped letters
  | 0, letter :: letters =>
      match firstWay pattern (letter :: letters) with
      | some found =>
          replacement found ++
            replaceFrom pattern replacement (found.taken.length - 1) letters
      | none => letter :: replaceFrom pattern replacement 0 letters

def replaceAll (pattern : Pattern) (replacement : Found → List Char) (text : List Char) :
    List Char :=
  replaceFrom pattern replacement 0 text

theorem replace_from_skipped (pattern : Pattern) (replacement : Found → List Char)
    (taken rest : List Char) :
    replaceFrom pattern replacement taken.length (taken ++ rest) =
      replaceAll pattern replacement rest := by
  induction taken with
  | nil => rfl
  | cons letter taken induction => exact induction

theorem replace_all_found {pattern : Pattern} {replacement : Found → List Char}
    {found : Found} {rest : List Char} (consumes : found.taken ≠ [])
    (first : firstWay pattern (found.taken ++ rest) = some found) :
    replaceAll pattern replacement (found.taken ++ rest) =
      replacement found ++ replaceAll pattern replacement rest := by
  cases isTaken : found.taken with
  | nil => exact absurd isTaken consumes
  | cons letter taken =>
      rw [isTaken] at first
      simp only [replaceAll, List.cons_append, replaceFrom] at first ⊢
      rw [first]
      simp only [isTaken, List.length_cons, Nat.add_sub_cancel]
      rw [replace_from_skipped]
      rfl

theorem replace_all_letter {pattern : Pattern} {replacement : Found → List Char}
    {letter : Char} {letters : List Char}
    (none : firstWay pattern (letter :: letters) = none) :
    replaceAll pattern replacement (letter :: letters) =
      letter :: replaceAll pattern replacement letters := by
  simp only [replaceAll, replaceFrom, none]

theorem splits_head (test : Char → Bool) (text : List Char) :
    (splits test text).head? = some ⟨text.takeWhile test, text.dropWhile test, []⟩ := by
  induction text with
  | nil => rfl
  | cons letter letters induction =>
      cases passes : test letter with
      | false => simp [splits, passes]
      | true =>
          simp only [splits, passes, if_true, List.takeWhile_cons, List.dropWhile_cons,
            List.head?_append, List.head?_map, induction]
          rfl

/-- What follows a repeated class decides how much it takes: where it refuses every text
that begins with a character of the class, only the longest split is left. -/
theorem splits_flat_map {Result : Type} (test : Char → Bool) (text : List Char)
    (continued : Found → List Result)
    (refuses : ∀ taken letter letters captures, test letter = true →
      continued ⟨taken, letter :: letters, captures⟩ = []) :
    (splits test text).flatMap continued =
      continued ⟨text.takeWhile test, text.dropWhile test, []⟩ := by
  induction text generalizing continued with
  | nil => simp [splits]
  | cons letter letters induction =>
      cases passes : test letter with
      | false => simp [splits, passes]
      | true =>
          simp only [splits, passes, if_true, List.flatMap_append, List.flatMap_map,
            List.flatMap_cons, List.flatMap_nil, List.append_nil, List.takeWhile_cons,
            List.dropWhile_cons]
          rw [refuses [] letter letters [] passes, List.append_nil]
          refine induction (fun found => continued { found with taken := letter :: found.taken }) ?_
          intro taken next following captures isNext
          exact refuses (letter :: taken) next following captures isNext

theorem ways_seq (first second : Pattern) (text : List Char) :
    ways (.seq first second) text =
      (ways first text).flatMap fun found => (ways second found.rest).map found.before := rfl

theorem ways_alt (preferred other : Pattern) (text : List Char) :
    ways (.alt preferred other) text = ways preferred text ++ ways other text := rfl

theorem ways_opt (inner : Pattern) (text : List Char) :
    ways (.opt inner) text = ways inner text ++ [⟨[], text, []⟩] := rfl

theorem ways_group (index : Nat) (inner : Pattern) (text : List Char) :
    ways (.group index inner) text = (ways inner text).map (Found.inGroup index) := rfl

theorem ways_char {letter : Char} (letters : List Char) :
    ways (.char letter) (letter :: letters) = [⟨[letter], letters, []⟩] := by
  simp [Pattern.char, ways]

theorem ways_other_char {letter other : Char} {letters : List Char} (different : other ≠ letter) :
    ways (.char letter) (other :: letters) = [] := by
  simp [Pattern.char, ways, different]

theorem ways_char_seq {letter : Char} (pattern : Pattern) (letters : List Char) :
    ways (.seq (.char letter) pattern) (letter :: letters) =
      (ways pattern letters).map (Found.before ⟨[letter], letters, []⟩) := by
  simp only [ways, ways_char, List.flatMap_cons, List.flatMap_nil, List.append_nil]

theorem ways_other_char_seq {letter other : Char} (pattern : Pattern) {letters : List Char}
    (different : other ≠ letter) :
    ways (.seq (.char letter) pattern) (other :: letters) = [] := by
  simp only [ways, ways_other_char different, List.flatMap_nil]

end LightbridgeAuthz.Library.TextPatterns
