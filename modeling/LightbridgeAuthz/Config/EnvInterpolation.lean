import Mathlib.Data.List.TakeWhile
import LightbridgeAuthz.Library.TextPatterns

/-!
# Environment variables in a configuration text

The references that `interpolate_env_vars` replaces before the YAML is read, and what a
text means as literal characters and references.
-/

namespace LightbridgeAuthz.Config.EnvInterpolation

open LightbridgeAuthz.Library.TextPatterns

set_option autoImplicit false

def isNameStart (letter : Char) : Bool :=
  ('a' ≤ letter && letter ≤ 'z') || ('A' ≤ letter && letter ≤ 'Z') || letter == '_'

def isNameChar (letter : Char) : Bool :=
  isNameStart letter || ('0' ≤ letter && letter ≤ '9')

def namePattern : Pattern := .seq (.one isNameStart) (.many isNameChar)

def operatorPattern : Pattern := .alt (.seq (.char ':') (.char '-')) (.char '-')

def fallbackPattern : Pattern :=
  .opt (.seq (.group 3 operatorPattern) (.group 4 (.many (· != '}'))))

def closePattern : Pattern := .seq fallbackPattern (.char '\x7d')

def bracedPattern : Pattern := .seq (.char '\x7b') (.seq (.group 2 namePattern) closePattern)

/-- The pattern's two alternatives: a plain name, and a name in braces that may have a
default. -/
def RE : Pattern :=
  .alt (.seq (.char '$') (.group 1 namePattern)) (.seq (.char '$') bracedPattern)

abbrev Environment : Type := String → Option String

def replacement (env : Environment) (caps : Found) : List Char :=
  match caps.get 1 with
  | some varName => ((env (String.ofList varName)).getD "").toList
  | none =>
      match caps.get 2 with
      | some varName =>
          let name := String.ofList varName
          let defaultValue := (caps.get 4).getD []
          match caps.get 3 with
          | none => ((env name).getD "").toList
          | some ['-'] =>
              match env name with
              | some value => value.toList
              | none => defaultValue
          | some [':', '-'] =>
              match env name with
              | some value => if value.isEmpty then defaultValue else value.toList
              | none => defaultValue
          | some _ => caps.taken
      | none => caps.taken

def interpolateEnvVars (env : Environment) (content : String) : String :=
  String.ofList (replaceAll RE (replacement env) content.toList)

/-! ## References -/

structure VarName where
  first : Char
  following : List Char
  starts : isNameStart first = true
  continues : ∀ letter ∈ following, isNameChar letter = true

namespace VarName

def letters (name : VarName) : List Char := name.first :: name.following

def text (name : VarName) : String := String.ofList name.letters

end VarName

/-- `-` stands in for a variable that is not set, `:-` also for one that is empty. -/
inductive Operator where
  | ifUnset
  | ifEmpty
deriving DecidableEq, Repr

def Operator.letters : Operator → List Char
  | .ifUnset => ['-']
  | .ifEmpty => [':', '-']

structure Fallback where
  operator : Operator
  value : List Char
  unclosed : ∀ letter ∈ value, (letter != '}') = true

inductive Reference where
  | bare (name : VarName)
  | braced (name : VarName) (fallback : Option Fallback)

def fallbackSpelling : Option Fallback → List Char
  | none => []
  | some fallback => fallback.operator.letters ++ fallback.value

namespace Reference

def name : Reference → VarName
  | bare name => name
  | braced name _ => name

def spelling : Reference → List Char
  | bare name => '$' :: name.letters
  | braced name fallback =>
      '$' :: '\x7b' :: (name.letters ++ (fallbackSpelling fallback ++ ['\x7d']))

/-- What the reference stands for where the variable has this value. -/
def value : Reference → Option String → List Char
  | bare _, found => (found.getD "").toList
  | braced _ none, found => (found.getD "").toList
  | braced _ (some fallback), none => fallback.value
  | braced _ (some fallback), some found =>
      match fallback.operator with
      | .ifUnset => found.toList
      | .ifEmpty => if found.isEmpty then fallback.value else found.toList

/-- Where a reference ends: a plain name goes on as long as it can. -/
def EndsAt : Reference → List Char → Prop
  | bare _, rest => ∀ letter ∈ rest.head?, isNameChar letter = false
  | braced _ _, _ => True

end Reference

def fallbackCaptures : Option Fallback → List (Nat × List Char)
  | none => []
  | some fallback => [(3, fallback.operator.letters), (4, fallback.value)]

def Reference.captures : Reference → List (Nat × List Char)
  | bare name => [(1, name.letters)]
  | braced name fallback => (2, name.letters) :: fallbackCaptures fallback

def Reference.found (reference : Reference) (rest : List Char) : Found :=
  ⟨reference.spelling, rest, reference.captures⟩

theorem replacement_reference (env : Environment) (reference : Reference) (rest : List Char) :
    replacement env (reference.found rest) = reference.value (env reference.name.text) := by
  cases reference with
  | bare name => rfl
  | braced name fallback =>
      cases fallback with
      | none => rfl
      | some fallback =>
          obtain ⟨operator, value, unclosed⟩ := fallback
          cases operator with
          | ifUnset =>
              change (match env name.text with
                | some found => found.toList
                | none => value) =
                  (Reference.braced name (some ⟨.ifUnset, value, unclosed⟩)).value (env name.text)
              cases env name.text with
              | none => rfl
              | some found => rfl
          | ifEmpty =>
              change (match env name.text with
                | some found => if found.isEmpty then value else found.toList
                | none => value) =
                  (Reference.braced name (some ⟨.ifEmpty, value, unclosed⟩)).value (env name.text)
              cases env name.text with
              | none => rfl
              | some found => rfl

/-! ## What the pattern matches -/

theorem name_ways (text : List Char) : ways namePattern text =
    match text with
    | [] => []
    | first :: following =>
        if isNameStart first then
          (splits isNameChar following).map (Found.before ⟨[first], following, []⟩)
        else [] := by
  cases text with
  | nil => rfl
  | cons first following =>
      simp only [namePattern, ways]
      cases starts : isNameStart first with
      | false => rfl
      | true => simp

theorem name_or_not (text : List Char) :
    (∃ (name : VarName) (rest : List Char), text = name.letters ++ rest ∧
      ∀ letter ∈ rest.head?, isNameChar letter = false) ∨ ways namePattern text = [] := by
  cases text with
  | nil => exact Or.inr rfl
  | cons first following =>
      rw [name_ways]
      cases starts : isNameStart first with
      | false => exact Or.inr (by simp [starts])
      | true =>
          refine Or.inl ⟨⟨first, following.takeWhile isNameChar, starts, ?_⟩,
            following.dropWhile isNameChar, ?_, ?_⟩
          · intro letter isLetter
            exact List.mem_takeWhile_imp isLetter
          · exact congrArg (List.cons first) List.takeWhile_append_dropWhile.symm
          · intro letter isHead
            have refused := List.head?_dropWhile_not isNameChar following
            rw [Option.mem_def.mp isHead] at refused
            simpa using refused

theorem name_split (name : VarName) {rest : List Char}
    (ends : ∀ letter ∈ rest.head?, isNameChar letter = false) :
    (name.following ++ rest).takeWhile isNameChar = name.following ∧
      (name.following ++ rest).dropWhile isNameChar = rest := by
  rw [List.takeWhile_append_of_pos name.continues, List.dropWhile_append_of_pos name.continues]
  cases rest with
  | nil => simp
  | cons letter rest =>
      have refused := ends letter rfl
      simp [refused]

theorem name_first {name : VarName} {rest : List Char}
    (ends : ∀ letter ∈ rest.head?, isNameChar letter = false) :
    (ways namePattern (name.letters ++ rest)).head? = some ⟨name.letters, rest, []⟩ := by
  obtain ⟨taken, left⟩ := name_split name ends
  simp only [VarName.letters, List.cons_append]
  rw [name_ways]
  simp only [name.starts, if_true, List.head?_map, splits_head, taken, left]
  rfl

theorem name_before {name : VarName} {rest : List Char} {next : Pattern} {index : Nat}
    (ends : ∀ letter ∈ rest.head?, isNameChar letter = false)
    (refuses : ∀ letter letters, isNameChar letter = true → ways next (letter :: letters) = []) :
    ways (.seq (.group index namePattern) next) (name.letters ++ rest) =
      (ways next rest).map (Found.before ⟨name.letters, rest, [(index, name.letters)]⟩) := by
  obtain ⟨taken, left⟩ := name_split name ends
  simp only [ways]
  rw [name_ways]
  simp only [VarName.letters, List.cons_append, name.starts, if_true, List.flatMap_map]
  rw [splits_flat_map, taken, left]
  · rfl
  · intro taken letter letters captures isChar
    simp only [Found.inGroup, Found.before]
    rw [refuses letter letters isChar]
    rfl

theorem operator_ways (operator : Operator) (letters : List Char) :
    ways operatorPattern (operator.letters ++ letters) = [⟨operator.letters, letters, []⟩] := by
  cases operator with
  | ifUnset => rfl
  | ifEmpty => rfl

theorem operator_or_not (text : List Char) :
    (∃ (operator : Operator) (letters : List Char), text = operator.letters ++ letters) ∨
      ways operatorPattern text = [] := by
  cases text with
  | nil => exact Or.inr rfl
  | cons letter letters =>
      by_cases dash : letter = '-'
      · exact Or.inl ⟨.ifUnset, letters, by rw [dash]; rfl⟩
      · by_cases colon : letter = ':'
        · subst colon
          cases letters with
          | nil => exact Or.inr rfl
          | cons second letters =>
              by_cases secondDash : second = '-'
              · exact Or.inl ⟨.ifEmpty, letters, by rw [secondDash]; rfl⟩
              · refine Or.inr ?_
                rw [operatorPattern, ways_alt, ways_char_seq, ways_other_char secondDash, ways_other_char dash]
                rfl
        · refine Or.inr ?_
          rw [operatorPattern, ways_alt, ways_other_char_seq _ colon, ways_other_char dash]
          rfl

theorem close_ways_operator (operator : Operator) (body : List Char) :
    ways closePattern (operator.letters ++ body) =
      (ways (.char '\x7d') (body.dropWhile (· != '}'))).map
        (Found.before ⟨operator.letters ++ body.takeWhile (· != '}'), body.dropWhile (· != '}'),
          [(3, operator.letters), (4, body.takeWhile (· != '}'))]⟩) := by
  have skipped : ways (.char '\x7d') (operator.letters ++ body) = [] := by
    cases operator with
    | ifUnset => rfl
    | ifEmpty => rfl
  rw [closePattern, fallbackPattern, ways_seq, ways_opt, ways_seq, ways_group, operator_ways]
  simp only [List.map_cons, List.map_nil, List.flatMap_cons, List.flatMap_nil, List.append_nil,
    List.flatMap_append, skipped, ways, List.flatMap_map, List.map_map, Found.inGroup]
  rw [splits_flat_map]
  · rfl
  · intro taken letter letters captures isBody
    simp only [Function.comp_apply, Found.inGroup, Found.before]
    rw [ways_other_char (by simpa using isBody)]
    rfl

theorem close_ways_other {text : List Char} (noOperator : ways operatorPattern text = []) :
    ways closePattern text =
      (ways (.char '\x7d') text).map (Found.before ⟨[], text, []⟩) := by
  rw [closePattern, fallbackPattern, ways_seq, ways_opt, ways_seq, ways_group, noOperator]
  simp only [List.map_nil, List.flatMap_nil, List.nil_append, List.flatMap_cons, List.append_nil]

theorem close_ways (fallback : Option Fallback) (rest : List Char) :
    ways closePattern (fallbackSpelling fallback ++ '\x7d' :: rest) =
      [⟨fallbackSpelling fallback ++ ['\x7d'], rest, fallbackCaptures fallback⟩] := by
  cases fallback with
  | none => rfl
  | some fallback =>
      obtain ⟨operator, value, unclosed⟩ := fallback
      have taken : (value ++ '\x7d' :: rest).takeWhile (· != '}') = value := by
        rw [List.takeWhile_append_of_pos unclosed]
        simp
      have left : (value ++ '\x7d' :: rest).dropWhile (· != '}') = '\x7d' :: rest := by
        rw [List.dropWhile_append_of_pos unclosed]
        simp
      simp only [fallbackSpelling, List.append_assoc]
      rw [close_ways_operator, taken, left, ways_char]
      simp [Found.before, fallbackCaptures]

theorem close_or_not (text : List Char) :
    (∃ (fallback : Option Fallback) (rest : List Char),
      text = fallbackSpelling fallback ++ '\x7d' :: rest) ∨ ways closePattern text = [] := by
  rcases operator_or_not text with ⟨operator, body, isText⟩ | noOperator
  · rw [isText, close_ways_operator]
    have whole : body.takeWhile (· != '}') ++ body.dropWhile (· != '}') = body :=
      List.takeWhile_append_dropWhile
    have refused := List.head?_dropWhile_not (· != '}') body
    cases left : body.dropWhile (· != '}') with
    | nil => exact Or.inr rfl
    | cons letter rest =>
        rw [left] at refused whole
        have closes : letter = '}' := by simpa using refused
        refine Or.inl ⟨some ⟨operator, body.takeWhile (· != '}'), ?_⟩, rest, ?_⟩
        · intro inner isInner
          exact List.mem_takeWhile_imp (p := (· != '}')) isInner
        · rw [closes] at whole
          simp only [fallbackSpelling, List.append_assoc]
          rw [whole]
  · rw [close_ways_other noOperator]
    cases text with
    | nil => exact Or.inr rfl
    | cons letter rest =>
        by_cases closes : letter = '}'
        · exact Or.inl ⟨none, rest, by rw [closes]; rfl⟩
        · exact Or.inr (by rw [ways_other_char closes]; rfl)

theorem close_refuses {letter : Char} (letters : List Char) (isChar : isNameChar letter = true) :
    ways closePattern (letter :: letters) = [] := by
  rcases close_or_not (letter :: letters) with ⟨fallback, rest, isText⟩ | refused
  · cases fallback with
    | none =>
        injection isText with sameLetter
        rw [sameLetter] at isChar
        exact absurd isChar (by decide)
    | some fallback =>
        obtain ⟨operator, value, unclosed⟩ := fallback
        cases operator with
        | ifUnset =>
            injection isText with sameLetter
            rw [sameLetter] at isChar
            exact absurd isChar (by decide)
        | ifEmpty =>
            injection isText with sameLetter
            rw [sameLetter] at isChar
            exact absurd isChar (by decide)
  · exact refused

theorem ways_dollar (letters : List Char) :
    ways RE ('$' :: letters) =
      ((ways namePattern letters).map (Found.inGroup 1)).map
          (Found.before ⟨['$'], letters, []⟩) ++
        (ways bracedPattern letters).map (Found.before ⟨['$'], letters, []⟩) := by
  rw [RE, ways_alt, ways_char_seq, ways_char_seq, ways_group]

theorem ways_no_dollar {letter : Char} (letters : List Char) (other : letter ≠ '$') :
    ways RE (letter :: letters) = [] := by
  rw [RE, ways_alt, ways_other_char_seq _ other, ways_other_char_seq _ other]
  rfl

theorem first_way_reference (reference : Reference) {rest : List Char}
    (ends : reference.EndsAt rest) :
    firstWay RE (reference.spelling ++ rest) = some (reference.found rest) := by
  cases reference with
  | bare name =>
      rw [firstWay, Reference.spelling, List.cons_append, ways_dollar, List.head?_append,
        List.head?_map, List.head?_map, name_first ends]
      rfl
  | braced name fallback =>
      have noName : ways namePattern
          ('\x7b' :: (name.letters ++ (fallbackSpelling fallback ++ '\x7d' :: rest))) = [] := by
        rw [name_ways]
        rfl
      have follows : ∀ letter ∈ (fallbackSpelling fallback ++ '\x7d' :: rest).head?,
          isNameChar letter = false := by
        cases fallback with
        | none => simp [fallbackSpelling]; decide
        | some fallback =>
            obtain ⟨operator, value, unclosed⟩ := fallback
            cases operator with
            | ifUnset => simp [fallbackSpelling, Operator.letters]; decide
            | ifEmpty => simp [fallbackSpelling, Operator.letters]; decide
      simp only [Reference.spelling, List.cons_append, List.append_assoc, List.nil_append,
        firstWay]
      rw [ways_dollar, noName, bracedPattern, ways_char_seq, name_before follows fun letter letters =>
        close_refuses letters, close_ways]
      rfl

theorem reference_or_not (text : List Char) :
    (∃ (reference : Reference) (rest : List Char), text = reference.spelling ++ rest ∧
      reference.EndsAt rest) ∨ firstWay RE text = none := by
  cases text with
  | nil => exact Or.inr rfl
  | cons letter letters =>
      by_cases dollar : letter = '$'
      · subst dollar
        rcases name_or_not letters with ⟨name, rest, isText, ends⟩ | noName
        · exact Or.inl ⟨.bare name, rest, by rw [isText]; rfl, ends⟩
        · cases letters with
          | nil => exact Or.inr rfl
          | cons brace letters =>
              by_cases opens : brace = '\x7b'
              · subst opens
                rcases name_or_not letters with ⟨name, inner, isText, ends⟩ | noInner
                · rcases close_or_not inner with ⟨fallback, rest, isInner⟩ | unclosed
                  · refine Or.inl ⟨.braced name fallback, rest, ?_, trivial⟩
                    simp only [isText, isInner, Reference.spelling, List.cons_append,
                      List.append_assoc, List.nil_append]
                  · refine Or.inr ?_
                    rw [isText] at noName ⊢
                    rw [firstWay, ways_dollar, noName, bracedPattern, ways_char_seq, name_before ends
                      fun letter letters => close_refuses letters, unclosed]
                    rfl
                · refine Or.inr ?_
                  rw [firstWay, ways_dollar, noName, bracedPattern, ways_char_seq, ways_seq,
                    ways_group, noInner]
                  rfl
              · refine Or.inr ?_
                rw [firstWay, ways_dollar, noName, bracedPattern, ways_other_char_seq _ opens]
                rfl
      · exact Or.inr (by rw [firstWay, ways_no_dollar letters dollar]; rfl)

/-! ## Texts as templates -/

inductive Piece where
  | letter (character : Char)
  | reference (reference : Reference)

def Piece.spelling : Piece → List Char
  | .letter character => [character]
  | .reference written => written.spelling

def render : List Piece → List Char
  | [] => []
  | piece :: template => piece.spelling ++ render template

/-- What a template stands for: the variables' values are taken as they are. -/
def expand (env : Environment) : List Piece → List Char
  | [] => []
  | .letter letter :: template => letter :: expand env template
  | .reference reference :: template =>
      reference.value (env reference.name.text) ++ expand env template

/-- A template is normal when no character of it begins a reference and every name in it goes
on as long as it can. -/
def Normal : List Piece → Prop
  | [] => True
  | .letter letter :: template =>
      (∀ (reference : Reference) (rest : List Char), reference.EndsAt rest →
        letter :: render template ≠ reference.spelling ++ rest) ∧ Normal template
  | .reference reference :: template => reference.EndsAt (render template) ∧ Normal template

theorem spelling_cons (reference : Reference) :
    ∃ letters, reference.spelling = '$' :: letters := by
  cases reference with
  | bare name => exact ⟨name.letters, rfl⟩
  | braced name fallback => exact ⟨_, rfl⟩

theorem interpolate_reference (env : Environment) (reference : Reference) {rest : List Char}
    (ends : reference.EndsAt rest) :
    replaceAll RE (replacement env) (reference.spelling ++ rest) =
      reference.value (env reference.name.text) ++ replaceAll RE (replacement env) rest := by
  have consumes : (reference.found rest).taken ≠ [] := by
    obtain ⟨letters, isSpelling⟩ := spelling_cons reference
    intro empty
    have nothing : reference.spelling = [] := empty
    rw [isSpelling] at nothing
    cases nothing
  rw [← replacement_reference env reference rest]
  exact replace_all_found consumes (first_way_reference reference ends)

theorem interpolate_render (env : Environment) {template : List Piece}
    (normal : Normal template) :
    replaceAll RE (replacement env) (render template) = expand env template := by
  induction template with
  | nil => rfl
  | cons piece template induction =>
      cases piece with
      | letter letter =>
          obtain ⟨noReference, restNormal⟩ := normal
          have unmatched : firstWay RE (letter :: render template) = none := by
            rcases reference_or_not (letter :: render template) with
              ⟨reference, rest, isText, ends⟩ | unmatched
            · exact absurd isText (noReference reference rest ends)
            · exact unmatched
          change replaceAll RE (replacement env) (letter :: render template) =
            letter :: expand env template
          rw [replace_all_letter unmatched, induction restNormal]
      | reference reference =>
          obtain ⟨ends, restNormal⟩ := normal
          change replaceAll RE (replacement env) (reference.spelling ++ render template) = _
          rw [interpolate_reference env reference ends, induction restNormal]
          rfl

theorem template_exists (size : Nat) : ∀ text : List Char, text.length ≤ size →
    ∃ template, Normal template ∧ render template = text := by
  induction size with
  | zero =>
      intro text short
      exact ⟨[], trivial, (List.eq_nil_of_length_eq_zero (Nat.le_zero.mp short)).symm⟩
  | succ size induction =>
      intro text short
      by_cases begins : ∃ (reference : Reference) (rest : List Char),
          reference.EndsAt rest ∧ text = reference.spelling ++ rest
      · obtain ⟨reference, rest, ends, isText⟩ := begins
        obtain ⟨letters, isSpelling⟩ := spelling_cons reference
        have shorter : rest.length ≤ size := by
          rw [isText, isSpelling] at short
          simp only [List.cons_append, List.length_cons, List.length_append] at short
          omega
        obtain ⟨template, normal, rendered⟩ := induction rest shorter
        refine ⟨.reference reference :: template, ⟨rendered.symm ▸ ends, normal⟩, ?_⟩
        rw [isText, ← rendered]
        rfl
      · cases text with
        | nil => exact ⟨[], trivial, rfl⟩
        | cons letter letters =>
            obtain ⟨template, normal, rendered⟩ :=
              induction letters (Nat.le_of_succ_le_succ short)
            refine ⟨.letter letter :: template, ⟨?_, normal⟩, congrArg (List.cons letter) rendered⟩
            intro reference rest ends isText
            rw [rendered] at isText
            exact begins ⟨reference, rest, ends, isText⟩

theorem captures_injective {first second : Reference}
    (same : first.captures = second.captures) : first = second := by
  have names : ∀ {first second : VarName}, first.letters = second.letters → first = second := by
    intro first second same
    cases first
    cases second
    injection same with sameFirst sameFollowing
    subst sameFirst sameFollowing
    rfl
  cases first with
  | bare first =>
      cases second with
      | bare second =>
          injection same with sameName
          rw [names (congrArg Prod.snd sameName)]
      | braced second fallback =>
          injection same with sameName
          exact absurd (congrArg Prod.fst sameName) (show (1 : Nat) ≠ 2 by decide)
  | braced first fallback =>
      cases second with
      | bare second =>
          injection same with sameName
          exact absurd (congrArg Prod.fst sameName) (show (2 : Nat) ≠ 1 by decide)
      | braced second other =>
          injection same with sameName sameFallback
          rw [names (congrArg Prod.snd sameName)]
          cases fallback with
          | none =>
              cases other with
              | none => rfl
              | some other => cases sameFallback
          | some fallback =>
              cases other with
              | none => cases sameFallback
              | some other =>
                  injection sameFallback with sameOperator sameValue
                  injection sameValue with sameValue
                  obtain ⟨operator, value, unclosed⟩ := fallback
                  obtain ⟨otherOperator, otherValue, otherUnclosed⟩ := other
                  have valuesEqual : value = otherValue := congrArg Prod.snd sameValue
                  have operatorsEqual : operator = otherOperator := by
                    have sameLetters : operator.letters = otherOperator.letters :=
                      congrArg Prod.snd sameOperator
                    cases operator with
                    | ifUnset =>
                        cases otherOperator with
                        | ifUnset => rfl
                        | ifEmpty => cases sameLetters
                    | ifEmpty =>
                        cases otherOperator with
                        | ifUnset => cases sameLetters
                        | ifEmpty => rfl
                  subst valuesEqual operatorsEqual
                  rfl

theorem reference_unique {first second : Reference} {rest other : List Char}
    (firstEnds : first.EndsAt rest) (secondEnds : second.EndsAt other)
    (same : first.spelling ++ rest = second.spelling ++ other) :
    first = second ∧ rest = other := by
  have found := first_way_reference first firstEnds
  rw [same, first_way_reference second secondEnds] at found
  injection found with found
  exact ⟨captures_injective (congrArg Found.captures found).symm,
    (congrArg Found.rest found).symm⟩

theorem template_unique {first second : List Piece} (firstNormal : Normal first)
    (secondNormal : Normal second) (same : render first = render second) : first = second := by
  induction first generalizing second with
  | nil =>
      cases second with
      | nil => rfl
      | cons piece template =>
          cases piece with
          | letter letter => cases same
          | reference reference =>
              obtain ⟨letters, isSpelling⟩ := spelling_cons reference
              change [] = reference.spelling ++ render template at same
              rw [isSpelling] at same
              cases same
  | cons piece template induction =>
      cases piece with
      | letter letter =>
          cases second with
          | nil => cases same
          | cons otherPiece otherTemplate =>
              cases otherPiece with
              | letter other =>
                  injection same with sameLetter sameRest
                  rw [sameLetter, induction firstNormal.2 secondNormal.2 sameRest]
              | reference reference =>
                  exact absurd same (firstNormal.1 reference _ secondNormal.1)
      | reference reference =>
          cases second with
          | nil =>
              obtain ⟨letters, isSpelling⟩ := spelling_cons reference
              change reference.spelling ++ render template = [] at same
              rw [isSpelling] at same
              cases same
          | cons otherPiece otherTemplate =>
              cases otherPiece with
              | letter other => exact absurd same.symm (secondNormal.1 reference _ firstNormal.1)
              | reference other =>
                  obtain ⟨sameReference, sameRest⟩ :=
                    reference_unique firstNormal.1 secondNormal.1 same
                  rw [sameReference, induction firstNormal.2 secondNormal.2 sameRest]

structure ReadAs (content : String) (template : List Piece) : Prop where
  normal : Normal template
  spells : render template = content.toList

/-- Interpolation by the text's one template: each reference gives the value of its variable
and nothing in a value is read again, so no other variable matters. -/
structure Interpolates (content : String) : Prop where
  read : ∃ template, ReadAs content template ∧ ∀ other, ReadAs content other → other = template
  expands : ∀ template, ReadAs content template → ∀ env,
    interpolateEnvVars env content = String.ofList (expand env template)
  reads : ∀ template, ReadAs content template → ∀ env other : Environment,
    (∀ reference, Piece.reference reference ∈ template →
      env reference.name.text = other reference.name.text) →
    interpolateEnvVars env content = interpolateEnvVars other content

theorem expand_congr {env other : Environment} {template : List Piece}
    (same : ∀ reference, Piece.reference reference ∈ template →
      env reference.name.text = other reference.name.text) :
    expand env template = expand other template := by
  induction template with
  | nil => rfl
  | cons piece template induction =>
      have rest := induction fun reference isPiece => same reference (List.mem_cons_of_mem _ isPiece)
      cases piece with
      | letter letter => exact congrArg (List.cons letter) rest
      | reference reference =>
          simp only [expand]
          rw [same reference List.mem_cons_self, rest]

theorem interpolates_every_text (content : String) : Interpolates content := by
  have expands : ∀ template, ReadAs content template → ∀ env,
      interpolateEnvVars env content = String.ofList (expand env template) := by
    intro template read env
    rw [interpolateEnvVars, ← read.spells, interpolate_render env read.normal]
  refine ⟨?_, expands, ?_⟩
  · obtain ⟨template, normal, spells⟩ := template_exists _ content.toList le_rfl
    refine ⟨template, ⟨normal, spells⟩, ?_⟩
    intro other read
    exact template_unique read.normal normal (read.spells.trans spells.symm)
  · intro template read env other same
    rw [expands template read env, expands template read other, expand_congr same]

/-- Neither a value nor a default is read again. -/
example : interpolateEnvVars (fun name => if name = "HOST" then some "$A" else none)
    "url: $HOST:$\x7bPORT:-$\x7bX\x7d\x7d" = "url: $A:$\x7bX\x7d" := by decide

end LightbridgeAuthz.Config.EnvInterpolation
