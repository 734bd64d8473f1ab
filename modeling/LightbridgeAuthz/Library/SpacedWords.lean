import Mathlib.Data.List.Basic

/-!
# Words between separators

The words of a text are its longest non-empty runs without a separator. A list of
words that is joined by separators is read back as it was.
-/

namespace LightbridgeAuthz.Library.SpacedWords

set_option autoImplicit false

variable {Item : Type*} {isSpace : Item → Bool}

def words (isSpace : Item → Bool) (text : List Item) : List (List Item) :=
  (text.splitOnP isSpace).filter (· ≠ [])

structure IsWord (isSpace : Item → Bool) (word : List Item) : Prop where
  nonempty : word ≠ []
  unspaced : ∀ item ∈ word, isSpace item = false

/-- The word stands in the text, with a separator or nothing on either side. -/
def StandsIn (isSpace : Item → Bool) (word text : List Item) : Prop :=
  ∃ before after, text = before ++ word ++ after ∧
    (∀ item ∈ before.getLast?, isSpace item = true) ∧ ∀ item ∈ after.head?, isSpace item = true

theorem words_of_unspaced {text : List Item} (unspaced : ∀ item ∈ text, isSpace item = false) :
    words isSpace text = [text].filter (· ≠ []) := by
  rw [words, List.splitOnP_eq_singleton unspaced]

theorem words_append_space {front rest : List Item} {space : Item}
    (isSeparator : isSpace space = true) :
    words isSpace (front ++ space :: rest) = words isSpace front ++ words isSpace rest := by
  rw [words, List.splitOnP_append_cons front rest isSeparator, List.filter_append]
  rfl

theorem words_of_word {word : List Item} (isWord : IsWord isSpace word) :
    words isSpace word = [word] := by
  rw [words_of_unspaced isWord.unspaced]
  simp [isWord.nonempty]

theorem exists_first_space {text : List Item} (spaced : ¬ ∀ item ∈ text, isSpace item = false) :
    ∃ front space rest, text = front ++ space :: rest ∧ isSpace space = true ∧
      ∀ item ∈ front, isSpace item = false := by
  induction text with
  | nil => exact absurd (fun _ member => (List.not_mem_nil member).elim) spaced
  | cons head tail ih =>
      cases first : isSpace head with
      | true => exact ⟨[], head, tail, rfl, first, fun _ member => (List.not_mem_nil member).elim⟩
      | false =>
          have tailSpaced : ¬ ∀ item ∈ tail, isSpace item = false := by
            intro unspaced
            exact spaced (List.forall_mem_cons.mpr ⟨first, unspaced⟩)
          obtain ⟨front, space, rest, isTail, isSeparator, unspaced⟩ := ih tailSpaced
          refine ⟨head :: front, space, rest, ?_, isSeparator,
            List.forall_mem_cons.mpr ⟨first, unspaced⟩⟩
          rw [isTail, List.cons_append]

theorem stands_in_self {word : List Item} : StandsIn isSpace word word :=
  ⟨[], [], by simp, by simp, by simp⟩

theorem stands_in_append_space {word front rest : List Item} {space : Item}
    (isSeparator : isSpace space = true) (stands : StandsIn isSpace word rest) :
    StandsIn isSpace word (front ++ space :: rest) := by
  obtain ⟨before, after, isRest, left, right⟩ := stands
  refine ⟨front ++ space :: before, after, by simp [isRest], ?_, right⟩
  intro item last
  rw [List.getLast?_append_cons] at last
  cases before with
  | nil =>
      obtain rfl := Option.some.inj last
      exact isSeparator
  | cons head tail =>
      rw [List.getLast?_cons_cons] at last
      exact left item last

theorem word_of_mem_words {word text : List Item} (member : word ∈ words isSpace text) :
    IsWord isSpace word ∧ StandsIn isSpace word text := by
  by_cases unspaced : ∀ item ∈ text, isSpace item = false
  · rw [words_of_unspaced unspaced] at member
    obtain ⟨isText, nonempty⟩ := List.mem_filter.mp member
    rw [List.mem_singleton] at isText
    subst isText
    exact ⟨⟨of_decide_eq_true nonempty, unspaced⟩, stands_in_self⟩
  · obtain ⟨front, space, rest, rfl, isSeparator, unspaced⟩ := exists_first_space unspaced
    rw [words_append_space isSeparator, words_of_unspaced unspaced] at member
    rcases List.mem_append.mp member with first | later
    · obtain ⟨isFront, nonempty⟩ := List.mem_filter.mp first
      rw [List.mem_singleton] at isFront
      subst isFront
      refine ⟨⟨of_decide_eq_true nonempty, unspaced⟩, [], space :: rest, rfl, by simp, ?_⟩
      intro item isHead
      obtain rfl := Option.some.inj isHead
      exact isSeparator
    · obtain ⟨isWord, stands⟩ := word_of_mem_words later
      exact ⟨isWord, stands_in_append_space isSeparator stands⟩
termination_by text.length

theorem mem_words_append {word after : List Item} (isWord : IsWord isSpace word)
    (ends : ∀ item ∈ after.head?, isSpace item = true) :
    word ∈ words isSpace (word ++ after) := by
  cases after with
  | nil => simp [words_of_word isWord]
  | cons space rest =>
      rw [words_append_space (ends space rfl), words_of_word isWord]
      exact List.mem_append_left _ (List.mem_singleton_self word)

theorem mem_words {word text : List Item} :
    word ∈ words isSpace text ↔ IsWord isSpace word ∧ StandsIn isSpace word text := by
  refine ⟨word_of_mem_words, ?_⟩
  rintro ⟨isWord, before, after, rfl, left, right⟩
  rcases List.eq_nil_or_concat before with rfl | ⟨front, space, rfl⟩
  · exact mem_words_append isWord right
  · have isSeparator : isSpace space = true := left space (by simp)
    have split : front.concat space ++ word ++ after = front ++ space :: (word ++ after) := by simp
    rw [split, words_append_space isSeparator]
    exact List.mem_append_right _ (mem_words_append isWord right)

theorem words_intercalate {texts : List (List Item)} {space : Item}
    (isSeparator : isSpace space = true) (areWords : ∀ word ∈ texts, IsWord isSpace word) :
    words isSpace ([space].intercalate texts) = texts := by
  induction texts with
  | nil => rfl
  | cons word rest ih =>
      obtain ⟨isWord, restWords⟩ := List.forall_mem_cons.mp areWords
      cases rest with
      | nil => simp [List.intercalate, words_of_word isWord]
      | cons next others =>
          have joined : [space].intercalate (word :: next :: others) =
              word ++ space :: [space].intercalate (next :: others) := by
            simp [List.intercalate]
          rw [joined, words_append_space isSeparator, words_of_word isWord, ih restWords]
          rfl

end LightbridgeAuthz.Library.SpacedWords
