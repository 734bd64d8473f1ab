import LightbridgeAuthz.Library.CborTokens

/-!
# Trees of CBOR

A sequence of items is a sequence of trees. The tokens of a tree determine it, and so do
its bytes. A change of the scalars of a tree is one of its tokens.
-/

namespace LightbridgeAuthz.Library.CborTrees

open CborTokens

set_option autoImplicit false

/-- An item. Containers and strings of indefinite length are kept apart from the others. -/
inductive Item where
  | scalar (value : Scalar)
  | chunks (isText : Bool) (pieces : List (List UInt8))
  | array (isIndefinite : Bool) (items : List Item)
  | map (isIndefinite : Bool) (entries : List (Item × Item))
  | tag (number : Nat) (item : Item)

def chunk (isText : Bool) (piece : List UInt8) : Token := .scalar (.string isText piece)

mutual

def tokensOf : Item → List Token
  | .scalar value => [.scalar value]
  | .chunks isText pieces => .beginString isText :: (pieces.map (chunk isText) ++ [.stop])
  | .array false items => .array items.length :: itemTokens items
  | .array true items => .beginArray :: (itemTokens items ++ [.stop])
  | .map false entries => .map entries.length :: entryTokens entries
  | .map true entries => .beginMap :: (entryTokens entries ++ [.stop])
  | .tag number item => .tag number :: tokensOf item

def itemTokens : List Item → List Token
  | [] => []
  | item :: rest => tokensOf item ++ itemTokens rest

def entryTokens : List (Item × Item) → List Token
  | [] => []
  | (key, value) :: rest => tokensOf key ++ (tokensOf value ++ entryTokens rest)

end

mutual

/-- The tree with its scalars changed, but for those in a string of chunks. -/
def mapScalars (change : Scalar → Scalar) : Item → Item
  | .scalar value => .scalar (change value)
  | .chunks isText pieces => .chunks isText pieces
  | .array isIndefinite items => .array isIndefinite (mapItems change items)
  | .map isIndefinite entries => .map isIndefinite (mapEntries change entries)
  | .tag number item => .tag number (mapScalars change item)

def mapItems (change : Scalar → Scalar) : List Item → List Item
  | [] => []
  | item :: rest => mapScalars change item :: mapItems change rest

def mapEntries (change : Scalar → Scalar) : List (Item × Item) → List (Item × Item)
  | [] => []
  | (key, value) :: rest =>
      (mapScalars change key, mapScalars change value) :: mapEntries change rest

end

def mapToken (change : Scalar → Scalar) : Token → Token
  | .scalar value => .scalar (change value)
  | token => token

def Decodes (validText : List UInt8 → Prop) (bytes : List UInt8) (items : List Item) : Prop :=
  Spells validText (itemTokens items) bytes

theorem map_items_length (change : Scalar → Scalar) (items : List Item) :
    (mapItems change items).length = items.length := by
  induction items with
  | nil => rfl
  | cons item rest ih => rw [mapItems, List.length_cons, List.length_cons, ih]

theorem map_entries_length (change : Scalar → Scalar) (entries : List (Item × Item)) :
    (mapEntries change entries).length = entries.length := by
  induction entries with
  | nil => rfl
  | cons entry rest ih =>
      obtain ⟨key, value⟩ := entry
      rw [mapEntries, List.length_cons, List.length_cons, ih]

def KeepsStrings (change : Scalar → Scalar) : Prop :=
  ∀ isText payload, change (.string isText payload) = .string isText payload

theorem chunks_kept {change : Scalar → Scalar} (keeps : KeepsStrings change) (isText : Bool)
    (pieces : List (List UInt8)) :
    (pieces.map (chunk isText)).map (mapToken change) = pieces.map (chunk isText) := by
  rw [List.map_map]
  apply List.map_congr_left
  intro piece _
  exact congrArg Token.scalar (keeps isText piece)

mutual

theorem tokens_of_map_scalars {change : Scalar → Scalar} (keeps : KeepsStrings change) :
    (tree : Item) → tokensOf (mapScalars change tree) = (tokensOf tree).map (mapToken change)
  | .scalar value => rfl
  | .chunks isText pieces => by
      rw [mapScalars, tokensOf, List.map_cons, List.map_append, chunks_kept keeps]
      rfl
  | .array false items => by
      rw [mapScalars, tokensOf, tokensOf, map_items_length, item_tokens_map keeps items]
      rfl
  | .array true items => by
      rw [mapScalars, tokensOf, tokensOf, item_tokens_map keeps items, List.map_cons,
        List.map_append]
      rfl
  | .map false entries => by
      rw [mapScalars, tokensOf, tokensOf, map_entries_length, entry_tokens_map keeps entries]
      rfl
  | .map true entries => by
      rw [mapScalars, tokensOf, tokensOf, entry_tokens_map keeps entries, List.map_cons,
        List.map_append]
      rfl
  | .tag number item => by
      rw [mapScalars, tokensOf, tokensOf, tokens_of_map_scalars keeps item]
      rfl

theorem item_tokens_map {change : Scalar → Scalar} (keeps : KeepsStrings change) :
    (items : List Item) →
      itemTokens (mapItems change items) = (itemTokens items).map (mapToken change)
  | [] => rfl
  | item :: rest => by
      rw [mapItems, itemTokens, itemTokens, List.map_append, tokens_of_map_scalars keeps item,
        item_tokens_map keeps rest]

theorem entry_tokens_map {change : Scalar → Scalar} (keeps : KeepsStrings change) :
    (entries : List (Item × Item)) →
      entryTokens (mapEntries change entries) = (entryTokens entries).map (mapToken change)
  | [] => rfl
  | (key, value) :: rest => by
      rw [mapEntries, entryTokens, entryTokens, List.map_append, List.map_append,
        tokens_of_map_scalars keeps key, tokens_of_map_scalars keeps value,
        entry_tokens_map keeps rest]

end

/-! ## The tokens determine the tree -/

theorem tokens_of_begins (tree : Item) :
    ∃ first later, tokensOf tree = first :: later ∧ first ≠ .stop := by
  cases tree with
  | scalar value => exact ⟨_, _, rfl, by simp⟩
  | chunks isText pieces => exact ⟨_, _, rfl, by simp⟩
  | array isIndefinite items => cases isIndefinite <;> exact ⟨_, _, rfl, by simp⟩
  | map isIndefinite entries => cases isIndefinite <;> exact ⟨_, _, rfl, by simp⟩
  | tag number item => exact ⟨_, _, rfl, by simp⟩

theorem chunks_append {isText : Bool} {pieces others : List (List UInt8)}
    {rest otherRest : List Token}
    (same : pieces.map (chunk isText) ++ .stop :: rest =
      others.map (chunk isText) ++ .stop :: otherRest) :
    pieces = others ∧ rest = otherRest := by
  induction pieces generalizing others with
  | nil =>
      cases others with
      | nil => exact ⟨rfl, (List.cons.inj same).2⟩
      | cons other others => cases (List.cons.inj same).1
  | cons piece pieces ih =>
      cases others with
      | nil => cases (List.cons.inj same).1
      | cons other others =>
          obtain ⟨here, later⟩ := List.cons.inj same
          obtain ⟨rfl, rfl⟩ := ih later
          cases here
          exact ⟨rfl, rfl⟩

/-- Another tree of the same form, and of as many parts where their number is written. -/
def SameForm : Item → Item → Prop
  | .scalar _, .scalar _ => True
  | .chunks isText _, .chunks otherText _ => isText = otherText
  | .array false items, .array false others => items.length = others.length
  | .array true _, .array true _ => True
  | .map false entries, .map false others => entries.length = others.length
  | .map true _, .map true _ => True
  | .tag number _, .tag other _ => number = other
  | _, _ => False

theorem same_form {tree other : Item} {rest otherRest : List Token}
    (same : tokensOf tree ++ rest = tokensOf other ++ otherRest) : SameForm tree other := by
  have firsts : ∀ {first otherFirst : Token} {later otherLater : List Token},
      tokensOf tree = first :: later → tokensOf other = otherFirst :: otherLater →
        first = otherFirst := by
    intro first otherFirst later otherLater begins otherBegins
    rw [begins, otherBegins] at same
    exact (List.cons.inj same).1
  rcases tree with value | ⟨isText, pieces⟩ | ⟨_ | _, items⟩ | ⟨_ | _, entries⟩ | ⟨number, item⟩ <;>
    rcases other with value | ⟨otherText, others⟩ | ⟨_ | _, others⟩ | ⟨_ | _, others⟩ |
      ⟨otherNumber, other⟩ <;>
    have isFirst := firsts rfl rfl <;>
    first
      | exact trivial
      | exact Token.beginString.inj isFirst
      | exact Token.array.inj isFirst
      | exact Token.map.inj isFirst
      | exact Token.tag.inj isFirst
      | cases isFirst

mutual

theorem tokens_of_append : (tree other : Item) → {rest otherRest : List Token} →
    tokensOf tree ++ rest = tokensOf other ++ otherRest → tree = other ∧ rest = otherRest
  | .scalar value, other, rest, otherRest, same => by
      have form := same_form same
      rcases other with otherValue | _ | _ | _ | _
      · obtain ⟨here, later⟩ := List.cons.inj same
        cases here
        exact ⟨rfl, later⟩
      all_goals exact form.elim
  | .chunks isText pieces, other, rest, otherRest, same => by
      have form := same_form same
      rcases other with _ | ⟨otherText, others⟩ | _ | _ | _
      · exact form.elim
      · obtain rfl : isText = otherText := form
        have later : pieces.map (chunk isText) ++ .stop :: rest =
            others.map (chunk isText) ++ .stop :: otherRest := by simpa [tokensOf] using same
        obtain ⟨rfl, isRest⟩ := chunks_append later
        exact ⟨rfl, isRest⟩
      all_goals exact form.elim
  | .array false items, other, rest, otherRest, same => by
      have form := same_form same
      rcases other with _ | _ | ⟨_ | _, others⟩ | _ | _
      · exact form.elim
      · exact form.elim
      · obtain ⟨rfl, isRest⟩ := item_tokens_append items others form (List.cons.inj same).2
        exact ⟨rfl, isRest⟩
      all_goals exact form.elim
  | .array true items, other, rest, otherRest, same => by
      have form := same_form same
      rcases other with _ | _ | ⟨_ | _, others⟩ | _ | _
      · exact form.elim
      · exact form.elim
      · exact form.elim
      · have later : itemTokens items ++ .stop :: rest = itemTokens others ++ .stop :: otherRest := by
          simpa [tokensOf] using same
        obtain ⟨rfl, isRest⟩ := item_tokens_stop items others later
        exact ⟨rfl, isRest⟩
      all_goals exact form.elim
  | .map false entries, other, rest, otherRest, same => by
      have form := same_form same
      rcases other with _ | _ | _ | ⟨_ | _, others⟩ | _
      · exact form.elim
      · exact form.elim
      · exact form.elim
      · obtain ⟨rfl, isRest⟩ := entry_tokens_append entries others form (List.cons.inj same).2
        exact ⟨rfl, isRest⟩
      all_goals exact form.elim
  | .map true entries, other, rest, otherRest, same => by
      have form := same_form same
      rcases other with _ | _ | _ | ⟨_ | _, others⟩ | _
      · exact form.elim
      · exact form.elim
      · exact form.elim
      · exact form.elim
      · have later : entryTokens entries ++ .stop :: rest =
            entryTokens others ++ .stop :: otherRest := by simpa [tokensOf] using same
        obtain ⟨rfl, isRest⟩ := entry_tokens_stop entries others later
        exact ⟨rfl, isRest⟩
      · exact form.elim
  | .tag number item, other, rest, otherRest, same => by
      have form := same_form same
      rcases other with _ | _ | _ | _ | ⟨otherNumber, other⟩
      · exact form.elim
      · exact form.elim
      · exact form.elim
      · exact form.elim
      · obtain rfl : number = otherNumber := form
        obtain ⟨rfl, isRest⟩ := tokens_of_append item other (List.cons.inj same).2
        exact ⟨rfl, isRest⟩

theorem item_tokens_append : (items others : List Item) → {rest otherRest : List Token} →
    items.length = others.length →
      itemTokens items ++ rest = itemTokens others ++ otherRest →
        items = others ∧ rest = otherRest
  | [], [], rest, otherRest, _, same => ⟨rfl, same⟩
  | [], other :: others, rest, otherRest, sameLength, _ => by cases sameLength
  | item :: items, [], rest, otherRest, sameLength, _ => by cases sameLength
  | item :: items, other :: others, rest, otherRest, sameLength, same => by
      rw [itemTokens, itemTokens, List.append_assoc, List.append_assoc] at same
      obtain ⟨rfl, later⟩ := tokens_of_append item other same
      obtain ⟨rfl, isRest⟩ := item_tokens_append items others (Nat.succ.inj sameLength) later
      exact ⟨rfl, isRest⟩

theorem item_tokens_stop : (items others : List Item) → {rest otherRest : List Token} →
    itemTokens items ++ .stop :: rest = itemTokens others ++ .stop :: otherRest →
      items = others ∧ rest = otherRest
  | [], [], rest, otherRest, same => ⟨rfl, (List.cons.inj same).2⟩
  | [], other :: others, rest, otherRest, same => by
      obtain ⟨first, later, begins, notStop⟩ := tokens_of_begins other
      simp only [itemTokens, begins] at same
      exact absurd (List.cons.inj same).1.symm notStop
  | item :: items, [], rest, otherRest, same => by
      obtain ⟨first, later, begins, notStop⟩ := tokens_of_begins item
      simp only [itemTokens, begins] at same
      exact absurd (List.cons.inj same).1 notStop
  | item :: items, other :: others, rest, otherRest, same => by
      rw [itemTokens, itemTokens, List.append_assoc, List.append_assoc] at same
      obtain ⟨rfl, later⟩ := tokens_of_append item other same
      obtain ⟨rfl, isRest⟩ := item_tokens_stop items others later
      exact ⟨rfl, isRest⟩

theorem entry_tokens_append : (entries others : List (Item × Item)) →
    {rest otherRest : List Token} → entries.length = others.length →
      entryTokens entries ++ rest = entryTokens others ++ otherRest →
        entries = others ∧ rest = otherRest
  | [], [], rest, otherRest, _, same => ⟨rfl, same⟩
  | [], other :: others, rest, otherRest, sameLength, _ => by cases sameLength
  | entry :: entries, [], rest, otherRest, sameLength, _ => by cases sameLength
  | (key, value) :: entries, (otherKey, other) :: others, rest, otherRest, sameLength, same => by
      simp only [entryTokens, List.append_assoc] at same
      obtain ⟨rfl, afterKey⟩ := tokens_of_append key otherKey same
      obtain ⟨rfl, later⟩ := tokens_of_append value other afterKey
      obtain ⟨rfl, isRest⟩ := entry_tokens_append entries others (Nat.succ.inj sameLength) later
      exact ⟨rfl, isRest⟩

theorem entry_tokens_stop : (entries others : List (Item × Item)) →
    {rest otherRest : List Token} →
      entryTokens entries ++ .stop :: rest = entryTokens others ++ .stop :: otherRest →
        entries = others ∧ rest = otherRest
  | [], [], rest, otherRest, same => ⟨rfl, (List.cons.inj same).2⟩
  | [], (key, value) :: others, rest, otherRest, same => by
      obtain ⟨first, later, begins, notStop⟩ := tokens_of_begins key
      simp only [entryTokens, begins] at same
      exact absurd (List.cons.inj same).1.symm notStop
  | (key, value) :: entries, [], rest, otherRest, same => by
      obtain ⟨first, later, begins, notStop⟩ := tokens_of_begins key
      simp only [entryTokens, begins] at same
      exact absurd (List.cons.inj same).1 notStop
  | (key, value) :: entries, (otherKey, other) :: others, rest, otherRest, same => by
      simp only [entryTokens, List.append_assoc] at same
      obtain ⟨rfl, afterKey⟩ := tokens_of_append key otherKey same
      obtain ⟨rfl, later⟩ := tokens_of_append value other afterKey
      obtain ⟨rfl, isRest⟩ := entry_tokens_stop entries others later
      exact ⟨rfl, isRest⟩

end

theorem item_tokens_injective : (items others : List Item) →
    itemTokens items = itemTokens others → items = others := by
  intro items others same
  have stopped : itemTokens items ++ .stop :: [] = itemTokens others ++ .stop :: [] := by
    rw [same]
  exact (item_tokens_stop items others stopped).1

theorem decodes_unique {validText : List UInt8 → Prop} {bytes : List UInt8}
    {items others : List Item} (decodes : Decodes validText bytes items)
    (decodesOthers : Decodes validText bytes others) : items = others :=
  item_tokens_injective items others (spells_unique decodes decodesOthers)

end LightbridgeAuthz.Library.CborTrees
