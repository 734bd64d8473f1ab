import LightbridgeAuthz.Library.CborTrees

/-!
# The lenient codec

The body of a call is CBOR, and a client writes `undefined` for a field that it leaves
out. Before a body is decoded each `undefined` item is made `null`: token by token, and
not at all where the byte `0xF7` is nowhere in the body.
-/

namespace LightbridgeAuthz.Access.LenientCodec

open Library.CborTokens Library.CborTrees

set_option autoImplicit false

inductive CodecError where
  | codec (message : String)
  deriving DecidableEq, Repr

def nullForUndefined (token : Token) : Token :=
  if token = .scalar .undefined then .scalar .null else token

section Codec

variable (tokenizer : List UInt8 → List (Except String Token))
  (encode : Token → Except String (List UInt8))

/-- The loop over the tokens, with what has been written. -/
def reencodeTokens (out : List UInt8) :
    List (Except String Token) → Except CodecError (List UInt8)
  | [] => .ok out
  | .error error :: _ => .error (.codec ("failed to decode CBOR body: " ++ error))
  | .ok token :: rest =>
      match encode (nullForUndefined token) with
      | .error error => .error (.codec ("failed to re-encode CBOR body: " ++ error))
      | .ok piece => reencodeTokens (out ++ piece) rest

def reencode (bytes : List UInt8) : Except CodecError (List UInt8) :=
  reencodeTokens encode [] (tokenizer bytes)

def normalizeUndefinedToNull (bytes : List UInt8) : Except CodecError (List UInt8) :=
  if bytes.contains 0xF7 then reencode tokenizer encode bytes else .ok bytes

def decode {Value : Type} (inner : List UInt8 → Except CodecError Value) (bytes : List UInt8) :
    Except CodecError Value :=
  (normalizeUndefinedToNull tokenizer encode bytes).bind inner

/-- What is relied on of `minicbor`: the tokenizer yields the tokens of what is well
formed, and a token that has an encoding is written as one. -/
structure Minicbor (validText : List UInt8 → Prop) : Prop where
  yields : ∀ bytes items, Decodes validText bytes items →
    tokenizer bytes = (itemTokens items).map .ok
  writes : ∀ token piece, Encodes validText token piece →
    ∃ written, encode token = .ok written ∧ Encodes validText token written

end Codec

/-- An undefined value as null, and any other as it is. -/
def withNull : Scalar → Scalar
  | .undefined => .null
  | value => value

theorem with_null_keeps_strings : KeepsStrings withNull := fun _ _ => rfl

theorem null_for_undefined_eq (token : Token) : nullForUndefined token = mapToken withNull token := by
  cases token with
  | scalar value => cases value <;> rfl
  | _ => rfl

theorem with_null_of_defined {token : Token} (isDefined : token ≠ .scalar .undefined) :
    mapToken withNull token = token := by
  rw [← null_for_undefined_eq]
  exact if_neg isDefined

section Normalization

variable {tokenizer : List UInt8 → List (Except String Token)}
  {encode : Token → Except String (List UInt8)} {validText : List UInt8 → Prop}
  {bytes : List UInt8} {items : List Item}

def written (encode : Token → Except String (List UInt8)) (token : Token) : List UInt8 :=
  (encode token).toOption.getD []

theorem reencode_tokens_ok {tokens : List Token}
    (each : ∀ token ∈ tokens,
      encode (nullForUndefined token) = .ok (written encode (nullForUndefined token)))
    (out : List UInt8) :
    reencodeTokens encode out (tokens.map .ok) =
      .ok (out ++ (tokens.map nullForUndefined).flatMap (written encode)) := by
  induction tokens generalizing out with
  | nil => rw [List.map_nil, List.map_nil, List.flatMap_nil, List.append_nil]; rfl
  | cons token tokens ih =>
      obtain ⟨here, later⟩ := List.forall_mem_cons.mp each
      rw [List.map_cons, reencodeTokens, here]
      dsimp only
      rw [ih later, List.map_cons, List.flatMap_cons, List.append_assoc]

theorem written_encodes (minicbor : Minicbor tokenizer encode validText) {token : Token}
    {piece : List UInt8} (encodes : Encodes validText token piece) :
    encode token = .ok (written encode token) ∧ Encodes validText token (written encode token) := by
  obtain ⟨bytes, isWritten, encoded⟩ := minicbor.writes token piece encodes
  have same : written encode token = bytes := by
    rw [written, isWritten]
    rfl
  rw [same]
  exact ⟨isWritten, encoded⟩

theorem null_written (minicbor : Minicbor tokenizer encode validText)
    (wellFormed : Decodes validText bytes items) {token : Token}
    (member : token ∈ itemTokens items) :
    encode (nullForUndefined token) = .ok (written encode (nullForUndefined token)) ∧
      Encodes validText (nullForUndefined token) (written encode (nullForUndefined token)) := by
  unfold nullForUndefined
  split_ifs
  · exact written_encodes minicbor .null
  · obtain ⟨piece, encodes, _⟩ := encodes_of_mem wellFormed member
    exact written_encodes minicbor encodes

theorem tokens_with_null (items : List Item) :
    itemTokens (mapItems withNull items) = (itemTokens items).map nullForUndefined := by
  rw [item_tokens_map with_null_keeps_strings, funext null_for_undefined_eq]

theorem reencode_ok (minicbor : Minicbor tokenizer encode validText)
    (wellFormed : Decodes validText bytes items) :
    reencode tokenizer encode bytes =
        .ok ((itemTokens (mapItems withNull items)).flatMap (written encode)) ∧
      Decodes validText ((itemTokens (mapItems withNull items)).flatMap (written encode))
        (mapItems withNull items) := by
  constructor
  · rw [reencode, minicbor.yields bytes items wellFormed,
      reencode_tokens_ok fun token member => (null_written minicbor wellFormed member).1,
      List.nil_append, tokens_with_null]
  · apply spells_flat_map
    intro token member
    rw [tokens_with_null] at member
    obtain ⟨before, isToken, rfl⟩ := List.mem_map.mp member
    exact (null_written minicbor wellFormed isToken).2

theorem with_null_of_no_undefined (none : Token.scalar .undefined ∉ itemTokens items) :
    mapItems withNull items = items := by
  apply item_tokens_injective
  rw [item_tokens_map with_null_keeps_strings]
  conv_rhs => rw [← List.map_id (itemTokens items)]
  apply List.map_congr_left
  intro token member
  exact with_null_of_defined fun isUndefined => none (isUndefined ▸ member)

theorem no_undefined_left (items : List Item) :
    Token.scalar .undefined ∉ itemTokens (mapItems withNull items) := by
  rw [tokens_with_null]
  intro member
  obtain ⟨token, _, isUndefined⟩ := List.mem_map.mp member
  unfold nullForUndefined at isUndefined
  by_cases undefined : token = .scalar .undefined
  · rw [if_pos undefined] at isUndefined
    cases isUndefined
  · rw [if_neg undefined] at isUndefined
    exact undefined isUndefined

theorem normalize_cases (minicbor : Minicbor tokenizer encode validText)
    (wellFormed : Decodes validText bytes items) :
    (0xF7 ∉ bytes ∧ normalizeUndefinedToNull tokenizer encode bytes = .ok bytes ∧
        mapItems withNull items = items) ∨
      (0xF7 ∈ bytes ∧ normalizeUndefinedToNull tokenizer encode bytes =
        .ok ((itemTokens (mapItems withNull items)).flatMap (written encode))) := by
  unfold normalizeUndefinedToNull
  by_cases byte : 0xF7 ∈ bytes
  · rw [if_pos (List.contains_iff_mem.mpr byte)]
    exact Or.inr ⟨byte, (reencode_ok minicbor wellFormed).1⟩
  · rw [if_neg fun present => byte (List.contains_iff_mem.mp present)]
    exact Or.inl ⟨byte, rfl, with_null_of_no_undefined (undefined_not_spelled wellFormed byte)⟩

theorem decode_reads_null {Value : Type} {inner : List UInt8 → Except CodecError Value}
    {read : List Item → Except CodecError Value}
    (reads : ∀ bytes items, Decodes validText bytes items → inner bytes = read items)
    (minicbor : Minicbor tokenizer encode validText)
    (wellFormed : Decodes validText bytes items) :
    decode tokenizer encode inner bytes = read (mapItems withNull items) := by
  unfold decode
  obtain ⟨_, kept, same⟩ | ⟨_, rewritten⟩ := normalize_cases minicbor wellFormed
  · rw [kept, same]
    exact reads bytes items wellFormed
  · rw [rewritten]
    exact reads _ _ (reencode_ok minicbor wellFormed).2

end Normalization

/-- How the normalized body `out` stands to the body and its items. -/
structure Normalized (tokenizer : List UInt8 → List (Except String Token))
    (encode : Token → Except String (List UInt8)) (validText : List UInt8 → Prop)
    (bytes : List UInt8) (items : List Item) (out : List UInt8) : Prop where
  decodes : ∀ others, Decodes validText out others ↔ others = mapItems withNull items
  paths : Token.scalar .undefined ∉ itemTokens items →
    Decodes validText out items ∧ (0xF7 ∉ bytes → out = bytes) ∧
      ∃ slow, reencode tokenizer encode bytes = .ok slow ∧ Decodes validText slow items
  again : normalizeUndefinedToNull tokenizer encode out = .ok out
  payload : ∀ (index : Nat) (token : Token), (itemTokens items)[index]? = some token →
    token ≠ .scalar .undefined → (itemTokens (mapItems withNull items))[index]? = some token

/-- Every well formed body is normalized, and nothing but its undefined items changes. -/
theorem normalization_changes_only_undefined
    {tokenizer : List UInt8 → List (Except String Token)}
    {encode : Token → Except String (List UInt8)} {validText : List UInt8 → Prop}
    (minicbor : Minicbor tokenizer encode validText) {bytes : List UInt8} {items : List Item}
    (wellFormed : Decodes validText bytes items) :
    ∃ out, normalizeUndefinedToNull tokenizer encode bytes = .ok out ∧
      Normalized tokenizer encode validText bytes items out := by
  have slow := reencode_ok minicbor wellFormed
  have payload : ∀ (index : Nat) (token : Token), (itemTokens items)[index]? = some token →
      token ≠ .scalar .undefined →
        (itemTokens (mapItems withNull items))[index]? = some token := by
    intro index token here isDefined
    rw [item_tokens_map with_null_keeps_strings, List.getElem?_map, here, Option.map_some,
      with_null_of_defined isDefined]
  obtain ⟨noByte, kept, same⟩ | ⟨byte, rewritten⟩ := normalize_cases minicbor wellFormed
  · refine ⟨bytes, kept, fun others => ⟨?_, ?_⟩, fun none => ⟨wellFormed, fun _ => rfl, ?_⟩, kept,
      payload⟩
    · intro decodes
      rw [same]
      exact decodes_unique decodes wellFormed
    · rintro rfl
      rw [same]
      exact wellFormed
    · rw [same] at slow
      exact ⟨_, slow⟩
  · have again : normalizeUndefinedToNull tokenizer encode
        ((itemTokens (mapItems withNull items)).flatMap (written encode)) =
          .ok ((itemTokens (mapItems withNull items)).flatMap (written encode)) := by
      obtain ⟨_, kept, _⟩ | ⟨_, twice⟩ := normalize_cases minicbor slow.2
      · exact kept
      · rw [twice, with_null_of_no_undefined (no_undefined_left items)]
    refine ⟨_, rewritten, fun others => ⟨fun decodes => decodes_unique decodes slow.2, ?_⟩,
      fun none => ⟨?_, fun noByte => absurd byte noByte, ?_⟩, again, payload⟩
    · rintro rfl
      exact slow.2
    · have kept := slow.2
      rw [with_null_of_no_undefined none] at kept ⊢
      exact kept
    · rw [with_null_of_no_undefined none] at slow
      exact ⟨_, slow⟩

theorem shortest_minicbor (validText : List UInt8 → Prop) :
    Minicbor tokenize (fun token => .ok (shortest token)) validText where
  yields := fun _ _ wellFormed => tokenize_spelled wellFormed
  writes := fun token _ encodes => ⟨shortest token, rfl, shortest_encodes encodes⟩

/-- `{"a": undefined, "b": h'01f7', "c": [_ 247]}`, the number in a wide head. -/
def sampleItem : Item :=
  .map false
    [(.scalar (.string true [0x61]), .scalar .undefined),
      (.scalar (.string true [0x62]), .scalar (.string false [0x01, 0xF7])),
      (.scalar (.string true [0x63]), .array true [.scalar (.unsigned 247)])]

def sampleBody : List UInt8 :=
  [0xA3, 0x61, 0x61, 0xF7, 0x61, 0x62, 0x42, 0x01, 0xF7, 0x61, 0x63, 0x9F, 0x19, 0x00, 0xF7, 0xFF]

theorem sample_body_well_formed : Decodes (fun _ => True) sampleBody [sampleItem] := by
  have name : ∀ letter : UInt8,
      Encodes (fun _ => True) (.scalar (.string true [letter])) [0x61, letter] :=
    fun letter => @Encodes.text _ [letter] [0x61] trivial (@Head.short 3 1 (by decide))
  have payload : Encodes (fun _ => True) (.scalar (.string false [0x01, 0xF7])) [0x42, 0x01, 0xF7] :=
    @Encodes.bytes _ [0x01, 0xF7] [0x42] (@Head.short 2 2 (by decide))
  have wide : Head 0 247 [0x19, 0x00, 0xF7] := @Head.wide 0 1 [0x00, 0xF7] (by decide) rfl
  have list : Spells (fun _ => True) [.beginArray, .scalar (.unsigned 247), .stop]
      [0x9F, 0x19, 0x00, 0xF7, 0xFF] :=
    .cons .beginArray (.cons (.unsigned wide) (.cons .stop .nil))
  exact .cons (.map (@Head.short 5 3 (by decide)))
    (.cons (name 0x61) (.cons .undefined (.cons (name 0x62) (.cons payload
      (.cons (name 0x63) list)))))

theorem sample_body_normalized :
    ∃ out, normalizeUndefinedToNull tokenize (fun token => .ok (shortest token)) sampleBody =
        .ok out ∧
      out = [0xA3, 0x61, 0x61, 0xF6, 0x61, 0x62, 0x42, 0x01, 0xF7, 0x61, 0x63, 0x9F, 0x18, 0xF7,
        0xFF] ∧
      Normalized tokenize (fun token => .ok (shortest token)) (fun _ => True) sampleBody
        [sampleItem] out := by
  obtain ⟨out, isOut, normalized⟩ := normalization_changes_only_undefined
    (shortest_minicbor fun _ => True) sample_body_well_formed
  have computed : (normalizeUndefinedToNull tokenize (fun token => .ok (shortest token))
      sampleBody).toOption = some [0xA3, 0x61, 0x61, 0xF6, 0x61, 0x62, 0x42, 0x01, 0xF7, 0x61, 0x63,
        0x9F, 0x18, 0xF7, 0xFF] := by decide +kernel
  rw [isOut] at computed
  exact ⟨out, isOut, Option.some.inj computed, normalized⟩

end LightbridgeAuthz.Access.LenientCodec
