import Mathlib.Data.List.Induction
import Mathlib.Tactic.Linarith
import Mathlib.Tactic.Ring

/-!
# Tokens of CBOR

An encoded item is a sequence of tokens: the scalars, the heads of containers and tags,
and the bytes that begin and end what has no length. A head has an argument of its own
in the first byte or in one, two, four or eight bytes after it. Which payloads a text
may have is left open.
-/

namespace LightbridgeAuthz.Library.CborTokens

set_option autoImplicit false

/-- The items without parts. A negative number is `-1` less the value; a float is its bits. -/
inductive Scalar where
  | unsigned (value : Nat)
  | negative (value : Nat)
  | string (isText : Bool) (payload : List UInt8)
  | bool (value : Bool)
  | null
  | undefined
  | simple (value : Nat)
  | float (bits : List UInt8)
  deriving DecidableEq, Repr

inductive Token where
  | scalar (value : Scalar)
  | array (count : Nat)
  | map (count : Nat)
  | tag (number : Nat)
  | beginString (isText : Bool)
  | beginArray
  | beginMap
  | stop
  deriving DecidableEq, Repr

/-- The number of an argument, its first byte the highest. -/
def numberOf (argument : List UInt8) : Nat :=
  argument.foldl (fun value byte => 256 * value + byte.toNat) 0

/-- The head of a major type below 7 with its argument, in any width. -/
inductive Head (major : Nat) : Nat → List UInt8 → Prop where
  | short {value : Nat} (small : value < 24) : Head major value [UInt8.ofNat (32 * major + value)]
  | wide (size : Nat) {argument : List UInt8} (known : size < 4)
      (sized : argument.length = 2 ^ size) :
      Head major (numberOf argument) (UInt8.ofNat (32 * major + 24 + size) :: argument)

inductive Encodes (validText : List UInt8 → Prop) : Token → List UInt8 → Prop where
  | unsigned {value : Nat} {head : List UInt8} (isHead : Head 0 value head) :
      Encodes validText (.scalar (.unsigned value)) head
  | negative {value : Nat} {head : List UInt8} (isHead : Head 1 value head) :
      Encodes validText (.scalar (.negative value)) head
  | bytes {payload head : List UInt8} (isHead : Head 2 payload.length head) :
      Encodes validText (.scalar (.string false payload)) (head ++ payload)
  | text {payload head : List UInt8} (valid : validText payload)
      (isHead : Head 3 payload.length head) :
      Encodes validText (.scalar (.string true payload)) (head ++ payload)
  | bool {value : Bool} :
      Encodes validText (.scalar (.bool value)) [if value then 0xF5 else 0xF4]
  | null : Encodes validText (.scalar .null) [0xF6]
  | undefined : Encodes validText (.scalar .undefined) [0xF7]
  | shortSimple {value : Nat} (small : value < 20) :
      Encodes validText (.scalar (.simple value)) [UInt8.ofNat (224 + value)]
  | wideSimple {value : Nat} (low : 32 ≤ value) (high : value < 256) :
      Encodes validText (.scalar (.simple value)) [0xF8, UInt8.ofNat value]
  | float (size : Nat) {bits : List UInt8} (positive : 0 < size) (known : size < 4)
      (sized : bits.length = 2 ^ size) :
      Encodes validText (.scalar (.float bits)) (UInt8.ofNat (248 + size) :: bits)
  | array {count : Nat} {head : List UInt8} (isHead : Head 4 count head) :
      Encodes validText (.array count) head
  | map {count : Nat} {head : List UInt8} (isHead : Head 5 count head) :
      Encodes validText (.map count) head
  | tag {number : Nat} {head : List UInt8} (isHead : Head 6 number head) :
      Encodes validText (.tag number) head
  | beginString {isText : Bool} :
      Encodes validText (.beginString isText) [if isText then 0x7F else 0x5F]
  | beginArray : Encodes validText .beginArray [0x9F]
  | beginMap : Encodes validText .beginMap [0xBF]
  | stop : Encodes validText .stop [0xFF]

/-- The bytes are encodings of the tokens, one after the other. -/
inductive Spells (validText : List UInt8 → Prop) : List Token → List UInt8 → Prop where
  | nil : Spells validText [] []
  | cons {token : Token} {tokens : List Token} {piece bytes : List UInt8}
      (encodes : Encodes validText token piece) (rest : Spells validText tokens bytes) :
      Spells validText (token :: tokens) (piece ++ bytes)

/-! ## Reading -/

def takeBytes (count : Nat) (bytes : List UInt8) : Option (List UInt8 × List UInt8) :=
  if count ≤ bytes.length then some (bytes.take count, bytes.drop count) else none

def readArgument (info : Nat) (bytes : List UInt8) : Option (Nat × List UInt8) :=
  if info < 24 then some (info, bytes)
  else if info < 28 then
    (takeBytes (2 ^ (info - 24)) bytes).map fun taken => (numberOf taken.1, taken.2)
  else none

def readSimple (info : Nat) (bytes : List UInt8) : Option (Token × List UInt8) :=
  if info < 20 then some (.scalar (.simple info), bytes)
  else if info = 20 then some (.scalar (.bool false), bytes)
  else if info = 21 then some (.scalar (.bool true), bytes)
  else if info = 22 then some (.scalar .null, bytes)
  else if info = 23 then some (.scalar .undefined, bytes)
  else if info = 24 then
    (takeBytes 1 bytes).bind fun taken =>
      if 32 ≤ numberOf taken.1 then some (.scalar (.simple (numberOf taken.1)), taken.2) else none
  else if info < 28 then
    (takeBytes (2 ^ (info - 24)) bytes).map fun taken => (.scalar (.float taken.1), taken.2)
  else if info = 31 then some (.stop, bytes)
  else none

def readHeaded (major info : Nat) (bytes : List UInt8) : Option (Token × List UInt8) :=
  (readArgument info bytes).bind fun argument =>
    if major = 0 then some (.scalar (.unsigned argument.1), argument.2)
    else if major = 1 then some (.scalar (.negative argument.1), argument.2)
    else if major = 2 then
      (takeBytes argument.1 argument.2).map fun taken => (.scalar (.string false taken.1), taken.2)
    else if major = 3 then
      (takeBytes argument.1 argument.2).map fun taken => (.scalar (.string true taken.1), taken.2)
    else if major = 4 then some (.array argument.1, argument.2)
    else if major = 5 then some (.map argument.1, argument.2)
    else some (.tag argument.1, argument.2)

def readBegin (major : Nat) (bytes : List UInt8) : Option (Token × List UInt8) :=
  if major = 2 then some (.beginString false, bytes)
  else if major = 3 then some (.beginString true, bytes)
  else if major = 4 then some (.beginArray, bytes)
  else if major = 5 then some (.beginMap, bytes)
  else none

def readToken : List UInt8 → Option (Token × List UInt8)
  | [] => none
  | first :: bytes =>
      if first.toNat / 32 = 7 then readSimple (first.toNat % 32) bytes
      else if first.toNat % 32 = 31 then readBegin (first.toNat / 32) bytes
      else readHeaded (first.toNat / 32) (first.toNat % 32) bytes

theorem take_bytes_append (taken rest : List UInt8) :
    takeBytes taken.length (taken ++ rest) = some (taken, rest) := by
  rw [takeBytes, if_pos (by rw [List.length_append]; omega), List.take_left, List.drop_left]

theorem first_byte {major info : Nat} (known : major < 8) (small : info < 32) :
    (UInt8.ofNat (32 * major + info)).toNat / 32 = major ∧
      (UInt8.ofNat (32 * major + info)).toNat % 32 = info := by
  have byte : (UInt8.ofNat (32 * major + info)).toNat = 32 * major + info :=
    UInt8.toNat_ofNat_of_lt' (by
      have size : UInt8.size = 256 := rfl
      omega)
  rw [byte]
  omega

theorem read_head {major value : Nat} {head : List UInt8} (known : major < 7)
    (isHead : Head major value head) (bytes : List UInt8) :
    ∃ info, readArgument info (head.tail ++ bytes) = some (value, bytes) ∧
      readToken (head ++ bytes) = readHeaded major info (head.tail ++ bytes) := by
  cases isHead with
  | short small =>
      obtain ⟨isMajor, isInfo⟩ := first_byte (by omega : major < 8) (by omega : value < 32)
      refine ⟨value, if_pos small, ?_⟩
      rw [List.singleton_append, readToken, isMajor, isInfo, if_neg (by omega), if_neg (by omega)]
      rfl
  | wide size small sized =>
      rename_i argument
      obtain ⟨isMajor, isInfo⟩ := first_byte (by omega : major < 8) (by omega : 24 + size < 32)
      rw [← Nat.add_assoc] at isMajor isInfo
      refine ⟨24 + size, ?_, ?_⟩
      · rw [readArgument, if_neg (by omega), if_pos (by omega), Nat.add_sub_cancel_left, ← sized,
          List.tail_cons, take_bytes_append]
        rfl
      · rw [List.cons_append, readToken, isMajor, isInfo, if_neg (by omega), if_neg (by omega)]
        rfl

theorem read_headed {major value : Nat} {head : List UInt8} (known : major < 7)
    (isHead : Head major value head) {bytes : List UInt8} {read : Option (Token × List UInt8)}
    (reads : ∀ info, readArgument info (head.tail ++ bytes) = some (value, bytes) →
      readHeaded major info (head.tail ++ bytes) = read) :
    readToken (head ++ bytes) = read := by
  obtain ⟨info, argument, isToken⟩ := read_head known isHead bytes
  rw [isToken, reads info argument]

theorem read_short_simple {value : Nat} (small : value < 20) (bytes : List UInt8) :
    readToken (UInt8.ofNat (224 + value) :: bytes) = some (.scalar (.simple value), bytes) := by
  obtain ⟨isMajor, isInfo⟩ := first_byte (by decide : 7 < 8) (by omega : value < 32)
  rw [readToken, isMajor, isInfo, if_pos rfl, readSimple, if_pos small]

theorem read_wide_simple {value : Nat} (low : 32 ≤ value) (high : value < 256)
    (bytes : List UInt8) :
    readToken (0xF8 :: UInt8.ofNat value :: bytes) = some (.scalar (.simple value), bytes) := by
  have number : numberOf [UInt8.ofNat value] = value := by
    rw [numberOf, List.foldl_cons, List.foldl_nil, Nat.mul_zero, Nat.zero_add]
    exact UInt8.toNat_ofNat_of_lt' high
  change ((takeBytes 1 ([UInt8.ofNat value] ++ bytes)).bind fun taken =>
    if 32 ≤ numberOf taken.1 then some (Token.scalar (.simple (numberOf taken.1)), taken.2)
    else none) = _
  rw [show (1 : Nat) = [UInt8.ofNat value].length from rfl, take_bytes_append, Option.bind_some,
    number, if_pos low]

theorem read_float {size : Nat} {bits : List UInt8} (positive : 0 < size) (known : size < 4)
    (sized : bits.length = 2 ^ size) (bytes : List UInt8) :
    readToken (UInt8.ofNat (248 + size) :: (bits ++ bytes)) =
      some (.scalar (.float bits), bytes) := by
  obtain ⟨isMajor, isInfo⟩ := first_byte (by decide : 7 < 8) (by omega : 24 + size < 32)
  rw [← Nat.add_assoc] at isMajor isInfo
  rw [readToken, isMajor, isInfo, if_pos rfl, readSimple]
  rw [if_neg (by omega), if_neg (by omega), if_neg (by omega), if_neg (by omega),
    if_neg (by omega), if_neg (by omega), if_pos (by omega), Nat.add_sub_cancel_left, ← sized,
    take_bytes_append]
  rfl

section Encodings

variable {validText : List UInt8 → Prop} {token : Token} {piece : List UInt8}

theorem read_token_append (encodes : Encodes validText token piece) (bytes : List UInt8) :
    readToken (piece ++ bytes) = some (token, bytes) := by
  cases encodes with
  | unsigned isHead =>
      apply read_headed (by decide) isHead
      intro info argument
      rw [readHeaded, argument]
      rfl
  | negative isHead =>
      apply read_headed (by decide) isHead
      intro info argument
      rw [readHeaded, argument]
      rfl
  | bytes isHead =>
      rw [List.append_assoc]
      apply read_headed (by decide) isHead
      intro info argument
      rw [readHeaded, argument, Option.bind_some, if_neg (by decide), if_neg (by decide),
        if_pos rfl, take_bytes_append]
      rfl
  | text _ isHead =>
      rw [List.append_assoc]
      apply read_headed (by decide) isHead
      intro info argument
      rw [readHeaded, argument, Option.bind_some, if_neg (by decide), if_neg (by decide),
        if_neg (by decide), if_pos rfl, take_bytes_append]
      rfl
  | @bool value => cases value <;> rfl
  | null => rfl
  | undefined => rfl
  | shortSimple small => exact read_short_simple small bytes
  | wideSimple low high => exact read_wide_simple low high bytes
  | float size positive known sized => exact read_float positive known sized bytes
  | array isHead =>
      apply read_headed (by decide) isHead
      intro info argument
      rw [readHeaded, argument]
      rfl
  | map isHead =>
      apply read_headed (by decide) isHead
      intro info argument
      rw [readHeaded, argument]
      rfl
  | tag isHead =>
      apply read_headed (by decide) isHead
      intro info argument
      rw [readHeaded, argument]
      rfl
  | @beginString isText => cases isText <;> rfl
  | beginArray => rfl
  | beginMap => rfl
  | stop => rfl

theorem piece_ne_nil (encodes : Encodes validText token piece) : piece ≠ [] := by
  rintro rfl
  have read := read_token_append encodes []
  cases read

theorem spells_unique {tokens others : List Token} {bytes : List UInt8}
    (spells : Spells validText tokens bytes) (spellsOthers : Spells validText others bytes) :
    tokens = others := by
  induction spells generalizing others with
  | nil =>
      generalize isEmpty : ([] : List UInt8) = bytes at spellsOthers
      cases spellsOthers with
      | nil => rfl
      | cons encodes _ =>
          exact absurd (List.append_eq_nil_iff.mp isEmpty.symm).1 (piece_ne_nil encodes)
  | @cons token tokens piece bytes encodes _ ih =>
      generalize isWhole : piece ++ bytes = whole at spellsOthers
      cases spellsOthers with
      | nil => exact absurd (List.append_eq_nil_iff.mp isWhole).1 (piece_ne_nil encodes)
      | @cons other others otherPiece otherBytes otherEncodes otherRest =>
          have read := read_token_append encodes bytes
          rw [isWhole, read_token_append otherEncodes otherBytes] at read
          obtain ⟨rfl, rfl⟩ := Prod.mk.inj (Option.some.inj read)
          rw [ih otherRest]

theorem spells_flat_map {tokens : List Token} {encode : Token → List UInt8}
    (each : ∀ token ∈ tokens, Encodes validText token (encode token)) :
    Spells validText tokens (tokens.flatMap encode) := by
  induction tokens with
  | nil => exact .nil
  | cons token tokens ih =>
      obtain ⟨here, later⟩ := List.forall_mem_cons.mp each
      exact .cons here (ih later)

theorem encodes_of_mem {tokens : List Token} {bytes : List UInt8}
    (spells : Spells validText tokens bytes) (member : token ∈ tokens) :
    ∃ piece, Encodes validText token piece ∧ ∀ byte ∈ piece, byte ∈ bytes := by
  induction spells with
  | nil => cases member
  | @cons first tokens piece bytes encodes _ ih =>
      obtain rfl | later := List.mem_cons.mp member
      · exact ⟨piece, encodes, fun byte inPiece => List.mem_append_left bytes inPiece⟩
      · obtain ⟨other, otherEncodes, inBytes⟩ := ih later
        exact ⟨other, otherEncodes,
          fun byte inPiece => List.mem_append_right piece (inBytes byte inPiece)⟩

theorem undefined_not_spelled {tokens : List Token} {bytes : List UInt8}
    (spells : Spells validText tokens bytes) (absent : 0xF7 ∉ bytes) :
    Token.scalar .undefined ∉ tokens := by
  intro member
  obtain ⟨piece, encodes, inBytes⟩ := encodes_of_mem spells member
  cases encodes
  exact absent (inBytes 0xF7 List.mem_cons_self)

end Encodings

/-! ## Writing -/

def bigEndian : Nat → Nat → List UInt8
  | 0, _ => []
  | count + 1, value =>
      UInt8.ofNat (value / 256 ^ count) :: bigEndian count (value % 256 ^ count)

def wideHead (major size value : Nat) : List UInt8 :=
  UInt8.ofNat (32 * major + 24 + size) :: bigEndian (2 ^ size) value

def shortestHead (major value : Nat) : List UInt8 :=
  if value < 24 then [UInt8.ofNat (32 * major + value)]
  else if value < 256 ^ 1 then wideHead major 0 value
  else if value < 256 ^ 2 then wideHead major 1 value
  else if value < 256 ^ 4 then wideHead major 2 value
  else wideHead major 3 value

def shortestScalar : Scalar → List UInt8
  | .unsigned value => shortestHead 0 value
  | .negative value => shortestHead 1 value
  | .string false payload => shortestHead 2 payload.length ++ payload
  | .string true payload => shortestHead 3 payload.length ++ payload
  | .bool value => [if value then 0xF5 else 0xF4]
  | .null => [0xF6]
  | .undefined => [0xF7]
  | .simple value =>
      if value < 20 then [UInt8.ofNat (224 + value)] else [0xF8, UInt8.ofNat value]
  | .float bits =>
      (if bits.length = 2 then 0xF9 else if bits.length = 4 then 0xFA else 0xFB) :: bits

def shortest : Token → List UInt8
  | .scalar value => shortestScalar value
  | .array count => shortestHead 4 count
  | .map count => shortestHead 5 count
  | .tag number => shortestHead 6 number
  | .beginString isText => [if isText then 0x7F else 0x5F]
  | .beginArray => [0x9F]
  | .beginMap => [0xBF]
  | .stop => [0xFF]

theorem number_of_append (front : List UInt8) (last : UInt8) :
    numberOf (front ++ [last]) = 256 * numberOf front + last.toNat := by
  rw [numberOf, List.foldl_append]
  rfl

theorem number_of_cons (first : UInt8) (rest : List UInt8) :
    numberOf (first :: rest) = first.toNat * 256 ^ rest.length + numberOf rest := by
  induction rest using List.reverseRecOn with
  | nil => rw [numberOf, List.foldl_cons]; simp [numberOf]
  | append_singleton rest last ih =>
      rw [← List.cons_append, number_of_append, number_of_append, ih, List.length_append,
        List.length_singleton, pow_succ]
      ring

theorem number_of_lt (argument : List UInt8) : numberOf argument < 256 ^ argument.length := by
  induction argument with
  | nil => exact Nat.one_pos
  | cons first rest ih =>
      have byte := first.toNat_lt
      rw [number_of_cons, List.length_cons, pow_succ]
      nlinarith

theorem big_endian_length (count value : Nat) : (bigEndian count value).length = count := by
  induction count generalizing value with
  | zero => rfl
  | succ count ih => rw [bigEndian, List.length_cons, ih]

theorem number_of_big_endian {count value : Nat} (fits : value < 256 ^ count) :
    numberOf (bigEndian count value) = value := by
  induction count generalizing value with
  | zero =>
      rw [pow_zero, Nat.lt_one_iff] at fits
      rw [fits]
      rfl
  | succ count ih =>
      have positive : 0 < 256 ^ count := Nat.pow_pos (by decide)
      have high : value / 256 ^ count < 256 := by
        rw [pow_succ] at fits
        exact Nat.div_lt_of_lt_mul fits
      rw [bigEndian, number_of_cons, ih (Nat.mod_lt _ positive), big_endian_length,
        UInt8.toNat_ofNat_of_lt' high]
      exact Nat.div_add_mod' value (256 ^ count)

theorem wide_head_is_head {size value : Nat} (major : Nat) (known : size < 4)
    (fits : value < 256 ^ 2 ^ size) : Head major value (wideHead major size value) := by
  have head : Head major (numberOf (bigEndian (2 ^ size) value)) (wideHead major size value) :=
    .wide size known (big_endian_length (2 ^ size) value)
  rw [number_of_big_endian fits] at head
  exact head

theorem head_value_lt {major value : Nat} {head : List UInt8} (isHead : Head major value head) :
    value < 256 ^ 2 ^ 3 := by
  cases isHead with
  | short small => omega
  | @wide size argument known sized =>
      calc numberOf argument < 256 ^ argument.length := number_of_lt argument
        _ ≤ 256 ^ 2 ^ 3 := by
          rw [sized]
          exact Nat.pow_le_pow_right (by decide) (Nat.pow_le_pow_right (by decide) (by omega))

theorem shortest_head_is_head {major value : Nat} {head : List UInt8}
    (isHead : Head major value head) : Head major value (shortestHead major value) := by
  have bounded := head_value_lt isHead
  unfold shortestHead
  split_ifs with short one two four
  · exact .short short
  · exact wide_head_is_head major (by decide) one
  · exact wide_head_is_head major (by decide) two
  · exact wide_head_is_head major (by decide) four
  · exact wide_head_is_head major (by decide) bounded

theorem shortest_encodes {validText : List UInt8 → Prop} {token : Token} {piece : List UInt8}
    (encodes : Encodes validText token piece) : Encodes validText token (shortest token) := by
  cases encodes with
  | unsigned isHead => exact .unsigned (shortest_head_is_head isHead)
  | negative isHead => exact .negative (shortest_head_is_head isHead)
  | bytes isHead => exact .bytes (shortest_head_is_head isHead)
  | text valid isHead => exact .text valid (shortest_head_is_head isHead)
  | bool => exact .bool
  | null => exact .null
  | undefined => exact .undefined
  | shortSimple small =>
      rw [shortest, shortestScalar, if_pos small]
      exact .shortSimple small
  | wideSimple low high =>
      rw [shortest, shortestScalar, if_neg (by omega)]
      exact .wideSimple low high
  | @float size bits positive known sized =>
      have isFirst : (if bits.length = 2 then (0xF9 : UInt8) else
          if bits.length = 4 then 0xFA else 0xFB) = UInt8.ofNat (248 + size) := by
        rw [sized]
        obtain rfl | rfl | rfl : size = 1 ∨ size = 2 ∨ size = 3 := by omega
        all_goals rfl
      rw [shortest, shortestScalar, isFirst]
      exact .float size positive known sized
  | array isHead => exact .array (shortest_head_is_head isHead)
  | map isHead => exact .map (shortest_head_is_head isHead)
  | tag isHead => exact .tag (shortest_head_is_head isHead)
  | beginString => exact .beginString
  | beginArray => exact .beginArray
  | beginMap => exact .beginMap
  | stop => exact .stop

/-- At most `fuel` tokens, one after the other, up to the first that cannot be read. -/
def readTokens : Nat → List UInt8 → List (Except String Token)
  | 0, _ => []
  | _ + 1, [] => []
  | fuel + 1, bytes =>
      match readToken bytes with
      | none => [.error "malformed item"]
      | some (token, rest) => .ok token :: readTokens fuel rest

def tokenize (bytes : List UInt8) : List (Except String Token) := readTokens bytes.length bytes

theorem read_tokens_spelled {validText : List UInt8 → Prop} {tokens : List Token}
    {bytes : List UInt8} (spells : Spells validText tokens bytes) {fuel : Nat}
    (enough : bytes.length ≤ fuel) : readTokens fuel bytes = tokens.map .ok := by
  induction spells generalizing fuel with
  | nil => cases fuel <;> rfl
  | @cons token tokens piece bytes encodes _ ih =>
      obtain ⟨first, others, rfl⟩ := List.exists_cons_of_ne_nil (piece_ne_nil encodes)
      rw [List.length_append, List.length_cons] at enough
      obtain ⟨less, rfl⟩ : ∃ less, fuel = less + 1 := ⟨fuel - 1, by omega⟩
      have read := read_token_append encodes bytes
      rw [List.cons_append] at read ⊢
      rw [readTokens, read, List.map_cons]
      · dsimp only
        rw [ih (by omega)]
      · exact fun empty => List.cons_ne_nil _ _ empty

theorem tokenize_spelled {validText : List UInt8 → Prop} {tokens : List Token}
    {bytes : List UInt8} (spells : Spells validText tokens bytes) :
    tokenize bytes = tokens.map .ok := read_tokens_spelled spells le_rfl

end LightbridgeAuthz.Library.CborTokens
