/-
**The record of the manifest is read back.**

* `IsPlain`: a text that stands in JSON as it is. `parseText_of_isPlain`: it is read back.
* `parseNumber_natural`: a number without a sign is read back from its digits.
* `ReadBack`: the compact form of a value is read back, whatever follows; `readBack_natural`,
  `readBack_record`: so it is for numbers, and for records of what is read back.
* **`Rendering.readManifestRecord?_manifestRecord`**: the record that names the manifest is read back.
-/
import ObjectLedger.Json.Rendering
import ObjectLedger.Proofs.Text.Utf8

namespace ObjectLedger

namespace Json

open Text

/-- The bytes of a text. -/
def bytesOf (text : String) : List UInt8 :=
  text.toUTF8.toList

theorem bytesOf_append (first second : String) :
    bytesOf (first ++ second) = bytesOf first ++ bytesOf second := by
  simp only [bytesOf, toList_toUTF8, String.toList_append, List.flatMap_append]

/-! ### Texts -/

/-- Characters that take one byte each and need no escape. -/
def IsPlain (characters : List Char) : Prop :=
  ∀ character ∈ characters,
    0x20 ≤ character.toNat ∧ character.toNat < 0x80 ∧ character ≠ '"' ∧ character ≠ '\\'

instance (characters : List Char) : Decidable (IsPlain characters) :=
  List.decidableBAll _ characters

theorem utf8EncodeChar_ascii {character : Char} (ascii : character.toNat < 0x80) :
    String.utf8EncodeChar character = [code character] := by
  unfold String.utf8EncodeChar
  exact if_pos (Nat.le_of_lt_succ ascii)

theorem bytesOf_ascii (characters : List Char)
    (ascii : ∀ character ∈ characters, character.toNat < 0x80) :
    bytesOf (String.ofList characters) = characters.map code := by
  rw [bytesOf, toList_toUTF8, String.toList_ofList, ← List.flatMap_pure_eq_map]
  exact List.flatMap_congr fun character member => utf8EncodeChar_ascii (ascii character member)

/-- The byte of one character. -/
theorem bytesOf_singleton (character : Char) (ascii : character.toNat < 0x80) :
    bytesOf (String.ofList [character]) = [code character] :=
  bytesOf_ascii [character] (List.forall_mem_singleton.mpr ascii)

theorem toNat_code {character : Char} (ascii : character.toNat < 0x80) :
    (code character).toNat = character.toNat :=
  UInt8.toNat_ofNat_of_lt' (show character.toNat < 256 by omega)

/-- The code of a plain character starts no escape and ends no text. -/
theorem code_of_plain {character : Char}
    (plain : 0x20 ≤ character.toNat ∧ character.toNat < 0x80 ∧ character ≠ '"' ∧
      character ≠ '\\') :
    ¬ code character < 0x20 ∧ code character ≠ 0x22 ∧ code character ≠ 0x5C := by
  obtain ⟨visible, ascii, quote, escape⟩ := plain
  have different : ∀ other : Char, other.toNat < 0x80 → character ≠ other →
      code character ≠ code other := by
    intro other small apart same
    have numbers := congrArg UInt8.toNat same
    rw [toNat_code ascii, toNat_code small] at numbers
    exact apart (Char.toNat_inj.mp numbers)
  refine ⟨?_, different '"' (by decide) quote, different '\\' (by decide) escape⟩
  rw [UInt8.lt_iff_toNat_lt, toNat_code ascii]
  exact Nat.not_lt.mpr visible

theorem parsePieces_cons {byte : UInt8} (visible : ¬ byte < 0x20) (quote : byte ≠ 0x22)
    (escape : byte ≠ 0x5C) {bytes rest : List UInt8} {pieces : List Piece}
    (parsed : parsePieces bytes = some (pieces, rest)) :
    parsePieces (byte :: bytes) = some (.byte byte :: pieces, rest) := by
  rw [parsePieces.eq_def]
  split
  · contradiction
  · rename_i same
    exact absurd (List.cons.inj same).1 quote
  · rename_i same
    exact absurd (List.cons.inj same).1 escape
  · rename_i same
    exact absurd (List.cons.inj same).1 escape
  · rename_i same
    obtain ⟨rfl, rfl⟩ := List.cons.inj same
    simp [visible, escape, parsed]

theorem parsePieces_plain {characters : List Char} (plain : IsPlain characters)
    (rest : List UInt8) :
    parsePieces (characters.map code ++ 0x22 :: rest) =
      some ((characters.map code).map .byte, rest) := by
  induction characters with
  | nil => rfl
  | cons character others ih =>
    obtain ⟨first, plain⟩ := List.forall_mem_cons.mp plain
    obtain ⟨visible, quote, escape⟩ := code_of_plain first
    exact parsePieces_cons visible quote escape (ih plain)

theorem pieceBytes_bytes (bytes : List UInt8) : pieceBytes (bytes.map .byte) = some bytes := by
  induction bytes with
  | nil => rfl
  | cons byte rest ih =>
    rw [List.map_cons, pieceBytes, ih]
    rfl

/-- A plain text is read back up to its closing quote. -/
theorem parseText_of_isPlain {key : String} (plain : IsPlain key.toList) (rest : List UInt8) :
    parseText (bytesOf key ++ 0x22 :: rest) = some (some key, rest) := by
  have bytes : bytesOf key = key.toList.map code := by
    rw [← bytesOf_ascii _ fun character member => (plain character member).2.1, String.ofList_toList]
  have text : pieceText ((bytesOf key).map .byte) = some key := by
    rw [pieceText, pieceBytes_bytes, Option.bind_some, bytesOf, Codec.mk_toArray_toList,
      Codec.fromUTF8?_toUTF8]
  rw [parseText, bytes, parsePieces_plain plain, ← bytes]
  exact congrArg (fun text => some (text, rest)) text

/-- A plain text stands between its quotes as it is. -/
theorem quoted_of_isPlain {key : String} (plain : IsPlain key.toList) :
    quoted (some key) = "\"" ++ key ++ "\"" := by
  have same : ∀ character ∈ key.toList, escaped character = [character] := by
    intro character member
    obtain ⟨visible, -, quote, escape⟩ := plain character member
    have above : ∀ other : Char, other.toNat < 0x20 → character ≠ other := by
      rintro other small rfl
      omega
    unfold escaped
    rw [if_neg quote, if_neg escape, if_neg (above _ (by decide)), if_neg (above _ (by decide)),
      if_neg (above _ (by decide)), if_neg (by omega), if_neg (by omega), if_neg (by omega)]
  have kept : key.toList.flatMap escaped = key.toList := by
    rw [List.flatMap_congr same, List.flatMap_singleton']
  rw [quoted, Option.getD_some, kept, String.ofList_append, String.ofList_append,
    String.ofList_toList]

/-! ### Numbers -/

/-- Nothing that follows belongs to a number. -/
def Stops (rest : List UInt8) : Prop :=
  ∀ byte ∈ rest.head?, byte = 0x2C ∨ byte = 0x7D

/-- The bytes of the decimal digits of a number. -/
def digitsOf (number : Nat) : List UInt8 :=
  (Nat.toDigits 10 number).map code

theorem toNat_of_mem_toDigits {number : Nat} {character : Char}
    (member : character ∈ Nat.toDigits 10 number) :
    0x30 ≤ character.toNat ∧ character.toNat ≤ 0x39 := by
  have digit := Nat.isDigit_of_mem_toDigits (by decide) (by decide) member
  unfold Char.isDigit at digit
  rw [Bool.and_eq_true, decide_eq_true_eq, decide_eq_true_eq] at digit
  exact digit

theorem bytesOf_repr (number : Nat) : bytesOf number.repr = digitsOf number := by
  rw [Nat.repr_eq_ofList_toDigits]
  refine bytesOf_ascii _ fun character member => ?_
  have := toNat_of_mem_toDigits member
  omega

theorem isDigit_of_mem_digitsOf {number : Nat} {byte : UInt8} (member : byte ∈ digitsOf number) :
    isDigit byte = true := by
  obtain ⟨character, inside, rfl⟩ := List.mem_map.mp member
  obtain ⟨above, below⟩ := toNat_of_mem_toDigits inside
  unfold isDigit
  rw [Bool.and_eq_true, decide_eq_true_eq, decide_eq_true_eq, UInt8.le_iff_toNat_le,
    UInt8.le_iff_toNat_le, toNat_code (by omega)]
  exact ⟨above, below⟩

theorem decimalValue_digitsOf (number : Nat) : decimalValue (digitsOf number) = number := by
  have value : Nat.ofDigitChars 10 (Nat.toDigits 10 number) 0 = number :=
    Nat.ofDigitChars_ten_toDigits
  rw [decimalValue, digitsOf, List.foldl_map]
  refine (List.foldl_ext _ _ _ fun sofar character member => ?_).trans value
  have := toNat_of_mem_toDigits member
  rw [toNat_code (by omega), Nat.mul_comm]
  rfl

/-- Several digits do not start with a zero. -/
theorem head?_toDigits {number : Nat} (positive : 0 < number) :
    (Nat.toDigits 10 number).head? ≠ some '0' := by
  induction number using Nat.strongRecOn with
  | ind number ih =>
    by_cases small : number < 10
    · rw [Nat.toDigits_of_lt_base small]
      have one : ∀ digit < 10, 0 < digit → [Nat.digitChar digit].head? ≠ some '0' := by decide
      exact one number small positive
    · rw [Nat.toDigits_of_base_le (by decide) (by omega), List.head?_append_of_ne_nil
        _ Nat.toDigits_ne_nil]
      exact ih (number / 10) (by omega) (by omega)

theorem head?_digitsOf {number : Nat} (several : 1 < (digitsOf number).length) :
    (digitsOf number).head? ≠ some 0x30 := by
  intro zero
  rw [digitsOf, List.head?_map, Option.map_eq_some_iff] at zero
  obtain ⟨character, head, same⟩ := zero
  have bounds := toNat_of_mem_toDigits (List.mem_of_mem_head? head)
  have digit : character = '0' := by
    rw [← Char.toNat_inj, ← toNat_code (by omega), same]
    rfl
  refine head?_toDigits (Nat.pos_of_ne_zero fun nothing => ?_) (digit ▸ head)
  subst nothing
  exact absurd several (by decide)

/-- The digits of a number are read back as a number without a superfluous zero. -/
theorem parseWhole_digitsOf (number : Nat) {rest : List UInt8}
    (stops : ∀ byte ∈ rest.head?, isDigit byte = false) :
    parseWhole (digitsOf number ++ rest) = some (digitsOf number, rest) := by
  have others : rest.takeWhile isDigit = [] ∧ rest.dropWhile isDigit = rest := by
    cases rest with
    | nil => exact ⟨rfl, rfl⟩
    | cons byte rest =>
      have silent := stops byte rfl
      simp [silent]
  have digits : parseDigits (digitsOf number ++ rest) = some (digitsOf number, rest) := by
    unfold parseDigits
    rw [List.takeWhile_append_of_pos fun _ => isDigit_of_mem_digitsOf,
      List.dropWhile_append_of_pos fun _ => isDigit_of_mem_digitsOf, others.1, others.2,
      List.append_nil]
    cases shape : digitsOf number with
    | nil => exact absurd (List.map_eq_nil_iff.mp shape) Nat.toDigits_ne_nil
    | cons => rfl
  have noZero : ¬ ((decide ((digitsOf number).length > 1) &&
      decide ((digitsOf number).head? = some 0x30)) = true) := by
    rw [Bool.and_eq_true, decide_eq_true_eq, decide_eq_true_eq]
    exact fun both => head?_digitsOf both.1 both.2
  unfold parseWhole
  rw [digits]
  exact if_neg noZero

/-- A number without a sign is read back from its digits. -/
theorem parseNumber_natural (number : Nat) {rest : List UInt8} (stops : Stops rest) :
    parseNumber (bytesOf number.repr ++ rest) = some (integer number, rest) := by
  have ends : ∀ byte ∈ rest.head?, isDigit byte = false := by
    intro byte member
    rcases stops byte member with rfl | rfl <;> rfl
  -- what follows is no point and no exponent
  have whole : parseFraction rest = some (false, rest) ∧ parseExponent rest = some (false, rest) := by
    cases rest with
    | nil => exact ⟨rfl, rfl⟩
    | cons byte rest => rcases stops byte rfl with rfl | rfl <;> exact ⟨rfl, rfl⟩
  have unsigned : parseNumber (digitsOf number ++ rest) =
      parseUnsigned false (digitsOf number ++ rest) := by
    unfold parseNumber
    split
    · rename_i sign
      cases shape : digitsOf number with
      | nil => exact absurd (List.map_eq_nil_iff.mp shape) Nat.toDigits_ne_nil
      | cons byte digits =>
        rw [shape] at sign
        have digit := isDigit_of_mem_digitsOf (shape ▸ List.mem_cons_self)
        rw [(List.cons.inj sign).1] at digit
        exact absurd digit (by decide)
    · rfl
  rw [bytesOf_repr, unsigned, parseUnsigned, parseWhole_digitsOf number ends]
  simp [whole.1, whole.2, decimalValue_digitsOf]

/-! ### Records -/

/-- The compact form of a value is read back, if each of its bytes allows a step. -/
def ReadBack (json : Json) : Prop :=
  ∀ fuel rest, (bytesOf json.compact).length ≤ fuel → Stops rest →
    parseValue fuel (bytesOf json.compact ++ rest) = some (json, rest)

theorem skipSpaces_of_not_isSpace {byte : UInt8} (visible : isSpace byte = false)
    (bytes : List UInt8) : skipSpaces (byte :: bytes) = byte :: bytes := by
  unfold skipSpaces
  rw [List.dropWhile_cons, visible]
  rfl

theorem ne_of_isDigit {byte other : UInt8} (digit : isDigit byte = true)
    (silent : isDigit other = false) : byte ≠ other := by
  rintro rfl
  rw [digit] at silent
  cases silent

/-- A number without a sign is read back. -/
theorem readBack_natural (number : Nat) : ReadBack (integer number) := by
  intro fuel rest enough stops
  have compact : (integer number).compact = number.repr := by
    rw [Json.compact]
    rfl
  rw [compact] at enough ⊢
  have parsed := parseNumber_natural number stops
  rw [bytesOf_repr] at enough parsed ⊢
  cases shape : digitsOf number with
  | nil => exact absurd (List.map_eq_nil_iff.mp shape) Nat.toDigits_ne_nil
  | cons byte digits =>
    have digit : isDigit byte = true := isDigit_of_mem_digitsOf (shape ▸ List.mem_cons_self)
    have visible : isSpace byte = false := by
      have different := fun other => @ne_of_isDigit byte other digit
      simp [isSpace, different 0x20 rfl, different 0x09 rfl, different 0x0A rfl, different 0x0D rfl]
    rw [shape] at enough parsed
    obtain ⟨fuel, rfl⟩ := Nat.exists_eq_add_one.mpr (Nat.lt_of_lt_of_le (Nat.succ_pos _) enough)
    rw [List.cons_append] at parsed ⊢
    rw [parseValue, skipSpaces_of_not_isSpace visible]
    split
    case h_7 => exact parsed
    all_goals
      rename_i same
      exact absurd (List.cons.inj same).1 (ne_of_isDigit digit (by decide))

/-! ### Records -/

variable {key : String} {value : Json} {members : List (String × Json)}

/-- A member is its key in quotes, a colon and its value. -/
theorem bytesOf_member (plain : IsPlain key.toList) (value : Json) :
    bytesOf (quoted (some key) ++ ":" ++ value.compact) =
      0x22 :: (bytesOf key ++ 0x22 :: 0x3A :: bytesOf value.compact) := by
  have quote : bytesOf "\"" = [0x22] := bytesOf_singleton '"' (by decide)
  have colon : bytesOf ":" = [0x3A] := bytesOf_singleton ':' (by decide)
  rw [quoted_of_isPlain plain]
  simp only [bytesOf_append, quote, colon, List.append_assoc, List.cons_append, List.nil_append]

/-- The last member of a record is read back. -/
theorem parseMembers_last (plain : IsPlain key.toList) (readBack : ReadBack value) {fuel : Nat}
    (enough : (bytesOf value.compact).length ≤ fuel) (rest : List UInt8) :
    parseMembers (fuel + 1) (bytesOf (quoted (some key) ++ ":" ++ value.compact) ++ 0x7D :: rest) =
      some ([(some key, value)], rest) := by
  have parsed := readBack fuel (0x7D :: rest) enough fun byte head => by
    cases head
    exact Or.inr rfl
  rw [bytesOf_member plain, parseMembers, List.cons_append,
    skipSpaces_of_not_isSpace (by decide)]
  simp only [List.append_assoc, List.cons_append, parseText_of_isPlain plain]
  simp [skipSpaces_of_not_isSpace, isSpace, parsed]

/-- A member before others is read back, and then the others. -/
theorem parseMembers_more (plain : IsPlain key.toList) (readBack : ReadBack value) {fuel : Nat}
    (enough : (bytesOf value.compact).length ≤ fuel) (rest : List UInt8) :
    parseMembers (fuel + 1) (bytesOf (quoted (some key) ++ ":" ++ value.compact) ++ 0x2C :: rest) =
      (parseMembers fuel rest).map fun (members, rest) => ((some key, value) :: members, rest) := by
  have parsed := readBack fuel (0x2C :: rest) enough fun byte head => by
    cases head
    exact Or.inl rfl
  rw [bytesOf_member plain, parseMembers, List.cons_append,
    skipSpaces_of_not_isSpace (by decide)]
  simp only [List.append_assoc, List.cons_append, parseText_of_isPlain plain]
  simp [skipSpaces_of_not_isSpace, isSpace, parsed]

/-- The members of a record, each with a text as its key. -/
def named (members : List (String × Json)) : List (Option String × Json) :=
  members.map fun (key, value) => (some key, value)

/-- The bytes between the braces of a record. -/
def membersOf (members : List (String × Json)) : List UInt8 :=
  bytesOf (",".intercalate (compactMembers (named members)))

theorem membersOf_singleton (key : String) (value : Json) :
    membersOf [(key, value)] = bytesOf (quoted (some key) ++ ":" ++ value.compact) :=
  congrArg bytesOf String.intercalate_singleton

theorem membersOf_cons (key : String) (value : Json) (nonempty : members ≠ []) :
    membersOf ((key, value) :: members) =
      bytesOf (quoted (some key) ++ ":" ++ value.compact) ++ 0x2C :: membersOf members := by
  have comma : bytesOf "," = [0x2C] := bytesOf_singleton ',' (by decide)
  have others : compactMembers (named members) ≠ [] := by
    obtain ⟨⟨_, _⟩, _, rfl⟩ := List.exists_cons_of_ne_nil nonempty
    exact List.cons_ne_nil _ _
  show bytesOf (",".intercalate (_ :: compactMembers (named members))) = _
  rw [String.intercalate_cons_of_ne_nil others, bytesOf_append, bytesOf_append, comma,
    List.append_assoc]
  rfl

/-- The members of a record are read back. -/
theorem parseMembers_membersOf (plain : ∀ member ∈ members, IsPlain member.1.toList)
    (readBack : ∀ member ∈ members, ReadBack member.2) (nonempty : members ≠ []) {fuel : Nat}
    (enough : (membersOf members).length ≤ fuel) (rest : List UInt8) :
    parseMembers fuel (membersOf members ++ 0x7D :: rest) = some (named members, rest) := by
  induction members generalizing fuel with
  | nil => exact absurd rfl nonempty
  | cons member others ih =>
    obtain ⟨key, value⟩ := member
    obtain ⟨keyPlain, othersPlain⟩ := List.forall_mem_cons.mp plain
    obtain ⟨valueBack, othersBack⟩ := List.forall_mem_cons.mp readBack
    have size : (bytesOf (quoted (some key) ++ ":" ++ value.compact)).length =
        (bytesOf key).length + (bytesOf value.compact).length + 3 := by
      rw [bytesOf_member keyPlain]
      simp only [List.length_cons, List.length_append]
      omega
    by_cases last : others = []
    · subst last
      rw [membersOf_singleton] at enough ⊢
      obtain ⟨fuel, rfl⟩ := Nat.exists_eq_add_one.mpr (show 0 < fuel by omega)
      exact parseMembers_last keyPlain valueBack (show _ ≤ fuel by simp only; omega) rest
    · rw [membersOf_cons key value last] at enough ⊢
      rw [List.length_append, List.length_cons] at enough
      obtain ⟨fuel, rfl⟩ := Nat.exists_eq_add_one.mpr (show 0 < fuel by omega)
      rw [List.append_assoc, List.cons_append,
        parseMembers_more keyPlain valueBack (show _ ≤ fuel by simp only; omega),
        ih othersPlain othersBack last (by omega)]
      rfl

/-- A record of what is read back is read back. -/
theorem readBack_record (plain : ∀ member ∈ members, IsPlain member.1.toList)
    (readBack : ∀ member ∈ members, ReadBack member.2) (nonempty : members ≠ []) :
    ReadBack (record members) := by
  intro fuel rest enough _
  have braces : bytesOf (record members).compact = 0x7B :: (membersOf members ++ [0x7D]) := by
    have opening : bytesOf "\x7b" = [0x7B] := bytesOf_singleton '\x7b' (by decide)
    have closing : bytesOf "\x7d" = [0x7D] := bytesOf_singleton '\x7d' (by decide)
    rw [record, compact, bytesOf_append, bytesOf_append, opening, closing]
    rfl
  have quote : ∃ others, membersOf members = 0x22 :: others := by
    obtain ⟨⟨key, value⟩, others, rfl⟩ := List.exists_cons_of_ne_nil nonempty
    have member := bytesOf_member (plain _ List.mem_cons_self) value
    by_cases last : others = []
    · subst last
      exact ⟨_, (membersOf_singleton key value).trans member⟩
    · rw [membersOf_cons key value last, member]
      exact ⟨_, rfl⟩
  rw [braces] at enough ⊢
  rw [List.length_cons, List.length_append, List.length_singleton] at enough
  obtain ⟨fuel, rfl⟩ := Nat.exists_eq_add_one.mpr (show 0 < fuel by omega)
  have parsed := parseMembers_membersOf plain readBack nonempty (show _ ≤ fuel by omega) rest
  obtain ⟨others, shape⟩ := quote
  rw [parseValue, List.cons_append, skipSpaces_of_not_isSpace (by decide), List.append_assoc,
    List.singleton_append]
  rw [shape] at parsed ⊢
  simp only [List.cons_append] at parsed ⊢
  rw [skipSpaces_of_not_isSpace (by decide)]
  simp [parsed, record, named]

/-! ### The manifest -/

theorem readBack_word (value : UInt64) : ReadBack (Rendering.word value) :=
  readBack_natural value.toNat

theorem word?_word (value : UInt64) : (Rendering.word value).word? = some value := by
  have small : Int.ofNat value.toNat ≤ Int.ofNat maxWord :=
    Int.ofNat_le.mpr (Nat.le_of_lt_succ value.toNat_lt)
  exact (if_pos ⟨Int.natCast_nonneg _, small⟩).trans (congrArg some UInt64.ofNat_toNat)

end Json

namespace Rendering

open Json

theorem readBack_objectRef (reference : ObjectRef) : ReadBack (objectRef reference) := by
  refine readBack_record (fun member inside => ?_) (fun member inside => ?_) (by simp)
  · have keys : ∀ key ∈ ["transaction", "progressive"], IsPlain key.toList := by decide
    exact keys _ (List.mem_map_of_mem (f := Prod.fst) inside)
  · simp only [List.mem_cons, List.not_mem_nil, or_false] at inside
    rcases inside with rfl | rfl
    · exact readBack_word reference.transaction.value
    · exact readBack_word reference.progressive

theorem readObjectRef?_objectRef (reference : ObjectRef) :
    readObjectRef? (objectRef reference) = some reference := by
  let members := [("transaction", word reference.transaction.value),
    ("progressive", word reference.progressive)]
  have fields : (objectRef reference).fields? ["transaction", "progressive"] = some members := rfl
  have transaction : members.lookup "transaction" = some (word reference.transaction.value) := rfl
  have progressive : members.lookup "progressive" = some (word reference.progressive) := rfl
  simp [readObjectRef?, fields, transaction, progressive, word?_word]

/-- **The record that names the manifest is read back.** -/
theorem readManifestRecord?_manifestRecord (manifest : ObjectRef) :
    readManifestRecord? (bytesOf (manifestRecord manifest)) = some manifest := by
  have back : ReadBack (record [("manifest", objectRef manifest)]) := by
    refine readBack_record (fun member inside => ?_) (fun member inside => ?_) (by simp)
    · have key : IsPlain "manifest".toList := by decide
      rw [List.mem_singleton.mp inside]
      exact key
    · rw [List.mem_singleton.mp inside]
      exact readBack_objectRef manifest
  have parsed : parse? (bytesOf (manifestRecord manifest)) =
      some (record [("manifest", objectRef manifest)]) := by
    have read : parseValue (2 * (bytesOf (manifestRecord manifest)).length + 2)
        (bytesOf (manifestRecord manifest) ++ []) = _ :=
      back _ [] (by rw [manifestRecord]; omega) fun _ head => by cases head
    rw [List.append_nil] at read
    rw [parse?, read]
    rfl
  have field : (record [("manifest", objectRef manifest)]).fields? ["manifest"] =
      some [("manifest", objectRef manifest)] := rfl
  rw [readManifestRecord?, parsed, Option.bind_eq_bind, Option.bind_some, field]
  exact readObjectRef?_objectRef manifest

end Rendering

end ObjectLedger
