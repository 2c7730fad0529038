/-
**Binary codecs: pairs of a writer and a reader that are built together.**

The format has one form for each value: integers of a fixed width with the low byte first, lengths
in base 128 without superfluous digits, a mark before an optional value, the number of the
alternative before the content of a union, and the parts of a record one after the other.

* `Codec`: a writer, and a reader that gives back what follows the value. The reader refuses texts
  and sequences beyond a length, which `Codec.oversize?` finds before they are written.
* `Codec.fixed`, `Codec.boolean`, `Codec.string`, `Codec.list`, `Codec.option`, `Codec.pair`,
  `Codec.imap`, `Codec.union`: the codecs of the format.
* `Codec.decodeAll`: the reading of a whole input.
-/
import ObjectLedger.Saturating

namespace ObjectLedger

/-- Why bytes are not the encoding of a value. -/
inductive DecodeError where
  | unexpectedEnd
  | remainingInput
  | expectedBoolean
  | expectedOption
  | malformedText
  | unknownAlternative (index count : Nat)
  | superfluousDigits
  | numberTooLarge
  | sequenceTooLong (length : Nat)
  deriving DecidableEq, Repr

/-- The wording of refused bytes. -/
def DecodeError.message : DecodeError → String
  | unexpectedEnd => "unexpected end of input"
  | remainingInput => "remaining input"
  | expectedBoolean => "expected boolean"
  | expectedOption => "expected option type"
  | malformedText => "malformed utf8"
  | unknownAlternative index count =>
    "invalid value: integer `" ++ toString index ++ "`, expected variant index 0 <= i < " ++
      toString count
  | superfluousDigits => "ULEB128 encoding was not minimal in size"
  | numberTooLarge => "ULEB128-encoded integer did not fit in the target size"
  | sequenceTooLong length => "exceeded max sequence length: " ++ toString length

/-- A reader gives the value at the start of the bytes and the bytes after it. -/
abbrev Reader (α : Type) := List UInt8 → Except DecodeError (α × List UInt8)

/-- A writer and a reader of one type of values. -/
structure Codec (α : Type) where
  encode : α → List UInt8
  decode : Reader α
  /-- The length of the first text or sequence in the value that is too long to be written. -/
  oversize? : α → Option Nat := fun _ => none

namespace Codec

/-! ### Words -/

/-- The low bytes of a number, the lowest first. -/
def wordBytes : Nat → Nat → List UInt8
  | 0, _ => []
  | width + 1, value => UInt8.ofNat value :: wordBytes width (value / 256)

/-- Reads a number of the given width, the lowest byte first. -/
def readWord : Nat → Reader Nat
  | 0, bytes => .ok (0, bytes)
  | _ + 1, [] => .error .unexpectedEnd
  | width + 1, byte :: rest => do
    let (value, rest) ← readWord width rest
    return (byte.toNat + 256 * value, rest)

/-- Numbers of a fixed width, as a type of words. -/
def fixed {α : Type} (width : Nat) (toNat : α → Nat) (ofNat : Nat → α) : Codec α where
  encode value := wordBytes width (toNat value)
  decode bytes := do
    let (value, rest) ← readWord width bytes
    return (ofNat value, rest)

/-- A single byte. -/
def byte : Codec UInt8 := fixed 1 UInt8.toNat UInt8.ofNat

/-- A word of 16 bits. -/
def word16 : Codec UInt16 := fixed 2 UInt16.toNat UInt16.ofNat

/-- A word of 32 bits. -/
def word32 : Codec UInt32 := fixed 4 UInt32.toNat UInt32.ofNat

/-- A word of 64 bits. -/
def word64 : Codec UInt64 := fixed 8 UInt64.toNat UInt64.ofNat

/-- A signed word of 64 bits, as its two's complement. -/
def int64 : Codec Int64 :=
  fixed 8 (fun value => value.toUInt64.toNat) (fun value => (UInt64.ofNat value).toInt64)

/-- An amount of 128 bits. -/
def amount : Codec Amount := fixed 16 BitVec.toNat (BitVec.ofNat 128)

/-- A truth value: a byte that is zero or one. -/
def boolean : Codec Bool where
  encode value := [if value then 1 else 0]
  decode
    | [] => .error .unexpectedEnd
    | 0 :: rest => .ok (false, rest)
    | 1 :: rest => .ok (true, rest)
    | _ => .error .expectedBoolean

/-! ### Lengths -/

/-- A number in base 128, low digit first; each digit but the last is marked by the high bit. -/
def digitBytes (value : Nat) : List UInt8 :=
  if value < 128 then [UInt8.ofNat value]
  else UInt8.ofNat (value % 128 + 128) :: digitBytes (value / 128)
termination_by value

/-- Reads at most `count` digits in base 128; `seen` tells that digits came before. The last digit
of several is not zero. -/
def readDigits : Nat → Bool → Reader Nat
  | 0, _, _ => .error .numberTooLarge
  | _ + 1, _, [] => .error .unexpectedEnd
  | count + 1, seen, byte :: rest =>
    if byte < 128 then
      if seen && byte == 0 then .error .superfluousDigits else .ok (byte.toNat, rest)
    else do
      let (value, rest) ← readDigits count true rest
      return (byte.toNat - 128 + 128 * value, rest)

/-- Reads a number of at most 32 bits and five digits. -/
def readNumber : Reader Nat := fun bytes => do
  let (value, rest) ← readDigits 5 false bytes
  if value < 0x100000000 then .ok (value, rest) else .error .numberTooLarge

/-- The greatest length of a text or a sequence. -/
def maxLength : Nat := 0x7FFFFFFF

/-- Reads the length of a text or a sequence. -/
def readLength : Reader Nat := fun bytes => do
  let (length, rest) ← readNumber bytes
  if length ≤ maxLength then .ok (length, rest) else .error (.sequenceTooLong length)

/-- The length, if it is too great for a text or a sequence. -/
def beyondMaximum? (length : Nat) : Option Nat :=
  if length ≤ maxLength then none else some length

/-! ### Texts and sequences -/

/-- A text: its length in bytes and its bytes in UTF-8. -/
def string : Codec String where
  encode text :=
    let bytes := text.toUTF8.toList
    digitBytes bytes.length ++ bytes
  decode bytes := do
    let (length, rest) ← readLength bytes
    if rest.length < length then .error .unexpectedEnd
    else
      match String.fromUTF8? ⟨(rest.take length).toArray⟩ with
      | some text => .ok (text, rest.drop length)
      | none => .error .malformedText
  oversize? text := beyondMaximum? text.toUTF8.toList.length

/-- Reads the given number of values. -/
def readMany {α : Type} (item : Reader α) : Nat → Reader (List α)
  | 0, bytes => .ok ([], bytes)
  | count + 1, bytes => do
    let (first, rest) ← item bytes
    let (others, rest) ← readMany item count rest
    return (first :: others, rest)

/-- A sequence: its length and its values. -/
def list {α : Type} (item : Codec α) : Codec (List α) where
  encode values := digitBytes values.length ++ values.flatMap item.encode
  decode bytes := do
    let (length, rest) ← readLength bytes
    readMany item.decode length rest
  oversize? values := beyondMaximum? values.length <|> values.findSome? item.oversize?

/-- A sequence of bytes. -/
def bytes : Codec (List UInt8) := list byte

/-- An optional value: zero, or one and the value. -/
def option {α : Type} (item : Codec α) : Codec (Option α) where
  encode
    | none => [0]
    | some value => 1 :: item.encode value
  decode
    | [] => .error .unexpectedEnd
    | 0 :: rest => .ok (none, rest)
    | 1 :: rest => do
      let (value, rest) ← item.decode rest
      return (some value, rest)
    | _ => .error .expectedOption
  oversize? value := value.bind item.oversize?

/-! ### Records and unions -/

/-- Nothing at all. -/
def unit : Codec Unit where
  encode _ := []
  decode bytes := .ok ((), bytes)

/-- Two parts, one after the other. -/
def pair {α β : Type} (first : Codec α) (second : Codec β) : Codec (α × β) where
  encode value := first.encode value.1 ++ second.encode value.2
  decode bytes := do
    let (left, rest) ← first.decode bytes
    let (right, rest) ← second.decode rest
    return ((left, right), rest)
  oversize? value := first.oversize? value.1 <|> second.oversize? value.2

/-- The same form for another type of values. -/
def imap {α β : Type} (content : Codec α) (build : α → β) (parts : β → α) : Codec β where
  encode value := content.encode (parts value)
  decode bytes := do
    let (value, rest) ← content.decode bytes
    return (build value, rest)
  oversize? value := content.oversize? (parts value)

/-- One alternative of a union: the form of its content, and which values it covers. -/
structure Alternative (α : Type) where
  Content : Type
  codec : Codec Content
  build : Content → α
  content? : α → Option Content

/-- An alternative of a union. -/
def case {α β : Type} (codec : Codec β) (build : β → α) (content? : α → Option β) :
    Alternative α :=
  ⟨β, codec, build, content?⟩

/-- An alternative without content, which covers one value. -/
def constant {α : Type} [DecidableEq α] (value : α) : Alternative α :=
  ⟨Unit, unit, fun _ => value, fun candidate => if candidate = value then some () else none⟩

/-- The number of the first alternative from `index` on that covers the value, and its content. -/
def encodeFirst {α : Type} (value : α) : Nat → List (Alternative α) → List UInt8
  | _, [] => []
  | index, alternative :: rest =>
    match alternative.content? value with
    | some content => digitBytes index ++ alternative.codec.encode content
    | none => encodeFirst value (index + 1) rest

/-- What is too long in the content of the first alternative that covers the value. -/
def oversizeFirst? {α : Type} (value : α) : List (Alternative α) → Option Nat
  | [] => none
  | alternative :: rest =>
    match alternative.content? value with
    | some content => alternative.codec.oversize? content
    | none => oversizeFirst? value rest

/-- A union: the number of the alternative and its content. -/
def union {α : Type} (alternatives : List (Alternative α)) : Codec α where
  encode value := encodeFirst value 0 alternatives
  decode bytes := do
    let (index, rest) ← readNumber bytes
    match alternatives[index]? with
    | none => .error (.unknownAlternative index alternatives.length)
    | some alternative =>
      let (content, rest) ← alternative.codec.decode rest
      return (alternative.build content, rest)
  oversize? value := oversizeFirst? value alternatives

/-! ### Whole inputs -/

/-- Reads a value that takes up all the bytes. -/
def decodeAll {α : Type} (codec : Codec α) (bytes : List UInt8) : Except DecodeError α := do
  let (value, rest) ← codec.decode bytes
  if rest.isEmpty then .ok value else .error .remainingInput

end Codec

/-- The size of the encoding of a value, as a word. -/
def Codec.size {α : Type} (codec : Codec α) (value : α) : UInt64 :=
  saturate (codec.encode value).length

end ObjectLedger
