/-
**Base 64 with padding.**

* `encode`: four symbols for three bytes, the last group filled up with `=`.
* `decode`: the reading of the same form. Symbols are looked at from the left, the groups before
  the last one first; then the length, the padding and the unused bits of the last symbol.
-/

namespace ObjectLedger.Base64

/-- Why a text is not in base 64. -/
inductive Error where
  | invalidByte (offset : Nat) (byte : UInt8)
  | invalidLength (length : Nat)
  | invalidLastSymbol (offset : Nat) (byte : UInt8)
  | invalidPadding
  deriving DecidableEq, Repr

/-- The wording of a refused text. -/
def Error.message : Error → String
  | invalidByte offset byte =>
    "Invalid symbol " ++ toString byte.toNat ++ ", offset " ++ toString offset ++ "."
  | invalidLength length => "Invalid input length: " ++ toString length
  | invalidLastSymbol offset byte =>
    "Invalid last symbol " ++ toString byte.toNat ++ ", offset " ++ toString offset ++ "."
  | invalidPadding => "Invalid padding"

/-- The padding symbol. -/
def pad : UInt8 := 61

/-- The sixty-four symbols in the order of their values. -/
def alphabet : List Char :=
  "ABCDEFGHIJKLMNOPQRSTUVWXYZabcdefghijklmnopqrstuvwxyz0123456789+/".toList

/-- The symbol of a number below sixty-four. -/
def symbol (value : Nat) : Char :=
  alphabet.getD value '='

/-- The value of a symbol. -/
def symbolValue (byte : UInt8) : Option Nat :=
  let value := alphabet.findIdx (fun candidate => candidate.toNat == byte.toNat)
  if value < 64 then some value else none

/-- The symbols of a list of bytes, three bytes at a time. -/
def encodeChars : List UInt8 → List Char
  | first :: second :: third :: rest =>
    let group := first.toNat * 65536 + second.toNat * 256 + third.toNat
    symbol (group / 262144) :: symbol (group / 4096 % 64) :: symbol (group / 64 % 64) ::
      symbol (group % 64) :: encodeChars rest
  | [first, second] =>
    let group := first.toNat * 1024 + second.toNat * 4
    [symbol (group / 4096), symbol (group / 64 % 64), symbol (group % 64), '=']
  | [first] =>
    let group := first.toNat * 16
    [symbol (group / 64), symbol (group % 64), '=', '=']
  | [] => []

/-- Four symbols for three bytes, padded to a multiple of four. -/
def encode (bytes : List UInt8) : String :=
  String.ofList (encodeChars bytes)

/-- The value of the symbol at an offset. -/
def symbolAt (offset : Nat) (byte : UInt8) : Except Error Nat :=
  match symbolValue byte with
  | some value => .ok value
  | none => .error (.invalidByte offset byte)

/-- Decodes whole groups of four symbols, the first of them at the given offset. -/
def decodeGroups (offset : Nat) : List UInt8 → Except Error (List UInt8)
  | first :: second :: third :: fourth :: rest => do
    let first ← symbolAt offset first
    let second ← symbolAt (offset + 1) second
    let third ← symbolAt (offset + 2) third
    let fourth ← symbolAt (offset + 3) fourth
    let group := first * 262144 + second * 4096 + third * 64 + fourth
    let decoded ← decodeGroups (offset + 4) rest
    return (group / 65536).toUInt8 :: (group / 256).toUInt8 :: group.toUInt8 :: decoded
  | _ => .ok []

/-- What the symbols of the last group amount to. -/
structure LastGroup where
  /-- The values of the symbols, in order. -/
  symbols : List Nat
  /-- The last symbol itself. -/
  lastSymbol : UInt8
  /-- The number of padding symbols. -/
  padding : Nat
  /-- The place of the first padding symbol in the group. -/
  firstPadding : Nat

/-- Reads the last group, which starts at `offset`; `place` counts the bytes of it seen so far.
Padding stands at the third place or later and nothing but padding follows it. -/
def readLastGroup (offset : Nat) : Nat → LastGroup → List UInt8 → Except Error LastGroup
  | _, group, [] => .ok group
  | place, group, byte :: rest =>
    if byte = pad then
      if place < 2 then .error (.invalidByte (offset + place) byte)
      else
        readLastGroup offset (place + 1)
          { group with
            padding := group.padding + 1
            firstPadding := if group.padding = 0 then place else group.firstPadding } rest
    else if group.padding > 0 then .error (.invalidByte (offset + group.firstPadding) pad)
    else do
      let value ← symbolAt (offset + place) byte
      readLastGroup offset (place + 1)
        { group with symbols := group.symbols ++ [value], lastSymbol := byte } rest

/-- The bytes of the last group, if its length, padding and unused bits are right. -/
def decodeLastGroup (offset : Nat) (isEmpty : Bool) (bytes : List UInt8) :
    Except Error (List UInt8) := do
  let group ← readLastGroup offset 0 ⟨[], 0, 0, 0⟩ bytes
  let count := group.symbols.length
  if !isEmpty && count < 2 then .error (.invalidLength (offset + count))
  else if (group.padding + count) % 4 ≠ 0 then .error .invalidPadding
  else
    match group.symbols with
    | [first, second] =>
      if second % 16 ≠ 0 then .error (.invalidLastSymbol (offset + 1) group.lastSymbol)
      else .ok [((first * 64 + second) / 16).toUInt8]
    | [first, second, third] =>
      let value := first * 4096 + second * 64 + third
      if third % 4 ≠ 0 then .error (.invalidLastSymbol (offset + 2) group.lastSymbol)
      else .ok [(value / 1024).toUInt8, (value / 4).toUInt8]
    | [first, second, third, fourth] =>
      let value := first * 262144 + second * 4096 + third * 64 + fourth
      .ok [(value / 65536).toUInt8, (value / 256).toUInt8, value.toUInt8]
    | _ => .ok []

/-- The number of bytes before the last group. -/
def lengthBeforeLastGroup (length : Nat) : Nat :=
  length - (if length % 4 = 0 then 4 else length % 4)

/-- Decodes bytes in base 64. A single byte too much that is no symbol at all is reported first. -/
def decodeBytes (bytes : List UInt8) : Except Error (List UInt8) :=
  let length := bytes.length
  let offset := lengthBeforeLastGroup length
  let stray := if length % 4 = 1 then
      bytes.getLast?.filter fun byte => byte != pad && (symbolValue byte).isNone
    else none
  match stray with
  | some byte => .error (.invalidByte (length - 1) byte)
  | none => do
    let start ← decodeGroups 0 (bytes.take offset)
    let rest ← decodeLastGroup offset bytes.isEmpty (bytes.drop offset)
    return start ++ rest

/-- Decodes a text in base 64. -/
def decode (text : String) : Except Error (List UInt8) :=
  decodeBytes text.toUTF8.toList

end ObjectLedger.Base64
