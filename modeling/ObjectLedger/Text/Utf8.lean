/-
**Bytes as text.**

* `ofUtf8Lossy`: the text of bytes in UTF-8, with one replacement character for each piece that is
  not part of a character: the longest start of one, or a single byte.
-/

namespace ObjectLedger.Text

/-- The character that stands for malformed bytes. -/
def replacement : Char := '\uFFFD'

/-- The byte continues a character. -/
def isContinuation (byte : UInt8) : Bool :=
  0x80 ≤ byte && byte ≤ 0xBF

/-- The number of bytes of a character with the given first byte, and the bounds of its second
byte; none for a byte that starts no character of several bytes. -/
def sequenceShape (first : UInt8) : Option (Nat × UInt8 × UInt8) :=
  if 0xC2 ≤ first && first ≤ 0xDF then some (2, 0x80, 0xBF)
  else if first = 0xE0 then some (3, 0xA0, 0xBF)
  else if first = 0xED then some (3, 0x80, 0x9F)
  else if 0xE1 ≤ first && first ≤ 0xEF then some (3, 0x80, 0xBF)
  else if first = 0xF0 then some (4, 0x90, 0xBF)
  else if 0xF1 ≤ first && first ≤ 0xF3 then some (4, 0x80, 0xBF)
  else if first = 0xF4 then some (4, 0x80, 0x8F)
  else none

/-- The number of bytes after the first one that fit the shape of the character, at most all of
them. -/
def fittingBytes (count : Nat) (low high : UInt8) (rest : List UInt8) : Nat :=
  match rest with
  | [] => 0
  | second :: others =>
    if low ≤ second && second ≤ high then
      1 + ((others.take (count - 2)).takeWhile isContinuation).length
    else 0

/-- The number of bits of the character in its first byte, by the number of its bytes. -/
def leadingBits (count : Nat) (first : UInt8) : Nat :=
  first.toNat % (1 <<< (7 - count))

/-- The text of the bytes. The first argument bounds the number of steps. -/
def lossyChars : Nat → List UInt8 → List Char
  | 0, _ => []
  | _ + 1, [] => []
  | fuel + 1, first :: rest =>
    if first < 0x80 then Char.ofNat first.toNat :: lossyChars fuel rest
    else
      match sequenceShape first with
      | none => replacement :: lossyChars fuel rest
      | some (count, low, high) =>
        let fitting := fittingBytes count low high rest
        if fitting + 1 = count then
          let number := (rest.take fitting).foldl
            (fun value byte => value * 64 + byte.toNat % 64) (leadingBits count first)
          Char.ofNat number :: lossyChars fuel (rest.drop fitting)
        else replacement :: lossyChars fuel (rest.drop fitting)

/-- The text of bytes in UTF-8, with replacements for malformed pieces. -/
def ofUtf8Lossy (bytes : List UInt8) : String :=
  String.ofList (lossyChars bytes.length bytes)

end ObjectLedger.Text
