/-
**Bytes as hexadecimal text.**

* `encode`: two lowercase digits a byte.
* `decode`: digits of either case, an even number of them.
-/
import ObjectLedger.Text.Integer
import ObjectLedger.Text.Quoted

namespace ObjectLedger.Hexadecimal

/-- Why a text is not hexadecimal. -/
inductive Error where
  | oddLength
  | invalidCharacter (byte : UInt8) (position : Nat)
  deriving DecidableEq, Repr

/-- The wording of a refused text; a foreign byte is shown as the character of its number. -/
def Error.message : Error → String
  | oddLength => "Odd number of digits"
  | invalidCharacter byte position =>
    "Invalid character " ++ Text.quotedCharacter (Char.ofNat byte.toNat) ++ " at position " ++
      toString position

/-- The digit of a number below sixteen. -/
def digit (value : UInt8) : Char :=
  Char.ofNat (if value < 10 then value.toNat + '0'.toNat else value.toNat - 10 + 'a'.toNat)

/-- Two lowercase digits a byte. -/
def encode (bytes : List UInt8) : String :=
  String.ofList (bytes.flatMap fun byte => [digit (byte / 16), digit (byte % 16)])

/-- The value of the byte as a hexadecimal digit. -/
def digitValue (byte : UInt8) : Option UInt8 :=
  (Text.digitOfBase 16 (Char.ofNat byte.toNat)).map Nat.toUInt8

/-- Reads the digits from the given position on, in pairs. -/
def decodePairs (position : Nat) : List UInt8 → Except Error (List UInt8)
  | high :: low :: rest =>
    match digitValue high, digitValue low with
    | none, _ => .error (.invalidCharacter high position)
    | some _, none => .error (.invalidCharacter low (position + 1))
    | some upper, some lower => (decodePairs (position + 2) rest).map ((upper * 16 + lower) :: ·)
  | _ => .ok []

/-- Reads digits of either case; a text of odd length is refused whatever it holds. -/
def decode (text : String) : Except Error (List UInt8) :=
  let bytes := text.toUTF8.toList
  if bytes.length % 2 = 1 then .error .oddLength else decodePairs 0 bytes

end ObjectLedger.Hexadecimal
