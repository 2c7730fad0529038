/-
**Integers as text, in a given base.**

* `ofDigits`, `digits`: a number and its digits, most significant first.
* `readNatural`, `readInteger`: the reading of a text as a number within bounds. Digits are read
  from the left and the first problem decides: a foreign character or a number out of bounds.
* `hexadecimal`, `hexadecimalPadded`: lowercase hexadecimal, without and with leading zeros.
-/

namespace ObjectLedger.Text

/-- Why a text is not an integer of the expected range. -/
inductive IntegerError where
  | empty
  | invalidDigit
  | tooLarge
  | tooSmall
  deriving DecidableEq, Repr

/-- The wording of a refused integer. -/
def IntegerError.message : IntegerError → String
  | .empty => "cannot parse integer from empty string"
  | .invalidDigit => "invalid digit found in string"
  | .tooLarge => "number too large to fit in target type"
  | .tooSmall => "number too small to fit in target type"

/-- The value of a character as a digit, letters of either case counting from ten. -/
def digitValue (character : Char) : Option Nat :=
  if '0' ≤ character ∧ character ≤ '9' then some (character.toNat - '0'.toNat)
  else if 'a' ≤ character ∧ character ≤ 'z' then some (character.toNat - 'a'.toNat + 10)
  else if 'A' ≤ character ∧ character ≤ 'Z' then some (character.toNat - 'A'.toNat + 10)
  else none

/-- The value of a character as a digit of the base. -/
def digitOfBase (base : Nat) (character : Char) : Option Nat :=
  (digitValue character).filter (· < base)

/-- Reads digits from the left as long as the number stays within `limit`; `overflow` is the
error of a number that does not. -/
def readDigits (base limit : Nat) (overflow : IntegerError) :
    Nat → List Char → Except IntegerError Nat
  | value, [] => .ok value
  | value, character :: rest =>
    match digitOfBase base character with
    | none => .error .invalidDigit
    | some digit =>
      if value * base + digit ≤ limit then
        readDigits base limit overflow (value * base + digit) rest
      else .error overflow

/-- Reads a number from zero to `limit`, with an optional plus sign. -/
def readNatural (base limit : Nat) (text : String) : Except IntegerError Nat :=
  match text.toList with
  | [] => .error .empty
  | '+' :: [] => .error .invalidDigit
  | '+' :: rest => readDigits base limit .tooLarge 0 rest
  | characters => readDigits base limit .tooLarge 0 characters

/-- Reads a number from `-(limit + 1)` to `limit`, with an optional sign. -/
def readInteger (base limit : Nat) (text : String) : Except IntegerError Int :=
  match text.toList with
  | [] => .error .empty
  | '+' :: [] => .error .invalidDigit
  | '-' :: [] => .error .invalidDigit
  | '+' :: rest => (readDigits base limit .tooLarge 0 rest).map Int.ofNat
  | '-' :: rest => (readDigits base (limit + 1) .tooSmall 0 rest).map fun value => -Int.ofNat value
  | characters => (readDigits base limit .tooLarge 0 characters).map Int.ofNat

/-- Reads a number that fits 64 bits. -/
def readUInt64 (base : Nat) (text : String) : Except IntegerError UInt64 :=
  (readNatural base 0xFFFFFFFFFFFFFFFF text).map UInt64.ofNat

/-- Lowercase hexadecimal digits, at least one. -/
def hexadecimal (value : Nat) : String :=
  String.ofList (Nat.toDigits 16 value)

/-- Lowercase hexadecimal digits, with leading zeros up to the given width. -/
def hexadecimalPadded (width value : Nat) : String :=
  let digits := Nat.toDigits 16 value
  String.ofList (List.replicate (width - digits.length) '0' ++ digits)

end ObjectLedger.Text
