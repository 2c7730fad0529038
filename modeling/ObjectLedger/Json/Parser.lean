/-
**The reading of JSON.**

* `Json.parse?`: strict JSON without anything after the value. Each escape must be well formed; a
  text whose escapes or bytes name no characters is kept as such.
-/
import ObjectLedger.Json.Basic
import ObjectLedger.Saturating

namespace ObjectLedger.Json

/-- A parser gives a result and the bytes after it. -/
abbrev Parser (α : Type) := List UInt8 → Option (α × List UInt8)

/-- The byte of an ASCII character. -/
def code (character : Char) : UInt8 :=
  character.toNat.toUInt8

/-- The byte is a space, a tab or the end of a line. -/
def isSpace (byte : UInt8) : Bool :=
  byte = 0x20 || byte = 0x09 || byte = 0x0A || byte = 0x0D

/-- The bytes after the spaces at the start. -/
def skipSpaces (bytes : List UInt8) : List UInt8 :=
  bytes.dropWhile isSpace

/-- The bytes after a word, if they start with it. -/
def afterWord? (word : List Char) (bytes : List UInt8) : Option (List UInt8) :=
  if (word.map code).isPrefixOf bytes then some (bytes.drop word.length) else none

/-! ### Numbers -/

/-- The byte is a decimal digit. -/
def isDigit (byte : UInt8) : Bool :=
  0x30 ≤ byte && byte ≤ 0x39

/-- The number of decimal digits. -/
def decimalValue (digits : List UInt8) : Nat :=
  digits.foldl (fun value digit => value * 10 + (digit.toNat - 0x30)) 0

/-- At least one digit. -/
def parseDigits : Parser (List UInt8) := fun bytes =>
  match bytes.takeWhile isDigit with
  | [] => none
  | digits => some (digits, bytes.dropWhile isDigit)

/-- Digits without a superfluous zero at the start. -/
def parseWhole : Parser (List UInt8) := fun bytes => do
  let (digits, rest) ← parseDigits bytes
  if digits.length > 1 && digits.head? = some 0x30 then none else some (digits, rest)

/-- A point and digits, if there is a point. -/
def parseFraction : Parser Bool
  | 0x2E :: rest => (parseDigits rest).map fun (_, rest) => (true, rest)
  | bytes => some (false, bytes)

/-- An exponent, if there is one. -/
def parseExponent : Parser Bool
  | [] => some (false, [])
  | first :: rest =>
    if first = code 'e' || first = code 'E' then
      let digits := match rest with
        | 0x2B :: digits => digits
        | 0x2D :: digits => digits
        | digits => digits
      (parseDigits digits).map fun (_, rest) => (true, rest)
    else some (false, first :: rest)

/-- A number, after its sign. -/
def parseUnsigned (negative : Bool) : Parser Json := fun bytes => do
  let (digits, rest) ← parseWhole bytes
  let (hasFraction, rest) ← parseFraction rest
  let (hasExponent, rest) ← parseExponent rest
  let value := decimalValue digits
  if hasFraction || hasExponent || (negative && value = 0) then some (fractional, rest)
  else some (integer (if negative then -Int.ofNat value else Int.ofNat value), rest)

/-- A number. -/
def parseNumber : Parser Json
  | 0x2D :: rest => parseUnsigned true rest
  | bytes => parseUnsigned false bytes

/-! ### Texts -/

/-- A piece of a text. -/
inductive Piece where
  | byte (value : UInt8)
  /-- A unit of sixteen bits given by its number. -/
  | unit (value : Nat)

/-- The character that a letter stands for after a backslash. -/
def namedEscape (letter : UInt8) : Option UInt8 :=
  if letter = code '"' || letter = code '\\' || letter = code '/' then some letter
  else if letter = code 'b' then some 0x08
  else if letter = code 'f' then some 0x0C
  else if letter = code 'n' then some 0x0A
  else if letter = code 'r' then some 0x0D
  else if letter = code 't' then some 0x09
  else none

/-- The value of four hexadecimal digits. -/
def hexValue (digits : List UInt8) : Option Nat :=
  digits.foldlM (fun value digit =>
    (Text.digitOfBase 16 (Char.ofNat digit.toNat)).map (value * 16 + ·)) 0

/-- The pieces of a text up to its closing quote. -/
def parsePieces : List UInt8 → Option (List Piece × List UInt8)
  | [] => none
  | 0x22 :: rest => some ([], rest)
  | 0x5C :: 0x75 :: first :: second :: third :: fourth :: rest => do
    let value ← hexValue [first, second, third, fourth]
    let (pieces, rest) ← parsePieces rest
    some (.unit value :: pieces, rest)
  | 0x5C :: letter :: rest => do
    let byte ← namedEscape letter
    let (pieces, rest) ← parsePieces rest
    some (.byte byte :: pieces, rest)
  | byte :: rest => do
    if byte < 0x20 || byte = 0x5C then none
    let (pieces, rest) ← parsePieces rest
    some (.byte byte :: pieces, rest)

/-- The bytes of a character given by its number. -/
def characterBytes (number : Nat) : List UInt8 :=
  (String.singleton (Char.ofNat number)).toUTF8.toList

/-- The bytes that the pieces stand for, none if a unit is half of a pair without the other half. -/
def pieceBytes : List Piece → Option (List UInt8)
  | [] => some []
  | .byte byte :: rest => (pieceBytes rest).map (byte :: ·)
  | .unit high :: .unit low :: rest =>
    if 0xD800 ≤ high ∧ high < 0xDC00 ∧ 0xDC00 ≤ low ∧ low < 0xE000 then
      (pieceBytes rest).map
        (characterBytes (0x10000 + (high - 0xD800) * 0x400 + (low - 0xDC00)) ++ ·)
    else if 0xD800 ≤ high ∧ high < 0xE000 then none
    else (pieceBytes (.unit low :: rest)).map (characterBytes high ++ ·)
  | .unit value :: rest =>
    if 0xD800 ≤ value ∧ value < 0xE000 then none
    else (pieceBytes rest).map (characterBytes value ++ ·)

/-- The text of the pieces, if they stand for characters. -/
def pieceText (pieces : List Piece) : Option String :=
  (pieceBytes pieces).bind fun bytes => String.fromUTF8? ⟨bytes.toArray⟩

/-- A text after its opening quote. -/
def parseText : Parser (Option String) := fun bytes =>
  (parsePieces bytes).map fun (pieces, rest) => (pieceText pieces, rest)

/-! ### Values -/

mutual

/-- A value, after spaces. The first argument bounds the number of steps. -/
def parseValue : Nat → Parser Json
  | 0, _ => none
  | fuel + 1, bytes =>
    match skipSpaces bytes with
    | 0x6E :: rest => (afterWord? ['u', 'l', 'l'] rest).map fun rest => (null, rest)
    | 0x74 :: rest => (afterWord? ['r', 'u', 'e'] rest).map fun rest => (boolean true, rest)
    | 0x66 :: rest => (afterWord? ['a', 'l', 's', 'e'] rest).map fun rest => (boolean false, rest)
    | 0x22 :: rest => (parseText rest).map fun (content, rest) => (string content, rest)
    | 0x5B :: rest =>
      match skipSpaces rest with
      | 0x5D :: rest => some (array [], rest)
      | rest => (parseElements fuel rest).map fun (elements, rest) => (array elements, rest)
    | 0x7B :: rest =>
      match skipSpaces rest with
      | 0x7D :: rest => some (object [], rest)
      | rest => (parseMembers fuel rest).map fun (members, rest) => (object members, rest)
    | rest => parseNumber rest

/-- The elements of an array up to its closing bracket, at least one. -/
def parseElements : Nat → Parser (List Json)
  | 0, _ => none
  | fuel + 1, bytes => do
    let (element, rest) ← parseValue fuel bytes
    match skipSpaces rest with
    | 0x2C :: rest =>
      (parseElements fuel rest).map fun (elements, rest) => (element :: elements, rest)
    | 0x5D :: rest => some ([element], rest)
    | _ => none

/-- The members of an object up to its closing brace, at least one. -/
def parseMembers : Nat → Parser (List (Option String × Json))
  | 0, _ => none
  | fuel + 1, bytes =>
    match skipSpaces bytes with
    | 0x22 :: rest => do
      let (key, rest) ← parseText rest
      match skipSpaces rest with
      | 0x3A :: rest => do
        let (value, rest) ← parseValue fuel rest
        match skipSpaces rest with
        | 0x2C :: rest =>
          (parseMembers fuel rest).map fun (members, rest) => ((key, value) :: members, rest)
        | 0x7D :: rest => some ([(key, value)], rest)
        | _ => none
      | _ => none
    | _ => none

end

/-- The value that the bytes are the text of. Two steps for each byte suffice. -/
def parse? (bytes : List UInt8) : Option Json := do
  let (value, rest) ← parseValue (2 * bytes.length + 2) bytes
  if (skipSpaces rest).isEmpty then some value else none

/-! ### Records -/

/-- The members of an object, or the elements of an array in the order of the given keys. Each
key is a text, and a known key stands in an object only once; an array has no more elements than
there are keys. -/
def fields? (keys : List String) : Json → Option (List (String × Json))
  | object members => do
    let named ← members.mapM fun (key, value) => key.map fun key => (key, value)
    let known := named.filter fun (key, _) => keys.contains key
    if (known.map Prod.fst).eraseDups.length = known.length then some known else none
  | array elements =>
    if elements.length ≤ keys.length then some (keys.zip elements) else none
  | _ => none

/-- A number from zero to the greatest word. -/
def word? : Json → Option UInt64
  | integer value =>
    if 0 ≤ value ∧ value ≤ Int.ofNat maxWord then some (UInt64.ofNat value.toNat) else none
  | _ => none

/-- A truth value. -/
def boolean? : Json → Option Bool
  | boolean value => some value
  | _ => none

/-- A text. -/
def string? : Json → Option String
  | string content => content
  | _ => none

end ObjectLedger.Json
