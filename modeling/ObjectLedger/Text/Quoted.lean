/-
**Texts and characters in quotes, as messages show them.**

* `quoted`: a text in double quotes. A quote, a backslash and the common control characters are
  escaped by name, other characters that do not print by their number.
* `quotedCharacter`: a character in single quotes, escaped in the same way.
-/
import ObjectLedger.Text.Integer
import ObjectLedger.Text.Printable

namespace ObjectLedger.Text

/-- A character as it stands between quotes of the given kind. -/
def escaped (quote character : Char) : List Char :=
  if character = quote ∨ character = '\\' then ['\\', character]
  else if character = '\n' then ['\\', 'n']
  else if character = '\t' then ['\\', 't']
  else if character = '\r' then ['\\', 'r']
  else if character.toNat = 0 then ['\\', '0']
  else if isPrintable character then [character]
  else ['\\', 'u', '\x7b'] ++ Nat.toDigits 16 character.toNat ++ ['\x7d']

/-- A text in double quotes. -/
def quoted (text : String) : String :=
  String.ofList (['"'] ++ text.toList.flatMap (escaped '"') ++ ['"'])

/-- A character in single quotes. -/
def quotedCharacter (character : Char) : String :=
  String.ofList (['\''] ++ escaped '\'' character ++ ['\''])

end ObjectLedger.Text
