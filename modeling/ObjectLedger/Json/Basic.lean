/-
**JSON values and their printed forms.**

* `Json`: values. A text may be one whose escapes name no characters, and a number may be one
  that is not kept because it is no integer: readers refuse both where they matter.
* `Json.compact`, `Json.pretty`: on one line without spaces, and indented by two spaces a level.
-/
import ObjectLedger.Text.Integer

namespace ObjectLedger

/-- A JSON value. -/
inductive Json where
  | null
  | boolean (value : Bool)
  | integer (value : Int)
  /-- A number with a fraction or an exponent, or a negative zero. -/
  | fractional
  /-- A text, none if its escapes do not name characters. -/
  | string (content : Option String)
  | array (elements : List Json)
  | object (members : List (Option String × Json))
  deriving Inhabited

namespace Json

/-- A text. -/
def text (content : String) : Json :=
  string (some content)

/-- An object with the given members. -/
def record (members : List (String × Json)) : Json :=
  object (members.map fun (key, value) => (some key, value))

/-- A character between the quotes of a text. -/
def escaped (character : Char) : List Char :=
  if character = '"' then ['\\', '"']
  else if character = '\\' then ['\\', '\\']
  else if character = '\n' then ['\\', 'n']
  else if character = '\r' then ['\\', 'r']
  else if character = '\t' then ['\\', 't']
  else if character.toNat = 0x08 then ['\\', 'b']
  else if character.toNat = 0x0C then ['\\', 'f']
  else if character.toNat < 0x20 then
    ['\\', 'u'] ++ (Text.hexadecimalPadded 4 character.toNat).toList
  else [character]

/-- A text in quotes. -/
def quoted (content : Option String) : String :=
  String.ofList (['"'] ++ (content.getD "").toList.flatMap escaped ++ ['"'])

mutual

/-- The value on one line, without spaces. -/
def compact : Json → String
  | null => "null"
  | boolean value => if value then "true" else "false"
  | integer value => toString value
  | fractional => "0.0"
  | string content => quoted content
  | array elements => "[" ++ ",".intercalate (compactElements elements) ++ "]"
  | object members => "\x7b" ++ ",".intercalate (compactMembers members) ++ "\x7d"

/-- The elements of an array, each on one line. -/
def compactElements : List Json → List String
  | [] => []
  | element :: rest => compact element :: compactElements rest

/-- The members of an object, each on one line. -/
def compactMembers : List (Option String × Json) → List String
  | [] => []
  | (key, value) :: rest => (quoted key ++ ":" ++ compact value) :: compactMembers rest

end

/-- The start of a line at a level. -/
def newLine (level : Nat) : String :=
  String.ofList ('\n' :: List.replicate (2 * level) ' ')

mutual

/-- The value with each element and member on a line of its own. -/
def prettyAt (level : Nat) : Json → String
  | array (first :: rest) =>
    let lines := prettyElements (level + 1) (first :: rest)
    "[" ++ newLine (level + 1) ++ ("," ++ newLine (level + 1)).intercalate lines ++
      newLine level ++ "]"
  | object (first :: rest) =>
    let lines := prettyMembers (level + 1) (first :: rest)
    "\x7b" ++ newLine (level + 1) ++ ("," ++ newLine (level + 1)).intercalate lines ++
      newLine level ++ "\x7d"
  | array [] => "[]"
  | object [] => "\x7b\x7d"
  | null => compact null
  | boolean value => compact (boolean value)
  | integer value => compact (integer value)
  | fractional => compact fractional
  | string content => compact (string content)

/-- The elements of an array at a level. -/
def prettyElements (level : Nat) : List Json → List String
  | [] => []
  | element :: rest => prettyAt level element :: prettyElements level rest

/-- The members of an object at a level. -/
def prettyMembers (level : Nat) : List (Option String × Json) → List String
  | [] => []
  | (key, value) :: rest =>
    (quoted key ++ ": " ++ prettyAt level value) :: prettyMembers level rest

end

/-- The value with each element and member on a line of its own. -/
def pretty (value : Json) : String :=
  prettyAt 0 value

end Json

end ObjectLedger
