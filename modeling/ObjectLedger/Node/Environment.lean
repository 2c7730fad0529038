/-
**Settings taken from environment variables.**

Each function takes the value of a variable, none if it is not set. A number that cannot be read
counts as not set, a flag is false unless it is one of the words for yes.
-/
import ObjectLedger.Text.Blank
import ObjectLedger.Text.Integer

namespace ObjectLedger

/-- The values of environment variables. -/
abbrev Environment := String → Option String

namespace Environment

/-- The number from zero to `limit` that a variable holds, blanks around it aside. -/
def natural? (limit : Nat) (value : Option String) : Option Nat :=
  value.bind fun text => (Text.readNatural 10 limit (Text.trim text)).toOption

/-- The word that a variable holds. -/
def word? (value : Option String) : Option UInt64 :=
  (natural? 0xFFFFFFFFFFFFFFFF value).map UInt64.ofNat

/-- The signed number that a variable holds. -/
def integer? (value : Option String) : Option Int :=
  value.bind fun text => (Text.readInteger 10 0x7FFFFFFFFFFFFFFF (Text.trim text)).toOption

/-- Whether a variable says yes, in whatever case. -/
def flag? (value : Option String) : Option Bool :=
  value.map fun text => ["1", "true", "yes", "on"].contains text.toLower

/-- The text that a variable holds, if it is not blank. -/
def text? (value : Option String) : Option String :=
  value.filter fun text => !Text.isAllBlank text

end Environment

end ObjectLedger
