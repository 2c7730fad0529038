/-
**Values held by objects, and their types.**

* `ValueType`, `Value`: what a field, a parameter or a result can hold. The same values live in
  memory during a transaction and in the ledger after it.
* `Value.fits`: a value can be held under a type, as far as its shape goes.
* `ValueType.isEager`: fields of the type are read together with their object.
* the orders of types and values: kinds first, contents next.
-/
import ObjectLedger.Reference

namespace ObjectLedger

/-- The declared type of a field, a parameter or a result. -/
inductive ValueType where
  | boolean
  | int
  | bigInteger
  | string
  /-- An object of the named class or of a class below it. -/
  | object (className : String)
  deriving DecidableEq, Repr, Inhabited

/-- A value that a field can hold or that crosses the border of a transaction. -/
inductive Value where
  | null
  | boolean (value : Bool)
  | int (value : Int64)
  | bigInteger (value : Amount)
  | string (value : String)
  | reference (object : ObjectRef)
  deriving DecidableEq, Repr, Inhabited

namespace ValueType

/-- Fields of the type are read together with their object; references are read when needed. -/
def isEager : ValueType → Bool
  | object _ => false
  | _ => true

/-- What a field of the type holds before it is assigned. -/
def default : ValueType → Value
  | boolean => .boolean false
  | int => .int 0
  | bigInteger => .bigInteger 0
  | string => .null
  | object _ => .null

/-- The name of the type. -/
def toText : ValueType → String
  | boolean => "boolean"
  | int => "int"
  | bigInteger => "BigInteger"
  | string => "String"
  | object className => className

/-- The place of the kind of type among the kinds. -/
def rank : ValueType → Nat
  | boolean => 0
  | int => 1
  | bigInteger => 2
  | string => 3
  | object _ => 4

/-- The name of the class of an object type, nothing for the others. -/
def className : ValueType → String
  | object name => name
  | _ => ""

/-- By kind, object types by the name of their class. -/
instance : Ord ValueType := ⟨compareLex (compareOn rank) (compareOn className)⟩

end ValueType

namespace Value

/-- The object that the value points to. -/
def reference? : Value → Option ObjectRef
  | reference object => some object
  | _ => none

/-- The amount that the value is. -/
def bigInteger? : Value → Option Amount
  | bigInteger value => some value
  | _ => none

/-- The machine integer that the value is. -/
def int? : Value → Option Int64
  | int value => some value
  | _ => none

/-- The truth value that the value is. -/
def boolean? : Value → Option Bool
  | boolean value => some value
  | _ => none

/-- The text that the value is. -/
def string? : Value → Option String
  | string value => some value
  | _ => none

/-- The value can be held under the type. The class of a referenced object is not looked at. -/
def fits : Value → ValueType → Bool
  | boolean _, .boolean => true
  | int _, .int => true
  | bigInteger _, .bigInteger => true
  | string _, .string => true
  | null, .string => true
  | null, .object _ => true
  | reference _, .object _ => true
  | _, _ => false

/-- The value as messages show it. -/
def toText : Value → String
  | null => "null"
  | boolean value => if value then "true" else "false"
  | int value => toString value.toInt
  | bigInteger value => toString value.toNat
  | string value => "\"" ++ value ++ "\""
  | reference object => object.toText

/-- By kind in the order null, booleans, machine integers, big integers, texts, references; values
of one kind by their content. -/
def order : Value → Value → Ordering
  | null, null => .eq
  | null, _ => .lt
  | boolean _, null => .gt
  | boolean first, boolean second => compare first second
  | boolean _, _ => .lt
  | int _, null => .gt
  | int _, boolean _ => .gt
  | int first, int second => compare first second
  | int _, _ => .lt
  | bigInteger _, null => .gt
  | bigInteger _, boolean _ => .gt
  | bigInteger _, int _ => .gt
  | bigInteger first, bigInteger second => compare first second
  | bigInteger _, _ => .lt
  | string first, string second => compare first second
  | string _, reference _ => .lt
  | string _, _ => .gt
  | reference first, reference second => compare first second
  | reference _, _ => .gt

instance : Ord Value := ⟨order⟩

end Value

end ObjectLedger
