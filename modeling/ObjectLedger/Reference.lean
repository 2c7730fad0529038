/-
**References into the ledger.**

* `TransactionRef` names a transaction by its position in the ledger.
* `ObjectRef` names an object by the transaction that created it and its position among the
  objects created there; objects are ordered by transaction first.
* `Classpath` names an installed code unit, with or without the units it depends on.
* `TransactionRef.parse`, `ObjectRef.parse`: reading back what `toText` writes, and the looser
  spellings (`0x1f`, fewer digits) that users write.
-/
import ObjectLedger.Saturating
import ObjectLedger.Text.Integer

namespace ObjectLedger

/-- The identifier of a transaction, assigned in increasing order. -/
structure TransactionRef where
  value : UInt64
  deriving DecidableEq, Repr, Inhabited

namespace TransactionRef

/-- The first reference of an empty ledger. -/
def first : TransactionRef := ⟨0⟩

/-- The reference that follows this one; the last one is followed by itself. -/
def next (reference : TransactionRef) : TransactionRef :=
  ⟨saturatingAdd reference.value 1⟩

instance : Ord TransactionRef := ⟨compareOn value⟩

instance : LT TransactionRef := ⟨fun first second => first.value < second.value⟩

instance : LE TransactionRef := ⟨fun first second => first.value ≤ second.value⟩

instance (first second : TransactionRef) : Decidable (first < second) :=
  inferInstanceAs (Decidable (first.value < second.value))

instance (first second : TransactionRef) : Decidable (first ≤ second) :=
  inferInstanceAs (Decidable (first.value ≤ second.value))

/-- The greater of two references. -/
def max (first second : TransactionRef) : TransactionRef :=
  if first ≤ second then second else first

/-- Sixteen lowercase hexadecimal digits. -/
def toText (reference : TransactionRef) : String :=
  Text.hexadecimalPadded 16 reference.value.toNat

end TransactionRef

/-- The identifier of an object. -/
structure ObjectRef where
  /-- The transaction that created the object. -/
  transaction : TransactionRef
  /-- The position of the object among those created by `transaction`. -/
  progressive : UInt64
  deriving DecidableEq, Repr, Inhabited

namespace ObjectRef

instance : Ord ObjectRef := ⟨compareLex (compareOn transaction) (compareOn progressive)⟩

/-- The transaction and the progressive number in hexadecimal, with a `#` between. -/
def toText (reference : ObjectRef) : String :=
  reference.transaction.toText ++ "#" ++ Text.hexadecimal reference.progressive.toNat

/-- The name of the file about an object: as its text, with an underscore between. -/
def fileName (reference : ObjectRef) : String :=
  reference.transaction.toText ++ "_" ++ Text.hexadecimal reference.progressive.toNat

end ObjectRef

/-- A reference to an installed code unit. -/
structure Classpath where
  /-- The transaction that installed the unit. -/
  jar : TransactionRef
  /-- The dependencies of the unit are part of the classpath as well. -/
  recursive : Bool
  deriving DecidableEq, Repr, Inhabited

/-- The installing transaction, marked if dependencies are included. -/
def Classpath.toText (classpath : Classpath) : String :=
  classpath.jar.toText ++ if classpath.recursive then "(recursive)" else ""

/-- Why a text is not a reference. -/
inductive ReferenceError where
  | invalidTransaction (digits : String) (cause : Text.IntegerError)
  | missingSeparator (text : String)
  | invalidProgressive (text : String) (cause : Text.IntegerError)
  deriving DecidableEq, Repr

/-- The wording of a refused reference. -/
def ReferenceError.message : ReferenceError → String
  | invalidTransaction digits cause =>
    "Invalid transaction reference '" ++ digits ++ "': " ++ cause.message
  | missingSeparator text => "Invalid storage reference '" ++ text ++ "': missing '#'"
  | invalidProgressive text cause =>
    "Invalid storage reference '" ++ text ++ "': " ++ cause.message

/-- The text without a leading `0x`. -/
def withoutHexMark (text : String) : String :=
  match text.toList with
  | '0' :: 'x' :: rest => String.ofList rest
  | _ => text

/-- Reads a transaction reference in hexadecimal, after an optional `0x`. -/
def TransactionRef.parse (text : String) : Except ReferenceError TransactionRef :=
  let digits := withoutHexMark text
  match Text.readUInt64 16 digits with
  | .ok value => .ok ⟨value⟩
  | .error cause => .error (.invalidTransaction digits cause)

/-- The parts of a list of characters before and after the first occurrence of a mark. -/
def splitAtFirst (mark : Char) (characters : List Char) : Option (List Char × List Char) :=
  match characters.dropWhile (· != mark) with
  | [] => none
  | _ :: rest => some (characters.takeWhile (· != mark), rest)

/-- Reads an object reference: a transaction reference, a `#` and a hexadecimal number. The number
is looked at before the transaction. -/
def ObjectRef.parse (text : String) : Except ReferenceError ObjectRef := do
  match splitAtFirst '#' text.toList with
  | none => .error (.missingSeparator text)
  | some (transaction, progressive) =>
    match Text.readUInt64 16 (String.ofList progressive) with
    | .error cause => .error (.invalidProgressive text cause)
    | .ok progressive => do
      let transaction ← TransactionRef.parse (String.ofList transaction)
      .ok ⟨transaction, progressive⟩

end ObjectLedger
