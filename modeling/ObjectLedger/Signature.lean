/-
**Signatures of fields, constructors and methods.**

* `FieldSignature`, `ConstructorSignature`, `MethodSignature`: members of classes by name and
  types, with the spelling that messages use.
* `ClassName`: the classes that the ledger itself relies on, and their fields.
-/
import ObjectLedger.Value

namespace ObjectLedger

/-! ### Names the ledger relies on -/

namespace ClassName

/-- The class above all classes. -/
def storage : String := "lang.Storage"

/-- Objects with a balance. -/
def contract : String := "lang.Contract"

/-- Contracts that can pay for transactions. -/
def account : String := "lang.ExternallyOwnedAccount"

/-- The account that holds all coins at first. -/
def gamete : String := "lang.Gamete"

/-- Objects that report something that happened. -/
def event : String := "lang.Event"

/-- The object that describes the ledger. -/
def manifest : String := "lang.Manifest"

end ClassName

/-- A field, identified by its class, its name and its type. -/
structure FieldSignature where
  definingClass : String
  name : String
  type : ValueType
  deriving DecidableEq, Repr, Inhabited

namespace FieldSignature

/-- By class, then name, then type. -/
instance : Ord FieldSignature :=
  ⟨compareLex (compareOn definingClass) (compareLex (compareOn name) (compareOn type))⟩

/-- The balance of every contract. -/
def balance : FieldSignature := ⟨ClassName.contract, "balance", .bigInteger⟩

/-- The number of transactions an account has paid for. -/
def nonce : FieldSignature := ⟨ClassName.account, "nonce", .bigInteger⟩

/-- The public key of an account, in base 64. -/
def publicKey : FieldSignature := ⟨ClassName.account, "publicKey", .string⟩

/-- The name of the chain, held by the manifest. -/
def chainId : FieldSignature := ⟨ClassName.manifest, "chainId", .string⟩

/-- The class, the name and the type of the field. -/
def toText (field : FieldSignature) : String :=
  field.definingClass ++ "." ++ field.name ++ ":" ++ field.type.toText

end FieldSignature

/-- A constructor, identified by its class and the types of its parameters. -/
structure ConstructorSignature where
  definingClass : String
  formals : List ValueType
  deriving DecidableEq, Repr, Inhabited

/-- A method, identified by its class, its name, the types of its parameters and the type of its
result, none for a method without a result. -/
structure MethodSignature where
  definingClass : String
  name : String
  formals : List ValueType
  returns : Option ValueType
  deriving DecidableEq, Repr, Inhabited

/-- The names of the types, separated by commas. -/
def typesToText (types : List ValueType) : String :=
  ",".intercalate (types.map ValueType.toText)

/-- The class and the types of the parameters. -/
def ConstructorSignature.toText (constructor : ConstructorSignature) : String :=
  constructor.definingClass ++ "(" ++ typesToText constructor.formals ++ ")"

namespace MethodSignature

/-- The method gives no result. -/
def isVoid (method : MethodSignature) : Bool :=
  method.returns.isNone

/-- The result type, the class, the name and the types of the parameters. -/
def toText (method : MethodSignature) : String :=
  (method.returns.map ValueType.toText).getD "void" ++ " " ++ method.definingClass ++ "." ++
    method.name ++ "(" ++ typesToText method.formals ++ ")"

end MethodSignature

end ObjectLedger
