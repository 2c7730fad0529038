/-
**Code units: classes whose members are sequences of stack instructions.**

* `Instruction`: what a stack machine does in one step.
* `ClassDefinition`, `CodeUnit`: what a jar holds.
* `ClassDefinition.method?`, `ClassDefinition.constructor?`, `ClassDefinition.field?`: the look-up
  of members that a class itself declares; the first match counts.

Local zero of a constructor or an instance method is `this`, the parameters come next and then the
extra locals, which start as null.
-/
import ObjectLedger.Signature

namespace ObjectLedger

/-- The marks of a constructor or a method. -/
structure Annotations where
  /-- Only contracts may call; the code learns its caller. -/
  fromContract : Bool
  /-- The coins in the first argument move from the caller to the receiver. -/
  payable : Bool
  /-- Checked throwables may leave the transaction as exceptions. -/
  throwsExceptions : Bool
  /-- The code leaves all objects as they are. -/
  view : Bool
  deriving DecidableEq, Repr, Inhabited

namespace Annotations

/-- No mark at all. -/
def none : Annotations := ⟨false, false, false, false⟩

/-- The marks of code that receives coins: it can be called by contracts only. -/
def receivesCoins : Annotations := { none with fromContract := true, payable := true }

/-- The mark of code that changes nothing. -/
def changesNothing : Annotations := { none with view := true }

end Annotations

/-- How the code of a call is found. -/
inductive Dispatch where
  /-- From the class of the receiver, which lies below the arguments. -/
  | virtual
  /-- From the class that the signature names. -/
  | static
  deriving DecidableEq, Repr

/-- The arithmetic of machine integers and of big integers. -/
inductive Operator where
  | add
  | sub
  | mul
  | div
  | rem
  deriving DecidableEq, Repr

/-- An instruction of the stack machine. -/
inductive Instruction where
  | push (value : Value)
  | load (slot : UInt16)
  | store (slot : UInt16)
  | pop
  | dup
  /-- Takes the arguments, makes an object, runs the constructor on it and leaves the object. -/
  | new (constructor : ConstructorSignature)
  | getField (field : FieldSignature)
  /-- Takes the value and then the object. -/
  | putField (field : FieldSignature)
  | invoke (method : MethodSignature) (dispatch : Dispatch)
  /-- A call with a bound on the gas, which lies below the receiver and the arguments. -/
  | invokeWithGas (method : MethodSignature) (dispatch : Dispatch)
  /-- A call of a primitive with the given number of arguments. -/
  | native (name : String) (arity : UInt8)
  | arithmetic (operator : Operator)
  | lessThan
  | equal
  | not
  | jump (target : UInt32)
  | jumpIfFalse (target : UInt32)
  /-- Ends the code with the value on top, or with nothing for code without a result. -/
  | ret
  /-- Takes a message and throws. -/
  | throw (className : String) (checked : Bool)
  deriving DecidableEq, Repr

/-- A field declared by a class. -/
structure FieldDefinition where
  name : String
  type : ValueType
  deriving DecidableEq, Repr

/-- A constructor declared by a class. -/
structure ConstructorDefinition where
  formals : List ValueType
  annotations : Annotations
  /-- The number of extra locals. -/
  locals : UInt16
  code : List Instruction
  deriving DecidableEq, Repr

/-- A method declared by a class. -/
structure MethodDefinition where
  name : String
  formals : List ValueType
  returns : Option ValueType
  isStatic : Bool
  annotations : Annotations
  /-- The number of extra locals. -/
  locals : UInt16
  code : List Instruction
  deriving DecidableEq, Repr

/-- A class. -/
structure ClassDefinition where
  name : String
  /-- The class above this one, if any. -/
  superclass : Option String
  fields : List FieldDefinition
  constructors : List ConstructorDefinition
  methods : List MethodDefinition
  deriving DecidableEq, Repr

/-- The classes installed by one transaction. -/
structure CodeUnit where
  classes : List ClassDefinition
  deriving DecidableEq, Repr

/-- The signature of the method as a member of a class. -/
def MethodDefinition.signature (method : MethodDefinition) (definingClass : String) :
    MethodSignature :=
  ⟨definingClass, method.name, method.formals, method.returns⟩

namespace ClassDefinition

/-- The signatures of the fields that the class declares. -/
def fieldSignatures (definition : ClassDefinition) : List FieldSignature :=
  definition.fields.map fun field => ⟨definition.name, field.name, field.type⟩

/-- The first field of the name that the class declares. -/
def field? (definition : ClassDefinition) (name : String) : Option FieldSignature :=
  (definition.fields.find? fun field => field.name = name).map fun field =>
    ⟨definition.name, field.name, field.type⟩

/-- The constructor with the given parameters that the class declares. -/
def constructor? (definition : ClassDefinition) (formals : List ValueType) :
    Option ConstructorDefinition :=
  definition.constructors.find? fun constructor => constructor.formals = formals

/-- The method with the name, parameters and result of a signature that the class declares. The
class that the signature names does not matter. -/
def method? (definition : ClassDefinition) (signature : MethodSignature) :
    Option MethodDefinition :=
  definition.methods.find? fun method =>
    method.name = signature.name ∧ method.formals = signature.formals ∧
      method.returns = signature.returns

end ClassDefinition

end ObjectLedger
