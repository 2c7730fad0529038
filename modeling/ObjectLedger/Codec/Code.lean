/-
**The binary form of code units.**

* `CodeUnit.toBytes`, `CodeUnit.ofBytes`: a jar and the classes in it.
-/
import ObjectLedger.Codec.Record
import ObjectLedger.Code.Instruction

namespace ObjectLedger.Codec

/-- The four marks. -/
def annotations : Codec Annotations :=
  imap (pair boolean (pair boolean (pair boolean boolean)))
    (fun (fromContract, payable, throwsExceptions, view) =>
      ⟨fromContract, payable, throwsExceptions, view⟩)
    (fun marks => (marks.fromContract, marks.payable, marks.throwsExceptions, marks.view))

/-- Virtual or static. -/
def dispatch : Codec Dispatch :=
  union [constant .virtual, constant .static]

/-- The instructions, by kind. -/
def instruction : Codec Instruction :=
  union [
    case value .push (fun | .push value => some value | _ => none),
    case word16 .load (fun | .load slot => some slot | _ => none),
    case word16 .store (fun | .store slot => some slot | _ => none),
    constant .pop,
    constant .dup,
    case constructorSignature .new (fun | .new constructor => some constructor | _ => none),
    case fieldSignature .getField (fun | .getField field => some field | _ => none),
    case fieldSignature .putField (fun | .putField field => some field | _ => none),
    case (pair methodSignature dispatch)
      (fun (method, dispatch) => .invoke method dispatch)
      (fun | .invoke method dispatch => some (method, dispatch) | _ => none),
    case (pair methodSignature dispatch)
      (fun (method, dispatch) => .invokeWithGas method dispatch)
      (fun | .invokeWithGas method dispatch => some (method, dispatch) | _ => none),
    case (pair string byte)
      (fun (name, arity) => .native name arity)
      (fun | .native name arity => some (name, arity) | _ => none),
    constant (.arithmetic .add),
    constant (.arithmetic .sub),
    constant (.arithmetic .mul),
    constant (.arithmetic .div),
    constant (.arithmetic .rem),
    constant .lessThan,
    constant .equal,
    constant .not,
    case word32 .jump (fun | .jump target => some target | _ => none),
    case word32 .jumpIfFalse (fun | .jumpIfFalse target => some target | _ => none),
    constant .ret,
    case (pair string boolean)
      (fun (className, checked) => .throw className checked)
      (fun | .throw className checked => some (className, checked) | _ => none)]

/-- The name and the type. -/
def fieldDefinition : Codec FieldDefinition :=
  imap (pair string valueType)
    (fun (name, type) => ⟨name, type⟩)
    (fun field => (field.name, field.type))

/-- The parameters, the marks, the extra locals and the code. -/
def constructorDefinition : Codec ConstructorDefinition :=
  imap (pair (list valueType) (pair annotations (pair word16 (list instruction))))
    (fun (formals, annotations, locals, code) => ⟨formals, annotations, locals, code⟩)
    (fun constructor =>
      (constructor.formals, constructor.annotations, constructor.locals, constructor.code))

/-- The name, the types, whether it is static, the marks, the extra locals and the code. -/
def methodDefinition : Codec MethodDefinition :=
  imap (pair string (pair (list valueType) (pair (option valueType) (pair boolean
      (pair annotations (pair word16 (list instruction)))))))
    (fun (name, formals, returns, isStatic, annotations, locals, code) =>
      ⟨name, formals, returns, isStatic, annotations, locals, code⟩)
    (fun method => (method.name, method.formals, method.returns, method.isStatic,
      method.annotations, method.locals, method.code))

/-- The name, the superclass and the members. -/
def classDefinition : Codec ClassDefinition :=
  imap (pair string (pair (option string) (pair (list fieldDefinition)
      (pair (list constructorDefinition) (list methodDefinition)))))
    (fun (name, superclass, fields, constructors, methods) =>
      ⟨name, superclass, fields, constructors, methods⟩)
    (fun definition => (definition.name, definition.superclass, definition.fields,
      definition.constructors, definition.methods))

/-- A unit is its classes. -/
def codeUnit : Codec CodeUnit :=
  imap (list classDefinition) CodeUnit.mk CodeUnit.classes

end ObjectLedger.Codec

namespace ObjectLedger

/-- What can be read back as a whole record, for messages. -/
structure UndecodableError where
  /-- What the bytes should have been. -/
  context : String
  cause : DecodeError
  deriving DecidableEq, Repr

/-- The wording of bytes that are not what they should be. -/
def UndecodableError.message (error : UndecodableError) : String :=
  "Failed to decode " ++ error.context ++ " from BCS: " ++ error.cause.message

/-- Reads a record that takes up all the bytes; `context` names the kind of record. -/
def Codec.decodeRecord {α : Type} (codec : Codec α) (context : String) (bytes : List UInt8) :
    Except UndecodableError α :=
  (codec.decodeAll bytes).mapError fun cause => ⟨context, cause⟩

/-- Writes a record, unless something in it is too long. -/
def Codec.encodeRecord {α : Type} (codec : Codec α) (value : α) :
    Except DecodeError (List UInt8) :=
  match codec.oversize? value with
  | none => .ok (codec.encode value)
  | some length => .error (.sequenceTooLong length)

/-- The jar of a code unit. -/
def CodeUnit.toBytes (unit : CodeUnit) : List UInt8 :=
  Codec.codeUnit.encode unit

/-- The code unit in a jar. -/
def CodeUnit.ofBytes (bytes : List UInt8) : Except UndecodableError CodeUnit :=
  Codec.codeUnit.decodeRecord "code unit" bytes

end ObjectLedger
