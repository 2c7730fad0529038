/-
**The binary forms of what the ledger keeps: values, updates, requests, responses, histories.**

Each codec lists the parts of a record, or the alternatives of a union, in the order of the
format.
-/
import ObjectLedger.Codec.Basic
import ObjectLedger.Request
import ObjectLedger.Response

namespace ObjectLedger.Codec

/-! ### References -/

/-- A transaction reference is its number. -/
def transactionRef : Codec TransactionRef :=
  imap word64 TransactionRef.mk TransactionRef.value

/-- The transaction and the progressive number. -/
def objectRef : Codec ObjectRef :=
  imap (pair transactionRef word64)
    (fun (transaction, progressive) => ⟨transaction, progressive⟩)
    (fun reference => (reference.transaction, reference.progressive))

/-- The jar and whether its dependencies are included. -/
def classpath : Codec Classpath :=
  imap (pair transactionRef boolean)
    (fun (jar, isRecursive) => ⟨jar, isRecursive⟩)
    (fun classpath => (classpath.jar, classpath.recursive))

/-- A history is its transactions. -/
def history : Codec (List TransactionRef) :=
  list transactionRef

/-! ### Values and signatures -/

/-- The types of values. -/
def valueType : Codec ValueType :=
  union [constant .boolean, constant .int, constant .bigInteger, constant .string,
    case string .object fun | .object className => some className | _ => none]

/-- The values. -/
def value : Codec Value :=
  union [constant .null,
    case boolean .boolean Value.boolean?,
    case int64 .int Value.int?,
    case amount .bigInteger Value.bigInteger?,
    case string .string Value.string?,
    case objectRef .reference Value.reference?]

/-- The class, the name and the type. -/
def fieldSignature : Codec FieldSignature :=
  imap (pair string (pair string valueType))
    (fun (definingClass, name, type) => ⟨definingClass, name, type⟩)
    (fun field => (field.definingClass, field.name, field.type))

/-- The class and the parameters. -/
def constructorSignature : Codec ConstructorSignature :=
  imap (pair string (list valueType))
    (fun (definingClass, formals) => ⟨definingClass, formals⟩)
    (fun constructor => (constructor.definingClass, constructor.formals))

/-- The class, the name, the parameters and the result. -/
def methodSignature : Codec MethodSignature :=
  imap (pair string (pair string (pair (list valueType) (option valueType))))
    (fun (definingClass, name, formals, returns) => ⟨definingClass, name, formals, returns⟩)
    (fun method => (method.definingClass, method.name, method.formals, method.returns))

/-! ### Updates -/

/-- Class tags and fields. -/
def update : Codec Update :=
  union [
    case (pair objectRef (pair string transactionRef))
      (fun (object, className, jar) => .classTag object className jar)
      (fun | .classTag object className jar => some (object, className, jar) | _ => none),
    case (pair objectRef (pair fieldSignature value))
      (fun (object, field, value) => .field object field value)
      (fun | .field object field value => some (object, field, value) | _ => none)]

/-! ### Requests -/

/-- The parts of a header. -/
def header : Codec Header :=
  imap (pair objectRef (pair amount (pair string (pair word64 (pair word64
      (pair classpath bytes))))))
    (fun (caller, nonce, chainId, gasLimit, gasPrice, classpath, signature) =>
      ⟨caller, nonce, chainId, gasLimit, gasPrice, classpath, signature⟩)
    (fun header => (header.caller, header.nonce, header.chainId, header.gasLimit,
      header.gasPrice, header.classpath, header.signature))

/-- The initial requests and then the paid ones, by their action. -/
def request : Codec Request :=
  union [
    case (pair bytes (list classpath))
      (fun (jar, dependencies) => .installInitialJar jar dependencies)
      (fun | .installInitialJar jar dependencies => some (jar, dependencies) | _ => none),
    case (pair classpath (pair amount string))
      (fun (classpath, amount, publicKey) => .createGamete classpath amount publicKey)
      (fun | .createGamete classpath amount publicKey => some (classpath, amount, publicKey)
           | _ => none),
    case (pair classpath objectRef)
      (fun (classpath, manifest) => .nameManifest classpath manifest)
      (fun | .nameManifest classpath manifest => some (classpath, manifest) | _ => none),
    case (pair header (pair bytes (list classpath)))
      (fun (header, jar, dependencies) => .paid header (.installJar jar dependencies))
      (fun | .paid header (.installJar jar dependencies) => some (header, jar, dependencies)
           | _ => none),
    case (pair header (pair constructorSignature (list value)))
      (fun (header, constructor, actuals) => .paid header (.construct constructor actuals))
      (fun | .paid header (.construct constructor actuals) => some (header, constructor, actuals)
           | _ => none),
    case (pair header (pair methodSignature (pair objectRef (list value))))
      (fun (header, method, receiver, actuals) => .paid header (.invoke method receiver actuals))
      (fun | .paid header (.invoke method receiver actuals) =>
               some (header, method, receiver, actuals)
           | _ => none),
    case (pair header (pair methodSignature (list value)))
      (fun (header, method, actuals) => .paid header (.invokeStatic method actuals))
      (fun | .paid header (.invokeStatic method actuals) => some (header, method, actuals)
           | _ => none)]

/-! ### Responses -/

/-- The three kinds of gas. -/
def gasConsumed : Codec GasConsumed :=
  imap (pair word64 (pair word64 word64))
    (fun (cpu, ram, storage) => ⟨cpu, ram, storage⟩)
    (fun gas => (gas.cpu, gas.ram, gas.storage))

/-- The class and the message. -/
def cause : Codec Cause :=
  imap (pair string string)
    (fun (className, message) => ⟨className, message⟩)
    (fun cause => (cause.className, cause.message))

/-- The updates, the events and the gas. -/
def effects : Codec Effects :=
  imap (pair (list update) (pair (list objectRef) gasConsumed))
    (fun (updates, events, gas) => ⟨updates, events, gas⟩)
    (fun effects => (effects.updates, effects.events, effects.gas))

/-- The updates, the gas, the penalty and the cause. -/
def failure : Codec Failure :=
  imap (pair (list update) (pair gasConsumed (pair word64 cause)))
    (fun (updates, gas, penalty, cause) => ⟨updates, gas, penalty, cause⟩)
    (fun failure => (failure.updates, failure.gas, failure.penalty, failure.cause))

/-- Successful or failed. -/
def jarOutcome : Codec JarOutcome :=
  union [
    case (pair bytes (pair (list classpath) (pair (list update) gasConsumed)))
      (fun (jar, dependencies, updates, gas) => .successful jar dependencies updates gas)
      (fun | .successful jar dependencies updates gas => some (jar, dependencies, updates, gas)
           | _ => none),
    case failure .failed JarOutcome.failure?]

/-- The exception of an outcome. -/
def exceptionOf {Result : Type} : CallOutcome Result → Option (Cause × Effects)
  | .exception cause effects => some (cause, effects)
  | _ => none

/-- The failure of an outcome. -/
def failureOf {Result : Type} : CallOutcome Result → Option Failure
  | .failed failure => some failure
  | _ => none

/-- Successful with a new object, ended by an exception, or failed. -/
def constructorOutcome : Codec (CallOutcome ObjectRef) :=
  union [
    case (pair objectRef effects)
      (fun (object, effects) => .successful object effects)
      (fun | .successful object effects => some (object, effects) | _ => none),
    case (pair cause effects) (fun (cause, effects) => .exception cause effects) exceptionOf,
    case failure .failed failureOf]

/-- Successful with a result or without one, ended by an exception, or failed. -/
def methodOutcome : Codec (CallOutcome (Option Value)) :=
  union [
    case (pair value effects)
      (fun (result, effects) => .successful (some result) effects)
      (fun | .successful (some result) effects => some (result, effects) | _ => none),
    case effects
      (fun effects => .successful none effects)
      (fun | .successful none effects => some effects | _ => none),
    case (pair cause effects) (fun (cause, effects) => .exception cause effects) exceptionOf,
    case failure .failed failureOf]

/-- The responses, by kind. -/
def response : Codec Response :=
  union [
    case (pair bytes (list classpath))
      (fun (jar, dependencies) => .initialJar jar dependencies)
      (fun | .initialJar jar dependencies => some (jar, dependencies) | _ => none),
    case (pair (list update) objectRef)
      (fun (updates, gamete) => .gameteCreation updates gamete)
      (fun | .gameteCreation updates gamete => some (updates, gamete) | _ => none),
    constant .initialization,
    case jarOutcome .jar (fun | .jar outcome => some outcome | _ => none),
    case constructorOutcome .constructorCall
      (fun | .constructorCall outcome => some outcome | _ => none),
    case methodOutcome .methodCall (fun | .methodCall outcome => some outcome | _ => none)]

end ObjectLedger.Codec

namespace ObjectLedger

/-- The bytes that the signature of a request covers: the request with an empty signature. -/
def Request.signedBytes (request : Request) : List UInt8 :=
  Codec.request.encode request.withoutSignature

/-- The number of bytes of a request. -/
def Request.size (request : Request) : UInt64 :=
  Codec.request.size request

/-- The number of bytes of a response. -/
def Response.size (response : Response) : UInt64 :=
  Codec.response.size response

end ObjectLedger
