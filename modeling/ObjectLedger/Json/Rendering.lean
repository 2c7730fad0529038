/-
**The rendering of responses for people.**

* `Response.render`: an indented JSON text with one member for each part of the response.
* `manifestRecord`, `readManifestRecord?`: the record that names the manifest of a ledger.
-/
import ObjectLedger.Json.Parser
import ObjectLedger.Response

namespace ObjectLedger.Rendering

open Json

/-- An alternative of a union with its content. -/
def tagged (name : String) (content : Json) : Json :=
  record [(name, content)]

/-- A word. -/
def word (value : UInt64) : Json :=
  integer (Int.ofNat value.toNat)

/-- A transaction reference is its number. -/
def transactionRef (reference : TransactionRef) : Json :=
  word reference.value

/-- The transaction and the progressive number. -/
def objectRef (reference : ObjectRef) : Json :=
  record [("transaction", transactionRef reference.transaction),
    ("progressive", word reference.progressive)]

/-- The jar and whether its dependencies are included. -/
def classpath (classpath : Classpath) : Json :=
  record [("jar", transactionRef classpath.jar), ("recursive", boolean classpath.recursive)]

/-- Bytes are an array of numbers. -/
def bytes (bytes : List UInt8) : Json :=
  array (bytes.map fun byte => integer (Int.ofNat byte.toNat))

/-- The types of values. -/
def valueType : ValueType → Json
  | .boolean => text "Boolean"
  | .int => text "Int"
  | .bigInteger => text "BigInteger"
  | .string => text "String"
  | .object className => tagged "Class" (text className)

/-- The values. -/
def value : Value → Json
  | .null => text "Null"
  | .boolean value => tagged "Boolean" (boolean value)
  | .int value => tagged "Int" (integer value.toInt)
  | .bigInteger value => tagged "BigInteger" (integer (Int.ofNat value.toNat))
  | .string value => tagged "String" (text value)
  | .reference target => tagged "Reference" (objectRef target)

/-- The class, the name and the type. -/
def fieldSignature (field : FieldSignature) : Json :=
  record [("defining_class", text field.definingClass), ("name", text field.name),
    ("ty", valueType field.type)]

/-- Class tags and fields. -/
def update : Update → Json
  | .classTag subject className jar =>
    tagged "ClassTag" (record [("object", objectRef subject), ("class_name", text className),
      ("jar", transactionRef jar)])
  | .field subject field content =>
    tagged "Field" (record [("object", objectRef subject), ("field", fieldSignature field),
      ("value", value content)])

/-- The updates of a response. -/
def updates (updates : List Update) : String × Json :=
  ("updates", array (updates.map update))

/-- The gas consumed. -/
def gas (gas : GasConsumed) : String × Json :=
  ("gas", record [("cpu", word gas.cpu), ("ram", word gas.ram), ("storage", word gas.storage)])

/-- The cause of an exception or a failure. -/
def cause (cause : Cause) : String × Json :=
  ("cause", record [("class_name", text cause.className), ("message", text cause.message)])

/-- An installed jar and its dependencies. -/
def jar (jar : List UInt8) (dependencies : List Classpath) : List (String × Json) :=
  [("instrumented_jar", bytes jar), ("dependencies", array (dependencies.map classpath))]

/-- The updates, the events and the gas. -/
def effects (effects : Effects) : List (String × Json) :=
  [updates effects.updates, ("events", array (effects.events.map objectRef)), gas effects.gas]

/-- A failure. -/
def failure (failure : Failure) : Json :=
  tagged "Failed" (record [updates failure.updates, gas failure.gas,
    ("penalty", word failure.penalty), cause failure.cause])

/-- The outcome of a call, whose success is shown by the given function. -/
def callOutcome {Result : Type} (successful : Result → Effects → Json) :
    CallOutcome Result → Json
  | .successful result done => successful result done
  | .exception reason done => tagged "Exception" (record (cause reason :: effects done))
  | .failed reason => failure reason

/-- A response. -/
def response : Response → Json
  | .initialJar bytes dependencies => tagged "JarStoreInitial" (record (jar bytes dependencies))
  | .gameteCreation changes gamete =>
    tagged "GameteCreation" (record [updates changes, ("gamete", objectRef gamete)])
  | .initialization => text "Initialization"
  | .jar (.successful bytes dependencies changes consumed) =>
    tagged "JarStore" (tagged "Successful"
      (record (jar bytes dependencies ++ [updates changes, gas consumed])))
  | .jar (.failed reason) => tagged "JarStore" (failure reason)
  | .constructorCall outcome =>
    tagged "ConstructorCall" (callOutcome (fun object done =>
      tagged "Successful" (record (("new_object", objectRef object) :: effects done))) outcome)
  | .methodCall outcome =>
    tagged "MethodCall" (callOutcome (fun result done =>
      match result with
      | some result => tagged "Successful" (record (("result", value result) :: effects done))
      | none => tagged "VoidSuccessful" (record (effects done))) outcome)

/-- The record that names the manifest. -/
def manifestRecord (manifest : ObjectRef) : String :=
  (record [("manifest", objectRef manifest)]).compact

/-- Reads an object reference. -/
def readObjectRef? (json : Json) : Option ObjectRef := do
  let fields ← json.fields? ["transaction", "progressive"]
  let transaction ← (← fields.lookup "transaction").word?
  let progressive ← (← fields.lookup "progressive").word?
  return ⟨⟨transaction⟩, progressive⟩

/-- Reads the record that names the manifest. -/
def readManifestRecord? (bytes : List UInt8) : Option ObjectRef := do
  let fields ← (← Json.parse? bytes).fields? ["manifest"]
  readObjectRef? (← fields.lookup "manifest")

end ObjectLedger.Rendering

namespace ObjectLedger

/-- The response as an indented JSON text. -/
def Response.render (response : Response) : String :=
  (Rendering.response response).pretty

end ObjectLedger
