/-
**From requests to outcomes.**

* `Outcome.build`: the outcome of a request as a transaction of the ledger.
* `Outcome.buildView`: the outcome of the call of a view, which is never recorded.
-/
import ObjectLedger.Machine.Step
import ObjectLedger.Transaction.Initial
import ObjectLedger.Transaction.Paid

namespace ObjectLedger

namespace Paid

variable (config : NodeConfig) (view : LedgerView) (reference : TransactionRef)

/-- The objects among values. -/
def referencesIn (values : List Value) : List ObjectRef :=
  values.filterMap Value.reference?

/-- Installs a jar. -/
def installJar (header : Header) (jar : List UInt8) (dependencies : List Classpath) :
    Build Outcome := do
  let classes ← Build.link config view (header.classpath :: dependencies)
  let length := saturate jar.length
  Build.ofClasspath (classes.checkLimits (some length) (Build.limits config))
  let cpu := config.gas.cpuOfInstalling length
  let ram := config.gas.ramOfInstalling length
  let paid ← Build.ofExcept (start config view reference header (.installJar jar dependencies)
    classes (saturatingAdd cpu ram) false)
  match (do Run.charge .cpu cpu; Run.charge .ram ram : Run Unit) paid.heap with
  | .error (.thrown throwable) heap => return { paid with heap }.fail throwable.cause
  | .error fault _ => throw (unexpected fault)
  | .ok () heap =>
    let paid := { paid with heap }
    match classes.extended jar with
    | .error cause => return paid.fail (Throwable.malformedCode cause.message).cause
    | .ok _ =>
      Build.ofExcept (paid.complete [] fun effects =>
        .jar (.successful jar dependencies effects.updates effects.gas))

/-- Runs a constructor. -/
def construct (header : Header) (constructor : ConstructorSignature) (actuals : List Value) :
    Build Outcome := do
  let classes ← Build.link config view [header.classpath]
  let paid ← Build.ofExcept (start config view reference header (.construct constructor actuals)
    classes 0 false)
  let throwsExceptions := (classes.resolveConstructor? constructor).any fun definition =>
    definition.annotations.throwsExceptions
  let roots := referencesIn actuals
  match Machine.construct paid.context paid.caller constructor actuals paid.heap with
  | .ok object heap =>
    Build.ofExcept ({ paid with heap }.complete (roots ++ [object]) fun effects =>
      .constructorCall (.successful object effects))
  | .error fault heap =>
    Build.ofExcept ({ paid with heap }.settleFault fault throwsExceptions roots
      fun cause effects => .constructorCall (.exception cause effects))

/-- The annotations of the method of a signature, as its class declares or inherits it. -/
def declaredAnnotations (classes : LinkedClasspath) (method : MethodSignature) :
    Option Annotations :=
  (classes.resolveMethod? method.definingClass method).map fun found => found.2.annotations

/-- Runs a method; `roots` are the objects that the call is about. -/
def callMethod (header : Header) (action : Action) (method : MethodSignature)
    (roots : List ObjectRef) (isView : Bool)
    (run : Context → ObjectRef → Run (Option Value)) : Build Outcome := do
  let classes ← Build.link config view [header.classpath]
  let paid ← Build.ofExcept (start config view reference header action classes 0 isView)
  let annotations := declaredAnnotations classes method
  if isView && !annotations.any Annotations.view then
    return paid.fail (Throwable.noSuchMethod ("no view method " ++ method.toText)).cause
  match run paid.context paid.caller paid.heap with
  | .ok result heap =>
    let roots := roots ++ (result.bind Value.reference?).toList
    Build.ofExcept ({ paid with heap }.complete roots fun effects =>
      .methodCall (.successful result effects))
  | .error fault heap =>
    Build.ofExcept ({ paid with heap }.settleFault fault
      (annotations.any Annotations.throwsExceptions) roots
      fun cause effects => .methodCall (.exception cause effects))

/-- Runs an instance method. -/
def invoke (header : Header) (method : MethodSignature) (receiver : ObjectRef)
    (actuals : List Value) (isView : Bool) : Build Outcome :=
  callMethod config view reference header (.invoke method receiver actuals) method
    (referencesIn actuals ++ [receiver]) isView
    fun context caller => Machine.invoke context caller method receiver actuals

/-- Runs a static method. -/
def invokeStatic (header : Header) (method : MethodSignature) (actuals : List Value)
    (isView : Bool) : Build Outcome :=
  callMethod config view reference header (.invokeStatic method actuals) method
    (referencesIn actuals) isView
    fun context caller => Machine.invokeStatic context caller method actuals

end Paid

namespace Outcome

variable (config : NodeConfig) (view : LedgerView)

/-- The outcome of a request as the transaction of a reference. -/
def ofRequest (reference : TransactionRef) : Request → Build Outcome
  | .installInitialJar jar dependencies => Initial.installJar config view jar dependencies
  | .createGamete classpath amount publicKey =>
    Initial.createGamete config view reference classpath amount publicKey
  | .nameManifest classpath manifest => Initial.nameManifest config view classpath manifest
  | .paid header (.installJar jar dependencies) =>
    Paid.installJar config view reference header jar dependencies
  | .paid header (.construct constructor actuals) =>
    Paid.construct config view reference header constructor actuals
  | .paid header (.invoke method receiver actuals) =>
    Paid.invoke config view reference header method receiver actuals false
  | .paid header (.invokeStatic method actuals) =>
    Paid.invokeStatic config view reference header method actuals false

/-- The outcome of a request as a view; only methods can be views. -/
def ofView (reference : TransactionRef) : Request → Build Outcome
  | .paid header (.invoke method receiver actuals) =>
    Paid.invoke config view reference header method receiver actuals true
  | .paid header (.invokeStatic method actuals) =>
    Paid.invokeStatic config view reference header method actuals true
  | other => Build.reject ("a " ++ other.kind ++ " request cannot be run as a view")

/-- The outcome of a request as the transaction of a reference, and the classpaths to keep. -/
def build (cache : ClasspathCache) (reference : TransactionRef) (request : Request) :
    Except InternalError Outcome × ClasspathCache :=
  (ofRequest config view reference request).settle cache

/-- The outcome of a request as a view, and the classpaths to keep. -/
def buildView (cache : ClasspathCache) (reference : TransactionRef) (request : Request) :
    Except InternalError Outcome × ClasspathCache :=
  (ofView config view reference request).settle cache

end Outcome

end ObjectLedger
