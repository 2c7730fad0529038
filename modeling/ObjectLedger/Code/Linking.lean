/-
**Linking: the classes that a classpath makes available.**

* `LinkedClasspath.link`: walks the classpaths of a request depth first, the dependencies of a
  recursive entry before the entry itself and each unit at most once, and puts all classes into
  one table within the limits of the node.
* `LinkedClasspath.ancestors`, `LinkedClasspath.isSubclass`, `LinkedClasspath.fieldsOf`,
  `LinkedClasspath.hasField`, `LinkedClasspath.resolveMethod?`: look-ups along the chain of
  superclasses, which a linked table keeps finite and inside itself.
-/
import ObjectLedger.Code.Instruction
import ObjectLedger.Store.ObjectState

namespace ObjectLedger

/-- Bounds on a classpath. -/
structure ClasspathLimits where
  /-- The greatest number of code units. -/
  maxDependencies : UInt64
  /-- The greatest size of all code units, in bytes. -/
  maxDependenciesSize : UInt64
  deriving DecidableEq, Repr

/-- Why a classpath cannot be linked. -/
inductive ClasspathError where
  /-- There is no response at the reference. -/
  | unknownJar (jar : TransactionRef)
  /-- The response at the reference installed no code. -/
  | notAJar (jar : TransactionRef)
  /-- The bytes are not a code unit; no jar is named for a unit that is being installed. -/
  | undecodable (jar : Option TransactionRef) (cause : UndecodableError)
  | duplicateClass (name : String)
  | unknownSuperclass (className superclass : String)
  | cyclicHierarchy (className : String)
  | tooManyDependencies (count : Nat) (limit : UInt64)
  | dependenciesTooLarge (size limit : UInt64)
  deriving DecidableEq, Repr

/-- The wording of a classpath that cannot be linked. -/
def ClasspathError.message : ClasspathError → String
  | unknownJar jar => "unknown jar " ++ jar.toText
  | notAJar jar => "transaction " ++ jar.toText ++ " did not install a jar"
  | undecodable (some jar) cause =>
    "jar " ++ jar.toText ++ " cannot be decoded: " ++ cause.message
  | undecodable none cause => "the jar cannot be decoded: " ++ cause.message
  | duplicateClass name => "class " ++ name ++ " is defined more than once"
  | unknownSuperclass className superclass =>
    "class " ++ className ++ " extends unknown class " ++ superclass
  | cyclicHierarchy className => "the hierarchy of class " ++ className ++ " is cyclic"
  | tooManyDependencies count limit =>
    "too many dependencies in classpath: " ++ toString count ++ " units, at most " ++
      toString limit.toNat ++ " allowed"
  | dependenciesTooLarge size limit =>
    "too large cumulative size of dependencies in classpath: " ++ toString size.toNat ++
      " bytes, at most " ++ toString limit.toNat ++ " allowed"

/-- Why linking did not succeed: the classpath is wrong, or the store cannot be read. -/
inductive LinkError where
  | classpath (cause : ClasspathError)
  | store (cause : StoreError)
  /-- The dependencies are nested deeper than there are references, which cannot be. -/
  | tooDeep
  deriving DecidableEq, Repr

/-- The wording of a failure to link. -/
def LinkError.message : LinkError → String
  | classpath cause => cause.message
  | store cause => cause.message
  | tooDeep => "too deep dependencies in classpath"

/-- A class of a linked classpath. -/
structure LinkedClass where
  definition : ClassDefinition
  /-- The transaction that installed the class, none while it is being installed. -/
  jar : Option TransactionRef
  deriving DecidableEq, Repr

/-- The classes of a classpath. -/
structure LinkedClasspath where
  classes : List LinkedClass := []
  /-- The sizes of the units, in the order of loading. -/
  lengths : List UInt64 := []
  /-- The transactions that installed the units, in the order of loading. -/
  transactions : List TransactionRef := []
  deriving DecidableEq, Repr, Inhabited

namespace LinkedClasspath

/-! ### Classes -/

/-- The linked class of a name. -/
def linkedClass? (classes : List LinkedClass) (name : String) : Option LinkedClass :=
  classes.find? fun linked => linked.definition.name = name

/-- The class of a name. -/
def class? (linked : LinkedClasspath) (name : String) : Option ClassDefinition :=
  (linkedClass? linked.classes name).map LinkedClass.definition

/-- There is a class of the name. -/
def contains (linked : LinkedClasspath) (name : String) : Bool :=
  (linked.class? name).isSome

/-- The transaction that installed a class, none for an unknown class and for one that is being
installed. -/
def jarOf? (linked : LinkedClasspath) (name : String) : Option TransactionRef :=
  (linkedClass? linked.classes name).bind LinkedClass.jar

/-- A class and the classes above it, at most so many. -/
def chain (linked : LinkedClasspath) : Nat → String → List ClassDefinition
  | 0, _ => []
  | count + 1, name =>
    match linked.class? name with
    | none => []
    | some definition =>
      definition :: match definition.superclass with
        | none => []
        | some superclass => linked.chain count superclass

/-- A class and the classes above it, the most specific one first. -/
def ancestors (linked : LinkedClasspath) (name : String) : List ClassDefinition :=
  linked.chain linked.classes.length name

/-- The first class is the second one or below it. -/
def isSubclass (linked : LinkedClasspath) (name ancestor : String) : Bool :=
  (linked.ancestors name).any fun definition => definition.name = ancestor

/-- All fields of the instances of a class, inherited fields first. -/
def fieldsOf (linked : LinkedClasspath) (name : String) : List FieldSignature :=
  (linked.ancestors name).reverse.flatMap ClassDefinition.fieldSignatures

/-- The instances of a class have the field. -/
def hasField (linked : LinkedClasspath) (name : String) (field : FieldSignature) : Bool :=
  linked.isSubclass name field.definingClass &&
    ((linked.class? field.definingClass).bind fun definition =>
      definition.field? field.name) == some field

/-- The method that a call on an instance of a class runs, and the class that declares it. -/
def resolveMethod? (linked : LinkedClasspath) (name : String) (method : MethodSignature) :
    Option (ClassDefinition × MethodDefinition) :=
  (linked.ancestors name).findSome? fun definition =>
    (definition.method? method).map fun found => (definition, found)

/-- The constructor of a signature. -/
def resolveConstructor? (linked : LinkedClasspath) (constructor : ConstructorSignature) :
    Option ConstructorDefinition :=
  (linked.class? constructor.definingClass).bind fun definition =>
    definition.constructor? constructor.formals

/-! ### Limits -/

/-- The limits hold, with one more unit of the given size if there is one. -/
def checkLimits (linked : LinkedClasspath) (extra : Option UInt64) (limits : ClasspathLimits) :
    Except ClasspathError Unit :=
  let lengths := linked.lengths ++ extra.toList
  let size := lengths.foldl saturatingAdd 0
  if lengths.length > limits.maxDependencies.toNat then
    .error (.tooManyDependencies lengths.length limits.maxDependencies)
  else if size > limits.maxDependenciesSize then
    .error (.dependenciesTooLarge size limits.maxDependenciesSize)
  else .ok ()

/-! ### Linking -/

/-- Adds classes, unless one of their names is taken. -/
def addClasses (jar : Option TransactionRef) :
    List LinkedClass → List ClassDefinition → Except ClasspathError (List LinkedClass)
  | classes, [] => .ok classes
  | classes, definition :: rest =>
    if (linkedClass? classes definition.name).isSome then
      .error (.duplicateClass definition.name)
    else addClasses jar (classes ++ [⟨definition, jar⟩]) rest

/-- Climbs from a class, `current`, above `start`, so many steps at most. -/
def climb (classes : List LinkedClass) (start : String) : Nat → String → Except ClasspathError Unit
  | 0, _ => .error (.cyclicHierarchy start)
  | count + 1, current =>
    match linkedClass? classes current with
    | none => .ok ()
    | some linked =>
      match linked.definition.superclass with
      | none => .ok ()
      | some superclass =>
        if (linkedClass? classes superclass).isNone then
          .error (.unknownSuperclass current superclass)
        else climb classes start count superclass

/-- The chain of superclasses of a class stays in the table and ends. -/
def checkHierarchy (classes : List LinkedClass) (name : String) : Except ClasspathError Unit :=
  climb classes name (classes.length + 1) name

/-- Adds the classes of a unit, and checks their hierarchy. -/
def addUnit (linked : LinkedClasspath) (unit : CodeUnit) (jar : Option TransactionRef) :
    Except ClasspathError LinkedClasspath := do
  let classes ← addClasses jar linked.classes unit.classes
  unit.classes.forM fun definition => checkHierarchy classes definition.name
  return { linked with classes }

/-- The classpath with a unit that is being installed. -/
def extended (linked : LinkedClasspath) (jar : List UInt8) :
    Except ClasspathError LinkedClasspath :=
  match CodeUnit.ofBytes jar with
  | .error cause => .error (.undecodable none cause)
  | .ok unit => do
    let extended ← linked.addUnit unit none
    return { extended with lengths := extended.lengths ++ [saturate jar.length] }

/-- Adds an installed unit within the limits. -/
def addInstalled (linked : LinkedClasspath) (limits : ClasspathLimits) (jar : TransactionRef)
    (bytes : List UInt8) : Except ClasspathError LinkedClasspath := do
  linked.checkLimits (some (saturate bytes.length)) limits
  match CodeUnit.ofBytes bytes with
  | .error cause => .error (.undecodable (some jar) cause)
  | .ok unit =>
    let linked ← linked.addUnit unit (some jar)
    return { linked with
      lengths := linked.lengths ++ [saturate bytes.length]
      transactions := linked.transactions ++ [jar] }

/-- A classpath that is being linked. -/
structure Progress where
  linked : LinkedClasspath := {}
  /-- The units that were met so far. -/
  visited : List TransactionRef := []

/-- Loads a unit, unless it was met before, after its dependencies if they are included. The first
number bounds the nesting. -/
def visit (view : LedgerView) (limits : ClasspathLimits) :
    Nat → Progress → Classpath → Except LinkError Progress
  | 0, _, _ => .error .tooDeep
  | depth + 1, progress, classpath =>
    if progress.visited.contains classpath.jar then .ok progress
    else
      match view.response classpath.jar with
      | .error cause => .error (.store cause)
      | .ok none => .error (.classpath (.unknownJar classpath.jar))
      | .ok (some response) =>
        match response.installed? with
        | none => .error (.classpath (.notAJar classpath.jar))
        | some (bytes, dependencies) => do
          let progress := { progress with visited := classpath.jar :: progress.visited }
          let progress ←
            if classpath.recursive then dependencies.foldlM (visit view limits depth) progress
            else .ok progress
          match progress.linked.addInstalled limits classpath.jar bytes with
          | .error cause => .error (.classpath cause)
          | .ok linked => .ok { progress with linked }

/-- One more than the number of references: units that depend on one another are nested less deep,
because they are all different. -/
def maxNesting : Nat := maxWord + 2

/-- Links classpaths, in order. -/
def link (view : LedgerView) (classpaths : List Classpath) (limits : ClasspathLimits) :
    Except LinkError LinkedClasspath := do
  let progress ← classpaths.foldlM (visit view limits maxNesting) {}
  return progress.linked

end LinkedClasspath

end ObjectLedger
