/-
**The objects of a running transaction.**

* `Heap`: new objects, and stored ones that the transaction has used, with the gas account.
* `Heap.load`: a stored object comes to life when it is first used. Each response that is looked
  up costs gas. Its eager fields are read at once, the others when they are needed.
* `Heap.getField`, `Heap.setField`: access to fields. A field that is read late is also read before
  it is overwritten, so that a change shows.
* `Heap.updates`: what must be recorded: all fields of the new objects that can be reached, and the
  changed fields of stored objects.
-/
import ObjectLedger.Code.Linking
import ObjectLedger.Gas.Cost
import ObjectLedger.Machine.Throwable

namespace ObjectLedger

/-- What stays the same while a transaction runs. -/
structure Context where
  view : LedgerView
  classes : LinkedClasspath
  costs : CostModel
  /-- The transaction that creates the new objects. -/
  transaction : TransactionRef
  /-- The greatest number of nested calls. -/
  maxCallDepth : UInt64

/-- An object of a running transaction. -/
structure HeapObject where
  className : String
  /-- The transaction that installed the class. -/
  jar : TransactionRef
  /-- The values of the fields that were read or written. -/
  fields : Table FieldSignature Value
  /-- The values found in the store, none for a new object. -/
  stored : Option (Table FieldSignature Value)

/-- The objects of a running transaction and its gas account. -/
structure Heap where
  charger : Charger
  objects : Table ObjectRef HeapObject := {}
  /-- The number of the next new object. -/
  nextProgressive : UInt64 := 0
  events : List ObjectRef := []

/-- A part of a running transaction: it changes the heap, also when it ends with a fault. -/
abbrev Run := EStateM Fault Heap

namespace Run

/-- Ends with a throwable. -/
def fail {α : Type} (throwable : Throwable) : Run α :=
  throw (.thrown throwable)

/-- A computation that may throw. -/
def ofThrowing {α : Type} : Except Throwable α → Run α
  | .ok value => pure value
  | .error throwable => fail throwable

/-- A look into the store. -/
def ofStore {α : Type} : Except StoreError α → Run α
  | .ok value => pure value
  | .error cause => throw (.internal cause)

/-- Takes gas for a use. -/
def charge (purpose : GasUse) (amount : UInt64) : Run Unit := do
  let heap ← get
  match heap.charger.charge purpose amount with
  | .ok charger => set { heap with charger }
  | .error refusal => fail (.outOfGas refusal)

end Run

namespace HeapObject

/-- The object was created by the running transaction. -/
def isNew (object : HeapObject) : Bool :=
  object.stored.isNone

/-- The objects that the fields point to. -/
def references (object : HeapObject) : List ObjectRef :=
  object.fields.entries.filterMap fun entry => entry.2.reference?

/-- The field must be recorded: it belongs to a new object or differs from the store. -/
def isChanged (object : HeapObject) (field : FieldSignature) (value : Value) : Bool :=
  match object.stored with
  | none => true
  | some found => found.get? field != some value

/-- The updates that record the object. -/
def updates (object : HeapObject) (reference : ObjectRef) : List Update :=
  let tag := if object.isNew then [Update.classTag reference object.className object.jar] else []
  let changed := object.fields.entries.filter fun (field, value) => object.isChanged field value
  tag ++ changed.map fun (field, value) => .field reference field value

end HeapObject

namespace Heap

variable (context : Context)

/-! ### Making and loading objects -/

/-- Makes an object of a class, whose fields hold the defaults of their types. Code that makes more
objects than a word can number does not end. -/
def allocate (className : String) : Run ObjectRef := do
  match context.classes.jarOf? className with
  | none => Run.fail (.illegalState ("class " ++ className ++ " cannot be instantiated"))
  | some jar =>
    let fields := (context.classes.fieldsOf className).foldl
      (fun fields field => fields.insert field field.type.default) Table.empty
    Run.charge .cpu context.costs.allocationCpu
    Run.charge .ram (context.costs.ramOfObject (saturate fields.size))
    let heap ← get
    if heap.nextProgressive.toNat = maxWord then throw .unfinished
    let reference : ObjectRef := ⟨context.transaction, heap.nextProgressive⟩
    set { heap with
      objects := heap.objects.insert reference ⟨className, jar, fields, none⟩
      nextProgressive := heap.nextProgressive + 1 }
    return reference

/-- The response at an entry of the history of an object, which costs gas. -/
def fetchResponse (object : ObjectRef) (entry : TransactionRef) : Run Response := do
  Run.charge .cpu context.costs.responseCpu
  Run.ofStore (context.view.responseOf object entry)

/-- The updates of an object along entries of its history, the newest first. -/
def fetchUpdates (object : ObjectRef) : List TransactionRef → Run (List Update)
  | [] => return []
  | entry :: rest => do
    let response ← fetchResponse context object entry
    let others ← fetchUpdates object rest
    return response.updatesOf object ++ others

/-- The class and the jar that an update tells. -/
def classTagOf? : Update → Option (String × TransactionRef)
  | .classTag _ className jar => some (className, jar)
  | .field _ _ _ => none

/-- The table of the eager fields that updates give values to, the first update of each counting,
and of the defaults of the other eager fields. -/
def eagerFields (updates : List Update) (fields : List FieldSignature) :
    Table FieldSignature Value :=
  let given := updates.foldl (fun table update =>
    match update with
    | .field _ field value =>
      if field.type.isEager && !table.contains field then table.insert field value else table
    | .classTag _ _ _ => table) Table.empty
  fields.foldl (fun table field =>
    if field.type.isEager && !table.contains field then table.insert field field.type.default
    else table) given

/-- An object made from its history. -/
def deserialize (object : ObjectRef) : Run HeapObject := do
  let history ← Run.ofStore (context.view.history object)
  if history.isEmpty then
    Run.fail (.deserialization ("unknown object " ++ object.toText))
  let updates ← fetchUpdates context object history
  match updates.findSome? classTagOf? with
  | none => throw (.internal (.noClassTag object))
  | some (className, jar) =>
    if !context.classes.contains className then
      Run.fail (.deserialization
        ("class " ++ className ++ " of " ++ object.toText ++ " is not in the classpath"))
    let fields := eagerFields updates (context.classes.fieldsOf className)
    return ⟨className, jar, fields, some fields⟩

/-- The object, which comes to life if it was not used before. -/
def load (object : ObjectRef) : Run HeapObject := do
  let heap ← get
  match heap.objects.get? object with
  | some loaded => return loaded
  | none =>
    let loaded ← deserialize context object
    modify fun heap => { heap with objects := heap.objects.insert object loaded }
    return loaded

/-- The class of an object. -/
def classOf (object : ObjectRef) : Run String := do
  return (← load context object).className

/-- The object is an instance of the class or of a class below it. -/
def isInstance (object : ObjectRef) (className : String) : Run Bool := do
  return context.classes.isSubclass (← classOf context object) className

/-! ### Fields -/

/-- The object has the field. -/
def checkField (object : ObjectRef) (field : FieldSignature) : Run Unit := do
  let className ← classOf context object
  if !context.classes.hasField className field then
    Run.fail (.classCast
      (object.toText ++ " of class " ++ className ++ " has no field " ++ field.toText))

/-- The value of a field along entries of the history of its object, the newest first. -/
def fetchField (object : ObjectRef) (field : FieldSignature) :
    List TransactionRef → Run Value
  | [] => return field.type.default
  | entry :: rest => do
    let response ← fetchResponse context object entry
    match (response.updatesOf object).findSome? (LedgerView.valueOf? field) with
    | some value => return value
    | none => fetchField object field rest

/-- Changes an object of the heap. -/
def modifyObject (object : ObjectRef) (change : HeapObject → HeapObject) : Run Unit := do
  let loaded ← load context object
  modify fun heap => { heap with objects := heap.objects.insert object (change loaded) }

/-- The value of a field. -/
def getField (object : ObjectRef) (field : FieldSignature) : Run Value := do
  checkField context object field
  match (← load context object).fields.get? field with
  | some value => return value
  | none =>
    let history ← Run.ofStore (context.view.history object)
    let value ← fetchField context object field history
    modifyObject context object fun loaded =>
      { loaded with
        fields := loaded.fields.insert field value
        stored := loaded.stored.map (·.insert field value) }
    return value

/-- Gives a field a value that suits its type. -/
def setField (object : ObjectRef) (field : FieldSignature) (value : Value) : Run Unit := do
  checkField context object field
  if !value.fits field.type then
    Run.fail (.classCast (value.toText ++ " cannot be stored into " ++ field.toText))
  match value, field.type with
  | .reference target, .object expected =>
    if !(← isInstance context target expected) then
      Run.fail (.classCast (target.toText ++ " is not a " ++ expected))
  | _, _ => pure ()
  if !field.type.isEager then
    discard (getField context object field)
  modifyObject context object fun loaded =>
    { loaded with fields := loaded.fields.insert field value }

/-- A field that holds a big integer. -/
def getAmount (object : ObjectRef) (field : FieldSignature) : Run Amount := do
  let value ← getField context object field
  match value with
  | .bigInteger amount => return amount
  | other =>
    Run.fail (.classCast ("the " ++ field.name ++ " is not a BigInteger: " ++ other.toText))

/-- The balance of a contract. -/
def getBalance (object : ObjectRef) : Run Amount :=
  getAmount context object .balance

/-- Gives a contract a balance. -/
def setBalance (object : ObjectRef) (balance : Amount) : Run Unit :=
  setField context object .balance (.bigInteger balance)

/-- The nonce of an account. -/
def getNonce (object : ObjectRef) : Run Amount :=
  getAmount context object .nonce

/-- Gives an account a nonce. -/
def setNonce (object : ObjectRef) (nonce : Amount) : Run Unit :=
  setField context object .nonce (.bigInteger nonce)

/-- Records an event of the transaction. -/
def emit (event : ObjectRef) : Run Unit :=
  modify fun heap => { heap with events := heap.events ++ [event] }

/-! ### Updates -/

/-- The entries other than that of an object. -/
def without (entries : List (ObjectRef × HeapObject)) (object : ObjectRef) :
    List (ObjectRef × HeapObject) :=
  entries.filter fun entry => entry.1 ≠ object

/-- The number of entries and of the references in them. -/
def weight : List (ObjectRef × HeapObject) → Nat
  | [] => 0
  | entry :: rest => 1 + entry.2.references.length + weight rest

theorem weight_cons (entry : ObjectRef × HeapObject) (entries : List (ObjectRef × HeapObject)) :
    weight (entry :: entries) = 1 + entry.2.references.length + weight entries := rfl

theorem weight_without_le (entries : List (ObjectRef × HeapObject)) (object : ObjectRef) :
    weight (without entries object) ≤ weight entries := by
  induction entries with
  | nil => exact Nat.le_refl _
  | cons entry rest ih =>
    unfold without at *
    rw [List.filter_cons]
    split
    · rw [weight_cons, weight_cons]
      omega
    · rw [weight_cons]
      omega

/-- Taking an entry out takes away its weight. -/
theorem weight_without_add_le {entries : List (ObjectRef × HeapObject)}
    {entry : ObjectRef × HeapObject} {object : ObjectRef}
    (found : entries.find? (fun entry => entry.1 = object) = some entry) :
    weight (without entries object) + entry.2.references.length + 1 ≤ weight entries := by
  induction entries with
  | nil => cases found
  | cons head rest ih =>
    have tail := weight_without_le rest object
    rw [List.find?_cons] at found
    unfold without at *
    rw [List.filter_cons]
    by_cases here : head.1 = object
    · rw [decide_eq_true here] at found
      rw [if_neg (by simpa using here), weight_cons, ← Option.some.inj found]
      omega
    · rw [decide_eq_false here] at found
      have less := ih found
      rw [if_pos (by simpa using here), weight_cons, weight_cons]
      omega

/-- The entries among `unvisited` that can be reached from `pending`, each once. -/
def reach (pending : List ObjectRef) (unvisited : List (ObjectRef × HeapObject)) :
    List (ObjectRef × HeapObject) :=
  match pending with
  | [] => []
  | reference :: rest =>
    match _ : unvisited.find? fun entry => entry.1 = reference with
    | none => reach rest unvisited
    | some entry => entry :: reach (entry.2.references ++ rest) (without unvisited reference)
termination_by pending.length + weight unvisited
decreasing_by
  · exact Nat.add_lt_add_right (Nat.lt_succ_self _) _
  · have less := weight_without_add_le (by assumption)
    simp only [List.length_append, List.length_cons]
    omega

/-- The objects from which the updates of a transaction start: its roots, its events and the stored
objects that it used. -/
def startingPoints (heap : Heap) (roots : List ObjectRef) : List ObjectRef :=
  roots ++ heap.events ++
    (heap.objects.entries.filter fun entry => !entry.2.isNew).map Prod.fst

/-- What a transaction with the given roots must record. -/
def updates (heap : Heap) (roots : List ObjectRef) : List Update :=
  let reached := reach (heap.startingPoints roots) heap.objects.entries
  normalize (reached.flatMap fun (reference, object) => object.updates reference)

end Heap

end ObjectLedger
