/-
**Parts of a running transaction, from the pieces that they are made of.**

* `Run.Composes`: a property of parts that holds of results, of faults, of charges other than for
  storage, of looking at objects and of changing them, and of sequences of parts of which it holds.
* **`Run.Composes.load`**, `Run.Composes.getField`, `Run.Composes.setField`: then it holds of all
  access to objects.
* **`Run.Composes.invokeFrom`**, `Run.Composes.callPrimitive`: and of calls and primitives. Calls of
  constructors make objects; `Run.Composes.callConstructor` takes it that it holds of that, too.
-/
import ObjectLedger.Machine.Step
import ObjectLedger.Proofs.Machine.Value

namespace ObjectLedger.Run

/-- The property holds of the pieces that a running transaction is made of, and of sequences of
parts of which it holds. -/
structure Composes (holds : ∀ {α : Type}, Run α → Prop) : Prop where
  pure {α : Type} (value : α) : holds (pure value)
  fail {α : Type} (throwable : Throwable) : holds (fail throwable : Run α)
  internal {α : Type} (cause : StoreError) : holds (throw (.internal cause) : Run α)
  bind {α β : Type} {part : Run α} {next : α → Run β} (first : holds part)
    (rest : ∀ value, holds (next value)) : holds (part >>= next)
  /-- Running code pays for no storage. -/
  charge (purpose : GasUse) (amount : UInt64) (used : purpose ≠ .storage) :
    holds (charge purpose amount)
  /-- What goes on from the objects that are there. -/
  look {α : Type} {next : Heap → Run α} (rest : ∀ heap, holds (next heap))
    (same : ∀ heap other : Heap, heap.objects = other.objects → next heap = next other) :
    holds (get >>= next)
  /-- Other objects, depending on those that are there. -/
  alter (change : Table ObjectRef HeapObject → Table ObjectRef HeapObject) :
    holds (modify fun heap => { heap with objects := change heap.objects } : Run PUnit)
  emit (event : ObjectRef) : holds (Heap.emit event)

namespace Composes

variable {holds : ∀ {α : Type}, Run α → Prop} {context : Context} (composes : Composes holds)

include composes

theorem fail_bind {α β : Type} {throwable : Throwable} {next : α → Run β} :
    holds (Run.fail throwable >>= next) :=
  composes.fail throwable

theorem ofThrowing {α : Type} (result : Except Throwable α) : holds (ofThrowing result) := by
  cases result with
  | ok value => exact composes.pure value
  | error throwable => exact composes.fail throwable

theorem ofStore {α : Type} (look : Except StoreError α) : holds (ofStore look) := by
  cases look with
  | ok value => exact composes.pure value
  | error cause => exact composes.internal cause

theorem discard {α : Type} {part : Run α} (first : holds part) : holds (discard part) :=
  composes.bind first fun _ => composes.pure ()

theorem forM {α : Type} {items : List α} {visit : α → Run Unit}
    (each : ∀ item, holds (visit item)) : holds (items.forM visit) := by
  induction items with
  | nil => exact composes.pure ()
  | cons item rest ih => exact composes.bind (each item) fun _ => ih

/-! ### Loading -/

theorem fetchResponse (object : ObjectRef) (entry : TransactionRef) :
    holds (Heap.fetchResponse context object entry) :=
  composes.bind (composes.charge _ _ (by decide)) fun _ => composes.ofStore _

theorem fetchUpdates (object : ObjectRef) (entries : List TransactionRef) :
    holds (Heap.fetchUpdates context object entries) := by
  induction entries with
  | nil => exact composes.pure []
  | cons entry rest ih =>
    exact composes.bind (composes.fetchResponse object entry) fun _ =>
      composes.bind ih fun _ => composes.pure _

theorem deserialize (object : ObjectRef) : holds (Heap.deserialize context object) := by
  refine composes.bind (composes.ofStore _) fun history => ?_
  simp only []
  split
  · exact composes.fail_bind
  · refine composes.bind (composes.fetchUpdates object history) fun updates => ?_
    cases updates.findSome? Heap.classTagOf? with
    | none => exact composes.internal _
    | some tag =>
      simp only []
      split
      · exact composes.fail_bind
      · exact composes.pure _

theorem load (object : ObjectRef) : holds (Heap.load context object) := by
  refine composes.look (fun heap => ?_) fun heap other same => by rw [same]
  cases heap.objects.get? object with
  | some loaded => exact composes.pure loaded
  | none =>
    exact composes.bind (composes.deserialize object) fun loaded =>
      composes.bind (composes.alter fun objects => objects.insert object loaded) fun _ =>
        composes.pure loaded

theorem classOf (object : ObjectRef) : holds (Heap.classOf context object) :=
  composes.bind (composes.load object) fun _ => composes.pure _

theorem isInstance (object : ObjectRef) (className : String) :
    holds (Heap.isInstance context object className) :=
  composes.bind (composes.classOf object) fun _ => composes.pure _

/-! ### Fields -/

theorem checkField (object : ObjectRef) (field : FieldSignature) :
    holds (Heap.checkField context object field) := by
  refine composes.bind (composes.classOf object) fun className => ?_
  split
  · exact composes.fail _
  · exact composes.pure ()

theorem fetchField (object : ObjectRef) (field : FieldSignature) (entries : List TransactionRef) :
    holds (Heap.fetchField context object field entries) := by
  induction entries with
  | nil => exact composes.pure _
  | cons entry rest ih =>
    refine composes.bind (composes.fetchResponse object entry) fun response => ?_
    cases (response.updatesOf object).findSome? (LedgerView.valueOf? field) with
    | some value => exact composes.pure value
    | none => exact ih

theorem modifyObject (object : ObjectRef) (change : HeapObject → HeapObject) :
    holds (Heap.modifyObject context object change) :=
  composes.bind (composes.load object) fun loaded =>
    composes.alter fun objects => objects.insert object (change loaded)

theorem getField (object : ObjectRef) (field : FieldSignature) :
    holds (Heap.getField context object field) := by
  refine composes.bind (composes.checkField object field) fun _ => ?_
  refine composes.bind (composes.load object) fun loaded => ?_
  cases loaded.fields.get? field with
  | some value => exact composes.pure value
  | none =>
    exact composes.bind (composes.ofStore _) fun history =>
      composes.bind (composes.fetchField object field history) fun value =>
        composes.bind (composes.modifyObject object _) fun _ => composes.pure value

theorem checkTarget (value : Value) (type : ValueType) :
    holds (Heap.checkTarget context value type) := by
  unfold Heap.checkTarget
  split
  · refine composes.bind (composes.isInstance _ _) fun answer => ?_
    split
    · exact composes.fail _
    · exact composes.pure ()
  · exact composes.pure ()

theorem storeField (object : ObjectRef) (field : FieldSignature) (value : Value) :
    holds (Heap.storeField context object field value) := by
  unfold Heap.storeField
  have write : holds (Heap.modifyObject context object fun loaded =>
      { loaded with fields := loaded.fields.insert field value }) := composes.modifyObject object _
  simp only []
  split
  · exact composes.bind (composes.discard (composes.getField object field)) fun _ => write
  · exact write

theorem setField (object : ObjectRef) (field : FieldSignature) (value : Value) :
    holds (Heap.setField context object field value) := by
  rw [Heap.setField_eq_bind]
  refine composes.bind (composes.checkField object field) fun _ => ?_
  split
  · exact composes.bind (composes.checkTarget _ _) fun _ => composes.storeField ..
  · exact composes.fail _

theorem getAmount (object : ObjectRef) (field : FieldSignature) :
    holds (Heap.getAmount context object field) := by
  refine composes.bind (composes.getField object field) fun value => ?_
  cases value with
  | bigInteger amount => exact composes.pure amount
  | _ => exact composes.fail _

/-! ### Calls -/

theorem checkActual (formal : ValueType) (actual : Value) :
    holds (Machine.checkActual context formal actual) := by
  unfold Machine.checkActual
  simp only []
  split
  · exact composes.fail_bind
  · split
    · refine composes.bind (composes.isInstance _ _) fun answer => ?_
      split
      · exact composes.fail _
      · exact composes.pure ()
    · exact composes.pure ()

theorem checkActuals (formals : List ValueType) (actuals : List Value) :
    holds (Machine.checkActuals context formals actuals) := by
  unfold Machine.checkActuals
  simp only []
  split
  · exact composes.fail_bind
  · exact composes.forM fun pair => composes.checkActual pair.1 pair.2

theorem callerFrom (annotations : Annotations) (this : Option ObjectRef) :
    holds (Machine.callerFrom context annotations this) := by
  unfold Machine.callerFrom
  simp only []
  split
  · exact composes.pure none
  · cases this with
    | none => exact composes.fail _
    | some object =>
      refine composes.bind (composes.isInstance _ _) fun answer => ?_
      split
      · exact composes.pure _
      · exact composes.fail _

theorem receivePayment (caller receiver : Option ObjectRef) (actuals : List Value) :
    holds (Machine.receivePayment context caller receiver actuals) := by
  unfold Machine.receivePayment
  cases caller with
  | none => exact composes.fail _
  | some payer =>
    cases receiver with
    | none => exact composes.fail _
    | some payee =>
      refine composes.bind (composes.ofThrowing _) fun amount => ?_
      refine composes.bind (composes.getAmount payer .balance) fun balance => ?_
      simp only []
      split
      · exact composes.fail_bind
      · refine composes.bind (composes.setField payer .balance _) fun _ => ?_
        refine composes.bind (composes.getAmount payee .balance) fun received => ?_
        cases Amount.ofNat? (received.toNat + amount.toNat) with
        | some total => exact composes.setField payee .balance _
        | none => exact composes.fail _

theorem enter (depth : Nat) (code : List Instruction) (locals : List Value) (extraLocals : UInt16)
    (this caller : Option ObjectRef) (yields : Yield) (bounded : Bool) :
    holds (Machine.enter context depth code locals extraLocals this caller yields bounded) := by
  unfold Machine.enter
  simp only []
  split
  · exact composes.fail_bind
  · exact composes.bind (composes.charge _ _ (by decide)) fun _ =>
      composes.bind (composes.charge _ _ (by decide)) fun _ => composes.pure _

theorem callConstructor (creates : ∀ className, holds (Heap.allocate context className))
    (depth : Nat) (className : String) (definition : ConstructorDefinition) (actuals : List Value)
    (caller : Option ObjectRef) :
    holds (Machine.callConstructor context depth className definition actuals caller) := by
  unfold Machine.callConstructor
  refine composes.bind (composes.checkActuals _ _) fun _ => ?_
  refine composes.bind (composes.ofThrowing _) fun visible => ?_
  refine composes.bind (creates className) fun object => ?_
  split
  · exact composes.bind (composes.receivePayment _ _ _) fun _ =>
      composes.bind (composes.enter ..) fun _ => composes.pure _
  · exact composes.bind (composes.enter ..) fun _ => composes.pure _

theorem callMethod (depth : Nat) (definition : MethodDefinition) (this : Option ObjectRef)
    (actuals : List Value) (caller : Option ObjectRef) (bounded : Bool) :
    holds (Machine.callMethod context depth definition this actuals caller bounded) := by
  unfold Machine.callMethod
  refine composes.bind (composes.checkActuals _ _) fun _ => ?_
  refine composes.bind (composes.ofThrowing _) fun visible => ?_
  simp only []
  split
  · exact composes.bind (composes.receivePayment _ _ _) fun _ => composes.enter ..
  · exact composes.enter ..

theorem findCalled (method : MethodSignature) (receiver : Option ObjectRef) :
    holds (Machine.findCalled context method receiver) := by
  unfold Machine.findCalled
  cases receiver with
  | none => exact composes.ofThrowing _
  | some object =>
    refine composes.bind (composes.classOf object) fun className => ?_
    simp only []
    split
    · exact composes.fail_bind
    · exact composes.ofThrowing _

theorem invokeFrom (depth : Nat) (this : Option ObjectRef) (method : MethodSignature)
    (receiver : Option ObjectRef) (actuals : List Value) (bounded : Bool) :
    holds (Machine.invokeFrom context depth this method receiver actuals bounded) :=
  composes.bind (composes.findCalled method receiver) fun _ =>
    composes.bind (composes.callerFrom _ this) fun _ => composes.callMethod ..

/-! ### Primitives -/

theorem emitEvent (argument : Value) : holds (Machine.emitEvent context argument) := by
  unfold Machine.emitEvent
  cases argument with
  | reference event =>
    refine composes.bind (composes.isInstance _ _) fun answer => ?_
    simp only []
    split
    · exact composes.fail_bind
    · exact composes.emit event
  | _ => exact composes.fail _

theorem balanceOf (argument : Value) : holds (Machine.balanceOf context argument) := by
  unfold Machine.balanceOf
  cases argument with
  | reference contract =>
    exact composes.bind (composes.getAmount contract .balance) fun _ => composes.pure _
  | _ => exact composes.fail _

theorem concatenate (first second : Value) :
    holds (Machine.concatenate context first second) :=
  composes.bind (composes.ofThrowing _) fun _ => composes.bind (composes.ofThrowing _) fun _ =>
    composes.bind (composes.charge _ _ (by decide)) fun _ => composes.pure _

theorem callPrimitive (primitive : Primitive) (arguments : List Value)
    (caller : Option ObjectRef) :
    holds (Machine.callPrimitive context primitive arguments caller) := by
  unfold Machine.callPrimitive
  split
  · exact composes.pure _
  · cases caller with
    | none => exact composes.fail _
    | some caller => exact composes.pure _
  · exact composes.bind (composes.emitEvent _) fun _ => composes.pure _
  · exact composes.bind (composes.balanceOf _) fun _ => composes.pure _
  · exact composes.bind (composes.concatenate _ _) fun _ => composes.pure _
  · exact composes.bind (composes.ofThrowing _) fun _ => composes.pure _
  · exact composes.fail _

end Composes

end ObjectLedger.Run
