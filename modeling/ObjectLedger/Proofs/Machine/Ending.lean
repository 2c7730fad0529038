/-
**Code ends, or it throws.**

Over a store that can be read no fault of running code comes from inside, and where each instruction
and each new object costs CPU the gas pays for the steps that code can make.

* `CostModel.Endless`: an instruction or a new object costs no CPU. `Fault.Excused`: something was
  thrown, or code does not end under such costs.
* `Heap.Afforded`: all new objects were paid for. `Run.Proceeds`: a part keeps it so, gives back no
  gas it consumed, and stops only with a fault that is excused; closed under sequence.
* **`Machine.proceeds_step`**: a step lowers the number of activations plus twice the gas that is
  left; **`Machine.proceeds_run`**: so the bound on the steps of a run is never met.
* **`Machine.proceeds_construct`**, `Machine.proceeds_invoke`, `Machine.proceeds_invokeStatic`:
  running code for a transaction.
-/
import ObjectLedger.Proofs.Machine.Running
import ObjectLedger.Proofs.Machine.Throwing

namespace ObjectLedger

/-- An instruction costs no CPU, and code can go on for ever, or a new object costs none, and code
can make more of them than a word can number. -/
def CostModel.Endless (costs : CostModel) : Prop :=
  costs.instructionCpu = 0 ∨ costs.allocationCpu = 0

/-- The code threw something, or it does not end and need not pay for that. -/
def Fault.Excused (costs : CostModel) : Fault → Prop
  | .thrown _ => True
  | .internal _ => False
  | .unfinished => costs.Endless

variable {α β : Type} {context : Context} {limit : UInt64} {heap after : Heap}

/-! ### Paying for new objects -/

namespace Heap

/-- The gas account is in balance, and every new object was paid for, if objects cost CPU. -/
structure Afforded (context : Context) (limit : UInt64) (heap : Heap) : Prop where
  balanced : heap.charger.Balanced limit
  numbered : context.costs.allocationCpu ≠ 0 →
    heap.nextProgressive.toNat ≤ heap.charger.consumed.sum

/-- The gas consumed so far. -/
def spent (heap : Heap) : Nat :=
  heap.charger.consumed.sum

theorem Afforded.spent_le (afforded : heap.Afforded context limit) : heap.spent ≤ limit.toNat :=
  afforded.balanced.consumed_le

/-- An account in balance that paid for all objects so far has paid for those that are still to come
as well, as long as it takes no gas back. -/
theorem Afforded.paid (afforded : heap.Afforded context limit)
    (balanced : after.charger.Balanced limit) (spent : heap.spent ≤ after.spent)
    (same : after.nextProgressive = heap.nextProgressive) : after.Afforded context limit :=
  ⟨balanced, fun costly => same ▸ (afforded.numbered costly).trans spent⟩

theorem Read.nextProgressive_eq (read : Read context heap after) :
    after.nextProgressive = heap.nextProgressive := by
  cases read <;> rfl

theorem Read.spent_le (read : Read context heap after) (balanced : heap.charger.Balanced limit) :
    heap.spent ≤ after.spent := by
  cases read with
  | charge paid => exact (Nat.le_add_right _ _).trans (Nat.le_of_eq (balanced.charge paid).2.2.symm)
  | load | fetch => exact Nat.le_refl _

/-- Reading makes no object and gives no gas back. -/
theorem Reading.afforded (reading : Reading context heap after)
    (afforded : heap.Afforded context limit) :
    after.Afforded context limit ∧ heap.spent ≤ after.spent := by
  induction reading with
  | refl => exact ⟨afforded, Nat.le_refl _⟩
  | tail before read ih =>
    have later := read.spent_le ih.1.balanced
    exact ⟨ih.1.paid (read.balanced ih.1.balanced) later read.nextProgressive_eq,
      ih.2.trans later⟩

/-- Writing a field neither makes an object nor costs gas. -/
theorem Write.afforded {object : ObjectRef} {field : FieldSignature} {value : Value}
    (write : Write context object field value heap after)
    (afforded : heap.Afforded context limit) :
    after.Afforded context limit ∧ heap.spent ≤ after.spent := by
  cases write
  exact ⟨afforded.paid afforded.balanced (Nat.le_refl _) rfl, Nat.le_refl _⟩

end Heap

namespace Run

variable {part : Run α} {next : α → Run β}

/-! ### Parts that proceed -/

/-- A part that keeps all new objects paid for, gives back no gas that was consumed, and stops only
with a fault that is excused. -/
structure Proceeds (context : Context) (limit : UInt64) (part : Run α) (heap : Heap)
    (post : α → Heap → Prop) : Prop where
  spec : heap.Afforded context limit → Spec part heap
    (fun value after => after.Afforded context limit ∧ heap.spent ≤ after.spent ∧ post value after)
    (fun fault _ => fault.Excused context.costs)

theorem Proceeds.bind {middle : α → Heap → Prop} {post : β → Heap → Prop}
    (first : Proceeds context limit part heap middle)
    (rest : ∀ value after, middle value after →
      Proceeds context limit (next value) after post) :
    Proceeds context limit (part >>= next) heap post where
  spec afforded := Spec.bind (first.spec afforded) fun value after ends =>
    Spec.imp ((rest value after ends.2.2).spec ends.1)
      (fun _ _ later => ⟨later.1, ends.2.1.trans later.2.1, later.2.2⟩) fun _ _ excused => excused

theorem Proceeds.imp {post later : α → Heap → Prop}
    (proceeds : Proceeds context limit part heap post)
    (ends : ∀ value after, post value after → later value after) :
    Proceeds context limit part heap later where
  spec afforded := Spec.imp (proceeds.spec afforded)
    (fun value after both => ⟨both.1, both.2.1, ends value after both.2.2⟩)
    fun _ _ excused => excused

/-- What was spent before a part is not given back after it. -/
theorem Proceeds.also {post : α → Heap → Prop} (proceeds : Proceeds context limit part heap post) :
    Proceeds context limit part heap
      fun value after => heap.spent ≤ after.spent ∧ post value after where
  spec afforded := Spec.imp (proceeds.spec afforded) (fun _ _ both => ⟨both.1, both.2.1, both.2⟩)
    fun _ _ excused => excused

theorem Proceeds.pure {post : α → Heap → Prop} {value : α} (holds : post value heap) :
    Proceeds context limit (pure value) heap post where
  spec afforded := ⟨afforded, Nat.le_refl _, holds⟩

theorem Proceeds.fail {post : α → Heap → Prop} {throwable : Throwable} :
    Proceeds context limit (fail throwable) heap post where
  spec _ := trivial

theorem Proceeds.fail_bind {post : β → Heap → Prop} {throwable : Throwable} :
    Proceeds context limit (Run.fail throwable >>= next) heap post := by
  have failed : Proceeds context limit (Run.fail throwable : Run α) heap fun _ _ => False :=
    Proceeds.fail
  exact failed.bind fun _ _ impossible => impossible.elim

theorem Proceeds.discard {post : α → Heap → Prop}
    (proceeds : Proceeds context limit part heap post) :
    Proceeds context limit (discard part) heap fun _ _ => True :=
  proceeds.bind fun _ _ _ => Proceeds.pure trivial

theorem Proceeds.get_bind {next : Heap → Run β} {post : β → Heap → Prop}
    (rest : Proceeds context limit (next heap) heap post) :
    Proceeds context limit (get >>= next) heap post :=
  ⟨rest.spec⟩

/-- A part whose fault is known. -/
theorem StopsByThrowing.excused {fault : Fault} (stops : StopsByThrowing part heap)
    (ran : part heap = .error fault after) (costs : CostModel) : fault.Excused costs := by
  obtain ⟨throwable, rfl⟩ := stops fault after ran
  trivial

/-- **A part that only reads proceeds if it stops by throwing.** -/
theorem Reads.proceeds {post : α → Heap → Prop} (reads : Reads context part heap post)
    (stops : StopsByThrowing part heap) : Proceeds context limit part heap post := by
  refine ⟨fun afforded => ?_⟩
  unfold Spec
  cases ran : part heap with
  | ok value after =>
    obtain ⟨reading, holds⟩ := reads.ends ran
    obtain ⟨kept, spent⟩ := Heap.Reading.afforded reading afforded
    exact ⟨kept, spent, holds⟩
  | error fault after => exact stops.excused ran _

/-- **A part that writes a field at its end proceeds if it stops by throwing.** -/
theorem Writes.proceeds {object : ObjectRef} {field : FieldSignature} {value : Value}
    {part : Run Unit} (writes : Writes context object field value part heap)
    (stops : StopsByThrowing part heap) :
    Proceeds context limit part heap fun _ _ => True := by
  refine ⟨fun afforded => ?_⟩
  unfold Spec
  cases ran : part heap with
  | ok _ after =>
    obtain ⟨middle, reading, write⟩ := writes.ends ran
    obtain ⟨kept, spent⟩ := Heap.Reading.afforded reading afforded
    obtain ⟨keptToo, same⟩ := write.afforded kept
    exact ⟨keptToo, spent.trans same, trivial⟩
  | error fault after => exact stops.excused ran _

theorem proceeds_ofThrowing {result : Except Throwable α} :
    Proceeds context limit (ofThrowing result) heap fun value after =>
      result = .ok value ∧ after = heap := by
  cases result with
  | ok value => exact Proceeds.pure ⟨rfl, rfl⟩
  | error throwable => exact Proceeds.fail

/-- A charge is spent. -/
theorem proceeds_charge (purpose : GasUse) (amount : UInt64) :
    Proceeds context limit (charge purpose amount) heap fun _ after =>
      after.spent = heap.spent + amount.toNat ∧ after.nextProgressive = heap.nextProgressive := by
  refine ⟨fun afforded => ?_⟩
  unfold Spec charge
  rw [get_bind_apply]
  cases paid : heap.charger.charge purpose amount with
  | ok charger =>
    obtain ⟨balanced, -, sum⟩ := afforded.balanced.charge paid
    have spent : heap.spent ≤ charger.consumed.sum := by
      rw [sum]
      exact Nat.le_add_right _ _
    exact ⟨afforded.paid balanced spent rfl, spent, sum, rfl⟩
  | error refusal => trivial

theorem proceeds_forM {items : List α} {visit : α → Run Unit}
    (each : ∀ item later, Proceeds context limit (visit item) later fun _ _ => True) :
    Proceeds context limit (items.forM visit) heap fun _ _ => True := by
  induction items generalizing heap with
  | nil => exact Proceeds.pure trivial
  | cons item rest ih => exact (each item heap).bind fun _ _ _ => ih

end Run

namespace Machine

open Run Heap

/-! ### Gas restrictions -/

theorem proceeds_restrictGas (amount : UInt64) :
    Proceeds context limit (restrictGas amount) heap fun _ _ => True := by
  refine ⟨fun afforded => ?_⟩
  unfold Spec restrictGas
  rw [get_bind_apply]
  cases pushed : heap.charger.pushGas amount with
  | ok charger =>
    have spent : heap.spent ≤ charger.consumed.sum :=
      Nat.le_of_eq (congrArg GasConsumed.sum (Charger.consumed_of_pushGas pushed)).symm
    exact ⟨afforded.paid (afforded.balanced.pushGas pushed) spent rfl, spent, trivial⟩
  | error refusal => trivial

theorem proceeds_releaseGas :
    Proceeds context limit releaseGas heap fun _ _ => True := by
  refine ⟨fun afforded => ?_⟩
  have spent : heap.spent ≤ (releaseHeap heap).spent :=
    Nat.le_of_eq (congrArg GasConsumed.sum (Charger.consumed_popGas _)).symm
  exact ⟨afforded.paid afforded.balanced.popGas spent rfl, spent, trivial⟩

/-- What comes after gas that may be given back. -/
theorem proceeds_releaseIf {bounded : Bool} {next : Run α} {post : α → Heap → Prop}
    (rest : ∀ later, Proceeds context limit next later post) :
    Proceeds context limit (do
      if bounded then releaseGas
      next) heap post := by
  simp only []
  split
  · exact proceeds_releaseGas.bind fun _ later _ => rest later
  · exact rest heap

theorem proceeds_releasingOnFault {part : Run α} {post : α → Heap → Prop}
    (proceeds : Proceeds context limit part heap post) :
    Proceeds context limit (releasingOnFault part) heap post := by
  refine ⟨fun afforded => ?_⟩
  have proceeds := proceeds.spec afforded
  unfold Spec releasingOnFault at *
  cases ran : part heap with
  | ok value after =>
    rw [ran] at proceeds
    exact proceeds
  | error fault after =>
    rw [ran] at proceeds
    exact proceeds

/-! ### New objects -/

/-- **A new object is paid for before it gets its number**, so that the numbers last as long as the
gas. -/
theorem proceeds_allocate (className : String) :
    Proceeds context limit (allocate context className) heap fun _ _ => True := by
  refine ⟨fun afforded => ?_⟩
  unfold allocate
  cases found : context.classes.jarOf? className with
  | none => trivial
  | some jar =>
    simp only []
    refine ((proceeds_charge ..).bind fun _ first paid => ?_).spec afforded
    refine (proceeds_charge ..).bind fun _ second paidToo => ?_
    refine Proceeds.get_bind ?_
    have number : second.nextProgressive = heap.nextProgressive := paidToo.2.trans paid.2
    have spent := paidToo.1
    rw [paid.1] at spent
    refine ⟨fun affordedToo => ?_⟩
    have bound := affordedToo.spent_le
    have word := toNat_le_maxWord limit
    -- an object that costs CPU is the first one, or others were paid for before it
    have counted : context.costs.allocationCpu ≠ 0 →
        heap.nextProgressive.toNat + 1 ≤ second.spent := by
      intro costly
      have older : heap.nextProgressive.toNat ≤ heap.spent := afforded.numbered costly
      have some : context.costs.allocationCpu.toNat ≠ 0 := fun zero =>
        costly (UInt64.toNat_inj.mp zero)
      omega
    split
    · rename_i full
      rw [number] at full
      show context.costs.Endless
      refine Or.inr ?_
      by_contra costly
      have enough := counted costly
      omega
    · rename_i room
      refine ⟨⟨affordedToo.balanced, fun costly => ?_⟩, Nat.le_refl _, trivial⟩
      have enough := counted costly
      have small := heap.nextProgressive.toNat_lt
      rw [number] at room
      show (second.nextProgressive + 1).toNat ≤ second.spent
      unfold maxWord at room
      rw [number, UInt64.toNat_add, UInt64.toNat_one, Nat.mod_eq_of_lt (by omega)]
      exact enough

/-! ### Calls -/

section

variable (readable : context.view.Readable)

include readable

theorem proceeds_isInstance (object : ObjectRef) (className : String) :
    Proceeds context limit (isInstance context object className) heap fun _ _ => True :=
  ((reads_isInstance context object className).imp fun _ _ _ => trivial).proceeds
    (stopsByThrowing_isInstance readable className)

theorem proceeds_classOf (object : ObjectRef) :
    Proceeds context limit (classOf context object) heap fun _ _ => True :=
  ((reads_classOf context object).imp fun _ _ _ => trivial).proceeds
    (stopsByThrowing_classOf readable)

theorem proceeds_getField (object : ObjectRef) (field : FieldSignature) :
    Proceeds context limit (getField context object field) heap fun _ _ => True :=
  ((reads_getField context object field).imp fun _ _ _ => trivial).proceeds
    (stopsByThrowing_getField readable)

theorem proceeds_getAmount (object : ObjectRef) (field : FieldSignature) :
    Proceeds context limit (getAmount context object field) heap fun _ _ => True :=
  ((reads_getAmount context object field).imp fun _ _ _ => trivial).proceeds
    (stopsByThrowing_getAmount readable)

theorem proceeds_setField (object : ObjectRef) (field : FieldSignature) (value : Value) :
    Proceeds context limit (setField context object field value) heap fun _ _ => True :=
  (writes_setField context object field value).proceeds (stopsByThrowing_setField readable value)

theorem proceeds_checkActual (formal : ValueType) (actual : Value) :
    Proceeds context limit (checkActual context formal actual) heap fun _ _ => True := by
  unfold checkActual
  simp only []
  split
  · exact Proceeds.fail_bind
  · split
    · refine (proceeds_isInstance readable _ _).bind fun answer after _ => ?_
      split
      · exact Proceeds.fail
      · exact Proceeds.pure trivial
    · exact Proceeds.pure trivial

theorem proceeds_checkActuals (formals : List ValueType) (actuals : List Value) :
    Proceeds context limit (checkActuals context formals actuals) heap fun _ _ => True := by
  unfold checkActuals
  simp only []
  split
  · exact Proceeds.fail_bind
  · exact proceeds_forM fun pair later => proceeds_checkActual readable pair.1 pair.2

theorem proceeds_callerFrom (annotations : Annotations) (this : Option ObjectRef) :
    Proceeds context limit (callerFrom context annotations this) heap fun _ _ => True := by
  unfold callerFrom
  simp only []
  split
  · exact Proceeds.pure trivial
  · cases this with
    | none => exact Proceeds.fail
    | some object =>
      refine (proceeds_isInstance readable _ _).bind fun answer after _ => ?_
      split
      · exact Proceeds.pure trivial
      · exact Proceeds.fail

theorem proceeds_receivePayment (caller receiver : Option ObjectRef) (actuals : List Value) :
    Proceeds context limit (receivePayment context caller receiver actuals) heap
      fun _ _ => True := by
  unfold receivePayment
  cases caller with
  | none => exact Proceeds.fail
  | some payer =>
    cases receiver with
    | none => exact Proceeds.fail
    | some payee =>
      refine proceeds_ofThrowing.bind fun amount _ _ => ?_
      refine (proceeds_getAmount readable payer .balance).bind fun balance _ _ => ?_
      simp only []
      split
      · exact Proceeds.fail_bind
      · refine (proceeds_setField readable payer .balance _).bind fun _ _ _ => ?_
        refine (proceeds_getAmount readable payee .balance).bind fun received _ _ => ?_
        cases Amount.ofNat? (received.toNat + amount.toNat) with
        | none => exact Proceeds.fail
        | some total => exact proceeds_setField readable payee .balance _

omit readable in
theorem proceeds_enter (depth : Nat) (code : List Instruction) (locals : List Value)
    (extraLocals : UInt16) (this caller : Option ObjectRef) (yields : Yield) (bounded : Bool) :
    Proceeds context limit (enter context depth code locals extraLocals this caller yields bounded)
      heap fun _ _ => True := by
  unfold enter
  simp only []
  split
  · exact Proceeds.fail_bind
  · refine (proceeds_charge ..).bind fun _ _ _ => ?_
    exact (proceeds_charge ..).bind fun _ _ _ => Proceeds.pure trivial

theorem proceeds_callConstructor (depth : Nat) (className : String)
    (definition : ConstructorDefinition) (actuals : List Value) (caller : Option ObjectRef) :
    Proceeds context limit (callConstructor context depth className definition actuals caller) heap
      fun _ _ => True := by
  unfold callConstructor
  refine (proceeds_checkActuals readable ..).bind fun _ _ _ => ?_
  refine proceeds_ofThrowing.bind fun visible _ _ => ?_
  refine (proceeds_allocate className).bind fun object after _ => ?_
  have entered : ∀ later, Proceeds context limit (do
      let frame ← enter context depth definition.code (.reference object :: actuals)
        definition.locals (some object) visible (.object object) false
      return (object, frame)) later fun _ _ => True :=
    fun later => (proceeds_enter ..).bind fun _ _ _ => Proceeds.pure trivial
  split
  · exact (proceeds_receivePayment readable ..).bind fun _ later _ => entered later
  · exact entered after

theorem proceeds_callMethod (depth : Nat) (definition : MethodDefinition) (this : Option ObjectRef)
    (actuals : List Value) (caller : Option ObjectRef) (bounded : Bool) :
    Proceeds context limit (callMethod context depth definition this actuals caller bounded) heap
      fun _ _ => True := by
  unfold callMethod
  refine (proceeds_checkActuals readable ..).bind fun _ _ _ => ?_
  refine proceeds_ofThrowing.bind fun visible after _ => ?_
  simp only []
  split
  · exact (proceeds_receivePayment readable ..).bind fun _ later _ => proceeds_enter ..
  · exact proceeds_enter ..

theorem proceeds_findCalled (method : MethodSignature) (receiver : Option ObjectRef) :
    Proceeds context limit (findCalled context method receiver) heap fun _ _ => True := by
  unfold findCalled
  cases receiver with
  | none => exact proceeds_ofThrowing.imp fun _ _ _ => trivial
  | some object =>
    refine (proceeds_classOf readable object).bind fun className after _ => ?_
    simp only []
    split
    · exact Proceeds.fail_bind
    · exact proceeds_ofThrowing.imp fun _ _ _ => trivial

theorem proceeds_invokeFrom (depth : Nat) (this : Option ObjectRef) (method : MethodSignature)
    (receiver : Option ObjectRef) (actuals : List Value) (bounded : Bool) :
    Proceeds context limit (invokeFrom context depth this method receiver actuals bounded) heap
      fun _ _ => True := by
  unfold invokeFrom
  refine (proceeds_findCalled readable method receiver).bind fun definition _ _ => ?_
  refine (proceeds_callerFrom readable ..).bind fun caller _ _ => ?_
  exact proceeds_callMethod readable ..

/-! ### Primitives -/

theorem proceeds_emitEvent (argument : Value) :
    Proceeds context limit (emitEvent context argument) heap fun _ _ => True := by
  unfold emitEvent
  cases argument with
  | reference event =>
    refine (proceeds_isInstance readable event ClassName.event).bind fun answer after _ => ?_
    simp only []
    split
    · exact Proceeds.fail_bind
    · exact ⟨fun afforded =>
        ⟨afforded.paid afforded.balanced (Nat.le_refl _) rfl, Nat.le_refl _, trivial⟩⟩
  | _ => exact Proceeds.fail

theorem proceeds_balanceOf (argument : Value) :
    Proceeds context limit (balanceOf context argument) heap fun _ _ => True := by
  unfold balanceOf
  cases argument with
  | reference contract =>
    exact (proceeds_getAmount readable contract .balance).bind fun _ _ _ => Proceeds.pure trivial
  | _ => exact Proceeds.fail

omit readable in
theorem proceeds_concatenate (first second : Value) :
    Proceeds context limit (concatenate context first second) heap fun _ _ => True := by
  unfold concatenate
  refine proceeds_ofThrowing.bind fun _ _ _ => ?_
  refine proceeds_ofThrowing.bind fun _ _ _ => ?_
  exact (proceeds_charge ..).bind fun _ _ _ => Proceeds.pure trivial

theorem proceeds_callPrimitive (primitive : Primitive) (arguments : List Value)
    (caller : Option ObjectRef) :
    Proceeds context limit (callPrimitive context primitive arguments caller) heap
      fun _ _ => True := by
  unfold callPrimitive
  split
  · exact Proceeds.pure trivial
  · cases caller with
    | none => exact Proceeds.fail
    | some caller => exact Proceeds.pure trivial
  · exact (proceeds_emitEvent readable _).bind fun _ _ _ => Proceeds.pure trivial
  · exact (proceeds_balanceOf readable _).bind fun _ _ _ => Proceeds.pure trivial
  · exact (proceeds_concatenate _ _).bind fun _ _ _ => Proceeds.pure trivial
  · exact proceeds_ofThrowing.bind fun _ _ _ => Proceeds.pure trivial
  · exact Proceeds.fail

/-! ### Steps -/

/-- The number of activations. -/
def Status.depth : Status → Nat
  | .running _ callers => callers.length + 1
  | .finished _ => 0

omit readable in
theorem proceeds_leave (frame : Frame) (callers : List Frame) (result : Option Value) :
    Proceeds context limit (leave frame callers result) heap
      fun status _ => status.depth ≤ callers.length := by
  unfold leave
  refine proceeds_releaseIf fun later => ?_
  cases callers with
  | nil => exact Proceeds.pure (Nat.le_refl _)
  | cons caller rest => exact Proceeds.pure (Nat.le_refl _)

/-- An instruction adds at most one activation. -/
theorem proceeds_execute (frame : Frame) (callers : List Frame) (instruction : Instruction) :
    Proceeds context limit (execute context frame callers instruction) heap
      fun status _ => status.depth ≤ callers.length + 2 := by
  have stays : ∀ (frame : Frame) later, Proceeds context limit
      (pure (.running frame callers) : Run Status) later
      fun status _ => status.depth ≤ callers.length + 2 :=
    fun _ _ => Proceeds.pure (Nat.le_succ _)
  have calls : ∀ (called frame : Frame) later, Proceeds context limit
      (pure (.running called (frame :: callers)) : Run Status) later
      fun status _ => status.depth ≤ callers.length + 2 :=
    fun _ _ _ => Proceeds.pure (Nat.le_refl _)
  cases alone : frame.alone? instruction with
  | some result =>
    rw [execute_of_alone? alone]
    exact proceeds_ofThrowing.bind fun _ _ _ => stays _ _
  | none =>
    cases instruction with
    | new constructor =>
      refine proceeds_ofThrowing.bind fun operands _ _ => ?_
      refine proceeds_ofThrowing.bind fun definition _ _ => ?_
      refine (proceeds_callerFrom readable ..).bind fun caller _ _ => ?_
      exact (proceeds_callConstructor readable ..).bind fun called _ _ => calls _ _ _
    | getField field =>
      refine (proceeds_charge ..).bind fun _ _ _ => ?_
      refine proceeds_ofThrowing.bind fun operand _ _ => ?_
      exact (proceeds_getField readable _ _).bind fun value _ _ => stays _ _
    | putField field =>
      refine (proceeds_charge ..).bind fun _ _ _ => ?_
      refine proceeds_ofThrowing.bind fun value _ _ => ?_
      refine proceeds_ofThrowing.bind fun object _ _ => ?_
      exact (proceeds_setField readable ..).bind fun _ _ _ => stays _ _
    | invoke method dispatch =>
      refine proceeds_ofThrowing.bind fun operands _ _ => ?_
      refine proceeds_ofThrowing.bind fun receiver _ _ => ?_
      exact (proceeds_invokeFrom readable ..).bind fun called _ _ => calls _ _ _
    | invokeWithGas method dispatch =>
      refine proceeds_ofThrowing.bind fun operands _ _ => ?_
      refine proceeds_ofThrowing.bind fun receiver _ _ => ?_
      refine proceeds_ofThrowing.bind fun amount _ _ => ?_
      refine (proceeds_restrictGas _).bind fun _ _ _ => ?_
      exact (proceeds_releasingOnFault (proceeds_invokeFrom readable ..)).bind
        fun called _ _ => calls _ _ _
    | native name arity =>
      refine proceeds_ofThrowing.bind fun primitive _ _ => ?_
      refine (proceeds_charge ..).bind fun _ _ _ => ?_
      refine proceeds_ofThrowing.bind fun operands _ _ => ?_
      exact (proceeds_callPrimitive readable ..).bind fun result _ _ => stays _ _
    | ret =>
      exact proceeds_ofThrowing.bind fun result _ _ =>
        (proceeds_leave ..).imp fun _ _ fewer => fewer.trans (Nat.le_add_right _ _)
    | throw className checked => exact proceeds_ofThrowing.bind fun _ _ _ => Proceeds.fail
    | _ => cases alone

/-- **A step lowers the number of activations plus twice the gas that is left**, where instructions
cost CPU: an instruction adds one activation at most and takes gas, an end takes an activation. -/
theorem proceeds_step (frame : Frame) (callers : List Frame) :
    Proceeds context limit (step context frame callers) heap fun status after =>
      context.costs.instructionCpu ≠ 0 →
        status.depth + 2 * heap.spent ≤ callers.length + 2 * after.spent := by
  unfold step
  cases frame.code[frame.position]? with
  | none =>
    refine proceeds_ofThrowing.bind fun result after same => ?_
    obtain ⟨-, rfl⟩ := same
    refine (proceeds_leave ..).also.imp fun status last both _ => ?_
    obtain ⟨spent, fewer⟩ := both
    omega
  | some instruction =>
    refine (proceeds_charge ..).bind fun _ after paid => ?_
    refine (proceeds_execute readable ..).also.imp fun status last both costly => ?_
    obtain ⟨spent, more⟩ := both
    have some : context.costs.instructionCpu.toNat ≠ 0 := fun zero =>
      costly (UInt64.toNat_inj.mp zero)
    have first := paid.1
    omega

/-- **A run does not meet the bound on its steps**, if that is at least the number of activations
plus twice the gas that is left. -/
theorem proceeds_run (fuel : Nat) (status : Status)
    (enough : context.costs.instructionCpu ≠ 0 →
      status.depth + 2 * limit.toNat ≤ fuel + 2 * heap.spent) :
    Proceeds context limit (run context fuel status) heap fun _ _ => True := by
  refine ⟨fun afforded => spec_run (fun fuel status now => now.Afforded context limit ∧
    heap.spent ≤ now.spent ∧ (context.costs.instructionCpu ≠ 0 →
      status.depth + 2 * limit.toNat ≤ fuel + 2 * now.spent)) ?_ ?_ ?_
      ⟨afforded, Nat.le_refl _, enough⟩⟩
  · exact fun _ _ _ kept => ⟨kept.1, kept.2.1, trivial⟩
  · intro frame callers now kept
    obtain ⟨afforded, -, enough⟩ := kept
    refine Or.inl ?_
    by_contra costly
    have enough : callers.length + 1 + 2 * limit.toNat ≤ 0 + 2 * now.spent := enough costly
    have bound := afforded.spent_le
    omega
  · intro fuel frame callers now kept
    obtain ⟨afforded, spent, enough⟩ := kept
    refine Spec.imp ((proceeds_step readable frame callers).spec afforded)
      (fun status after later => ?_) fun _ _ excused => excused
    obtain ⟨afforded, more, lower⟩ := later
    refine ⟨afforded, spent.trans more, fun costly => ?_⟩
    have enough : callers.length + 1 + 2 * limit.toNat ≤ fuel + 1 + 2 * now.spent := enough costly
    have lower := lower costly
    omega

/-- The bound that is used is great enough. -/
theorem proceeds_runFrame (frame : Frame) :
    Proceeds context limit (runFrame context frame) heap fun _ _ => True := by
  refine ⟨fun afforded => ?_⟩
  unfold runFrame
  refine (Proceeds.get_bind (proceeds_run readable _ _ fun _ => ?_)).spec afforded
  have unused := afforded.balanced.unused
  unfold stepBound Status.depth spent
  simp only [List.length_nil]
  omega

/-! ### Running code for a transaction -/

/-- **A constructor that runs ends, or something was thrown.** -/
theorem proceeds_construct (caller : ObjectRef) (constructor : ConstructorSignature)
    (actuals : List Value) :
    Proceeds context limit (construct context caller constructor actuals) heap fun _ _ => True := by
  unfold construct
  refine proceeds_ofThrowing.bind fun definition _ _ => ?_
  refine (proceeds_callConstructor readable ..).bind fun called _ _ => ?_
  exact (proceeds_runFrame readable _).discard.bind fun _ _ _ => Proceeds.pure trivial

theorem proceeds_invoke (caller : ObjectRef) (method : MethodSignature) (receiver : ObjectRef)
    (actuals : List Value) :
    Proceeds context limit (invoke context caller method receiver actuals) heap
      fun _ _ => True := by
  unfold invoke
  refine (proceeds_isInstance readable _ _).bind fun answer _ _ => ?_
  simp only []
  split
  · exact Proceeds.fail_bind
  · refine (proceeds_classOf readable receiver).bind fun className _ _ => ?_
    refine proceeds_ofThrowing.bind fun definition _ _ => ?_
    refine (proceeds_callMethod readable ..).bind fun frame _ _ => ?_
    exact proceeds_runFrame readable frame

theorem proceeds_invokeStatic (caller : ObjectRef) (method : MethodSignature)
    (actuals : List Value) :
    Proceeds context limit (invokeStatic context caller method actuals) heap fun _ _ => True := by
  unfold invokeStatic
  refine proceeds_ofThrowing.bind fun definition _ _ => ?_
  refine (proceeds_callMethod readable ..).bind fun frame _ _ => ?_
  exact proceeds_runFrame readable frame

end

end Machine

end ObjectLedger
