/-
**Running code only moves the heap.**

* `Run.Leads`: a part that makes only moves, which write only some fields. A fault can leave a
  payment half made, but never a checked throwable.
* **`Machine.leads_receivePayment`**: a payment is one transfer.
* **`Machine.leads_execute`**: one instruction. **`Machine.spec_run`**: what every step keeps holds at
  the end of a run. `Machine.leads_run`: a run.
* **`Machine.leads_construct`**, `Machine.leads_invoke`, `Machine.leads_invokeStatic`: code that
  writes only some fields, run for a transaction.
-/
import ObjectLedger.Proofs.Code.Writing
import ObjectLedger.Proofs.Machine.Operands
import ObjectLedger.Proofs.Machine.Reading

namespace ObjectLedger

variable {α β : Type} {context : Context} {writable : FieldSignature → Prop} {heap : Heap}

/-! ### Parts that move the heap -/

namespace Run

variable {part : Run α} {next : α → Run β}

/-- A part that makes only moves. After a fault other fields may have been written, unless a checked
throwable was thrown. -/
def Leads (context : Context) (writable : FieldSignature → Prop) (part : Run α) (heap : Heap)
    (post : α → Heap → Prop) : Prop :=
  Spec part heap
    (fun value after => Heap.Moves context writable heap after ∧ post value after)
    (fun fault after => Heap.Moves context Heap.anything heap after ∧
      (fault.isChecked = true → Heap.Moves context writable heap after))

theorem Leads.bind {middle : α → Heap → Prop} {post : β → Heap → Prop}
    (first : Leads context writable part heap middle)
    (rest : ∀ value after, middle value after → Leads context writable (next value) after post) :
    Leads context writable (part >>= next) heap post :=
  Spec.bind first fun value after ends =>
    (rest value after ends.2).imp (fun _ _ later => ⟨ends.1.trans later.1, later.2⟩)
      fun _ _ later => ⟨(Heap.Moves.loose ends.1).trans later.1,
        fun checked => ends.1.trans (later.2 checked)⟩

theorem Leads.imp {post later : α → Heap → Prop} (leads : Leads context writable part heap post)
    (ends : ∀ value after, post value after → later value after) :
    Leads context writable part heap later :=
  Spec.imp leads (fun value after both => ⟨both.1, ends value after both.2⟩) fun _ _ both => both

theorem Leads.pure {post : α → Heap → Prop} {value : α} (holds : post value heap) :
    Leads context writable (pure value) heap post :=
  ⟨.refl, holds⟩

theorem Leads.throw {post : α → Heap → Prop} {fault : Fault} :
    Leads context writable (throw fault) heap post :=
  ⟨.refl, fun _ => .refl⟩

theorem Leads.fail {post : α → Heap → Prop} {throwable : Throwable} :
    Leads context writable (fail throwable) heap post :=
  Leads.throw

theorem Leads.fail_bind {post : β → Heap → Prop} {throwable : Throwable} :
    Leads context writable (Run.fail throwable >>= next) heap post := by
  have failed : Leads context writable (Run.fail throwable : Run α) heap fun _ _ => False :=
    Leads.fail
  exact failed.bind fun _ _ impossible => impossible.elim

theorem Leads.discard {post : α → Heap → Prop} (leads : Leads context writable part heap post) :
    Leads context writable (discard part) heap fun _ after => ∃ value, post value after :=
  leads.bind fun value _ ends => Leads.pure ⟨value, ends⟩

theorem Leads.get_bind {next : Heap → Run β} {post : β → Heap → Prop}
    (rest : Leads context writable (next heap) heap post) :
    Leads context writable (get >>= next) heap post :=
  rest

theorem Reads.leads {post : α → Heap → Prop} (reads : Reads context part heap post) :
    Leads context writable part heap post :=
  Spec.imp reads (fun _ _ both => ⟨Heap.Reading.moves both.1, both.2⟩) fun _ _ both =>
    ⟨Heap.Reading.moves both.1, fun _ => Heap.Reading.moves both.1⟩

theorem Writes.leads {object : ObjectRef} {field : FieldSignature} {value : Value}
    {part : Run Unit} (writes : Writes context object field value part heap)
    (may : writable field) : Leads context writable part heap fun _ _ => True := by
  refine Spec.imp writes (fun _ after written => ⟨?_, trivial⟩) fun _ _ both =>
    ⟨Heap.Reading.moves both.1, fun _ => Heap.Reading.moves both.1⟩
  obtain ⟨middle, reading, write⟩ := written
  exact (Heap.Reading.moves reading).tail (.write may write)

theorem leads_ofThrowing {result : Except Throwable α} :
    Leads context writable (ofThrowing result) heap fun value after =>
      result = .ok value ∧ after = heap := by
  cases result with
  | ok value => exact Leads.pure ⟨rfl, rfl⟩
  | error throwable => exact Leads.fail

theorem reads_forM {items : List α} {visit : α → Run Unit}
    (each : ∀ item later, Reads context (visit item) later fun _ _ => True) :
    Reads context (items.forM visit) heap fun _ _ => True := by
  induction items generalizing heap with
  | nil => exact Reads.pure trivial
  | cons item rest ih => exact (each item heap).bind fun _ _ _ => ih

end Run

/-- The object is there, and it is a contract. -/
def Heap.HasContract (context : Context) (heap : Heap) (object : ObjectRef) : Prop :=
  ∃ loaded, heap.objects.get? object = some loaded ∧
    context.classes.isSubclass loaded.className ClassName.contract = true

namespace Machine

open Run Heap

/-! ### Parts of calls -/

theorem reads_checkActual (formal : ValueType) (actual : Value) :
    Reads context (checkActual context formal actual) heap fun _ _ => True := by
  unfold checkActual
  simp only []
  split
  · exact Reads.fail_bind rfl
  · split
    · refine (reads_isInstance context _ _).bind fun answer after _ => ?_
      split
      · exact Reads.fail rfl
      · exact Reads.pure trivial
    · exact Reads.pure trivial

theorem reads_checkActuals (formals : List ValueType) (actuals : List Value) :
    Reads context (checkActuals context formals actuals) heap fun _ _ => True := by
  unfold checkActuals
  simp only []
  split
  · exact Reads.fail_bind rfl
  · exact reads_forM fun pair later => reads_checkActual pair.1 pair.2

/-- The caller that code called by an activation sees is what the activation works on: a contract. -/
theorem reads_callerFrom (annotations : Annotations) (this : Option ObjectRef) :
    Reads context (callerFrom context annotations this) heap fun caller after =>
      ∀ who, caller = some who →
        annotations.fromContract = true ∧ this = some who ∧ after.HasContract context who := by
  unfold callerFrom
  cases marked : annotations.fromContract with
  | false => exact Reads.pure fun who same => by cases same
  | true =>
    cases this with
    | none => exact Reads.fail rfl
    | some object =>
      refine (reads_isInstance context _ _).bind fun answer after found => ?_
      obtain ⟨loaded, present, rfl⟩ := found
      split
      · rename_i kind
        refine Reads.pure fun who same => ?_
        cases same
        exact ⟨rfl, rfl, loaded, present, kind⟩
      · exact Reads.fail rfl

theorem reads_enter (depth : Nat) (code : List Instruction) (locals : List Value)
    (extraLocals : UInt16) (this caller : Option ObjectRef) (yields : Yield) (bounded : Bool) :
    Reads context (enter context depth code locals extraLocals this caller yields bounded) heap
      fun frame _ => frame.code = code ∧ frame.caller = caller := by
  unfold enter
  simp only []
  split
  · exact Reads.fail_bind rfl
  · refine (reads_charge ..).bind fun _ _ _ => ?_
    exact (reads_charge ..).bind fun _ _ _ => Reads.pure ⟨rfl, rfl⟩

/-- A new object is numbered under the transaction that runs, and it is there. -/
theorem leads_allocate (className : String) :
    Leads context writable (allocate context className) heap fun object after =>
      object.transaction = context.transaction ∧ (after.objects.get? object).isSome := by
  unfold allocate
  cases found : context.classes.jarOf? className with
  | none => exact Leads.fail
  | some jar =>
    simp only []
    refine (reads_charge ..).leads.bind fun _ first _ => ?_
    refine (reads_charge ..).leads.bind fun _ second _ => ?_
    refine Leads.get_bind ?_
    split
    · exact Leads.throw.bind fun _ _ impossible => (impossible : False).elim
    · rename_i room
      refine ⟨.single (.allocate found room), rfl, ?_⟩
      rw [Table.get?_insert_self]
      rfl

/-- **A payment is one transfer**, and one that does not come to its end throws nothing checked. -/
theorem leads_receivePayment (caller receiver : Option ObjectRef) (actuals : List Value) :
    Leads context writable (receivePayment context caller receiver actuals) heap
      fun _ _ => True := by
  unfold receivePayment
  cases caller with
  | none => exact Leads.fail
  | some payer =>
    cases receiver with
    | none => exact Leads.fail
    | some payee =>
      refine leads_ofThrowing.bind fun amount first _ => ?_
      refine (reads_getAmount context payer .balance).leads.bind fun balance before owned => ?_
      obtain ⟨loaded, present, has, owned⟩ := owned
      simp only []
      split
      · exact Leads.fail_bind
      · rename_i enough
        have paying := setField_eq context present has
          (show (Value.bigInteger (balance - amount)).fits FieldSignature.balance.type = true from rfl)
          rfl
        have taken : Write context payer .balance (.bigInteger (balance - amount)) before
            (before.put payer (written loaded .balance (.bigInteger (balance - amount)))) :=
          .intro present has rfl (fun lazy => by cases lazy) fun _ named => by cases named
        -- from here on a fault leaves the payment half made
        have half : ∀ (fault : Fault) (after : Heap),
            Reading context (before.put payer (written loaded .balance _)) after ∧
              fault.isChecked = false → Moves context anything before after ∧
              (fault.isChecked = true → Moves context writable before after) :=
          fun fault after both => ⟨(Relation.ReflTransGen.single (.write trivial taken)).trans
            (Reading.moves both.1), fun checked => by rw [both.2] at checked; cases checked⟩
        refine Spec.bind_of_eq paying ?_
        refine Spec.bind (Spec.imp (reads_getAmount context payee .balance)
          (fun _ _ both => both) half) fun received read found => ?_
        obtain ⟨between, receiver, there, hasToo, held⟩ := found
        cases sum : Amount.ofNat? (received.toNat + amount.toNat) with
        | none => exact half _ _ ⟨between, rfl⟩
        | some total =>
          obtain ⟨room, rfl⟩ := Amount.ofNat?_eq_some.mp sum
          have given : Write context payee .balance
              (.bigInteger (BitVec.ofNat 128 (received.toNat + amount.toNat))) read
              (read.put payee (written receiver .balance _)) :=
            .intro there hasToo rfl (fun lazy => by cases lazy) fun _ named => by cases named
          exact Spec.of_eq (setField_eq context there hasToo rfl rfl) ⟨.single (.pay
            (.intro present owned (by omega) taken between there held room given)), trivial⟩

theorem leads_restrictGas (amount : UInt64) :
    Leads context writable (restrictGas amount) heap fun _ _ => True := by
  unfold restrictGas
  refine Leads.get_bind ?_
  cases pushed : heap.charger.pushGas amount with
  | ok charger => exact ⟨.single (.restrict pushed), trivial⟩
  | error refusal => exact Leads.fail

theorem leads_releaseGas : Leads context writable releaseGas heap fun _ _ => True :=
  ⟨.single .release, trivial⟩

/-- What comes after gas that may be given back. -/
theorem leads_releaseIf {α : Type} {bounded : Bool} {next : Run α} {post : α → Heap → Prop}
    (rest : ∀ later, Leads context writable next later post) :
    Leads context writable (do
      if bounded then releaseGas
      next) heap post := by
  simp only []
  split
  · exact leads_releaseGas.bind fun _ later _ => rest later
  · exact rest heap

theorem leads_releasingOnFault {α : Type} {part : Run α} {post : α → Heap → Prop}
    (leads : Leads context writable part heap post) :
    Leads context writable (releasingOnFault part) heap post := by
  unfold Leads Spec releasingOnFault at *
  cases result : part heap with
  | ok value after =>
    rw [result] at leads
    exact leads
  | error fault after =>
    rw [result] at leads
    exact ⟨leads.1.tail .release, fun checked => (leads.2 checked).tail .release⟩

/-- Giving up activations only gives back gas. -/
theorem moves_unwind (frames : List Frame) (heap : Heap) :
    Moves context writable heap (unwind frames heap) := by
  unfold unwind
  induction frames.filter Frame.bounded generalizing heap with
  | nil => exact .refl
  | cons frame rest ih => exact .head .release (ih _)

/-! ### Calls -/

theorem leads_callConstructor (depth : Nat) (className : String)
    {definition : ConstructorDefinition} (code : WritesOnly writable definition.code)
    (actuals : List Value) (caller : Option ObjectRef) :
    Leads context writable (callConstructor context depth className definition actuals caller) heap
      fun result _ => WritesOnly writable result.2.code := by
  unfold callConstructor
  refine (reads_checkActuals ..).leads.bind fun _ _ _ => ?_
  refine leads_ofThrowing.bind fun visible _ _ => ?_
  refine (leads_allocate className).bind fun object after _ => ?_
  have entered : ∀ later, Leads context writable (do
      let frame ← enter context depth definition.code (.reference object :: actuals)
        definition.locals (some object) visible (.object object) false
      return (object, frame)) later fun result _ => WritesOnly writable result.2.code :=
    fun later => (reads_enter ..).leads.bind fun frame _ same => Leads.pure (same.1 ▸ code)
  split
  · exact (leads_receivePayment ..).bind fun _ later _ => entered later
  · exact entered after

theorem leads_callMethod (depth : Nat) {definition : MethodDefinition}
    (code : WritesOnly writable definition.code) (this : Option ObjectRef) (actuals : List Value)
    (caller : Option ObjectRef) (bounded : Bool) :
    Leads context writable (callMethod context depth definition this actuals caller bounded) heap
      fun frame _ => WritesOnly writable frame.code := by
  unfold callMethod
  refine (reads_checkActuals ..).leads.bind fun _ _ _ => ?_
  refine leads_ofThrowing.bind fun visible after _ => ?_
  have entered : ∀ yields later, Leads context writable (enter context depth definition.code
      (this.toList.map Value.reference ++ actuals) definition.locals this visible yields bounded)
      later fun frame _ => WritesOnly writable frame.code :=
    fun _ _ => (reads_enter ..).leads.imp fun frame _ same => same.1 ▸ code
  simp only []
  split
  · exact (leads_receivePayment ..).bind fun _ later _ => entered _ later
  · exact entered _ after

/-- All code writes what can be written at all. -/
theorem writesOnly_anything (classes : LinkedClasspath) : classes.WritesOnly anything :=
  fun _ _ => ⟨fun _ _ _ _ => trivial, fun _ _ _ _ => trivial⟩

theorem writesOnly_of_findConstructor (restricted : context.classes.WritesOnly writable)
    {constructor : ConstructorSignature} {definition : ConstructorDefinition}
    (found : findConstructor context constructor = .ok definition) :
    WritesOnly writable definition.code := by
  unfold findConstructor at found
  split at found
  · rename_i known
    cases found
    exact restricted.constructor known
  · cases found

/-- The instance method of a class is the one that its chain leads to, if that is not static. -/
theorem resolved_of_findInstanceMethod {className : String} {method : MethodSignature}
    {definition : MethodDefinition}
    (found : findInstanceMethod context className method = .ok definition) :
    ∃ owner, context.classes.resolveMethod? className method = some (owner, definition) ∧
      definition.isStatic = false := by
  unfold findInstanceMethod at found
  simp only [] at found
  split at found
  · rename_i owner _ known
    split at found
    · cases found
    · rename_i dynamic
      cases found
      exact ⟨owner, known, Bool.eq_false_of_not_eq_true dynamic⟩
  · cases found

theorem writesOnly_of_findInstanceMethod (restricted : context.classes.WritesOnly writable)
    {className : String} {method : MethodSignature} {definition : MethodDefinition}
    (found : findInstanceMethod context className method = .ok definition) :
    WritesOnly writable definition.code := by
  obtain ⟨owner, known, -⟩ := resolved_of_findInstanceMethod found
  exact restricted.method known

theorem writesOnly_of_findStaticMethod (restricted : context.classes.WritesOnly writable)
    {method : MethodSignature} {definition : MethodDefinition}
    (found : findStaticMethod context method = .ok definition) :
    WritesOnly writable definition.code := by
  unfold findStaticMethod at found
  simp only [] at found
  split at found
  · rename_i known
    split at found
    · cases found
      exact restricted.method known
    · cases found
  · cases found

theorem leads_findCalled (restricted : context.classes.WritesOnly writable)
    (method : MethodSignature) (receiver : Option ObjectRef) :
    Leads context writable (findCalled context method receiver) heap
      fun definition _ => WritesOnly writable definition.code := by
  unfold findCalled
  cases receiver with
  | none =>
    exact leads_ofThrowing.imp fun _ _ found => writesOnly_of_findStaticMethod restricted found.1
  | some object =>
    refine (reads_classOf context object).leads.bind fun className after _ => ?_
    simp only []
    split
    · exact Leads.fail_bind
    · exact leads_ofThrowing.imp fun _ _ found =>
        writesOnly_of_findInstanceMethod restricted found.1

theorem leads_invokeFrom (restricted : context.classes.WritesOnly writable) (depth : Nat)
    (this : Option ObjectRef) (method : MethodSignature) (receiver : Option ObjectRef)
    (actuals : List Value) (bounded : Bool) :
    Leads context writable (invokeFrom context depth this method receiver actuals bounded) heap
      fun frame _ => WritesOnly writable frame.code := by
  unfold invokeFrom
  refine (leads_findCalled restricted method receiver).bind fun definition _ code => ?_
  refine (reads_callerFrom ..).leads.bind fun caller _ _ => ?_
  exact leads_callMethod depth code receiver actuals caller bounded

/-! ### Primitives -/

theorem leads_emitEvent (argument : Value) :
    Leads context writable (emitEvent context argument) heap fun _ _ => True := by
  unfold emitEvent
  cases argument with
  | reference event =>
    refine (reads_isInstance context event ClassName.event).leads.bind fun answer after found => ?_
    obtain ⟨loaded, present, rfl⟩ := found
    simp only []
    split
    · exact Leads.fail_bind
    · rename_i kind
      exact ⟨.single (.emit present (by simpa using kind)), trivial⟩
  | _ => exact Leads.fail

theorem reads_balanceOf (argument : Value) :
    Reads context (balanceOf context argument) heap fun _ _ => True := by
  unfold balanceOf
  cases argument with
  | reference contract =>
    exact (reads_getAmount context contract .balance).bind fun _ _ _ => Reads.pure trivial
  | _ => exact Reads.fail rfl

theorem leads_concatenate (first second : Value) :
    Leads context writable (concatenate context first second) heap fun _ _ => True := by
  unfold concatenate
  refine leads_ofThrowing.bind fun _ _ _ => ?_
  refine leads_ofThrowing.bind fun _ _ _ => ?_
  exact (reads_charge ..).leads.bind fun _ _ _ => Leads.pure trivial

theorem leads_callPrimitive (primitive : Primitive) (arguments : List Value)
    (caller : Option ObjectRef) :
    Leads context writable (callPrimitive context primitive arguments caller) heap
      fun _ _ => True := by
  unfold callPrimitive
  split
  · exact Leads.pure trivial
  · cases caller with
    | none => exact Leads.fail
    | some caller => exact Leads.pure trivial
  · exact (leads_emitEvent _).bind fun _ _ _ => Leads.pure trivial
  · exact (reads_balanceOf _).leads.bind fun _ _ _ => Leads.pure trivial
  · exact (leads_concatenate _ _).bind fun _ _ _ => Leads.pure trivial
  · exact leads_ofThrowing.bind fun _ _ _ => Leads.pure trivial
  · exact Leads.fail

/-! ### Steps -/

/-- All activations write no other fields. -/
def Status.WritesOnly (writable : FieldSignature → Prop) : Status → Prop
  | .running frame callers => ∀ activation ∈ frame :: callers,
      ObjectLedger.WritesOnly writable activation.code
  | .finished _ => True

/-- An activation that goes on with the same code. -/
theorem Status.WritesOnly.running {frame after : Frame} {callers : List Frame}
    (codes : Status.WritesOnly writable (.running frame callers))
    (same : after.code = frame.code) : Status.WritesOnly writable (.running after callers) := by
  intro activation member
  rcases List.mem_cons.mp member with rfl | below
  · rw [same]
    exact codes frame List.mem_cons_self
  · exact codes activation (List.mem_cons_of_mem _ below)

/-- An activation that calls another one. -/
theorem Status.WritesOnly.called {frame after called : Frame} {callers : List Frame}
    (codes : Status.WritesOnly writable (.running frame callers))
    (same : after.code = frame.code) (code : ObjectLedger.WritesOnly writable called.code) :
    Status.WritesOnly writable (.running called (after :: callers)) := by
  intro activation member
  rcases List.mem_cons.mp member with rfl | below
  · exact code
  · exact codes.running same activation below

theorem leads_leave {frame : Frame} {callers : List Frame}
    (codes : Status.WritesOnly writable (.running frame callers)) (result : Option Value) :
    Leads context writable (leave frame callers result) heap
      fun status _ => status.WritesOnly writable := by
  unfold leave
  refine leads_releaseIf fun later => ?_
  cases callers with
  | nil => exact Leads.pure trivial
  | cons caller rest =>
    have below : Status.WritesOnly writable (.running caller rest) :=
      fun activation member => codes activation (List.mem_cons_of_mem _ member)
    exact Leads.pure (below.running rfl)

/-- **An instruction only moves the heap**, and a field it writes is one that code may write. -/
theorem leads_execute (restricted : context.classes.WritesOnly writable) {frame : Frame}
    {callers : List Frame} (codes : Status.WritesOnly writable (.running frame callers))
    {instruction : Instruction} (may : ∀ field, instruction = .putField field → writable field) :
    Leads context writable (execute context frame callers instruction) heap
      fun status _ => status.WritesOnly writable := by
  cases alone : frame.alone? instruction with
  | some result =>
    rw [execute_of_alone? alone]
    refine leads_ofThrowing.bind fun next _ goes => Leads.pure (codes.running ?_)
    exact (Frame.continues_of_alone? (goes.1 ▸ alone)).code_eq
  | none =>
    cases instruction with
    | new constructor =>
      refine leads_ofThrowing.bind fun operands _ popped => ?_
      refine leads_ofThrowing.bind fun definition _ found => ?_
      refine (reads_callerFrom ..).leads.bind fun caller _ _ => ?_
      refine (leads_callConstructor _ _ (writesOnly_of_findConstructor restricted found.1) _ _).bind
        fun called _ code => ?_
      exact Leads.pure (codes.called (Frame.popMany_continues popped.1).code_eq code)
    | getField field =>
      refine (reads_charge ..).leads.bind fun _ _ _ => ?_
      refine leads_ofThrowing.bind fun operand _ popped => ?_
      refine (reads_getField context _ _).leads.bind fun value _ _ => ?_
      have same : operand.2.code = frame.code := (Frame.popReference_continues popped.1).code_eq
      exact Leads.pure (codes.running same)
    | putField field =>
      refine (reads_charge ..).leads.bind fun _ _ _ => ?_
      refine leads_ofThrowing.bind fun value _ popped => ?_
      refine leads_ofThrowing.bind fun object _ referred => ?_
      refine ((writes_setField context _ _ _).leads (may field rfl)).bind fun _ _ _ => ?_
      exact Leads.pure (codes.running
        ((Frame.pop_continues popped.1).trans (Frame.popReference_continues referred.1)).code_eq)
    | invoke method dispatch =>
      refine leads_ofThrowing.bind fun operands _ popped => ?_
      refine leads_ofThrowing.bind fun receiver _ taken => ?_
      refine (leads_invokeFrom restricted ..).bind fun called _ code => ?_
      exact Leads.pure (codes.called
        ((Frame.popMany_continues popped.1).trans (Frame.popReceiver_continues taken.1)).code_eq code)
    | invokeWithGas method dispatch =>
      refine leads_ofThrowing.bind fun operands _ popped => ?_
      refine leads_ofThrowing.bind fun receiver _ taken => ?_
      refine leads_ofThrowing.bind fun amount _ given => ?_
      refine (leads_restrictGas _).bind fun _ _ _ => ?_
      refine (leads_releasingOnFault (leads_invokeFrom restricted ..)).bind fun called _ code => ?_
      exact Leads.pure (codes.called (((Frame.popMany_continues popped.1).trans
        (Frame.popReceiver_continues taken.1)).trans (Frame.popGas_continues given.1)).code_eq code)
    | native name arity =>
      refine leads_ofThrowing.bind fun primitive _ _ => ?_
      refine (reads_charge ..).leads.bind fun _ _ _ => ?_
      refine leads_ofThrowing.bind fun operands _ popped => ?_
      refine (leads_callPrimitive ..).bind fun result _ _ => ?_
      have same : operands.2.code = frame.code := (Frame.popMany_continues popped.1).code_eq
      exact Leads.pure (codes.running same)
    | ret => exact leads_ofThrowing.bind fun result _ _ => leads_leave codes result
    | throw className checked => exact leads_ofThrowing.bind fun _ _ _ => Leads.fail
    | _ => cases alone

theorem leads_step (restricted : context.classes.WritesOnly writable) {frame : Frame}
    {callers : List Frame} (codes : Status.WritesOnly writable (.running frame callers)) :
    Leads context writable (step context frame callers) heap
      fun status _ => status.WritesOnly writable := by
  unfold step
  cases found : frame.code[frame.position]? with
  | none => exact leads_ofThrowing.bind fun result _ _ => leads_leave codes result
  | some instruction =>
    refine (reads_charge ..).leads.bind fun _ _ _ => ?_
    have advanced : Status.WritesOnly writable
        (.running { frame with position := frame.position + 1 } callers) := codes.running rfl
    refine leads_execute restricted advanced fun field same => ?_
    subst same
    exact codes frame List.mem_cons_self field (List.mem_of_getElem? found)

/-- **What every step keeps holds at the end of a run**, where the steps that are left count down; by
induction on their number. -/
theorem spec_run (keeps : Nat → Status → Heap → Prop) {post : Option Value → Heap → Prop}
    {onFault : Fault → Heap → Prop}
    (ends : ∀ fuel result now, keeps fuel (.finished result) now → post result now)
    (starves : ∀ frame callers now, keeps 0 (.running frame callers) now →
      onFault .unfinished now)
    (steps : ∀ fuel frame callers now, keeps (fuel + 1) (.running frame callers) now →
      Spec (step context frame callers) now (keeps fuel) fun fault after =>
        onFault fault (unwind (frame :: callers) after))
    {fuel : Nat} {status : Status} (begins : keeps fuel status heap) :
    Spec (run context fuel status) heap post onFault := by
  induction fuel generalizing status heap with
  | zero =>
    cases status with
    | finished result => exact ends _ _ _ begins
    | running frame callers => exact starves _ _ _ begins
  | succ fuel ih =>
    cases status with
    | finished result => exact ends _ _ _ begins
    | running frame callers =>
      have stepped := steps fuel frame callers heap begins
      unfold Spec at stepped
      unfold Spec run
      cases ran : step context frame callers heap with
      | ok status after =>
        rw [ran] at stepped
        exact ih stepped
      | error fault after =>
        rw [ran] at stepped
        exact stepped

/-- **A run only moves the heap.** -/
theorem leads_run (restricted : context.classes.WritesOnly writable) (fuel : Nat)
    {status : Status} (codes : status.WritesOnly writable) :
    Leads context writable (run context fuel status) heap fun _ _ => True := by
  refine spec_run (fun _ status now => heap.Moves context writable now ∧
    status.WritesOnly writable) ?_ ?_ ?_ ⟨.refl, codes⟩
  · exact fun _ _ _ kept => ⟨kept.1, trivial⟩
  · exact fun _ _ _ kept => ⟨Heap.Moves.loose kept.1, fun _ => kept.1⟩
  · intro fuel frame callers now kept
    obtain ⟨moves, codes⟩ := kept
    refine Spec.imp (leads_step restricted codes)
      (fun _ _ later => ⟨moves.trans later.1, later.2⟩) fun _ _ later => ⟨?_, fun checked => ?_⟩
    · exact (Heap.Moves.loose moves).trans (later.1.trans (moves_unwind ..))
    · exact moves.trans ((later.2 checked).trans (moves_unwind ..))

theorem leads_runFrame (restricted : context.classes.WritesOnly writable) {frame : Frame}
    (code : WritesOnly writable frame.code) :
    Leads context writable (runFrame context frame) heap fun _ _ => True := by
  unfold runFrame
  refine Leads.get_bind (leads_run restricted _ fun activation member => ?_)
  obtain rfl := List.mem_singleton.mp member
  exact code

/-! ### Running code for a transaction -/

theorem leads_construct (restricted : context.classes.WritesOnly writable) (caller : ObjectRef)
    (constructor : ConstructorSignature) (actuals : List Value) :
    Leads context writable (construct context caller constructor actuals) heap fun _ _ => True := by
  unfold construct
  refine leads_ofThrowing.bind fun definition _ found => ?_
  refine (leads_callConstructor _ _ (writesOnly_of_findConstructor restricted found.1) _ _).bind
    fun called _ code => ?_
  exact (leads_runFrame restricted code).discard.bind fun _ _ _ => Leads.pure trivial

theorem leads_invoke (restricted : context.classes.WritesOnly writable) (caller : ObjectRef)
    (method : MethodSignature) (receiver : ObjectRef) (actuals : List Value) :
    Leads context writable (invoke context caller method receiver actuals) heap
      fun _ _ => True := by
  unfold invoke
  refine (reads_isInstance context _ _).leads.bind fun answer _ _ => ?_
  simp only []
  split
  · exact Leads.fail_bind
  · refine (reads_classOf context receiver).leads.bind fun className _ _ => ?_
    refine leads_ofThrowing.bind fun definition _ found => ?_
    refine (leads_callMethod _ (writesOnly_of_findInstanceMethod restricted found.1) ..).bind
      fun frame _ code => ?_
    exact leads_runFrame restricted code

theorem leads_invokeStatic (restricted : context.classes.WritesOnly writable) (caller : ObjectRef)
    (method : MethodSignature) (actuals : List Value) :
    Leads context writable (invokeStatic context caller method actuals) heap fun _ _ => True := by
  unfold invokeStatic
  refine leads_ofThrowing.bind fun definition _ found => ?_
  refine (leads_callMethod _ (writesOnly_of_findStaticMethod restricted found.1) ..).bind
    fun frame _ code => ?_
  exact leads_runFrame restricted code

end Machine

end ObjectLedger
