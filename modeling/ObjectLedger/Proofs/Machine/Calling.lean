/-
**Who calls whom, and who pays for it.**

* `Machine.Calls`: the code that an instruction calls. `Frame.PaysFrom`: an activation on an object
  is about to call payable code.
* `Machine.Follows`: the activations after a step. **`Machine.spares_step`**: a step takes coins only
  from the object of an activation that calls payable code, and what it calls knows no other caller.
* `Machine.Attributes`, `Machine.Attributed`: the callers that activations know, along the stack.
  **`Machine.attributed_of_reaches`**: they are so wherever a run comes to.
* **`Machine.spares_run`**: a run takes coins from an object only where an activation on it pays.
* `Machine.exists_caller_of_step`: code learns the caller that its activation knows.
-/
import ObjectLedger.Proofs.Machine.Hidden
import ObjectLedger.Proofs.Machine.Paying

namespace ObjectLedger

variable {context : Context} {spared : ObjectRef → Prop} {heap after : Heap}

namespace Machine

open Run Heap

/-! ### Steps -/

/-- An instruction of an activation, which stands after it, calls code with the given marks, over the
objects that are there. -/
inductive Calls (context : Context) (objects : Table ObjectRef HeapObject) (frame : Frame) :
    Instruction → Annotations → Prop
  | new {constructor : ConstructorSignature} {operands : List Value × Frame}
      {definition : ConstructorDefinition}
      (taken : frame.popMany constructor.formals.length = .ok operands)
      (found : findConstructor context constructor = .ok definition) :
      Calls context objects frame (.new constructor) definition.annotations
  | invoke {instruction : Instruction} {method : MethodSignature} {dispatch : Dispatch}
      {operands : List Value × Frame} {receiver : Option ObjectRef × Frame}
      {definition : MethodDefinition} {ready after : Heap}
      (invokes : instruction = .invoke method dispatch ∨
        instruction = .invokeWithGas method dispatch)
      (taken : frame.popMany method.formals.length = .ok operands)
      (aimed : operands.2.popReceiver dispatch = .ok receiver) (same : ready.objects = objects)
      (found : findCalled context method receiver.1 ready = .ok definition after) :
      Calls context objects frame instruction definition.annotations

/-- The activations that a step of the top one leads to: it goes on, or it ends, or it calls another
one, which knows no other caller than the contract that the calling one works on. -/
inductive Follows (context : Context) (frame : Frame) (callers : List Frame) :
    Status → Heap → Prop
  | continues {next : Frame} {after : Heap} (same : frame.Continues next) :
      Follows context frame callers (.running next callers) after
  | calls {next called : Frame} {after : Heap} (same : frame.Continues next)
      (known : ∀ who, called.caller = some who →
        frame.this = some who ∧ after.HasContract context who) :
      Follows context frame callers (.running called (next :: callers)) after
  | leaves {below : Frame} {rest : List Frame} {result : Option Value} {after : Heap}
      (left : callers = below :: rest) :
      Follows context frame callers (.running (below.pushResult result) rest) after
  | ends {result : Option Value} {after : Heap} (last : callers = []) :
      Follows context frame callers (.finished result) after

theorem spares_leave (frame : Frame) (callers : List Frame) (result : Option Value) :
    Spares context spared (leave frame callers result) heap
      (Follows context frame callers) := by
  unfold leave
  refine spares_releaseIf fun later => ?_
  cases callers with
  | nil => exact Spares.pure (.ends rfl)
  | cons below rest => exact Spares.pure (.leaves rfl)

/-- An instruction takes coins only from the object of an activation that calls payable code. -/
theorem spares_execute (fresh : context.Fresh) (sound : Sound context heap) {frame : Frame}
    {callers : List Frame} {instruction : Instruction}
    (may : ∀ field, instruction = .putField field → field ≠ .balance)
    (others : ∀ annotations, Calls context heap.objects frame instruction annotations →
      PaysNobody spared annotations frame.this) :
    Spares context spared (execute context frame callers instruction) heap
      (Follows context frame callers) := by
  have goes : ∀ {next : Frame} later, frame.Continues next →
      Spares context spared (pure (.running next callers)) later (Follows context frame callers) :=
    fun later same => Spares.pure (.continues same)
  cases alone : frame.alone? instruction with
  | some result =>
    rw [execute_of_alone? alone]
    exact spares_ofThrowing.bind fun next later same =>
      goes later (Frame.continues_of_alone? (same.1 ▸ alone))
  | none =>
    cases instruction with
    | new constructor =>
      refine spares_ofThrowing.bind fun operands later taken => ?_
      obtain ⟨taken, rfl⟩ := taken
      have continues := Frame.popMany_continues taken
      refine spares_ofThrowing.bind fun definition later found => ?_
      obtain ⟨found, rfl⟩ := found
      refine (reads_callerFrom ..).spares.also.bind fun caller later known => ?_
      obtain ⟨sparing, known⟩ := known
      replace sound := sparing.moves.sound sound
      rw [continues.this_eq] at known
      refine (spares_callConstructor fresh sound _ _ _ ?_).also.bind fun called last both => ?_
      · exact fun marked payable object safe same =>
          others _ (.new taken found) marked payable object safe (known object same).2.1
      · refine Spares.pure (.calls continues fun who same => ?_)
        obtain ⟨-, calls, held⟩ := known who (both.2 who same)
        exact ⟨calls, held.kept (both.1.moves.keeps fresh sound)⟩
    | getField field =>
      refine (reads_charge ..).spares.bind fun _ _ _ => ?_
      refine spares_ofThrowing.bind fun operand _ popped => ?_
      refine (reads_getField context _ _).spares.bind fun value later _ => ?_
      exact goes later ((Frame.popReference_continues popped.1).withStack _)
    | putField field =>
      refine (reads_charge ..).spares.bind fun _ _ _ => ?_
      refine spares_ofThrowing.bind fun value _ popped => ?_
      refine spares_ofThrowing.bind fun object _ referred => ?_
      refine ((writes_setField context _ _ _).spares fun _ => may field rfl).bind fun _ later _ => ?_
      exact goes later
        ((Frame.pop_continues popped.1).trans (Frame.popReference_continues referred.1))
    | invoke method dispatch =>
      refine spares_ofThrowing.bind fun operands later taken => ?_
      obtain ⟨taken, rfl⟩ := taken
      refine spares_ofThrowing.bind fun receiver later aimed => ?_
      obtain ⟨aimed, rfl⟩ := aimed
      have continues := (Frame.popMany_continues taken).trans (Frame.popReceiver_continues aimed)
      refine (spares_invokeFrom fresh sound _ _ _ fun definition last found => ?_).bind
        fun called last known => ?_
      · exact continues.this_eq ▸ others _ (.invoke (Or.inl rfl) taken aimed rfl found)
      · exact Spares.pure (.calls continues (continues.this_eq ▸ known))
    | invokeWithGas method dispatch =>
      refine spares_ofThrowing.bind fun operands later taken => ?_
      obtain ⟨taken, rfl⟩ := taken
      refine spares_ofThrowing.bind fun receiver later aimed => ?_
      obtain ⟨aimed, rfl⟩ := aimed
      refine spares_ofThrowing.bind fun amount later given => ?_
      obtain ⟨given, rfl⟩ := given
      have continues := ((Frame.popMany_continues taken).trans
        (Frame.popReceiver_continues aimed)).trans (Frame.popGas_continues given)
      -- the gas was restricted, but the objects that tell what is called are the same
      refine (spares_restrictGas _).also.bind fun _ restricted same => ?_
      obtain ⟨sparing, same⟩ := same
      replace sound := sparing.moves.sound sound
      refine (spares_releasingOnFault
        (spares_invokeFrom fresh sound _ _ _ fun definition last found => ?_)).bind
        fun called last known => ?_
      · exact continues.this_eq ▸ others _ (.invoke (Or.inr rfl) taken aimed same found)
      · exact Spares.pure (.calls continues (continues.this_eq ▸ known))
    | native name arity =>
      refine spares_ofThrowing.bind fun primitive _ _ => ?_
      refine (reads_charge ..).spares.bind fun _ _ _ => ?_
      refine spares_ofThrowing.bind fun operands _ popped => ?_
      refine (spares_callPrimitive ..).bind fun result later _ => ?_
      exact goes later ((Frame.popMany_continues popped.1).withStack _)
    | ret => exact spares_ofThrowing.bind fun result _ _ => spares_leave frame callers result
    | throw className checked => exact spares_ofThrowing.bind fun _ _ _ => Spares.fail
    | _ => cases alone

/-- What follows an activation also follows it at an earlier point. -/
theorem Follows.before {frame earlier : Frame} {callers : List Frame} {status : Status}
    (follows : Follows context frame callers status after) (same : earlier.Continues frame) :
    Follows context earlier callers status after := by
  cases follows with
  | continues goes => exact .continues (same.trans goes)
  | calls goes known =>
    exact .calls (same.trans goes) fun who called =>
      ⟨same.this_eq ▸ (known who called).1, (known who called).2⟩
  | leaves left => exact .leaves left
  | ends last => exact .ends last

end Machine

/-- An activation on an object is about to call payable code that only contracts may call. -/
def Frame.PaysFrom (context : Context) (heap : Heap) (frame : Frame) (object : ObjectRef) : Prop :=
  frame.this = some object ∧ ∃ instruction annotations,
    frame.code[frame.position]? = some instruction ∧
    Machine.Calls context heap.objects { frame with position := frame.position + 1 } instruction
      annotations ∧
    annotations.fromContract = true ∧ annotations.payable = true

namespace Machine

open Run Heap

/-- **A step takes coins only from the object of an activation that calls payable code.** -/
theorem spares_step (fresh : context.Fresh) (sound : Sound context heap) {frame : Frame}
    (code : WritesOnly (· ≠ .balance) frame.code) (callers : List Frame) :
    Spares context (fun object => ¬ frame.PaysFrom context heap object)
      (step context frame callers) heap (Follows context frame callers) := by
  unfold step
  cases found : frame.code[frame.position]? with
  | none => exact spares_ofThrowing.bind fun result _ _ => spares_leave frame callers result
  | some instruction =>
    refine (reads_charge ..).spares.also.bind fun _ later paid => ?_
    obtain ⟨sparing, charger, rfl⟩ := paid
    replace sound := sparing.moves.sound sound
    refine (spares_execute fresh sound ?_ ?_).imp fun status last follows =>
      follows.before (.at frame _)
    · rintro field rfl
      exact code field (List.mem_of_getElem? found)
    · exact fun annotations calls marked payable object safe same =>
        safe ⟨same, instruction, annotations, found, calls, marked, payable⟩

/-! ### Callers -/

/-- The caller that an activation above others knows is the account if it is the first one, and else
the contract that the activation below it works on. -/
def Attributes (context : Context) (account : ObjectRef) (heap : Heap) :
    List Frame → ObjectRef → Prop
  | [], who => who = account
  | below :: _, who => below.this = some who ∧ heap.HasContract context who

/-- All activations know no other callers. -/
def Attributed (context : Context) (account : ObjectRef) (heap : Heap) : List Frame → Prop
  | [] => True
  | frame :: callers =>
    (∀ who, frame.caller = some who → Attributes context account heap callers who) ∧
      Attributed context account heap callers

/-- The activations of a state. -/
def Status.frames : Status → List Frame
  | .running frame callers => frame :: callers
  | .finished _ => []

variable {account : ObjectRef} {frame : Frame} {callers : List Frame} {status last : Status}

theorem Attributed.kept {frames : List Frame} (attributed : Attributed context account heap frames)
    (keeps : heap.Keeps after) : Attributed context account after frames := by
  induction frames with
  | nil => trivial
  | cons frame callers ih =>
    refine ⟨fun who known => ?_, ih attributed.2⟩
    have first := attributed.1 who known
    cases callers with
    | nil => exact first
    | cons below rest => exact ⟨first.1, first.2.kept keeps⟩

/-- What a step calls knows the right caller. -/
theorem Follows.attributed (follows : Follows context frame callers status after)
    (attributed : Attributed context account after (frame :: callers)) :
    Attributed context account after status.frames := by
  cases follows with
  | continues same =>
    exact ⟨fun who known => attributed.1 who (same.caller_eq ▸ known), attributed.2⟩
  | calls same known =>
    refine ⟨fun who called => ?_, fun who known => ?_, attributed.2⟩
    · exact ⟨same.this_eq.trans (known who called).1, (known who called).2⟩
    · exact attributed.1 who (same.caller_eq ▸ known)
  | leaves left =>
    subst left
    exact attributed.2
  | ends last => trivial

/-- **Wherever a run comes to, activations know no other callers** than the account and the contracts
below them; by induction on its steps. -/
theorem attributed_of_reaches (fresh : context.Fresh)
    (closed : context.classes.WritesOnly (· ≠ .balance)) (sound : Sound context heap)
    (codes : status.WritesOnly (· ≠ .balance))
    (attributed : Attributed context account heap status.frames)
    (reaches : Reaches context status heap last after) :
    Attributed context account after last.frames := by
  induction reaches with
  | refl => exact attributed
  | @step frame callers status last heap middle after ran rest ih =>
    obtain ⟨sparing, follows⟩ :=
      (spares_step fresh sound (codes frame List.mem_cons_self) callers).ends ran
    refine ih (sparing.moves.sound sound) ((leads_step closed codes).ends ran).2 ?_
    exact follows.attributed (attributed.kept (sparing.moves.keeps fresh sound))

/-- **A run takes coins from an object only where an activation on it pays.** -/
theorem spares_run (fresh : context.Fresh) (closed : context.classes.WritesOnly (· ≠ .balance))
    (fuel : Nat) (sound : Sound context heap) (codes : status.WritesOnly (· ≠ .balance))
    (unpaid : ∀ frame callers now, Reaches context status heap (.running frame callers) now →
      ∀ object, spared object → frame.PaysFrom context now object →
        now.coinsOf context.view object ≤
          (stateAfter (step context frame callers) now).coinsOf context.view object) :
    Spares context spared (run context fuel status) heap fun _ _ => True := by
  refine spec_run (fun _ status now => heap.Sparing context spared now ∧ Sound context now ∧
    status.WritesOnly (· ≠ .balance) ∧
    ∀ frame callers later, Reaches context status now (.running frame callers) later →
      ∀ object, spared object → frame.PaysFrom context later object →
        later.coinsOf context.view object ≤
          (stateAfter (step context frame callers) later).coinsOf context.view object)
    ?_ ?_ ?_ ⟨.refl, sound, codes, unpaid⟩
  · exact fun _ _ _ kept => ⟨kept.1, trivial⟩
  · exact fun _ _ _ kept => kept.1
  · intro fuel frame callers now kept
    obtain ⟨spares, sound, codes, unpaid⟩ := kept
    have stepped : now.Sparing context spared (stateAfter (step context frame callers) now) := by
      have sparing :=
        (spares_step fresh sound (codes frame List.mem_cons_self) callers).sparing_stateAfter
      refine ⟨sparing.moves, fun object safe => ?_⟩
      by_cases pays : frame.PaysFrom context now object
      · exact unpaid frame callers now .refl object safe pays
      · exact sparing.coinsOf_le object pays
    unfold Spec
    cases ran : step context frame callers now with
    | ok status later =>
      rw [stateAfter_ok ran] at stepped
      exact ⟨spares.trans stepped, stepped.moves.sound sound, ((leads_step closed codes).ends ran).2,
        fun frame callers now reaches => unpaid frame callers now (.step ran reaches)⟩
    | error fault later =>
      rw [stateAfter_error ran] at stepped
      exact spares.trans (stepped.trans (spares_unwind _ _))

/-- The caller that code learns is the one that its activation knows. -/
theorem exists_caller_of_step {name : String} {arity : UInt8}
    (next : frame.code[frame.position]? = some (.native name arity))
    (named : Primitive.resolve name arity = .ok .caller)
    (ran : step context frame callers heap = .ok status after) :
    ∃ who later, frame.caller = some who ∧ status = .running later callers ∧
      later.stack.head? = some (.reference who) := by
  have learns : Spares context (fun _ => False) (step context frame callers) heap
      fun status _ => ∃ who later, frame.caller = some who ∧ status = .running later callers ∧
        later.stack.head? = some (.reference who) := by
    unfold step
    rw [next]
    refine (reads_charge ..).spares.bind fun _ _ _ => ?_
    refine spares_ofThrowing.bind fun primitive _ resolved => ?_
    cases named.symm.trans resolved.1
    refine (reads_charge ..).spares.bind fun _ _ _ => ?_
    refine spares_ofThrowing.bind fun operands _ popped => ?_
    obtain ⟨actuals, rest⟩ := operands
    have same : rest.caller = frame.caller := (Frame.popMany_continues popped.1).caller_eq
    simp only [callPrimitive]
    cases known : rest.caller with
    | none => exact Spares.fail_bind
    | some who => exact Spares.pure ⟨who, _, same.symm.trans known, rfl, rfl⟩
  exact (learns.ends ran).2

end Machine

end ObjectLedger
