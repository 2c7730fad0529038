/-
**Who pays for a call.**

* `Heap.Sparing`: what is done to a heap and takes no coins from some objects.
* `Run.Spares`: a part that takes no coins from some objects, also when it faults; closed under
  sequence.
* **`Machine.spares_receivePayment`**: a payment takes coins from the caller only, also if it is not
  completed.
* **`Machine.spares_callConstructor`**, `Machine.spares_callMethod`: a call takes coins from its caller
  if it is one of payable code. `Machine.spares_invokeFrom`: the caller of code called from other code
  is what that works on.
-/
import ObjectLedger.Proofs.Machine.Kept
import ObjectLedger.Proofs.Machine.Running

namespace ObjectLedger

variable {α β : Type} {context : Context} {spared : ObjectRef → Prop} {heap after : Heap}

/-! ### Coins that are not taken -/

namespace Heap

variable {object : ObjectRef} {field : FieldSignature} {value : Value}

/-- The coins of an object in a running transaction. -/
def coinsOf (heap : Heap) (view : LedgerView) (object : ObjectRef) : Nat :=
  (heap.value view object .balance).coins

/-- What was done takes no coins from the spared objects. -/
structure Sparing (context : Context) (spared : ObjectRef → Prop) (heap after : Heap) : Prop where
  moves : Moves context anything heap after
  coinsOf_le : ∀ object, spared object →
    heap.coinsOf context.view object ≤ after.coinsOf context.view object

namespace Sparing

theorem refl : Sparing context spared heap heap :=
  ⟨.refl, fun _ _ => Nat.le_refl _⟩

theorem trans {middle : Heap} (first : Sparing context spared heap middle)
    (second : Sparing context spared middle after) : Sparing context spared heap after :=
  ⟨first.moves.trans second.moves, fun object safe =>
    (first.coinsOf_le object safe).trans (second.coinsOf_le object safe)⟩

theorem mono {fewer : ObjectRef → Prop} (sparing : Sparing context spared heap after)
    (less : ∀ object, fewer object → spared object) : Sparing context fewer heap after :=
  ⟨sparing.moves, fun object safe => sparing.coinsOf_le object (less object safe)⟩

/-- A move that changes no balance. -/
theorem ofMove (move : Move context anything heap after)
    (same : ∀ object, after.value context.view object .balance =
      heap.value context.view object .balance) : Sparing context spared heap after :=
  ⟨.single move, fun object _ => by rw [coinsOf, coinsOf, same]⟩

theorem ofReading (reading : Reading context heap after) : Sparing context spared heap after :=
  ⟨reading.moves, fun object _ => by rw [coinsOf, coinsOf, reading.value_eq]⟩

/-- A write takes no coins, unless it lowers the balance of a spared object. -/
theorem ofWrite (write : Write context object field value heap after)
    (gains : spared object → field = .balance → heap.coinsOf context.view object ≤ value.coins) :
    Sparing context spared heap after := by
  refine ⟨.single (.write trivial write), fun other safe => ?_⟩
  unfold coinsOf
  rw [write.value_eq]
  split
  · rename_i both
    obtain ⟨rfl, rfl⟩ := both
    exact gains safe rfl
  · exact Nat.le_refl _

end Sparing

end Heap

theorem Heap.HasContract.kept {object : ObjectRef} (held : heap.HasContract context object)
    (keeps : heap.Keeps after) : after.HasContract context object := by
  obtain ⟨loaded, present, kind⟩ := held
  obtain ⟨later, there, sameClass, -⟩ := keeps object loaded present
  exact ⟨later, there, sameClass ▸ kind⟩

/-! ### Parts that take no coins -/

namespace Run

variable {part : Run α} {next : α → Run β}

/-- A part that takes no coins from the spared objects, also when it faults. -/
def Spares (context : Context) (spared : ObjectRef → Prop) (part : Run α) (heap : Heap)
    (post : α → Heap → Prop) : Prop :=
  Spec part heap (fun value after => heap.Sparing context spared after ∧ post value after)
    fun _ after => heap.Sparing context spared after

theorem Spares.bind {middle : α → Heap → Prop} {post : β → Heap → Prop}
    (first : Spares context spared part heap middle)
    (rest : ∀ value after, middle value after → Spares context spared (next value) after post) :
    Spares context spared (part >>= next) heap post :=
  Spec.bind first fun value after ends =>
    (rest value after ends.2).imp (fun _ _ later => ⟨ends.1.trans later.1, later.2⟩)
      fun _ _ later => ends.1.trans later

theorem Spares.imp {post later : α → Heap → Prop} (spares : Spares context spared part heap post)
    (ends : ∀ value after, post value after → later value after) :
    Spares context spared part heap later :=
  Spec.imp spares (fun value after both => ⟨both.1, ends value after both.2⟩) fun _ _ both => both

/-- How the heap came to be what it is after the part. -/
theorem Spares.also {post : α → Heap → Prop} (spares : Spares context spared part heap post) :
    Spares context spared part heap fun value after =>
      heap.Sparing context spared after ∧ post value after :=
  Spec.imp spares (fun _ _ both => ⟨both.1, both⟩) fun _ _ both => both

/-- The end of the part. -/
theorem Spares.ran {post : α → Heap → Prop} (spares : Spares context spared part heap post) :
    Spares context spared part heap fun value after =>
      part heap = .ok value after ∧ post value after := by
  unfold Spares Spec at *
  cases ended : part heap with
  | ok value after =>
    rw [ended] at spares
    exact ⟨spares.1, rfl, spares.2⟩
  | error fault after =>
    rw [ended] at spares
    exact spares

/-- What the part leaves, whether it ends or faults. -/
theorem Spares.sparing_stateAfter {post : α → Heap → Prop}
    (spares : Spares context spared part heap post) :
    heap.Sparing context spared (stateAfter part heap) := by
  cases ran : part heap with
  | ok value after => exact stateAfter_ok ran ▸ (spares.ends ran).1
  | error fault after => exact stateAfter_error ran ▸ spares.faults ran

theorem Spares.pure {post : α → Heap → Prop} {value : α} (holds : post value heap) :
    Spares context spared (pure value) heap post :=
  ⟨.refl, holds⟩

theorem Spares.throw {post : α → Heap → Prop} {fault : Fault} :
    Spares context spared (throw fault) heap post :=
  Heap.Sparing.refl

theorem Spares.fail {post : α → Heap → Prop} {throwable : Throwable} :
    Spares context spared (fail throwable) heap post :=
  Spares.throw

theorem Spares.fail_bind {post : β → Heap → Prop} {throwable : Throwable} :
    Spares context spared (Run.fail throwable >>= next) heap post := by
  have failed : Spares context spared (Run.fail throwable : Run α) heap fun _ _ => False :=
    Spares.fail
  exact failed.bind fun _ _ impossible => impossible.elim

theorem Spares.get_bind {next : Heap → Run β} {post : β → Heap → Prop}
    (rest : Spares context spared (next heap) heap post) :
    Spares context spared (get >>= next) heap post :=
  rest

theorem Reads.spares {post : α → Heap → Prop} (reads : Reads context part heap post) :
    Spares context spared part heap post :=
  Spec.imp reads (fun _ _ both => ⟨.ofReading both.1, both.2⟩) fun _ _ both => .ofReading both.1

theorem Writes.spares {object : ObjectRef} {field : FieldSignature} {value : Value}
    {part : Run Unit} (writes : Writes context object field value part heap)
    (apart : spared object → field ≠ .balance) :
    Spares context spared part heap fun _ _ => True := by
  refine Spec.imp writes (fun _ after written => ⟨?_, trivial⟩) fun _ _ both => .ofReading both.1
  obtain ⟨middle, reading, write⟩ := written
  exact (Heap.Sparing.ofReading reading).trans
    (.ofWrite write fun safe same => absurd same (apart safe))

theorem spares_ofThrowing {result : Except Throwable α} :
    Spares context spared (ofThrowing result) heap fun value after =>
      result = .ok value ∧ after = heap := by
  cases result with
  | ok value => exact Spares.pure ⟨rfl, rfl⟩
  | error throwable => exact Spares.fail

end Run

namespace Machine

open Run Heap

/-! ### Calls -/

/-- A new object has no coins. -/
theorem spares_allocate (fresh : context.Fresh) (sound : Sound context heap) (className : String) :
    Spares context spared (allocate context className) heap fun _ _ => True := by
  unfold allocate
  cases found : context.classes.jarOf? className with
  | none => exact Spares.fail
  | some jar =>
    refine (reads_charge ..).spares.also.bind fun _ first paid => ?_
    replace sound := paid.1.moves.sound sound
    refine (reads_charge ..).spares.also.bind fun _ second paid => ?_
    replace sound := paid.1.moves.sound sound
    refine Spares.get_bind ?_
    split
    · exact Spares.throw.bind fun _ _ impossible => (impossible : False).elim
    · rename_i room
      exact ⟨.ofMove (.allocate found room) fun object => by
        rw [← sound.value_withNew fresh className jar]; rfl, trivial⟩

/-- **A payment takes coins from the caller only**, also if it is not completed. -/
theorem spares_receivePayment {caller receiver : Option ObjectRef} (actuals : List Value)
    (others : ∀ object, spared object → caller ≠ some object) :
    Spares context spared (receivePayment context caller receiver actuals) heap
      fun _ _ => True := by
  unfold receivePayment
  cases caller with
  | none => exact Spares.fail
  | some payer =>
    cases receiver with
    | none => exact Spares.fail
    | some payee =>
      refine spares_ofThrowing.bind fun amount first _ => ?_
      refine (reads_getAmount context payer .balance).spares.bind fun balance before _ => ?_
      simp only []
      split
      · exact Spares.fail_bind
      · refine (writes_setField context payer .balance _).spares
          (fun safe => absurd rfl (others payer safe)) |>.bind fun _ paid _ => ?_
        -- the payer, who is not spared, has paid; whatever happens now takes coins from nobody
        refine (reads_getAmount context payee .balance).spares.bind fun received read found => ?_
        obtain ⟨loaded, present, has, held⟩ := found
        cases sum : Amount.ofNat? (received.toNat + amount.toNat) with
        | none => exact Spares.fail
        | some total =>
          obtain ⟨room, rfl⟩ := Amount.ofNat?_eq_some.mp sum
          have given : Write context payee .balance
              (.bigInteger (BitVec.ofNat 128 (received.toNat + amount.toNat))) read
              (read.put payee (written loaded .balance _)) :=
            .intro present has rfl (fun lazy => by cases lazy) fun _ named => by cases named
          refine Spec.of_eq (setField_eq context present has rfl rfl) ⟨.ofWrite given fun _ _ => ?_,
            trivial⟩
          rw [coinsOf, value_of_present present, held, Option.getD_some, Value.coins_bigInteger,
            Value.coins_bigInteger, Amount.toNat_ofNat room]
          exact Nat.le_add_right _ _

theorem spares_restrictGas (amount : UInt64) :
    Spares context spared (restrictGas amount) heap fun _ after =>
      after.objects = heap.objects := by
  unfold restrictGas
  refine Spares.get_bind ?_
  cases pushed : heap.charger.pushGas amount with
  | ok charger => exact ⟨.ofMove (.restrict pushed) fun _ => rfl, rfl⟩
  | error refusal => exact Spares.fail

theorem spares_releaseHeap (heap : Heap) : heap.Sparing context spared (releaseHeap heap) :=
  .ofMove .release fun _ => rfl

/-- What comes after gas that may be given back. -/
theorem spares_releaseIf {bounded : Bool} {next : Run α} {post : α → Heap → Prop}
    (rest : ∀ later, Spares context spared next later post) :
    Spares context spared (do
      if bounded then releaseGas
      next) heap post := by
  simp only []
  split
  · have released : Spares context spared releaseGas heap fun _ _ => True :=
      ⟨spares_releaseHeap heap, trivial⟩
    exact released.bind fun _ later _ => rest later
  · exact rest heap

theorem spares_releasingOnFault {part : Run α} {post : α → Heap → Prop}
    (spares : Spares context spared part heap post) :
    Spares context spared (releasingOnFault part) heap post := by
  unfold Spares Spec releasingOnFault at *
  cases ended : part heap with
  | ok value after =>
    rw [ended] at spares
    exact spares
  | error fault after =>
    rw [ended] at spares
    exact spares.trans (spares_releaseHeap after)

theorem spares_unwind (frames : List Frame) (heap : Heap) :
    heap.Sparing context spared (unwind frames heap) := by
  unfold unwind
  induction frames.filter Frame.bounded generalizing heap with
  | nil => exact .refl
  | cons frame rest ih => exact (spares_releaseHeap heap).trans (ih _)

theorem eq_some_of_visibleCaller {annotations : Annotations} {caller visible : Option ObjectRef}
    (seen : visibleCaller annotations caller = .ok visible) {who : ObjectRef}
    (known : visible = some who) : annotations.fromContract = true ∧ caller = some who := by
  subst known
  unfold visibleCaller at seen
  split at seen
  · cases seen
  · rename_i marked
    cases seen
    exact ⟨marked, rfl⟩
  · cases seen

section Calls

/-- Payable code that only contracts may call is not called by a spared object. -/
def PaysNobody (spared : ObjectRef → Prop) (annotations : Annotations)
    (caller : Option ObjectRef) : Prop :=
  annotations.fromContract = true → annotations.payable = true →
    ∀ object, spared object → caller ≠ some object

variable {caller : Option ObjectRef}

theorem spares_callConstructor (fresh : context.Fresh) (sound : Sound context heap) (depth : Nat)
    (className : String) {definition : ConstructorDefinition} (actuals : List Value)
    (others : PaysNobody spared definition.annotations caller) :
    Spares context spared (callConstructor context depth className definition actuals caller) heap
      fun result _ => ∀ who, result.2.caller = some who → caller = some who := by
  unfold callConstructor
  refine (reads_checkActuals ..).spares.also.bind fun _ checked looked => ?_
  replace sound := looked.1.moves.sound sound
  refine spares_ofThrowing.bind fun visible later seen => ?_
  obtain ⟨seen, rfl⟩ := seen
  have shows : ∀ who, visible = some who →
      definition.annotations.fromContract = true ∧ caller = some who :=
    fun who known => eq_some_of_visibleCaller seen known
  refine (spares_allocate fresh sound className).bind fun object made _ => ?_
  have entered : ∀ later, Spares context spared (do
      let frame ← enter context depth definition.code (.reference object :: actuals)
        definition.locals (some object) visible (.object object) false
      return (object, frame)) later
      fun result _ => ∀ who, result.2.caller = some who → caller = some who :=
    fun later => (reads_enter ..).spares.bind fun frame _ same =>
      Spares.pure fun who known => (shows who (same.2 ▸ known)).2
  split
  · rename_i payable
    refine (spares_receivePayment actuals fun other safe known => ?_).bind
      fun _ later _ => entered later
    exact others (shows other known).1 payable other safe (shows other known).2
  · exact entered made

theorem spares_callMethod (depth : Nat) {definition : MethodDefinition} (this : Option ObjectRef)
    (actuals : List Value) (bounded : Bool)
    (others : PaysNobody spared definition.annotations caller) :
    Spares context spared (callMethod context depth definition this actuals caller bounded) heap
      fun frame _ => ∀ who, frame.caller = some who → caller = some who := by
  unfold callMethod
  refine (reads_checkActuals ..).spares.bind fun _ checked _ => ?_
  refine spares_ofThrowing.bind fun visible later seen => ?_
  have shows : ∀ who, visible = some who →
      definition.annotations.fromContract = true ∧ caller = some who :=
    fun who known => eq_some_of_visibleCaller seen.1 known
  have entered : ∀ yields later, Spares context spared (enter context depth definition.code
      (this.toList.map Value.reference ++ actuals) definition.locals this visible yields bounded)
      later fun frame _ => ∀ who, frame.caller = some who → caller = some who :=
    fun _ _ => (reads_enter ..).spares.imp fun frame _ same who known =>
      (shows who (same.2 ▸ known)).2
  simp only []
  split
  · rename_i payable
    refine (spares_receivePayment actuals fun other safe known => ?_).bind
      fun _ later _ => entered _ later
    exact others (shows other known).1 payable other safe (shows other known).2
  · exact entered _ later

end Calls

theorem spares_findCalled (method : MethodSignature) (receiver : Option ObjectRef) :
    Spares context spared (findCalled context method receiver) heap fun _ _ => True := by
  unfold findCalled
  cases receiver with
  | none => exact spares_ofThrowing.imp fun _ _ _ => trivial
  | some object =>
    refine (reads_classOf context object).spares.bind fun className later _ => ?_
    simp only []
    split
    · exact Spares.fail_bind
    · exact spares_ofThrowing.imp fun _ _ _ => trivial

/-- A method called from code on an object is paid from it, if at all, and knows it as its caller. -/
theorem spares_invokeFrom (fresh : context.Fresh) (sound : Sound context heap) (depth : Nat)
    {this receiver : Option ObjectRef} {method : MethodSignature} (actuals : List Value)
    (bounded : Bool)
    (others : ∀ definition after, findCalled context method receiver heap = .ok definition after →
      PaysNobody spared definition.annotations this) :
    Spares context spared (invokeFrom context depth this method receiver actuals bounded) heap
      fun frame after => ∀ who, frame.caller = some who →
        this = some who ∧ after.HasContract context who := by
  unfold invokeFrom
  refine (spares_findCalled method receiver).also.ran.bind fun definition found called => ?_
  obtain ⟨found, sparing, -⟩ := called
  replace sound := sparing.moves.sound sound
  refine (reads_callerFrom ..).spares.also.bind fun caller later known => ?_
  obtain ⟨sparing, known⟩ := known
  replace sound := sparing.moves.sound sound
  refine ((spares_callMethod depth receiver actuals bounded ?_).also).imp fun frame last both => ?_
  · exact fun marked payable object safe same =>
      others definition _ found marked payable object safe (known object same).2.1
  · intro who same
    obtain ⟨-, calls, held⟩ := known who (both.2 who same)
    exact ⟨calls, held.kept (both.1.moves.keeps fresh sound)⟩

/-! ### Primitives -/

theorem spares_emitEvent (argument : Value) :
    Spares context spared (emitEvent context argument) heap fun _ _ => True := by
  unfold emitEvent
  cases argument with
  | reference event =>
    refine (reads_isInstance context event ClassName.event).spares.bind fun answer after found => ?_
    obtain ⟨loaded, present, rfl⟩ := found
    simp only []
    split
    · exact Spares.fail_bind
    · rename_i kind
      exact ⟨.ofMove (.emit present (by simpa using kind)) fun _ => rfl, trivial⟩
  | _ => exact Spares.fail

theorem spares_concatenate (first second : Value) :
    Spares context spared (concatenate context first second) heap fun _ _ => True := by
  unfold concatenate
  refine spares_ofThrowing.bind fun _ _ _ => ?_
  refine spares_ofThrowing.bind fun _ _ _ => ?_
  exact (reads_charge ..).spares.bind fun _ _ _ => Spares.pure trivial

/-- Primitives pay nobody. -/
theorem spares_callPrimitive (primitive : Primitive) (arguments : List Value)
    (caller : Option ObjectRef) :
    Spares context spared (callPrimitive context primitive arguments caller) heap
      fun _ _ => True := by
  unfold callPrimitive
  split
  · exact Spares.pure trivial
  · cases caller with
    | none => exact Spares.fail
    | some caller => exact Spares.pure trivial
  · exact (spares_emitEvent _).bind fun _ _ _ => Spares.pure trivial
  · exact (reads_balanceOf _).spares.bind fun _ _ _ => Spares.pure trivial
  · exact (spares_concatenate _ _).bind fun _ _ _ => Spares.pure trivial
  · exact spares_ofThrowing.bind fun _ _ _ => Spares.pure trivial
  · exact Spares.fail

end Machine

end ObjectLedger
