/-
**Code leaves no reference that leads nowhere.**

* `Value.Suits`: a value fits a type, and an object that it points to is known.
* `Heap.Closed`: the value of every field suits, and events are there, where the objects of the store
  and those of the heap are known. **`Heap.Moves.closed`**: it stays so whatever code does.
* `Heap.Covers`: updates that are about what can be reached and tell the class of each new object
  that can be. **`Heap.Closed.suits_of_told`**: so an object that the updates of a closed heap point
  to is stored, or the updates tell its class.
* **`Machine.present_of_construct`**: the object that a constructor gives back is there.
-/
import ObjectLedger.Proofs.Machine.Kept
import ObjectLedger.Proofs.Machine.Running
import ObjectLedger.Proofs.Machine.Saving

namespace ObjectLedger

/-! ### Values that suit -/

theorem ValueType.default_fits (type : ValueType) : type.default.fits type = true := by
  cases type <;> rfl

namespace Value

variable {known later : ObjectRef → Prop} {type : ValueType} {value : Value}

/-- The value fits the type, and an object that it points to is known. -/
def Suits (known : ObjectRef → Prop) (type : ValueType) (value : Value) : Prop :=
  value.fits type = true ∧ ∀ object, value = .reference object → known object

theorem Suits.imp (suits : value.Suits known type)
    (more : ∀ object, value = .reference object → known object → later object) :
    value.Suits later type :=
  ⟨suits.1, fun object points => more object points (suits.2 object points)⟩

theorem suits_default (known : ObjectRef → Prop) (type : ValueType) :
    type.default.Suits known type := by
  refine ⟨type.default_fits, fun object points => ?_⟩
  cases type <;> cases points

theorem suits_bigInteger (known : ObjectRef → Prop) (amount : Amount) :
    (bigInteger amount).Suits known .bigInteger :=
  ⟨rfl, fun _ points => by cases points⟩

end Value

/-! ### Closed stores -/

namespace LedgerView

variable {view : LedgerView} {object : ObjectRef}

theorem knows_of_history {history : List TransactionRef} (recorded : view.history object = .ok history)
    (nonempty : history ≠ []) : view.knows object = true := by
  by_contra unknown
  rw [history_of_not_knows unknown] at recorded
  exact nonempty (Except.ok.inj recorded).symm

/-- Every field suits its type, where the objects with a history are known. -/
def Closed (view : LedgerView) : Prop :=
  ∀ object field, (view.value object field).Suits (view.knows · = true) field.type

/-- The object is in the store, or updates tell its class. -/
def Tells (view : LedgerView) (updates : List Update) (object : ObjectRef) : Prop :=
  view.knows object = true ∨ ∃ className jar, .classTag object className jar ∈ updates

end LedgerView

namespace Heap

variable {context : Context} {writable : FieldSignature → Prop} {view : LedgerView}
  {heap after : Heap} {object : ObjectRef} {loaded : HeapObject} {field : FieldSignature}
  {value : Value} {roots : List ObjectRef} {updates : List Update}

/-! ### Closed heaps -/

/-- The object is in the store or in the heap. -/
def Knows (heap : Heap) (view : LedgerView) (object : ObjectRef) : Prop :=
  view.knows object = true ∨ (heap.objects.get? object).isSome

theorem Knows.kept (known : heap.Knows view object) (keeps : heap.Keeps after) :
    after.Knows view object := by
  refine known.imp id fun there => ?_
  obtain ⟨loaded, present⟩ := Option.isSome_iff_exists.mp there
  obtain ⟨later, still, -⟩ := keeps object loaded present
  rw [still]
  rfl

/-- Every field suits its type, and all events are known. -/
structure Closed (heap : Heap) (view : LedgerView) : Prop where
  fields : ∀ object field, (heap.value view object field).Suits (heap.Knows view) field.type
  events : ∀ event ∈ heap.events, heap.Knows view event

/-- At the start a heap says what the store says. -/
theorem closed_start (store : view.Closed) (charger : Charger) :
    Heap.Closed { charger } view where
  fields object field := (store object field).imp fun _ _ known => Or.inl known
  events _ member := by cases member

/-- Nothing that is known gets lost where no value changes. -/
theorem Closed.congr (closed : heap.Closed view) (keeps : heap.Keeps after)
    (values : after.value view = heap.value view) (events : after.events = heap.events) :
    after.Closed view where
  fields object field := by
    rw [values]
    exact (closed.fields object field).imp fun _ _ known => known.kept keeps
  events event member := (closed.events event (events ▸ member)).kept keeps

theorem Read.closed (read : Read context heap after) (closed : heap.Closed context.view) :
    after.Closed context.view := by
  refine closed.congr read.keeps read.value_eq ?_
  cases read <;> rfl

theorem Reading.closed (reading : Reading context heap after) (closed : heap.Closed context.view) :
    after.Closed context.view := by
  induction reading with
  | refl => exact closed
  | tail _ read ih => exact read.closed ih

/-- A value that is written suits. -/
theorem Write.closed (write : Write context object field value heap after)
    (closed : heap.Closed view) : after.Closed view where
  fields other another := by
    rw [write.value_eq]
    split
    · rename_i both
      obtain ⟨rfl, rfl⟩ := both
      have keeps := write.keeps
      cases write with
      | intro _ _ fits _ target =>
        exact ⟨fits, fun aimed points => Knows.kept (Or.inr (target aimed points)) keeps⟩
    · exact (closed.fields other another).imp fun _ _ known => known.kept write.keeps
  events event member := by
    have before : event ∈ heap.events := by
      cases write
      exact member
    exact (closed.events event before).kept write.keeps

/-- A field that is set suits. -/
theorem closed_of_setField (ran : setField context object field value heap = .ok () after)
    (closed : heap.Closed context.view) : after.Closed context.view := by
  obtain ⟨middle, reading, write⟩ := (writes_setField context object field value).ends ran
  exact write.closed (Reading.closed reading closed)

theorem Move.closed (move : Move context writable heap after) (fresh : context.Fresh)
    (sound : Sound context heap) (closed : heap.Closed context.view) :
    after.Closed context.view := by
  have keeps := move.keeps fresh sound
  cases move with
  | read read => exact read.closed closed
  | restrict | release => exact closed.congr keeps rfl rfl
  | allocate => exact closed.congr keeps (sound.value_withNew fresh _ _) rfl
  | write _ write => exact write.closed closed
  | emit present =>
    refine ⟨closed.fields, fun event member => ?_⟩
    rcases List.mem_append.mp member with before | last
    · exact closed.events event before
    · rw [List.mem_singleton.mp last]
      exact Or.inr (Option.isSome_of_eq_some present)
  | pay transfer =>
    cases transfer with
    | intro _ _ _ taken between _ _ _ given =>
      exact given.closed (Reading.closed between (taken.closed closed))

/-- **Whatever code does, every field suits its type.** -/
theorem Moves.closed (moves : Moves context writable heap after) (fresh : context.Fresh)
    (sound : Sound context heap) (closed : heap.Closed context.view) :
    after.Closed context.view := by
  induction moves with
  | refl => exact closed
  | tail before move ih => exact move.closed fresh (Moves.sound before sound) ih

/-! ### Updates of a closed heap -/

/-- Updates about what can be reached, which tell the class of each new object that can be. -/
structure Covers (heap : Heap) (roots : List ObjectRef) (updates : List Update) : Prop where
  only : ∀ update ∈ updates, heap.Reachable roots update.object
  tagged : ∀ object loaded, heap.objects.get? object = some loaded → loaded.isNew = true →
    heap.Reachable roots object → .classTag object loaded.className loaded.jar ∈ updates

theorem covers_updates (sound : Sound context heap) (roots : List ObjectRef) :
    heap.Covers roots (heap.updates roots) where
  only _ member := reachable_of_mem_updates sound member
  tagged _ _ present new reachable := (recordsAll_of_reachable sound present new reachable).1

/-- The values of an object that can be reached can be said as well. -/
theorem Covers.and_field (covers : heap.Covers roots updates) (reachable : heap.Reachable roots object)
    (field : FieldSignature) (value : Value) :
    heap.Covers roots (updates ++ [.field object field value]) where
  only update member := by
    rcases List.mem_append.mp member with before | last
    · exact covers.only update before
    · rw [List.mem_singleton.mp last]
      exact reachable
  tagged other seen there new reachable :=
    List.mem_append_left _ (covers.tagged other seen there new reachable)

theorem Covers.normalize (covers : heap.Covers roots updates) :
    heap.Covers roots (normalize updates) where
  only update member := covers.only update (mem_normalize.mp member)
  tagged other seen there new reachable :=
    mem_normalize.mpr (covers.tagged other seen there new reachable)

/-- What is known and can be reached is in the store, or told the class of. -/
theorem Covers.tells (covers : heap.Covers roots updates) (sound : Sound context heap)
    (known : heap.Knows context.view object) (reachable : heap.Reachable roots object) :
    context.view.Tells updates object := by
  rcases known with stored | there
  · exact Or.inl stored
  obtain ⟨loaded, present⟩ := Option.isSome_iff_exists.mp there
  by_cases new : loaded.isNew = true
  · exact Or.inr ⟨_, _, covers.tagged object loaded present new reachable⟩
  · obtain ⟨history, recorded, nonempty⟩ :=
      sound.recorded object loaded present (by simpa using new)
    exact Or.inl (LedgerView.knows_of_history recorded nonempty)

/-- **What the updates of a closed heap say suits**: an object that they point to is in the store, or
they tell its class. -/
theorem Closed.suits_of_told (closed : heap.Closed context.view) (store : context.view.Closed)
    (sound : Sound context heap) (records : RecordedBy context heap updates)
    (covers : heap.Covers roots updates) (member : .field object field value ∈ updates) :
    value.Suits (context.view.Tells updates) field.type := by
  obtain ⟨loaded, present⟩ : ∃ loaded, heap.objects.get? object = some loaded :=
    records.used _ member
  have holds := records.told object field value member
  rw [value_of_present present] at holds
  cases held : loaded.fields.get? field with
  | none =>
    rw [held, Option.getD_none] at holds
    rw [holds]
    exact (store object field).imp fun _ _ known => Or.inl known
  | some current =>
    rw [held, Option.getD_some] at holds
    subst holds
    have suits := closed.fields object field
    rw [value_of_present present, held, Option.getD_some] at suits
    refine suits.imp fun target points known => covers.tells sound known ?_
    exact .held (covers.only _ member) present (points ▸ held)

end Heap

/-! ### Objects that are made -/

namespace Machine

open Run Heap

variable {context : Context} {heap after : Heap} {caller object : ObjectRef}

/-- What was there before a part that moves the heap is there after it. -/
theorem isSome_of_leads {α : Type} {part : Run α} {post : α → Heap → Prop} {value : α}
    (leads : Leads context anything part heap post) (ran : part heap = .ok value after)
    (fresh : context.Fresh) (sound : Sound context heap)
    (there : (heap.objects.get? object).isSome) : (after.objects.get? object).isSome := by
  obtain ⟨loaded, present⟩ := Option.isSome_iff_exists.mp there
  obtain ⟨later, still, -⟩ := Moves.keeps (leads.ends ran).1 fresh sound object loaded present
  exact Option.isSome_of_eq_some still

theorem sound_of_leads {α : Type} {part : Run α} {post : α → Heap → Prop} {value : α}
    (leads : Leads context anything part heap post) (ran : part heap = .ok value after)
    (sound : Sound context heap) : Sound context after :=
  Moves.sound (leads.ends ran).1 sound

/-- The object of a constructor that is about to run is there. -/
theorem present_of_callConstructor {depth : Nat} {className : String}
    {definition : ConstructorDefinition} {actuals : List Value} {payer : Option ObjectRef}
    {frame : Frame} (fresh : context.Fresh) (sound : Sound context heap)
    (ran : callConstructor context depth className definition actuals payer heap =
      .ok (object, frame) after) : (after.objects.get? object).isSome := by
  unfold callConstructor at ran
  obtain ⟨_, checked, checking, ran⟩ := ok_of_bind ran
  obtain ⟨seen, visible, showing, ran⟩ := ok_of_bind ran
  obtain ⟨made, first, allocated, ran⟩ := ok_of_bind ran
  have sound := sound_of_leads (reads_checkActuals ..).leads checking sound
  have sound := sound_of_leads leads_ofThrowing showing sound
  have allocates : Leads context anything (allocate context className) visible _ :=
    leads_allocate className
  have there := (allocates.ends allocated).2.2
  have sound := sound_of_leads allocates allocated sound
  -- paying and entering give back the object that was made
  have enters : ∀ later, Leads context anything (do
      let frame ← enter context depth definition.code (.reference made :: actuals)
        definition.locals (some made) seen (.object made) false
      return (made, frame)) later fun result _ => result.1 = made :=
    fun later => (reads_enter ..).leads.bind fun _ _ _ => Leads.pure rfl
  have rest : Leads context anything (do
      if definition.annotations.payable then
        receivePayment context seen (some made) actuals
      let frame ← enter context depth definition.code (.reference made :: actuals)
        definition.locals (some made) seen (.object made) false
      return (made, frame)) first fun result _ => result.1 = made := by
    simp only []
    split
    · exact (leads_receivePayment ..).bind fun _ later _ => enters later
    · exact enters first
  obtain rfl : object = made := (rest.ends ran).2
  exact isSome_of_leads rest ran fresh sound there

/-- **The object that a constructor gives back is there.** -/
theorem present_of_construct {constructor : ConstructorSignature} {actuals : List Value}
    (fresh : context.Fresh) (sound : Sound context heap)
    (ran : construct context caller constructor actuals heap = .ok object after) :
    (after.objects.get? object).isSome := by
  unfold construct at ran
  obtain ⟨definition, found, finding, ran⟩ := ok_of_bind ran
  obtain ⟨⟨made, frame⟩, called, calling, ran⟩ := ok_of_bind ran
  obtain ⟨_, last, running, same⟩ := ok_of_bind ran
  cases same
  have sound := sound_of_leads leads_ofThrowing finding sound
  have there := present_of_callConstructor fresh sound calling
  have calls : Leads context anything (callConstructor context 0 constructor.definingClass
      definition actuals (some caller)) found _ :=
    leads_callConstructor 0 constructor.definingClass (fun _ _ => trivial) actuals (some caller)
  have sound := sound_of_leads calls calling sound
  have runs : Leads context anything (runFrame context frame) called fun _ _ => True :=
    leads_runFrame (writesOnly_anything _) fun _ _ => trivial
  exact isSome_of_leads runs.discard running fresh sound there

end Machine

end ObjectLedger
