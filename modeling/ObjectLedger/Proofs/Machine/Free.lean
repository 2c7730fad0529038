/-
**What can be read of a running transaction when nothing is paid for it.**

* `Run.result?`: the result of a part, none after a fault.
* `Heap.free`: the heap with an account that takes no gas. `Heap.classSeen`, `Heap.fieldSeen`: the
  class and a field of an object, as they are read there.
* **`Heap.classSeen_of_present`**, **`Heap.classSeen_of_absent`**: the class that is seen is that of
  the object in the heap, or else the one that the history of the object tells, if it is linked.
* **`Heap.fieldSeen_eq`**: what is seen of a field is what the field holds, where the class has it.
-/
import ObjectLedger.Proofs.Machine.Kept
import ObjectLedger.Proofs.Machine.Throwing

namespace ObjectLedger

namespace LedgerView

variable {view : LedgerView} {object : ObjectRef}

theorem exists_updatesAlong {entries : List TransactionRef}
    (found : ∀ entry ∈ entries, ∃ response, view.responseOf object entry = .ok response) :
    ∃ updates, view.updatesAlong object entries = .ok updates := by
  induction entries with
  | nil => exact ⟨[], rfl⟩
  | cons entry rest ih =>
    obtain ⟨response, first⟩ := found entry List.mem_cons_self
    obtain ⟨others, older⟩ := ih fun other member => found other (List.mem_cons_of_mem _ member)
    exact ⟨response.updatesOf object ++ others, by rw [updatesAlong, first, older]; rfl⟩

theorem Readable.exists_updates (readable : view.Readable) (object : ObjectRef) :
    ∃ history updates, view.history object = .ok history ∧
      view.updatesAlong object history = .ok updates ∧
      view.tag? object = updates.findSome? Heap.classTagOf? := by
  obtain ⟨history, known⟩ := readable.exists_history object
  obtain ⟨updates, read⟩ := exists_updatesAlong (readable.exists_response object history known)
  refine ⟨history, updates, known, read, ?_⟩
  have all : (view.history object >>= view.updatesAlong object) = .ok updates :=
    bind_eq_ok.mpr ⟨history, known, read⟩
  rw [tag?, all]

end LedgerView

/-- A stored object of a heap is of the class that its history tells. -/
theorem HeapObject.Typed.tag?_eq {context : Context} {object : ObjectRef} {loaded : HeapObject}
    (typed : loaded.Typed context object) (stored : loaded.isNew = false) :
    context.view.tag? object = some (loaded.className, loaded.jar) := by
  obtain ⟨history, updates, known, read, tag⟩ := typed.told fun none => by
    rw [isNew, none] at stored
    cases stored
  have all : (context.view.history object >>= context.view.updatesAlong object) = .ok updates :=
    bind_eq_ok.mpr ⟨history, known, read⟩
  rw [LedgerView.tag?, all]
  exact tag

namespace Run

variable {α β : Type} {part : Run α} {next : α → Run β} {heap middle : Heap}

/-- The result of a part, none after a fault. -/
def result? (part : Run α) (heap : Heap) : Option α :=
  match part heap with
  | .ok value _ => some value
  | .error _ _ => none

theorem result?_bind_of_ok {value : α} (ran : part heap = .ok value middle) :
    result? (part >>= next) heap = result? (next value) middle := by
  unfold result?
  rw [bind_of_ok ran]

theorem result?_bind_of_error {fault : Fault} (ran : part heap = .error fault middle) :
    result? (part >>= next) heap = none := by
  unfold result?
  rw [bind_of_error ran]

end Run

namespace Heap

open Run

variable {context : Context} {heap after : Heap} {object : ObjectRef} {loaded : HeapObject}
  {field : FieldSignature}

/-- The heap with an account that takes no gas. -/
def free (heap : Heap) : Heap :=
  { heap with charger := .unmetered }

/-- The class of an object as it is read when nothing is paid. -/
def classSeen (context : Context) (heap : Heap) (object : ObjectRef) : Option String :=
  result? (classOf context object) heap.free

/-- The value of a field as it is read when nothing is paid, none for a field that cannot be
read. -/
def fieldSeen (context : Context) (heap : Heap) (object : ObjectRef) (field : FieldSignature) :
    Option Value :=
  result? (getField context object field) heap.free

/-! ### Without gas -/

theorem Reading.metered_eq (reading : Reading context heap after) :
    after.charger.metered = heap.charger.metered := by
  induction reading with
  | refl => rfl
  | tail _ read ih =>
    rw [← ih]
    cases read with
    | charge paid =>
      unfold Charger.charge at paid
      split at paid
      · cases paid
        rfl
      · split at paid
        · cases paid
        · cases paid
          rfl
    | load | fetch => rfl

theorem charge_of_unmetered (unmetered : heap.charger.metered = false) (purpose : GasUse)
    (amount : UInt64) : charge purpose amount heap = .ok () heap := by
  have paid : heap.charger.charge purpose amount = .ok heap.charger := by
    simp [Charger.charge, unmetered]
  unfold charge
  rw [get_bind_apply, paid]
  rfl

theorem fetchResponse_of_unmetered (unmetered : heap.charger.metered = false)
    {entry : TransactionRef} {response : Response}
    (found : context.view.responseOf object entry = .ok response) :
    fetchResponse context object entry heap = .ok response heap := by
  unfold fetchResponse
  rw [bind_of_ok (charge_of_unmetered unmetered _ _), found]
  rfl

theorem fetchUpdates_of_unmetered (unmetered : heap.charger.metered = false)
    {entries : List TransactionRef} {updates : List Update}
    (read : context.view.updatesAlong object entries = .ok updates) :
    fetchUpdates context object entries heap = .ok updates heap := by
  induction entries generalizing updates with
  | nil =>
    cases read
    rfl
  | cons entry rest ih =>
    obtain ⟨response, first, read⟩ := bind_eq_ok.mp read
    obtain ⟨others, older, same⟩ := bind_eq_ok.mp read
    cases same
    unfold fetchUpdates
    rw [bind_of_ok (fetchResponse_of_unmetered unmetered first), bind_of_ok (ih older)]
    rfl

theorem fetchField_of_unmetered (unmetered : heap.charger.metered = false)
    {entries : List TransactionRef} {found : Option Value}
    (read : context.view.fieldAlong object field entries = .ok found) :
    fetchField context object field entries heap = .ok (found.getD field.type.default) heap := by
  induction entries with
  | nil =>
    cases read
    rfl
  | cons entry rest ih =>
    obtain ⟨response, first, -⟩ := bind_eq_ok.mp read
    rw [LedgerView.fieldAlong_cons rest first] at read
    unfold fetchField
    rw [bind_of_ok (fetchResponse_of_unmetered unmetered first)]
    cases known : (response.updatesOf object).findSome? (LedgerView.valueOf? field) with
    | some value =>
      rw [known] at read
      cases read
      rfl
    | none =>
      rw [known] at read
      exact ih read

theorem deserialize_of_unmetered (unmetered : heap.charger.metered = false)
    {history : List TransactionRef} {updates : List Update} {className : String}
    {jar : TransactionRef} (known : context.view.history object = .ok history)
    (read : context.view.updatesAlong object history = .ok updates)
    (tag : updates.findSome? classTagOf? = some (className, jar))
    (linked : context.classes.contains className = true) :
    deserialize context object heap = .ok (ofUpdates context updates className jar) heap := by
  have looked : ofStore (context.view.history object) heap = .ok history heap := by
    rw [known]
    rfl
  unfold deserialize
  rw [bind_of_ok looked]
  simp only []
  split
  · rename_i nothing
    rw [List.isEmpty_iff.mp nothing] at read
    cases read
    cases tag
  · rw [bind_of_ok (fetchUpdates_of_unmetered unmetered read)]
    simp only [tag, linked]
    rfl

/-! ### Classes -/

/-- **The class of an object in the heap is seen.** -/
theorem classSeen_of_present (present : heap.objects.get? object = some loaded) :
    heap.classSeen context object = some loaded.className := by
  have there : load context object heap.free = .ok loaded heap.free :=
    load_of_present context present
  exact result?_bind_of_ok there

/-- What comes to life is as its history tells. -/
theorem recorded_of_load (absent : heap.objects.get? object = none)
    (loads : load context object heap = .ok loaded after) : Recorded context object loaded := by
  unfold load at loads
  rw [get_bind_apply, absent] at loads
  obtain ⟨made, middle, deserialized, rest⟩ := ok_of_bind loads
  cases rest
  exact ((reads_deserialize context).ends deserialized).2.1

/-- **The class of another object is seen as its history tells, if it is linked.** -/
theorem classSeen_of_absent (readable : context.view.Readable)
    (absent : heap.objects.get? object = none) :
    heap.classSeen context object =
      ((context.view.tag? object).map Prod.fst).filter context.classes.contains := by
  obtain ⟨history, updates, known, read, tagged⟩ := readable.exists_updates object
  rw [tagged]
  cases loads : load context object heap.free with
  | ok loaded after =>
    have seen : heap.classSeen context object = some loaded.className := result?_bind_of_ok loads
    have unused : heap.free.objects.get? object = none := absent
    obtain ⟨_, _, className, jar, again, -, also, tag, linked, rfl⟩ :=
      recorded_of_load unused loads
    cases known.symm.trans again
    cases read.symm.trans also
    rw [seen, tag]
    exact (Option.filter_some_pos linked).symm
  | error fault after =>
    have hidden : heap.classSeen context object = none := result?_bind_of_error loads
    rw [hidden, eq_comm, Option.filter_eq_none_iff]
    intro _ told linked
    obtain ⟨⟨className, jar⟩, tag, rfl⟩ := Option.map_eq_some_iff.mp told
    have made : load context object heap.free =
        .ok (ofUpdates context updates className jar)
          (heap.free.put object (ofUpdates context updates className jar)) := by
      have unmetered : heap.free.charger.metered = false := rfl
      unfold load
      rw [get_bind_apply, show heap.free.objects.get? object = none from absent]
      exact bind_of_ok (deserialize_of_unmetered unmetered known read tag linked)
    rw [loads] at made
    cases made

/-! ### Fields -/

/-- **What is seen of a field is what the field holds, where the class has the field.** -/
theorem fieldSeen_eq (readable : context.view.Readable) :
    heap.fieldSeen context object field = (heap.classSeen context object).bind fun className =>
      if context.classes.hasField className field then some (heap.value context.view object field)
      else none := by
  cases loads : load context object heap.free with
  | error fault after =>
    have hidden : heap.classSeen context object = none := result?_bind_of_error loads
    have stopped : checkField context object field heap.free = .error fault after :=
      bind_of_error (bind_of_error loads)
    rw [hidden]
    exact result?_bind_of_error stopped
  | ok loaded after =>
    have seen : heap.classSeen context object = some loaded.className := result?_bind_of_ok loads
    obtain ⟨reading, present⟩ := (reads_load context object).ends loads
    have unmetered : after.charger.metered = false := Reading.metered_eq reading
    have same : after.value context.view object field = heap.value context.view object field :=
      congrFun (congrFun (Reading.value_eq reading) object) field
    have named : classOf context object heap.free = .ok loaded.className after := bind_of_ok loads
    rw [seen, Option.bind_some, fieldSeen, getField]
    split
    · rename_i has
      have checked : checkField context object field heap.free = .ok () after := by
        unfold checkField
        rw [bind_of_ok named]
        simp only [has]
        rfl
      rw [result?_bind_of_ok checked, result?_bind_of_ok (load_of_present context present), ← same,
        value_of_present present]
      cases held : loaded.fields.get? field with
      | some value => rfl
      | none =>
        obtain ⟨found, read⟩ := readable.exists_field object field
        obtain ⟨history, known, along⟩ := bind_eq_ok.mp read
        have looked : ofStore (context.view.history object) after = .ok history after := by
          rw [known]
          rfl
        simp only []
        rw [result?_bind_of_ok looked,
          result?_bind_of_ok (fetchField_of_unmetered unmetered along),
          result?_bind_of_ok (modifyObject_of_present context present),
          LedgerView.value_of_field? read]
        rfl
    · rename_i lacks
      have failed : ∃ fault, checkField context object field heap.free = .error fault after := by
        unfold checkField
        rw [bind_of_ok named]
        simp only [lacks]
        exact ⟨_, rfl⟩
      obtain ⟨fault, failed⟩ := failed
      exact result?_bind_of_error failed

end Heap

end ObjectLedger
