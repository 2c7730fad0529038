/-
**Over a store that can be read, looking at objects stops only by throwing.**

* `LedgerView.Readable`: every entry of a history has a response, and every history a class tag.
* `Contents.Sound.readable`: a store with sound contents is so.
* `Run.StopsByThrowing`: a part that has no fault but what it throws; closed under sequence.
* **`Heap.stopsByThrowing_getAmount`**, **`Heap.stopsByThrowing_setField`**: reading an amount of an
  object and writing a field are so.
-/
import ObjectLedger.Proofs.Machine.Reading
import ObjectLedger.Proofs.Store.Live

namespace ObjectLedger

/-! ### Stores that can be read -/

/-- Every entry of a history has a response, and every history a class tag. -/
structure LedgerView.Readable (view : LedgerView) : Prop where
  exists_history : ∀ object, ∃ history, view.history object = .ok history
  exists_response : ∀ object history, view.history object = .ok history → ∀ entry ∈ history,
    ∃ response, view.responseOf object entry = .ok response
  isSome_tag : ∀ object history updates, view.history object = .ok history → history ≠ [] →
    view.updatesAlong object history = .ok updates → (updates.findSome? Heap.classTagOf?).isSome
  exists_classTag : ∀ object, ∃ tag, view.classTag? object = .ok tag
  exists_field : ∀ object field, ∃ found, view.field? object field = .ok found

theorem Contents.Sound.readable {contents : Contents} {view : LedgerView} (sound : contents.Sound)
    (shown : view.Shows contents) : view.Readable where
  exists_history object := ⟨_, shown.history_eq object⟩
  exists_response object history known entry member := by
    cases (shown.history_eq object).symm.trans known
    obtain ⟨response, found, -⟩ := sound.intact object entry member
    exact ⟨response, shown.responseOf_eq found⟩
  isSome_tag object history updates known nonempty read := by
    cases (shown.history_eq object).symm.trans known
    have all : view.updatesAlong object (contents.histories object) =
        .ok (contents.updatesAlong object (contents.histories object)) :=
      shown.updatesAlong_eq (sound.intact.isSome_responses object)
    cases all.symm.trans read
    have last := List.getLast?_eq_some_getLast nonempty
    obtain ⟨response, found, tag⟩ := sound.tagged object _ last
    obtain ⟨update, inside, kind⟩ := List.find?_isSome.mp tag
    have member : update ∈ contents.updatesAlong object (contents.histories object) := by
      refine List.mem_flatMap.mpr ⟨_, List.mem_of_getLast? last, ?_⟩
      rw [found]
      exact inside
    cases update with
    | field => cases kind
    | classTag other className jar => exact List.findSome?_isSome_iff.mpr ⟨_, member, rfl⟩
  exists_classTag object := by
    unfold LedgerView.classTag?
    rw [shown.history_eq]
    cases last : (contents.histories object).getLast? with
    | none => exact ⟨none, by simp [bind, Except.bind, last, pure, Except.pure]⟩
    | some oldest =>
      obtain ⟨response, found, tag⟩ := sound.tagged object oldest last
      obtain ⟨update, known⟩ := Option.isSome_iff_exists.mp tag
      exact ⟨some update, by
        simp [bind, Except.bind, last, shown.responseOf_eq found, known, pure, Except.pure]⟩
  exists_field object field :=
    ⟨_, LedgerView.field?_of_updatesAlong (shown.history_eq object)
      (shown.updatesAlong_eq (sound.intact.isSome_responses object)) field⟩

namespace Run

variable {α β : Type} {part : Run α} {next : α → Run β} {heap : Heap}

/-! ### Faults -/

/-- The part has no fault but what it throws. -/
def StopsByThrowing (part : Run α) (heap : Heap) : Prop :=
  ∀ fault after, part heap = .error fault after → ∃ throwable, fault = .thrown throwable

theorem StopsByThrowing.bind (first : StopsByThrowing part heap)
    (rest : ∀ value after, part heap = .ok value after → StopsByThrowing (next value) after) :
    StopsByThrowing (part >>= next) heap := by
  intro fault after stopped
  rcases error_of_bind stopped with stopped | ⟨value, middle, ran, stopped⟩
  · exact first fault after stopped
  · exact rest value middle ran fault after stopped

theorem stopsByThrowing_pure (value : α) : StopsByThrowing (pure value) heap := by
  intro fault after stopped
  cases stopped

theorem stopsByThrowing_fail (throwable : Throwable) :
    StopsByThrowing (fail throwable : Run α) heap := by
  intro fault after stopped
  cases stopped
  exact ⟨throwable, rfl⟩

theorem StopsByThrowing.fail_bind (throwable : Throwable) :
    StopsByThrowing (Run.fail throwable >>= next) heap :=
  (stopsByThrowing_fail throwable).bind fun _ _ ran => by cases ran

theorem StopsByThrowing.get_bind {next : Heap → Run α} (rest : StopsByThrowing (next heap) heap) :
    StopsByThrowing (get >>= next) heap :=
  rest

theorem stopsByThrowing_ofStore {look : Except StoreError α} (found : ∃ value, look = .ok value) :
    StopsByThrowing (ofStore look) heap := by
  obtain ⟨value, rfl⟩ := found
  exact stopsByThrowing_pure value

theorem stopsByThrowing_charge (purpose : GasUse) (amount : UInt64) :
    StopsByThrowing (charge purpose amount) heap := by
  unfold charge
  refine StopsByThrowing.get_bind ?_
  cases heap.charger.charge purpose amount with
  | ok charger =>
    intro fault after stopped
    cases stopped
  | error refusal => exact stopsByThrowing_fail _

end Run

namespace Heap

open Run

variable {context : Context} {heap : Heap} {object : ObjectRef} {field : FieldSignature}

/-! ### Loading and reading -/

theorem stopsByThrowing_fetchResponse {entry : TransactionRef}
    (found : ∃ response, context.view.responseOf object entry = .ok response) :
    StopsByThrowing (fetchResponse context object entry) heap :=
  (stopsByThrowing_charge _ _).bind fun _ _ _ => stopsByThrowing_ofStore found

theorem stopsByThrowing_fetchUpdates {entries : List TransactionRef}
    (found : ∀ entry ∈ entries, ∃ response, context.view.responseOf object entry = .ok response) :
    StopsByThrowing (fetchUpdates context object entries) heap := by
  induction entries generalizing heap with
  | nil => exact stopsByThrowing_pure _
  | cons entry rest ih =>
    unfold fetchUpdates
    refine (stopsByThrowing_fetchResponse (found entry List.mem_cons_self)).bind fun _ _ _ => ?_
    refine (ih fun other member => found other (List.mem_cons_of_mem _ member)).bind fun _ _ _ => ?_
    exact stopsByThrowing_pure _

theorem stopsByThrowing_fetchField {entries : List TransactionRef}
    (found : ∀ entry ∈ entries, ∃ response, context.view.responseOf object entry = .ok response) :
    StopsByThrowing (fetchField context object field entries) heap := by
  induction entries generalizing heap with
  | nil => exact stopsByThrowing_pure _
  | cons entry rest ih =>
    unfold fetchField
    refine (stopsByThrowing_fetchResponse (found entry List.mem_cons_self)).bind
      fun response _ _ => ?_
    cases (response.updatesOf object).findSome? (LedgerView.valueOf? field) with
    | some value => exact stopsByThrowing_pure _
    | none => exact ih fun other member => found other (List.mem_cons_of_mem _ member)

/-- A heap that has a number left for a new object makes it, or something is thrown. -/
theorem stopsByThrowing_allocate (className : String)
    (room : heap.nextProgressive.toNat ≠ maxWord) :
    StopsByThrowing (allocate context className) heap := by
  have pays : ∀ purpose amount heap, Reads context (charge purpose amount) heap fun _ after =>
      ∃ charger, after = { heap with charger } :=
    fun purpose amount _ => reads_charge purpose amount
  unfold allocate
  cases context.classes.jarOf? className with
  | none => exact stopsByThrowing_fail _
  | some jar =>
    simp only []
    refine (stopsByThrowing_charge _ _).bind fun _ first ran => ?_
    obtain ⟨-, _, rfl⟩ := (pays _ _ _).ends ran
    refine (stopsByThrowing_charge _ _).bind fun _ second ran => ?_
    obtain ⟨-, _, rfl⟩ := (pays _ _ _).ends ran
    refine StopsByThrowing.get_bind ?_
    split
    · rename_i full
      exact absurd full room
    · intro fault after stopped
      cases stopped

variable (readable : context.view.Readable)

include readable

theorem stopsByThrowing_deserialize : StopsByThrowing (deserialize context object) heap := by
  unfold deserialize
  refine (stopsByThrowing_ofStore (readable.exists_history object)).bind fun history _ ran => ?_
  have look : Reads context (ofStore (context.view.history object)) heap fun history after =>
    context.view.history object = .ok history ∧ after = heap := reads_ofStore
  obtain ⟨-, known, -⟩ := look.ends ran
  simp only []
  split
  · exact StopsByThrowing.fail_bind _
  · rename_i nonempty
    refine (stopsByThrowing_fetchUpdates (readable.exists_response object history known)).bind
      fun updates _ fetched => ?_
    obtain ⟨-, read, -⟩ := (reads_fetchUpdates context history).ends fetched
    have told := readable.isSome_tag object history updates known (by simpa using nonempty) read
    cases tag : updates.findSome? classTagOf? with
    | none =>
      rw [tag] at told
      cases told
    | some found =>
      simp only []
      split
      · exact StopsByThrowing.fail_bind _
      · exact stopsByThrowing_pure _

theorem stopsByThrowing_load : StopsByThrowing (load context object) heap := by
  unfold load
  refine StopsByThrowing.get_bind ?_
  cases heap.objects.get? object with
  | some loaded => exact stopsByThrowing_pure _
  | none =>
    refine (stopsByThrowing_deserialize readable).bind fun _ _ _ _ _ stopped => ?_
    cases stopped

theorem stopsByThrowing_classOf : StopsByThrowing (classOf context object) heap :=
  (stopsByThrowing_load readable).bind fun _ _ _ => stopsByThrowing_pure _

theorem stopsByThrowing_isInstance (className : String) :
    StopsByThrowing (isInstance context object className) heap :=
  (stopsByThrowing_classOf readable).bind fun _ _ _ => stopsByThrowing_pure _

theorem stopsByThrowing_checkField : StopsByThrowing (checkField context object field) heap := by
  unfold checkField
  refine (stopsByThrowing_classOf readable).bind fun _ _ _ => ?_
  split
  · exact stopsByThrowing_fail _
  · exact stopsByThrowing_pure _

theorem stopsByThrowing_modifyObject (change : HeapObject → HeapObject) :
    StopsByThrowing (modifyObject context object change) heap :=
  (stopsByThrowing_load readable).bind fun _ _ _ _ _ stopped => by cases stopped

theorem stopsByThrowing_getField : StopsByThrowing (getField context object field) heap := by
  unfold getField
  refine (stopsByThrowing_checkField readable).bind fun _ _ _ => ?_
  refine (stopsByThrowing_load readable).bind fun loaded middle _ => ?_
  cases loaded.fields.get? field with
  | some value => exact stopsByThrowing_pure _
  | none =>
    refine (stopsByThrowing_ofStore (readable.exists_history object)).bind fun history _ ran => ?_
    have look : Reads context (ofStore (context.view.history object)) middle fun history after =>
      context.view.history object = .ok history ∧ after = middle := reads_ofStore
    obtain ⟨-, known, -⟩ := look.ends ran
    refine (stopsByThrowing_fetchField (readable.exists_response object history known)).bind
      fun _ _ _ => ?_
    exact (stopsByThrowing_modifyObject readable _).bind fun _ _ _ => stopsByThrowing_pure _

/-- **Reading an amount stops only by throwing.** -/
theorem stopsByThrowing_getAmount : StopsByThrowing (getAmount context object field) heap := by
  unfold getAmount
  refine (stopsByThrowing_getField readable).bind fun value _ _ => ?_
  cases value with
  | bigInteger amount => exact stopsByThrowing_pure _
  | _ => exact stopsByThrowing_fail _

/-! ### Writing -/

theorem stopsByThrowing_checkTarget (value : Value) (type : ValueType) :
    StopsByThrowing (checkTarget context value type) heap := by
  unfold checkTarget
  split
  · refine (stopsByThrowing_isInstance readable _).bind fun answer _ _ => ?_
    split
    · exact stopsByThrowing_fail _
    · exact stopsByThrowing_pure _
  · exact stopsByThrowing_pure _

theorem stopsByThrowing_storeField (value : Value) :
    StopsByThrowing (storeField context object field value) heap := by
  unfold storeField
  simp only []
  split
  · exact ((stopsByThrowing_getField readable).bind fun _ _ _ => stopsByThrowing_pure _).bind
      fun _ _ _ => stopsByThrowing_modifyObject readable _
  · exact stopsByThrowing_modifyObject readable _

/-- **Writing a field stops only by throwing.** -/
theorem stopsByThrowing_setField (value : Value) :
    StopsByThrowing (setField context object field value) heap := by
  rw [setField_eq_bind]
  refine (stopsByThrowing_checkField readable).bind fun _ _ _ => ?_
  split
  · exact (stopsByThrowing_checkTarget readable _ _).bind fun _ _ _ =>
      stopsByThrowing_storeField readable value
  · exact stopsByThrowing_fail _

end Heap

end ObjectLedger
