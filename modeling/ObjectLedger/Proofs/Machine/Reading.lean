/-
**Loading objects and reading fields.**

* `Run.Spec`: what a part of a running transaction leads to, when it ends and when it faults.
* `Run.Reads`: a part that writes no field and throws nothing checked; closed under sequence.
* `Heap.reads_load`, **`Heap.reads_getField`**, `Heap.reads_getAmount`: an object that was loaded is
  there, and what was read is what its field holds.
* `Heap.getField_eq`, `Heap.setField_of_known`, `Heap.setField_eq`: a field that is known is read as it
  is, and one that is known or eager is written at once.
* **`Heap.writes_setField`**: a field is set by reads and one write at the end.
-/
import ObjectLedger.Proofs.Except
import ObjectLedger.Proofs.Machine.Move

namespace ObjectLedger

/-- A checked throwable left the code. -/
def Fault.isChecked : Fault → Bool
  | .thrown throwable => throwable.checked
  | .internal _ => false
  | .unfinished => false

namespace Run

variable {α β : Type} {part : Run α} {next : α → Run β} {heap : Heap} {context : Context}

/-! ### Parts of a running transaction -/

/-- What a part leads to, when it ends and when it faults. -/
def Spec (part : Run α) (heap : Heap) (post : α → Heap → Prop)
    (onFault : Fault → Heap → Prop) : Prop :=
  match part heap with
  | .ok value after => post value after
  | .error fault after => onFault fault after

theorem Spec.bind {middle : α → Heap → Prop} {post : β → Heap → Prop}
    {onFault : Fault → Heap → Prop} (first : Spec part heap middle onFault)
    (rest : ∀ value after, middle value after → Spec (next value) after post onFault) :
    Spec (part >>= next) heap post onFault := by
  unfold Spec at first
  show Spec (EStateM.bind part next) heap post onFault
  unfold Spec EStateM.bind
  cases result : part heap with
  | ok value after =>
    rw [result] at first
    exact rest value after first
  | error fault after =>
    rw [result] at first
    exact first

theorem Spec.imp {post later : α → Heap → Prop} {onFault laterFault : Fault → Heap → Prop}
    (spec : Spec part heap post onFault) (ends : ∀ value after, post value after → later value after)
    (faults : ∀ fault after, onFault fault after → laterFault fault after) :
    Spec part heap later laterFault := by
  unfold Spec at *
  cases result : part heap with
  | ok value after =>
    rw [result] at spec
    exact ends value after spec
  | error fault after =>
    rw [result] at spec
    exact faults fault after spec

theorem Spec.of_eq {post : α → Heap → Prop} {onFault : Fault → Heap → Prop} {value : α}
    {after : Heap} (ran : part heap = .ok value after) (holds : post value after) :
    Spec part heap post onFault := by
  unfold Spec
  rw [ran]
  exact holds

/-- A part of which the end is known. -/
theorem Spec.bind_of_eq {post : β → Heap → Prop} {onFault : Fault → Heap → Prop} {value : α}
    {after : Heap} (ran : part heap = .ok value after)
    (rest : Spec (next value) after post onFault) : Spec (part >>= next) heap post onFault := by
  have first : Spec part heap (fun other later => other = value ∧ later = after) onFault :=
    Spec.of_eq ran ⟨rfl, rfl⟩
  refine first.bind fun other later same => ?_
  obtain ⟨rfl, rfl⟩ := same
  exact rest

/-- What holds at an end that is known. -/
theorem Spec.ends {post : α → Heap → Prop} {onFault : Fault → Heap → Prop} {value : α} {after : Heap}
    (spec : Spec part heap post onFault) (ran : part heap = .ok value after) : post value after := by
  unfold Spec at spec
  rw [ran] at spec
  exact spec

theorem Spec.faults {post : α → Heap → Prop} {onFault : Fault → Heap → Prop} {fault : Fault}
    {after : Heap} (spec : Spec part heap post onFault) (ran : part heap = .error fault after) :
    onFault fault after := by
  unfold Spec at spec
  rw [ran] at spec
  exact spec

/-- A part that writes no field and throws nothing checked. -/
def Reads (context : Context) (part : Run α) (heap : Heap) (post : α → Heap → Prop) : Prop :=
  Spec part heap
    (fun value after => Heap.Reading context heap after ∧ post value after)
    (fun fault after => Heap.Reading context heap after ∧ fault.isChecked = false)

theorem Reads.bind {middle : α → Heap → Prop} {post : β → Heap → Prop}
    (first : Reads context part heap middle)
    (rest : ∀ value after, middle value after → Reads context (next value) after post) :
    Reads context (part >>= next) heap post :=
  Spec.bind first fun value after ends =>
    (rest value after ends.2).imp (fun _ _ later => ⟨ends.1.trans later.1, later.2⟩)
      fun _ _ later => ⟨ends.1.trans later.1, later.2⟩

theorem Reads.imp {post later : α → Heap → Prop} (reads : Reads context part heap post)
    (ends : ∀ value after, post value after → later value after) :
    Reads context part heap later :=
  Spec.imp reads (fun value after both => ⟨both.1, ends value after both.2⟩) fun _ _ both => both

/-- What was there before a part that reads is there after it. -/
theorem Reads.also {post : α → Heap → Prop} (reads : Reads context part heap post) :
    Reads context part heap fun value after => Heap.Reading context heap after ∧ post value after :=
  Spec.imp reads (fun _ _ both => ⟨both.1, both⟩) fun _ _ both => both

theorem Reads.pure {post : α → Heap → Prop} {value : α} (holds : post value heap) :
    Reads context (pure value) heap post :=
  ⟨.refl, holds⟩

theorem Reads.discard {post : α → Heap → Prop} (reads : Reads context part heap post) :
    Reads context (discard part) heap fun _ after => ∃ value, post value after :=
  reads.bind fun value _ ends => Reads.pure ⟨value, ends⟩

theorem Reads.throw {post : α → Heap → Prop} {fault : Fault} (unchecked : fault.isChecked = false) :
    Reads context (throw fault) heap post :=
  ⟨.refl, unchecked⟩

theorem Reads.fail {post : α → Heap → Prop} {throwable : Throwable}
    (unchecked : throwable.checked = false) : Reads context (fail throwable) heap post :=
  Reads.throw unchecked

theorem Reads.fail_bind {post : β → Heap → Prop} {throwable : Throwable}
    (unchecked : throwable.checked = false) :
    Reads context (Run.fail throwable >>= next) heap post := by
  have failed : Reads context (Run.fail throwable : Run α) heap fun _ _ => False :=
    Reads.fail unchecked
  exact failed.bind fun _ _ impossible => impossible.elim

/-- A part of which the end is known. -/
theorem Reads.bind_of_eq {post : β → Heap → Prop} {value : α} {after : Heap}
    (ran : part heap = .ok value after) (steps : Heap.Reading context heap after)
    (rest : Reads context (next value) after post) : Reads context (part >>= next) heap post :=
  Spec.bind_of_eq ran (Spec.imp rest (fun _ _ both => ⟨steps.trans both.1, both.2⟩)
    fun _ _ both => ⟨steps.trans both.1, both.2⟩)

theorem get_bind_apply (next : Heap → Run β) :
    ((get : Run Heap) >>= next) heap = next heap heap := rfl

theorem Reads.get_bind {next : Heap → Run β} {post : β → Heap → Prop}
    (rest : Reads context (next heap) heap post) : Reads context (get >>= next) heap post :=
  rest

/-- A part that reads, writes one field at its end, and throws nothing checked. -/
def Writes (context : Context) (object : ObjectRef) (field : FieldSignature) (value : Value)
    (part : Run Unit) (heap : Heap) : Prop :=
  Spec part heap
    (fun _ after => ∃ middle, Heap.Reading context heap middle ∧
      Heap.Write context object field value middle after)
    (fun fault after => Heap.Reading context heap after ∧ fault.isChecked = false)

/-- Reads before a write are part of it. -/
theorem Reads.then {object : ObjectRef} {field : FieldSignature} {value : Value}
    {middle : α → Heap → Prop} {next : α → Run Unit} (first : Reads context part heap middle)
    (rest : ∀ result after, middle result after →
      Writes context object field value (next result) after) :
    Writes context object field value (part >>= next) heap := by
  refine Spec.bind first fun result after ends => ?_
  refine (rest result after ends.2).imp (fun _ last written => ?_)
    fun _ _ later => ⟨ends.1.trans later.1, later.2⟩
  obtain ⟨ready, reading, write⟩ := written
  exact ⟨ready, ends.1.trans reading, write⟩

theorem Writes.fail {object : ObjectRef} {field : FieldSignature} {value : Value}
    {throwable : Throwable} (unchecked : throwable.checked = false) :
    Writes context object field value (Run.fail throwable) heap :=
  ⟨.refl, unchecked⟩

theorem reads_ofStore {look : Except StoreError α} :
    Reads context (ofStore look) heap fun value after => look = .ok value ∧ after = heap := by
  cases look with
  | ok value => exact Reads.pure ⟨rfl, rfl⟩
  | error cause => exact Reads.throw rfl

theorem reads_charge (purpose : GasUse) (amount : UInt64) :
    Reads context (charge purpose amount) heap fun _ after =>
      ∃ charger, after = { heap with charger } := by
  unfold charge
  refine Reads.get_bind ?_
  cases paid : heap.charger.charge purpose amount with
  | ok charger => exact ⟨.single (.charge paid), charger, rfl⟩
  | error refusal => exact Reads.fail rfl

end Run

namespace Heap

open Run

variable (context : Context) {heap : Heap} {object : ObjectRef} {field : FieldSignature}

/-! ### Loading -/

/-- Only gas was taken. -/
def OnlyPaid (heap after : Heap) : Prop :=
  ∃ charger, after = { heap with charger }

theorem OnlyPaid.trans {middle after : Heap} (first : heap.OnlyPaid middle)
    (second : middle.OnlyPaid after) : heap.OnlyPaid after := by
  obtain ⟨_, rfl⟩ := first
  obtain ⟨charger, rfl⟩ := second
  exact ⟨charger, rfl⟩

theorem reads_fetchResponse (entry : TransactionRef) :
    Reads context (fetchResponse context object entry) heap fun response after =>
      context.view.responseOf object entry = .ok response ∧ heap.OnlyPaid after := by
  unfold fetchResponse
  refine (reads_charge ..).bind fun _ paid onlyPaid => ?_
  refine reads_ofStore.imp fun response after found => ⟨found.1, ?_⟩
  rw [found.2]
  exact onlyPaid

theorem reads_fetchUpdates (entries : List TransactionRef) :
    Reads context (fetchUpdates context object entries) heap fun updates after =>
      context.view.updatesAlong object entries = .ok updates ∧ heap.OnlyPaid after := by
  induction entries generalizing heap with
  | nil => exact Reads.pure ⟨rfl, heap.charger, rfl⟩
  | cons entry rest ih =>
    unfold fetchUpdates
    refine (reads_fetchResponse context entry).bind fun response first found => ?_
    refine ih.bind fun others second older => ?_
    refine Reads.pure ⟨?_, found.2.trans older.2⟩
    rw [LedgerView.updatesAlong, found.1, older.1]
    rfl

/-- An object as its history tells. -/
def Recorded (context : Context) (object : ObjectRef) (loaded : HeapObject) : Prop :=
  ∃ history updates className jar, context.view.history object = .ok history ∧ history ≠ [] ∧
    context.view.updatesAlong object history = .ok updates ∧
    updates.findSome? classTagOf? = some (className, jar) ∧
    context.classes.contains className = true ∧ loaded = ofUpdates context updates className jar

theorem reads_deserialize :
    Reads context (deserialize context object) heap fun loaded after =>
      Recorded context object loaded ∧ heap.OnlyPaid after := by
  unfold deserialize
  refine reads_ofStore.bind fun history first known => ?_
  obtain ⟨known, rfl⟩ := known
  simp only []
  split
  · exact Reads.fail_bind rfl
  · rename_i nonempty
    refine (reads_fetchUpdates context history).bind fun updates second read => ?_
    cases tag : updates.findSome? classTagOf? with
    | none => exact Reads.throw rfl
    | some found =>
      obtain ⟨className, jar⟩ := found
      simp only []
      split
      · exact Reads.fail_bind rfl
      · rename_i linked
        refine Reads.pure ⟨⟨history, updates, className, jar, known, ?_, read.1, tag, ?_, rfl⟩, read.2⟩
        · simpa using nonempty
        · simpa using linked

/-- An object that is there is not loaded again. -/
theorem load_of_present {loaded : HeapObject} (present : heap.objects.get? object = some loaded) :
    load context object heap = .ok loaded heap := by
  unfold load
  rw [get_bind_apply, present]
  rfl

theorem reads_load (object : ObjectRef) :
    Reads context (load context object) heap fun loaded after =>
      after.objects.get? object = some loaded := by
  unfold load
  refine Reads.get_bind ?_
  cases present : heap.objects.get? object with
  | some loaded => exact Reads.pure present
  | none =>
    refine (reads_deserialize context).bind fun loaded after made => ?_
    obtain ⟨⟨history, updates, className, jar, known, nonempty, read, tag, linked, rfl⟩,
      charger, rfl⟩ := made
    exact ⟨.single (.load present known nonempty read tag linked), get?_put_self ..⟩

theorem reads_classOf (object : ObjectRef) :
    Reads context (classOf context object) heap fun className after =>
      ∃ loaded, after.objects.get? object = some loaded ∧ loaded.className = className := by
  unfold classOf
  exact (reads_load context object).bind fun loaded after present =>
    Reads.pure ⟨loaded, present, rfl⟩

theorem reads_isInstance (object : ObjectRef) (className : String) :
    Reads context (isInstance context object className) heap fun answer after =>
      ∃ loaded, after.objects.get? object = some loaded ∧
        context.classes.isSubclass loaded.className className = answer := by
  unfold isInstance
  refine (reads_classOf context object).bind fun name after found => ?_
  obtain ⟨loaded, present, rfl⟩ := found
  exact Reads.pure ⟨loaded, present, rfl⟩

/-! ### Fields -/

theorem reads_checkField (object : ObjectRef) (field : FieldSignature) :
    Reads context (checkField context object field) heap fun _ after =>
      ∃ loaded, after.objects.get? object = some loaded ∧
        context.classes.hasField loaded.className field = true := by
  unfold checkField
  refine (reads_classOf context object).bind fun name after found => ?_
  obtain ⟨loaded, present, rfl⟩ := found
  split
  · exact Reads.fail rfl
  · rename_i has
    exact Reads.pure ⟨loaded, present, by simpa using has⟩

theorem reads_fetchField (entries : List TransactionRef) :
    Reads context (fetchField context object field entries) heap fun value after =>
      (∃ found, context.view.fieldAlong object field entries = .ok found ∧
        value = found.getD field.type.default) ∧ heap.OnlyPaid after := by
  induction entries generalizing heap with
  | nil => exact Reads.pure ⟨⟨none, rfl, rfl⟩, heap.charger, rfl⟩
  | cons entry rest ih =>
    unfold fetchField
    refine (reads_fetchResponse context entry).bind fun response first found => ?_
    rw [LedgerView.fieldAlong_cons rest found.1]
    cases (response.updatesOf object).findSome? (LedgerView.valueOf? field) with
    | some value => exact Reads.pure ⟨⟨_, rfl, rfl⟩, found.2⟩
    | none => exact ih.imp fun value after older => ⟨older.1, found.2.trans older.2⟩

theorem modifyObject_of_present {loaded : HeapObject} {change : HeapObject → HeapObject}
    (present : heap.objects.get? object = some loaded) :
    modifyObject context object change heap = .ok () (heap.put object (change loaded)) := by
  unfold modifyObject
  show EStateM.bind (load context object) _ heap = _
  unfold EStateM.bind
  rw [load_of_present context present]
  rfl

/-- What was read is what the field holds. -/
theorem reads_getField (object : ObjectRef) (field : FieldSignature) :
    Reads context (getField context object field) heap fun value after =>
      ∃ loaded, after.objects.get? object = some loaded ∧
        context.classes.hasField loaded.className field = true ∧
        loaded.fields.get? field = some value := by
  unfold getField
  refine (reads_checkField context object field).bind fun _ first checked => ?_
  obtain ⟨loaded, present, has⟩ := checked
  refine Reads.bind_of_eq (load_of_present context present) .refl ?_
  cases known : loaded.fields.get? field with
  | some value => exact Reads.pure ⟨loaded, present, has, known⟩
  | none =>
    refine reads_ofStore.bind fun history second found => ?_
    obtain ⟨recorded, rfl⟩ := found
    refine (reads_fetchField context history).bind fun value third fetched => ?_
    obtain ⟨⟨found, along, rfl⟩, charger, rfl⟩ := fetched
    have read : context.view.field? object field = .ok found := by
      unfold LedgerView.field?
      rw [recorded]
      exact along
    refine Reads.bind_of_eq (modifyObject_of_present context present)
      (.single (.fetch present has known read)) (Reads.pure ?_)
    exact ⟨_, get?_put_self .., has, Table.get?_insert_self ..⟩

/-- An amount that was read is what the field holds. -/
theorem reads_getAmount (object : ObjectRef) (field : FieldSignature) :
    Reads context (getAmount context object field) heap fun amount after =>
      ∃ loaded, after.objects.get? object = some loaded ∧
        context.classes.hasField loaded.className field = true ∧
        loaded.fields.get? field = some (.bigInteger amount) := by
  unfold getAmount
  refine (reads_getField context object field).bind fun value after found => ?_
  cases value with
  | bigInteger amount => exact Reads.pure found
  | _ => exact Reads.fail rfl

/-! ### Fields that are known -/

theorem checkField_eq {context : Context} {loaded : HeapObject}
    (present : heap.objects.get? object = some loaded)
    (has : context.classes.hasField loaded.className field = true) :
    checkField context object field heap = .ok () heap := by
  show EStateM.bind (EStateM.bind (load context object) _) _ heap = _
  unfold EStateM.bind
  rw [load_of_present context present]
  simp only [pure, EStateM.pure, has]
  rfl

/-- A field that is known is read as it is. -/
theorem getField_eq {context : Context} {loaded : HeapObject} {value : Value}
    (present : heap.objects.get? object = some loaded)
    (has : context.classes.hasField loaded.className field = true)
    (known : loaded.fields.get? field = some value) :
    getField context object field heap = .ok value heap := by
  show EStateM.bind (checkField context object field) _ heap = _
  unfold EStateM.bind
  rw [checkField_eq present has]
  show EStateM.bind (load context object) _ heap = _
  unfold EStateM.bind
  rw [load_of_present context present]
  simp only [known]
  rfl

theorem isInstance_eq {context : Context} {loaded : HeapObject} {className : String}
    (present : heap.objects.get? object = some loaded) :
    isInstance context object className heap =
      .ok (context.classes.isSubclass loaded.className className) heap := by
  show EStateM.bind (EStateM.bind (load context object) _) _ heap = _
  unfold EStateM.bind
  rw [load_of_present context present]
  rfl

/-- The value is no reference, or one to an object that is there and of the class that the type
names. -/
def Aims (context : Context) (heap : Heap) (value : Value) (type : ValueType) : Prop :=
  ∀ target expected, value = .reference target → type = .object expected →
    ∃ aimed, heap.objects.get? target = some aimed ∧
      context.classes.isSubclass aimed.className expected = true

theorem checkTarget_eq {context : Context} {value : Value} {type : ValueType}
    (aims : heap.Aims context value type) :
    checkTarget context value type heap = .ok () heap := by
  cases value with
  | reference target =>
    cases type with
    | object expected =>
      obtain ⟨aimed, there, below⟩ := aims target expected rfl rfl
      refine (bind_of_ok (isInstance_eq there)).trans ?_
      rw [below]
      rfl
    | _ => rfl
  | _ => rfl

theorem storeField_of_known {context : Context} {loaded : HeapObject} {value : Value}
    (present : heap.objects.get? object = some loaded)
    (has : context.classes.hasField loaded.className field = true)
    (known : field.type.isEager = false → (loaded.fields.get? field).isSome) :
    storeField context object field value heap =
      .ok () (heap.put object (written loaded field value)) := by
  unfold storeField
  simp only []
  split
  · rename_i lazy
    obtain ⟨held, found⟩ := Option.isSome_iff_exists.mp (known (by simpa using lazy))
    have read : discard (getField context object field) heap = .ok () heap := by
      show EStateM.bind (getField context object field) _ heap = _
      exact bind_of_ok (getField_eq present has found)
    rw [bind_of_ok read]
    exact modifyObject_of_present context present
  · exact modifyObject_of_present context present

/-- A field that is eager or known is written at once. -/
theorem setField_of_known {context : Context} {loaded : HeapObject} {value : Value}
    (present : heap.objects.get? object = some loaded)
    (has : context.classes.hasField loaded.className field = true)
    (fits : value.fits field.type = true) (aims : heap.Aims context value field.type)
    (known : field.type.isEager = false → (loaded.fields.get? field).isSome) :
    setField context object field value heap = .ok () (heap.put object (written loaded field value)) := by
  rw [setField_eq_bind, bind_of_ok (checkField_eq present has), if_pos fits,
    bind_of_ok (checkTarget_eq aims)]
  exact storeField_of_known present has known

/-- An eager field is written at once. -/
theorem setField_eq {loaded : HeapObject} {value : Value}
    (present : heap.objects.get? object = some loaded)
    (has : context.classes.hasField loaded.className field = true)
    (fits : value.fits field.type = true) (eager : field.type.isEager = true) :
    setField context object field value heap = .ok () (heap.put object (written loaded field value)) := by
  refine setField_of_known present has fits (fun target expected _ typed => ?_) fun lazy => ?_
  · rw [typed] at eager
    cases eager
  · rw [lazy] at eager
    cases eager

/-! ### Writing -/

/-- A reference that may be stored is one to an object that is there. -/
theorem reads_checkTarget {value : Value} {type : ValueType} (fits : value.fits type = true) :
    Reads context (checkTarget context value type) heap fun _ after =>
      ∀ other, value = .reference other → (after.objects.get? other).isSome := by
  unfold checkTarget
  split
  · refine (reads_isInstance context _ _).bind fun answer second found => ?_
    obtain ⟨aimed, there, rfl⟩ := found
    split
    · exact Reads.fail rfl
    · refine Reads.pure fun other named => ?_
      cases named
      exact Option.isSome_of_eq_some there
  · rename_i noTarget
    refine Reads.pure fun other named => ?_
    subst named
    cases type with
    | object expected => exact (noTarget other expected rfl rfl).elim
    | _ => cases fits

/-- The last part, for an object and a target that are there. -/
theorem writes_storeField {object : ObjectRef} {field : FieldSignature} {value : Value}
    {loaded : HeapObject} (fits : value.fits field.type = true)
    (present : heap.objects.get? object = some loaded)
    (has : context.classes.hasField loaded.className field = true)
    (target : ∀ other, value = .reference other → (heap.objects.get? other).isSome) :
    Writes context object field value (storeField context object field value) heap := by
  unfold storeField
  simp only []
  split
  · refine (reads_getField context object field).also.discard.then fun _ after read => ?_
    obtain ⟨held, reading, seen, there, hasField, known⟩ := read
    unfold Writes Spec
    rw [modifyObject_of_present context there]
    refine ⟨after, .refl, .intro there hasField fits (fun _ => by simp [known]) fun other named => ?_⟩
    obtain ⟨aimed, found⟩ := Option.isSome_iff_exists.mp (target other named)
    obtain ⟨later, kept, -⟩ := reading.keeps other aimed found
    simp [kept]
  · rename_i eager
    unfold Writes Spec
    rw [modifyObject_of_present context present]
    exact ⟨heap, .refl, .intro present has fits (fun lazy => by simp [lazy] at eager) target⟩

/-- **A field is set by reads and one write at the end.** -/
theorem writes_setField (object : ObjectRef) (field : FieldSignature) (value : Value) :
    Writes context object field value (setField context object field value) heap := by
  rw [setField_eq_bind]
  refine (reads_checkField context object field).then fun _ first checked => ?_
  obtain ⟨loaded, present, has⟩ := checked
  split
  · rename_i fits
    refine (reads_checkTarget context fits).also.then fun _ second found => ?_
    obtain ⟨reading, target⟩ := found
    obtain ⟨kept, still, sameClass, -⟩ := reading.keeps object loaded present
    exact writes_storeField context fits still (sameClass ▸ has) target
  · exact Writes.fail rfl

end Heap

end ObjectLedger
