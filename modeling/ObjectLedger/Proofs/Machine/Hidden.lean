/-
**Code that does not look at hidden amounts runs alike whatever they are.**

* `Heap.Alike`: two heaps differ at most in amounts that hidden fields hold.
* `Run.Mirrors`: over alike heaps a part ends where another one does, and leaves alike heaps; closed
  under sequence. `Run.Blind`: a part mirrors itself, with the same result.
* **`Heap.blind_getField`**, `Heap.blind_setField`: fields that are not hidden are read alike, and
  all fields are written alike.
* **`Machine.blind_step`**: so does every instruction but one that looks at a hidden field.
* `Machine.Reaches`: the states that a run comes to; `Machine.overlooks` follows one to its end.
  **`Machine.mirrors_run`**: a run that comes to no such instruction gives the same result.
* **`Heap.Alike.mem_updates`**: of alike heaps the same is recorded, apart from hidden amounts.
-/
import ObjectLedger.Proofs.Machine.Running
import ObjectLedger.Proofs.Machine.Saving

namespace ObjectLedger

variable {α β γ δ : Type} {context : Context}

/-! ### Alike heaps -/

/-- Two objects differ at most in amounts that hidden fields hold. -/
structure HeapObject.Alike (hidden : FieldSignature → Prop) (first second : HeapObject) : Prop where
  className_eq : second.className = first.className
  jar_eq : second.jar = first.jar
  stored_eq : second.stored = first.stored
  fields (field : FieldSignature) : second.fields.get? field = first.fields.get? field ∨
    hidden field ∧ ∃ amount other, first.fields.get? field = some (.bigInteger amount) ∧
      second.fields.get? field = some (.bigInteger other)

/-- Two heaps differ at most in amounts that hidden fields of their objects hold. -/
structure Heap.Alike (hidden : ObjectRef → FieldSignature → Prop) (first second : Heap) :
    Prop where
  charger_eq : second.charger = first.charger
  nextProgressive_eq : second.nextProgressive = first.nextProgressive
  events_eq : second.events = first.events
  absent (object : ObjectRef) (missing : first.objects.get? object = none) :
    second.objects.get? object = none
  present (object : ObjectRef) (loaded : HeapObject)
    (there : first.objects.get? object = some loaded) : ∃ other,
      second.objects.get? object = some other ∧ loaded.Alike (hidden object) other

variable {hidden : ObjectRef → FieldSignature → Prop}

namespace HeapObject

theorem alike_refl (hidden : FieldSignature → Prop) (loaded : HeapObject) :
    loaded.Alike hidden loaded :=
  ⟨rfl, rfl, rfl, fun _ => Or.inl rfl⟩

theorem Alike.symm {hidden : FieldSignature → Prop} {first second : HeapObject}
    (alike : first.Alike hidden second) : second.Alike hidden first where
  className_eq := alike.className_eq.symm
  jar_eq := alike.jar_eq.symm
  stored_eq := alike.stored_eq.symm
  fields field := (alike.fields field).imp Eq.symm fun ⟨hides, amount, other, known, knownToo⟩ =>
    ⟨hides, other, amount, knownToo, known⟩

/-- A field that gets the same value in both objects. -/
theorem Alike.fields_insert {hidden : FieldSignature → Prop} {first second : HeapObject}
    (alike : first.Alike hidden second) (field : FieldSignature) (value : Value)
    (other : FieldSignature) :
    (second.fields.insert field value).get? other = (first.fields.insert field value).get? other ∨
      hidden other ∧ ∃ amount another,
        (first.fields.insert field value).get? other = some (.bigInteger amount) ∧
          (second.fields.insert field value).get? other = some (.bigInteger another) := by
  by_cases same : other = field
  · subst same
    exact Or.inl ((Table.get?_insert_self ..).trans (Table.get?_insert_self ..).symm)
  · simp only [Table.get?_insert_of_ne _ _ same]
    exact alike.fields other

theorem Alike.written {hidden : FieldSignature → Prop} {first second : HeapObject}
    (alike : first.Alike hidden second) (field : FieldSignature) (value : Value) :
    Alike hidden (Heap.written first field value) (Heap.written second field value) :=
  ⟨alike.className_eq, alike.jar_eq, alike.stored_eq, alike.fields_insert field value⟩

theorem Alike.fetched {hidden : FieldSignature → Prop} {first second : HeapObject}
    (alike : first.Alike hidden second) (field : FieldSignature) (value : Value) :
    Alike hidden (Heap.fetched first field value) (Heap.fetched second field value) :=
  ⟨alike.className_eq, alike.jar_eq, congrArg (Option.map _) alike.stored_eq,
    alike.fields_insert field value⟩

end HeapObject

namespace Heap

variable {first second : Heap}

theorem Alike.symm (alike : first.Alike hidden second) : second.Alike hidden first where
  charger_eq := alike.charger_eq.symm
  nextProgressive_eq := alike.nextProgressive_eq.symm
  events_eq := alike.events_eq.symm
  absent object missing := by
    cases there : first.objects.get? object with
    | none => rfl
    | some loaded =>
      obtain ⟨other, thereToo, -⟩ := alike.present object loaded there
      cases thereToo.symm.trans missing
  present object other there := by
    cases known : first.objects.get? object with
    | none => cases there.symm.trans (alike.absent object known)
    | some loaded =>
      obtain ⟨seen, thereToo, same⟩ := alike.present object loaded known
      cases thereToo.symm.trans there
      exact ⟨loaded, rfl, same.symm⟩

theorem Alike.put (alike : first.Alike hidden second) {object : ObjectRef}
    {loaded other : HeapObject} (same : loaded.Alike (hidden object) other) :
    (first.put object loaded).Alike hidden (second.put object other) := by
  refine ⟨alike.charger_eq, alike.nextProgressive_eq, alike.events_eq, fun target missing => ?_,
    fun target seen there => ?_⟩
  · by_cases here : target = object
    · subst here
      rw [get?_put_self] at missing
      cases missing
    · rw [get?_put_of_ne _ _ here] at missing ⊢
      exact alike.absent target missing
  · by_cases here : target = object
    · subst here
      rw [get?_put_self] at there ⊢
      cases there
      exact ⟨other, rfl, same⟩
    · rw [get?_put_of_ne _ _ here] at there ⊢
      exact alike.present target seen there

/-- A write of an amount to a hidden field does not show. -/
theorem Write.alike {object : ObjectRef} {field : FieldSignature} {amount : Amount}
    (write : Write context object field (.bigInteger amount) first second)
    (hides : hidden object field)
    (held : ∀ loaded, first.objects.get? object = some loaded →
      ∃ old, loaded.fields.get? field = some (.bigInteger old)) : first.Alike hidden second := by
  obtain ⟨present, has, fits, known, target⟩ := write
  rename_i loaded
  obtain ⟨old, holds⟩ := held loaded present
  have same : loaded.Alike (hidden object) (Heap.written loaded field (.bigInteger amount)) := by
    refine ⟨rfl, rfl, rfl, fun other => ?_⟩
    by_cases here : other = field
    · subst here
      exact Or.inr ⟨hides, old, amount, holds, Table.get?_insert_self ..⟩
    · exact Or.inl (Table.get?_insert_of_ne _ _ here)
  refine ⟨rfl, rfl, rfl, fun target missing => ?_, fun target seen there => ?_⟩
  · rw [get?_put_of_ne _ _ (by rintro rfl; cases present.symm.trans missing)]
    exact missing
  · by_cases here : target = object
    · subst here
      cases present.symm.trans there
      exact ⟨_, get?_put_self .., same⟩
    · rw [get?_put_of_ne _ _ here]
      exact ⟨seen, there, HeapObject.alike_refl _ seen⟩

/-- The same gas account in both heaps. -/
theorem Alike.withCharger (alike : first.Alike hidden second) (charger : Charger) :
    Alike hidden { first with charger } { second with charger } :=
  ⟨rfl, alike.nextProgressive_eq, alike.events_eq, alike.absent, alike.present⟩

end Heap

/-! ### Looking at fields -/

/-- The activation is about to look at a field of an object. -/
def Frame.LooksAt (frame : Frame) (object : ObjectRef) (field : FieldSignature) : Prop :=
  frame.code[frame.position]? = some (.getField field) ∧
    frame.stack.head? = some (.reference object)

instance (frame : Frame) (object : ObjectRef) (field : FieldSignature) :
    Decidable (frame.LooksAt object field) := inferInstanceAs (Decidable (_ ∧ _))

theorem Frame.head?_of_popReference {frame rest : Frame} {object : ObjectRef}
    (popped : frame.popReference = .ok (object, rest)) :
    frame.stack.head? = some (.reference object) := by
  obtain ⟨⟨value, middle⟩, first, same⟩ := bind_eq_ok.mp popped
  have top : frame.stack.head? = some value := by
    unfold pop at first
    split at first
    · cases first
    · rename_i operands
      cases first
      rw [operands]
      rfl
  cases value <;> cases same
  exact top

/-- The machine comes from one state to another, step by step. -/
inductive Machine.Reaches (context : Context) : Status → Heap → Status → Heap → Prop
  | refl {status : Status} {heap : Heap} : Reaches context status heap status heap
  | step {frame : Frame} {callers : List Frame} {status last : Status} {heap middle after : Heap}
      (ran : Machine.step context frame callers heap = .ok status middle)
      (rest : Reaches context status middle last after) :
      Reaches context (.running frame callers) heap last after

/-- The run ends within a number of steps and does not come to a look at the field. -/
def Machine.overlooks (context : Context) (object : ObjectRef) (field : FieldSignature) :
    Nat → Status → Heap → Bool
  | _, .finished _, _ => true
  | 0, .running _ _, _ => false
  | fuel + 1, .running frame callers, heap => !decide (frame.LooksAt object field) &&
    match Machine.step context frame callers heap with
    | .ok status after => overlooks context object field fuel status after
    | .error _ _ => true

theorem Machine.not_looksAt_of_overlooks {object : ObjectRef} {field : FieldSignature} {fuel : Nat}
    {status : Status} {frame : Frame} {callers : List Frame} {heap last : Heap}
    (overlooked : overlooks context object field fuel status heap = true)
    (reaches : Reaches context status heap (.running frame callers) last) :
    ¬ frame.LooksAt object field := by
  induction fuel generalizing status heap with
  | zero =>
    cases reaches with
    | refl | step => cases overlooked
  | succ fuel ih =>
    cases reaches with
    | refl => simpa using (Bool.and_eq_true_iff.mp overlooked).1
    | step ran rest =>
      have later := (Bool.and_eq_true_iff.mp overlooked).2
      rw [ran] at later
      exact ih later rest

/-! ### Parts that mirror each other -/

namespace Run

/-- Over alike heaps the other part ends where the part does, with a related result, and leaves a heap
that is alike. -/
def Mirrors (hidden : ObjectRef → FieldSignature → Prop) (part : Run α) (other : Run β)
    (related : α → β → Prop) : Prop :=
  ∀ first second value after, first.Alike hidden second → part first = .ok value after →
    ∃ result last, other second = .ok result last ∧ related value result ∧
      after.Alike hidden last

/-- The part does not depend on hidden amounts. -/
def Blind (hidden : ObjectRef → FieldSignature → Prop) (part : Run α) : Prop :=
  Mirrors hidden part part Eq

variable {part : Run α} {other : Run β} {next : α → Run γ} {later : β → Run δ}
  {related : α → β → Prop} {ends : γ → δ → Prop}

theorem Mirrors.bind (mirrors : Mirrors hidden part other related)
    (rest : ∀ value result, related value result →
      Mirrors hidden (next value) (later result) ends) :
    Mirrors hidden (part >>= next) (other >>= later) ends := by
  intro first second value after alike ran
  obtain ⟨middle, between, begins, goesOn⟩ := ok_of_bind ran
  obtain ⟨result, reached, same, both, alike⟩ := mirrors _ _ _ _ alike begins
  rw [bind_of_ok same]
  exact rest middle result both _ _ _ _ alike goesOn

theorem Blind.bind (blind : Blind hidden part) (rest : ∀ value, Blind hidden (next value)) :
    Blind hidden (part >>= next) :=
  Mirrors.bind blind fun value _ same => same ▸ rest value

theorem Blind.mirrors_bind {related : γ → δ → Prop} {later : α → Run δ} (blind : Blind hidden part)
    (rest : ∀ value, Mirrors hidden (next value) (later value) related) :
    Mirrors hidden (part >>= next) (part >>= later) related :=
  Mirrors.bind blind fun value _ same => same ▸ rest value

theorem mirrors_pure {value : α} {result : β} (holds : related value result) :
    Mirrors hidden (pure value) (pure result) related := by
  intro first second _ _ alike ran
  cases ran
  exact ⟨result, second, rfl, holds, alike⟩

theorem Mirrors.imp {wider : α → β → Prop} (mirrors : Mirrors hidden part other related)
    (weaken : ∀ value result, related value result → wider value result) :
    Mirrors hidden part other wider := by
  intro first second value after alike ran
  obtain ⟨result, last, same, both, alike⟩ := mirrors first second value after alike ran
  exact ⟨result, last, same, weaken value result both, alike⟩

theorem blind_pure (value : α) : Blind hidden (pure value) := mirrors_pure rfl

theorem blind_throw (fault : Fault) : Blind hidden (throw fault : Run α) :=
  fun _ _ _ _ _ ran => by cases ran

theorem blind_fail (throwable : Throwable) : Blind hidden (fail throwable : Run α) :=
  blind_throw _

theorem blind_ofThrowing (result : Except Throwable α) : Blind hidden (ofThrowing result) := by
  cases result with
  | ok value => exact blind_pure value
  | error throwable => exact blind_fail throwable

theorem blind_ofStore (look : Except StoreError α) : Blind hidden (ofStore look) := by
  cases look with
  | ok value => exact blind_pure value
  | error cause => exact blind_throw _

theorem blind_modify {change : Heap → Heap}
    (keeps : ∀ first second, first.Alike hidden second →
      (change first).Alike hidden (change second)) :
    Blind hidden (modify change : Run PUnit) := by
  intro first second _ _ alike ran
  cases ran
  exact ⟨_, _, rfl, rfl, keeps first second alike⟩

theorem blind_charge (purpose : GasUse) (amount : UInt64) : Blind hidden (charge purpose amount) := by
  intro first second _ after alike ran
  unfold charge at ran ⊢
  rw [get_bind_apply] at ran ⊢
  rw [alike.charger_eq]
  cases paid : first.charger.charge purpose amount with
  | ok charger =>
    rw [paid] at ran
    cases ran
    exact ⟨_, _, rfl, rfl, alike.withCharger charger⟩
  | error refusal =>
    rw [paid] at ran
    cases ran

theorem Blind.fail_bind {throwable : Throwable} {next : α → Run β} :
    Blind hidden (Run.fail throwable >>= next) :=
  fun _ _ _ _ _ ran => by
    obtain ⟨_, _, thrown, -⟩ := ok_of_bind ran
    cases thrown

theorem blind_forM {items : List α} {visit : α → Run Unit}
    (each : ∀ item, Blind hidden (visit item)) : Blind hidden (items.forM visit) := by
  induction items with
  | nil => exact blind_pure ()
  | cons item rest ih => exact (each item).bind fun _ => ih

end Run

namespace Heap

open Run

/-! ### Loading -/

theorem blind_fetchResponse (object : ObjectRef) (entry : TransactionRef) :
    Blind hidden (fetchResponse context object entry) :=
  (blind_charge _ _).bind fun _ => blind_ofStore _

theorem blind_fetchUpdates (object : ObjectRef) (entries : List TransactionRef) :
    Blind hidden (fetchUpdates context object entries) := by
  induction entries with
  | nil => exact blind_pure []
  | cons entry rest ih =>
    exact (blind_fetchResponse object entry).bind fun _ => ih.bind fun _ => blind_pure _

theorem blind_deserialize (object : ObjectRef) : Blind hidden (deserialize context object) := by
  refine (blind_ofStore _).bind fun history => ?_
  simp only []
  split
  · exact Blind.fail_bind
  · refine (blind_fetchUpdates object history).bind fun updates => ?_
    cases updates.findSome? classTagOf? with
    | none => exact blind_throw _
    | some tag =>
      simp only []
      split
      · exact Blind.fail_bind
      · exact blind_pure _

/-- An object that is loaded is alike in alike heaps. -/
theorem mirrors_load (object : ObjectRef) :
    Mirrors hidden (load context object) (load context object)
      (HeapObject.Alike (hidden object)) := by
  intro first second loaded after alike ran
  cases there : first.objects.get? object with
  | some seen =>
    rw [load_of_present context there] at ran
    cases ran
    obtain ⟨other, thereToo, same⟩ := alike.present object loaded there
    exact ⟨other, second, load_of_present context thereToo, same, alike⟩
  | none =>
    have brings : Mirrors hidden (do
          let loaded ← deserialize context object
          modify fun heap => { heap with objects := heap.objects.insert object loaded }
          return loaded)
        (do
          let loaded ← deserialize context object
          modify fun heap => { heap with objects := heap.objects.insert object loaded }
          return loaded)
        (HeapObject.Alike (hidden object)) := by
      refine (blind_deserialize object).mirrors_bind fun loaded => ?_
      refine (blind_modify fun _ _ alike => ?_).mirrors_bind fun _ => ?_
      · exact alike.put (HeapObject.alike_refl _ loaded)
      · exact mirrors_pure (HeapObject.alike_refl _ loaded)
    unfold load at ran ⊢
    rw [get_bind_apply] at ran ⊢
    rw [there] at ran
    rw [alike.absent object there]
    exact brings first second loaded after alike ran

theorem blind_classOf (object : ObjectRef) : Blind hidden (classOf context object) :=
  (mirrors_load object).bind fun _ _ alike => mirrors_pure alike.className_eq.symm

theorem blind_isInstance (object : ObjectRef) (className : String) :
    Blind hidden (isInstance context object className) :=
  (blind_classOf object).bind fun _ => blind_pure _

/-! ### Fields -/

theorem blind_checkField (object : ObjectRef) (field : FieldSignature) :
    Blind hidden (checkField context object field) := by
  refine (blind_classOf object).bind fun className => ?_
  split
  · exact blind_fail _
  · exact blind_pure ()

theorem blind_fetchField (object : ObjectRef) (field : FieldSignature)
    (entries : List TransactionRef) : Blind hidden (fetchField context object field entries) := by
  induction entries with
  | nil => exact blind_pure _
  | cons entry rest ih =>
    refine (blind_fetchResponse object entry).bind fun response => ?_
    cases (response.updatesOf object).findSome? (LedgerView.valueOf? field) with
    | some value => exact blind_pure value
    | none => exact ih

theorem blind_modifyObject (object : ObjectRef) {change : HeapObject → HeapObject}
    (keeps : ∀ loaded other : HeapObject, loaded.Alike (hidden object) other →
      (change loaded).Alike (hidden object) (change other)) :
    Blind hidden (modifyObject context object change) :=
  (mirrors_load object).bind fun loaded other alike first second _ _ alikeHeaps ran => by
    cases ran
    exact ⟨_, _, rfl, rfl, alikeHeaps.put (keeps loaded other alike)⟩

/-- A field is read alike, unless it is hidden. -/
theorem mirrors_getField (object : ObjectRef) (field : FieldSignature) :
    Mirrors hidden (getField context object field) (getField context object field)
      fun value result => ¬ hidden object field → value = result := by
  refine (blind_checkField object field).mirrors_bind fun _ => ?_
  refine (mirrors_load object).bind fun loaded other alike => ?_
  rcases alike.fields field with same | ⟨hides, amount, another, known, knownToo⟩
  · rw [same]
    cases loaded.fields.get? field with
    | some value => exact mirrors_pure fun _ => rfl
    | none =>
      refine (blind_ofStore _).mirrors_bind fun history => ?_
      refine (blind_fetchField object field history).mirrors_bind fun value => ?_
      refine (blind_modifyObject object fun _ _ alike => alike.fetched field value).mirrors_bind
        fun _ => mirrors_pure fun _ => rfl
  · rw [known, knownToo]
    exact mirrors_pure fun shown => absurd hides shown

/-- **A field that is not hidden is read alike.** -/
theorem blind_getField {object : ObjectRef} {field : FieldSignature}
    (shown : ¬ hidden object field) : Blind hidden (getField context object field) :=
  (mirrors_getField object field).imp fun _ _ same => same shown

theorem blind_checkTarget (value : Value) (type : ValueType) :
    Blind hidden (checkTarget context value type) := by
  unfold checkTarget
  split
  · refine (blind_isInstance _ _).bind fun answer => ?_
    split
    · exact blind_fail _
    · exact blind_pure _
  · exact blind_pure _

theorem blind_storeField (object : ObjectRef) (field : FieldSignature) (value : Value) :
    Blind hidden (storeField context object field value) := by
  have write : Blind hidden (modifyObject context object fun loaded =>
      { loaded with fields := loaded.fields.insert field value }) :=
    blind_modifyObject object fun _ _ alike => alike.written field value
  unfold storeField
  simp only []
  split
  · have looks : Blind hidden (discard (getField context object field)) :=
      (mirrors_getField object field).bind fun _ _ _ => blind_pure _
    exact looks.bind fun _ => write
  · exact write

/-- **All fields are written alike.** -/
theorem blind_setField (object : ObjectRef) (field : FieldSignature) (value : Value) :
    Blind hidden (setField context object field value) := by
  rw [setField_eq_bind]
  refine (blind_checkField object field).bind fun _ => ?_
  split
  · exact (blind_checkTarget _ _).bind fun _ => blind_storeField object field value
  · exact blind_fail _

theorem blind_getAmount {object : ObjectRef} {field : FieldSignature}
    (shown : ¬ hidden object field) : Blind hidden (getAmount context object field) := by
  refine (blind_getField shown).bind fun value => ?_
  cases value with
  | bigInteger amount => exact blind_pure amount
  | _ => exact blind_fail _

theorem blind_emit (event : ObjectRef) : Blind hidden (emit event) :=
  blind_modify fun _ _ alike => ⟨alike.charger_eq, alike.nextProgressive_eq,
    congrArg (· ++ [event]) alike.events_eq, alike.absent, alike.present⟩

theorem blind_allocate (className : String) : Blind hidden (allocate context className) := by
  unfold allocate
  cases context.classes.jarOf? className with
  | none => exact blind_fail _
  | some jar =>
    refine (blind_charge _ _).bind fun _ => (blind_charge _ _).bind fun _ => ?_
    intro first second object after alike ran
    rw [get_bind_apply] at ran ⊢
    rw [alike.nextProgressive_eq]
    simp only [] at ran ⊢
    split at ran
    · obtain ⟨_, _, thrown, -⟩ := ok_of_bind ran
      cases thrown
    · rename_i room
      rw [if_neg room]
      cases ran
      exact ⟨_, _, rfl, rfl, ⟨alike.charger_eq, rfl, alike.events_eq,
        (alike.put (HeapObject.alike_refl _ _)).absent,
        (alike.put (HeapObject.alike_refl _ _)).present⟩⟩

end Heap

namespace Machine

open Run Heap

/-! ### Calls -/

theorem blind_checkActual (formal : ValueType) (actual : Value) :
    Blind hidden (checkActual context formal actual) := by
  unfold checkActual
  simp only []
  split
  · exact Blind.fail_bind
  · split
    · refine (blind_isInstance _ _).bind fun answer => ?_
      split
      · exact blind_fail _
      · exact blind_pure ()
    · exact blind_pure ()

theorem blind_checkActuals (formals : List ValueType) (actuals : List Value) :
    Blind hidden (checkActuals context formals actuals) := by
  unfold checkActuals
  simp only []
  split
  · exact Blind.fail_bind
  · exact blind_forM fun pair => blind_checkActual pair.1 pair.2

theorem blind_callerFrom (annotations : Annotations) (this : Option ObjectRef) :
    Blind hidden (callerFrom context annotations this) := by
  unfold callerFrom
  simp only []
  split
  · exact blind_pure none
  · cases this with
    | none => exact blind_fail _
    | some object =>
      refine (blind_isInstance _ _).bind fun answer => ?_
      split
      · exact blind_pure _
      · exact blind_fail _

theorem blind_enter (depth : Nat) (code : List Instruction) (locals : List Value)
    (extraLocals : UInt16) (this caller : Option ObjectRef) (yields : Yield) (bounded : Bool) :
    Blind hidden (enter context depth code locals extraLocals this caller yields bounded) := by
  unfold enter
  simp only []
  split
  · exact Blind.fail_bind
  · exact (blind_charge _ _).bind fun _ => (blind_charge _ _).bind fun _ => blind_pure _

theorem blind_restrictGas (amount : UInt64) : Blind hidden (restrictGas amount) := by
  intro first second _ after alike ran
  unfold restrictGas at ran ⊢
  rw [get_bind_apply] at ran ⊢
  rw [alike.charger_eq]
  cases pushed : first.charger.pushGas amount with
  | ok charger =>
    rw [pushed] at ran
    cases ran
    exact ⟨_, _, rfl, rfl, alike.withCharger charger⟩
  | error refusal =>
    rw [pushed] at ran
    cases ran

theorem blind_releaseGas : Blind hidden releaseGas :=
  blind_modify fun first second alike => by
    unfold releaseHeap
    rw [alike.charger_eq]
    exact alike.withCharger _

theorem blind_releasingOnFault {part : Run α} (blind : Blind hidden part) :
    Blind hidden (releasingOnFault part) := by
  intro first second value after alike ran
  unfold releasingOnFault at ran ⊢
  cases ended : part first with
  | ok result last =>
    rw [ended] at ran
    cases ran
    obtain ⟨result, last, same, equal, alikeToo⟩ := blind first second value after alike ended
    rw [same]
    exact ⟨result, last, rfl, equal, alikeToo⟩
  | error fault last =>
    rw [ended] at ran
    cases ran

section

-- payments and primitives look at balances, which are not hidden
variable (balances : ∀ object, ¬ hidden object .balance)

include balances

theorem blind_receivePayment (caller receiver : Option ObjectRef) (actuals : List Value) :
    Blind hidden (receivePayment context caller receiver actuals) := by
  unfold receivePayment
  cases caller with
  | none => exact blind_fail _
  | some payer =>
    cases receiver with
    | none => exact blind_fail _
    | some payee =>
      refine (blind_ofThrowing _).bind fun amount => ?_
      refine (blind_getAmount (balances payer)).bind fun balance => ?_
      simp only []
      split
      · exact Blind.fail_bind
      · refine (blind_setField _ _ _).bind fun _ => ?_
        refine (blind_getAmount (balances payee)).bind fun received => ?_
        cases Amount.ofNat? (received.toNat + amount.toNat) with
        | some total => exact blind_setField _ _ _
        | none => exact blind_fail _

theorem blind_callConstructor (depth : Nat) (className : String)
    (definition : ConstructorDefinition) (actuals : List Value) (caller : Option ObjectRef) :
    Blind hidden (callConstructor context depth className definition actuals caller) := by
  unfold callConstructor
  refine (blind_checkActuals _ _).bind fun _ => (blind_ofThrowing _).bind fun visible => ?_
  refine (blind_allocate className).bind fun object => ?_
  split
  · exact (blind_receivePayment balances _ _ _).bind fun _ =>
      (blind_enter _ _ _ _ _ _ _ _).bind fun _ => blind_pure _
  · exact (blind_enter _ _ _ _ _ _ _ _).bind fun _ => blind_pure _

theorem blind_callMethod (depth : Nat) (definition : MethodDefinition) (this : Option ObjectRef)
    (actuals : List Value) (caller : Option ObjectRef) (bounded : Bool) :
    Blind hidden (callMethod context depth definition this actuals caller bounded) := by
  unfold callMethod
  refine (blind_checkActuals _ _).bind fun _ => (blind_ofThrowing _).bind fun visible => ?_
  simp only []
  split
  · exact (blind_receivePayment balances _ _ _).bind fun _ => blind_enter _ _ _ _ _ _ _ _
  · exact blind_enter _ _ _ _ _ _ _ _

omit balances in
theorem blind_findCalled (method : MethodSignature) (receiver : Option ObjectRef) :
    Blind hidden (findCalled context method receiver) := by
  unfold findCalled
  cases receiver with
  | none => exact blind_ofThrowing _
  | some object =>
    refine (blind_classOf object).bind fun className => ?_
    simp only []
    split
    · exact Blind.fail_bind
    · exact blind_ofThrowing _

theorem blind_invokeFrom (depth : Nat) (this : Option ObjectRef) (method : MethodSignature)
    (receiver : Option ObjectRef) (actuals : List Value) (bounded : Bool) :
    Blind hidden (invokeFrom context depth this method receiver actuals bounded) :=
  (blind_findCalled method receiver).bind fun _ =>
    (blind_callerFrom _ this).bind fun _ => blind_callMethod balances _ _ _ _ _ _

/-! ### Primitives -/

omit balances in
theorem blind_emitEvent (argument : Value) : Blind hidden (emitEvent context argument) := by
  unfold emitEvent
  cases argument with
  | reference event =>
    refine (blind_isInstance _ _).bind fun answer => ?_
    simp only []
    split
    · exact Blind.fail_bind
    · exact blind_emit event
  | _ => exact blind_fail _

theorem blind_balanceOf (argument : Value) : Blind hidden (balanceOf context argument) := by
  unfold balanceOf
  cases argument with
  | reference contract =>
    exact (blind_getAmount (balances contract)).bind fun _ => blind_pure _
  | _ => exact blind_fail _

theorem blind_callPrimitive (primitive : Primitive) (arguments : List Value)
    (caller : Option ObjectRef) :
    Blind hidden (callPrimitive context primitive arguments caller) := by
  unfold callPrimitive
  split
  · exact blind_pure _
  · cases caller with
    | none => exact blind_fail _
    | some caller => exact blind_pure _
  · exact (blind_emitEvent _).bind fun _ => blind_pure _
  · exact (blind_balanceOf balances _).bind fun _ => blind_pure _
  · refine Blind.bind ?_ fun _ => blind_pure _
    exact (blind_ofThrowing _).bind fun _ => (blind_ofThrowing _).bind fun _ =>
      (blind_charge _ _).bind fun _ => blind_pure _
  · exact (blind_ofThrowing _).bind fun _ => blind_pure _
  · exact blind_fail _

/-! ### Steps -/

omit balances in
theorem blind_leave (frame : Frame) (callers : List Frame) (result : Option Value) :
    Blind hidden (leave frame callers result) := by
  unfold leave
  cases callers with
  | nil | cons =>
    simp only []
    split
    · exact blind_releaseGas.bind fun _ => blind_pure _
    · exact blind_pure _

/-- **An instruction runs alike**, unless it looks at a hidden field. -/
theorem blind_execute (frame : Frame) (callers : List Frame) {instruction : Instruction}
    (looks : ∀ field object rest, instruction = .getField field →
      frame.popReference = .ok (object, rest) → ¬ hidden object field) :
    Blind hidden (execute context frame callers instruction) := by
  cases alone : frame.alone? instruction with
  | some result =>
    rw [execute_of_alone? alone]
    exact (blind_ofThrowing _).bind fun _ => blind_pure _
  | none =>
    cases instruction with
    | new constructor =>
      exact (blind_ofThrowing _).bind fun _ => (blind_ofThrowing _).bind fun _ =>
        (blind_callerFrom _ _).bind fun _ => (blind_callConstructor balances _ _ _ _ _).bind
          fun _ => blind_pure _
    | getField field =>
      refine (blind_charge _ _).bind fun _ => ?_
      cases popped : frame.popReference with
      | error throwable => exact Blind.fail_bind
      | ok operand =>
        obtain ⟨object, rest⟩ := operand
        exact (blind_getField (looks field object rest rfl popped)).bind fun _ => blind_pure _
    | putField field =>
      exact (blind_charge _ _).bind fun _ => (blind_ofThrowing _).bind fun _ =>
        (blind_ofThrowing _).bind fun _ => (blind_setField _ _ _).bind fun _ => blind_pure _
    | invoke method dispatch =>
      exact (blind_ofThrowing _).bind fun _ => (blind_ofThrowing _).bind fun _ =>
        (blind_invokeFrom balances _ _ _ _ _ _).bind fun _ => blind_pure _
    | invokeWithGas method dispatch =>
      exact (blind_ofThrowing _).bind fun _ => (blind_ofThrowing _).bind fun _ =>
        (blind_ofThrowing _).bind fun _ => (blind_restrictGas _).bind fun _ =>
          (blind_releasingOnFault (blind_invokeFrom balances _ _ _ _ _ _)).bind
            fun _ => blind_pure _
    | native name arity =>
      exact (blind_ofThrowing _).bind fun _ => (blind_charge _ _).bind fun _ =>
        (blind_ofThrowing _).bind fun _ => (blind_callPrimitive balances _ _ _).bind
          fun _ => blind_pure _
    | ret => exact (blind_ofThrowing _).bind fun result => blind_leave frame callers result
    | throw className checked => exact (blind_ofThrowing _).bind fun _ => blind_fail _
    | _ => cases alone

/-- **The machine makes a step alike**, unless the top activation looks at a hidden field. -/
theorem blind_step (frame : Frame) (callers : List Frame)
    (looks : ∀ object field, hidden object field → ¬ frame.LooksAt object field) :
    Blind hidden (step context frame callers) := by
  unfold step
  cases found : frame.code[frame.position]? with
  | none => exact (blind_ofThrowing _).bind fun _ => blind_leave _ _ _
  | some instruction =>
    refine (blind_charge _ _).bind fun _ => blind_execute balances _ _ ?_
    rintro field object rest rfl popped hides
    have operand := Frame.head?_of_popReference popped
    exact looks object field hides ⟨found, operand⟩

/-- **A run that never comes to a look at a hidden field gives the same result**, by induction on its
steps. -/
theorem mirrors_run {fuel : Nat} {status : Status} {first second after : Heap}
    {value : Option Value} (alike : first.Alike hidden second)
    (looks : ∀ frame callers heap, Reaches context status first (.running frame callers) heap →
      ∀ object field, hidden object field → ¬ frame.LooksAt object field)
    (ran : run context fuel status first = .ok value after) :
    ∃ last, run context fuel status second = .ok value last ∧ after.Alike hidden last := by
  induction fuel generalizing status first second with
  | zero =>
    cases status with
    | finished result =>
      cases ran
      exact ⟨second, rfl, alike⟩
    | running frame callers => cases ran
  | succ fuel ih =>
    cases status with
    | finished result =>
      cases ran
      exact ⟨second, rfl, alike⟩
    | running frame callers =>
      unfold run at ran ⊢
      cases stepped : step context frame callers first with
      | error fault middle =>
        rw [stepped] at ran
        cases ran
      | ok status middle =>
        rw [stepped] at ran
        have overlooks := looks frame callers first .refl
        obtain ⟨_, other, same, rfl, alike⟩ :=
          blind_step balances frame callers overlooks first second status middle alike stepped
        rw [same]
        exact ih alike (fun frame callers heap reaches => looks frame callers heap
          (.step stepped reaches)) ran

theorem mirrors_runFrame {frame : Frame} {first second after : Heap} {value : Option Value}
    (alike : first.Alike hidden second)
    (looks : ∀ running callers heap,
      Reaches context (.running frame []) first (.running running callers) heap →
        ∀ object field, hidden object field → ¬ running.LooksAt object field)
    (ran : runFrame context frame first = .ok value after) :
    ∃ last, runFrame context frame second = .ok value last ∧ after.Alike hidden last := by
  have bound : stepBound second = stepBound first := by
    unfold stepBound
    rw [alike.charger_eq]
  unfold runFrame at ran ⊢
  rw [get_bind_apply] at ran ⊢
  rw [bound]
  exact mirrors_run balances alike looks ran

end

end Machine

/-! ### What is recorded -/

section

variable {first second : Heap} {roots : List ObjectRef} {object : ObjectRef} {update : Update}

/-- The update tells an amount that a hidden field holds. -/
def Update.TellsHidden (hidden : ObjectRef → FieldSignature → Prop) (update : Update) : Prop :=
  ∃ object field amount, update = .field object field (.bigInteger amount) ∧ hidden object field

/-- Alike objects have the same updates, apart from hidden amounts. -/
theorem HeapObject.Alike.mem_updates {loaded other : HeapObject}
    (alike : loaded.Alike (hidden object) other) (proper : loaded.fields.Proper)
    (properToo : other.fields.Proper) (member : update ∈ loaded.updates object) :
    update ∈ other.updates object ∨ update.TellsHidden hidden := by
  cases update with
  | classTag target className jar =>
    obtain ⟨rfl, new, named, tagged⟩ := Heap.mem_updates_classTag.mp member
    refine Or.inl (Heap.mem_updates_classTag.mpr ⟨rfl, ?_, alike.className_eq.trans named,
      alike.jar_eq.trans tagged⟩)
    rw [isNew, alike.stored_eq]
    exact new
  | field target field value =>
    obtain ⟨rfl, known, changed⟩ := (Heap.mem_updates_field proper).mp member
    rcases alike.fields field with same | ⟨hides, amount, _, holds, -⟩
    · refine Or.inl ((Heap.mem_updates_field properToo).mpr ⟨rfl, same.trans known, ?_⟩)
      rw [isChanged, alike.stored_eq]
      exact changed
    · cases holds.symm.trans known
      exact Or.inr ⟨_, field, amount, rfl, hides⟩

namespace Heap

theorem Alike.reachable (alike : first.Alike hidden second)
    (reachable : first.Reachable roots object) : second.Reachable roots object := by
  induction reachable with
  | root member => exact .root member
  | event member => exact .event (alike.events_eq ▸ member)
  | stored there stored =>
    obtain ⟨other, thereToo, same⟩ := alike.present _ _ there
    refine .stored thereToo ?_
    rw [HeapObject.isNew, same.stored_eq]
    exact stored
  | held earlier there points ih =>
    obtain ⟨other, thereToo, same⟩ := alike.present _ _ there
    -- a reference is no amount, so it is not hidden
    rcases same.fields _ with equal | ⟨-, _, _, known, -⟩
    · exact .held ih thereToo (equal.trans points)
    · cases points.symm.trans known

/-- **Of alike heaps the same is recorded, apart from hidden amounts.** -/
theorem Alike.mem_updates (alike : first.Alike hidden second) (sound : Sound context first)
    (soundToo : Sound context second) (member : update ∈ first.updates roots) :
    update ∈ second.updates roots ∨ update.TellsHidden hidden := by
  obtain ⟨object, loaded, present, reached, told⟩ := (Heap.mem_updates sound).mp member
  obtain ⟨other, presentToo, same⟩ := alike.present object loaded present
  have reached := (mem_reach_iff soundToo presentToo).mpr
    (alike.reachable ((mem_reach_iff sound present).mp reached))
  exact (same.mem_updates (sound.fields object loaded present)
    (soundToo.fields object other presentToo) told).imp_left fun told =>
      (Heap.mem_updates soundToo).mpr ⟨object, other, presentToo, reached, told⟩

end Heap

end

end ObjectLedger
