/-
**The fields that code can use, and those that are recorded.**

* `Heap.Usable`, `Heap.Refused`: code reads and writes a field of an object; or it gets a class cast,
  which says that there is no such field, and nothing changes.
* `Heap.usable_of_hasField`, `Heap.refused_of_not_hasField`: the one or the other, by the fields that
  the instances of the class have.
* **`Heap.Sound.usable_iff_recorded`**: code can use just the fields that are recorded for a new object
  where no class above declares a name with two types, and nowhere else.
* `Heap.Untouched`: the fields of new objects that code cannot use hold the defaults of their types.
  **`Heap.Moves.eq_default_of_refused`**: whatever runs, these are recorded for them.
-/
import ObjectLedger.Proofs.Code.Fields
import ObjectLedger.Proofs.Machine.Reading
import ObjectLedger.Proofs.Machine.Recording

namespace ObjectLedger

namespace Heap

open Run

variable {context : Context} {writable : FieldSignature → Prop} {heap after : Heap}
  {object : ObjectRef} {loaded : HeapObject} {field : FieldSignature} {value : Value}

/-! ### Access to a field -/

/-- Code can use the field: it reads a value, and puts there whatever suits the type. -/
structure Usable (context : Context) (heap : Heap) (object : ObjectRef) (field : FieldSignature) :
    Prop where
  reads : ∃ value, getField context object field heap = .ok value heap
  writes : ∀ value, value.fits field.type = true → heap.Aims context value field.type →
    ∃ after, setField context object field value heap = .ok () after ∧
      getField context object field after = .ok value after

/-- The object is said not to have the field, and everything stays as it is. -/
structure Refused (context : Context) (heap : Heap) (object : ObjectRef) (field : FieldSignature)
    (className : String) : Prop where
  reads : getField context object field heap = .error (.thrown (.classCast
    (object.toText ++ " of class " ++ className ++ " has no field " ++ field.toText))) heap
  writes : ∀ value, setField context object field value heap = .error (.thrown (.classCast
    (object.toText ++ " of class " ++ className ++ " has no field " ++ field.toText))) heap

theorem Refused.not_usable {className : String}
    (refused : Refused context heap object field className) :
    ¬ Usable context heap object field := by
  rintro ⟨⟨value, read⟩, -⟩
  rw [refused.reads] at read
  cases read

/-- A field that the instances of the class have can be used once it is known. -/
theorem usable_of_hasField (present : heap.objects.get? object = some loaded)
    (has : context.classes.hasField loaded.className field = true)
    (known : (loaded.fields.get? field).isSome) : Usable context heap object field where
  reads := by
    obtain ⟨value, found⟩ := Option.isSome_iff_exists.mp known
    exact ⟨value, getField_eq present has found⟩
  writes value fits aims := ⟨_, setField_of_known present has fits aims fun _ => known,
    getField_eq (get?_put_self ..) has (Table.get?_insert_self ..)⟩

/-- Other fields cannot be used. -/
theorem refused_of_not_hasField (present : heap.objects.get? object = some loaded)
    (lacks : context.classes.hasField loaded.className field = false) :
    Refused context heap object field loaded.className := by
  have checked : checkField context object field heap = .error (.thrown (.classCast
      (object.toText ++ " of class " ++ loaded.className ++ " has no field " ++ field.toText))) heap := by
    have named : classOf context object heap = .ok loaded.className heap := by
      unfold classOf
      exact bind_of_ok (load_of_present context present)
    unfold checkField
    rw [bind_of_ok named, lacks]
    rfl
  refine ⟨?_, fun value => ?_⟩
  · unfold getField
    exact bind_of_error checked
  · unfold setField
    exact bind_of_error checked

/-! ### New objects -/

/-- All fields of its class are recorded for a new object that is recorded. -/
theorem Sound.recorded_iff {roots : List ObjectRef} (sound : heap.Sound context)
    (present : heap.objects.get? object = some loaded) (new : loaded.isNew = true)
    (tagged : .classTag object loaded.className loaded.jar ∈ heap.updates roots) :
    (∃ value, .field object field value ∈ heap.updates roots) ↔
      field ∈ context.classes.fieldsOf loaded.className := by
  have records := recordedBy_updates sound roots
  have typed := (sound.typed object loaded present).made (Option.isNone_iff_eq_none.mp new)
  rw [← typed.2 field]
  constructor
  · rintro ⟨value, member⟩
    exact records.had object field value member loaded present new
  · intro known
    obtain ⟨value, found⟩ := Option.isSome_iff_exists.mp known
    exact ⟨value, (records.made _ tagged loaded present new).2 field value found⟩

theorem Sound.usable_iff (sound : heap.Sound context)
    (present : heap.objects.get? object = some loaded) (new : loaded.isNew = true) :
    Usable context heap object field ↔ context.classes.hasField loaded.className field = true := by
  constructor
  · intro usable
    by_contra lacks
    exact (refused_of_not_hasField present (Bool.eq_false_of_not_eq_true lacks)).not_usable usable
  · intro has
    have typed := (sound.typed object loaded present).made (Option.isNone_iff_eq_none.mp new)
    exact usable_of_hasField present has
      ((typed.2 field).mpr (LinkedClasspath.mem_fieldsOf_of_hasField has))

/-- **Code can use just the fields that are recorded for a new object where no class above declares a
name with two types, and nowhere else.** All other fields are refused. -/
theorem Sound.usable_iff_recorded {roots : List ObjectRef} (sound : heap.Sound context)
    (present : heap.objects.get? object = some loaded) (new : loaded.isNew = true)
    (tagged : .classTag object loaded.className loaded.jar ∈ heap.updates roots) :
    (∀ field, Usable context heap object field ∨
        Refused context heap object field loaded.className) ∧
      ((∀ field, Usable context heap object field ↔
          ∃ value, .field object field value ∈ heap.updates roots) ↔
        ∀ definition ∈ context.classes.ancestors loaded.className, definition.OneType) := by
  refine ⟨fun field => ?_, ?_⟩
  · cases has : context.classes.hasField loaded.className field with
    | true => exact Or.inl ((sound.usable_iff present new).mpr has)
    | false => exact Or.inr (refused_of_not_hasField present has)
  · simp only [sound.usable_iff present new, sound.recorded_iff present new tagged]
    exact LinkedClasspath.hasField_agrees_iff

/-! ### Fields that code cannot use -/

/-- The fields of new objects that code cannot use hold the defaults of their types. -/
def Untouched (context : Context) (heap : Heap) : Prop :=
  ∀ object loaded, heap.objects.get? object = some loaded → loaded.isNew = true →
    ∀ field, context.classes.hasField loaded.className field = false →
      ∀ value, loaded.fields.get? field = some value → value = field.type.default

/-- Another state of an object of the class whose other fields are the same. -/
theorem Untouched.put {changed : HeapObject} (untouched : heap.Untouched context)
    (present : heap.objects.get? object = some loaded)
    (has : context.classes.hasField loaded.className field = true)
    (new : changed.isNew = loaded.isNew) (sameClass : changed.className = loaded.className)
    (fields : changed.fields = loaded.fields.insert field value) :
    (heap.put object changed).Untouched context := by
  intro other seen there isNew another lacks held known
  rcases cases_put there with ⟨rfl, rfl⟩ | ⟨-, older⟩
  · rw [sameClass] at lacks
    have different : another ≠ field := by
      rintro rfl
      rw [has] at lacks
      cases lacks
    rw [fields, Table.get?_insert_of_ne _ _ different] at known
    exact untouched other loaded present (new ▸ isNew) another lacks held known
  · exact untouched other seen older isNew another lacks held known

theorem Read.untouched (read : Read context heap after) (untouched : heap.Untouched context) :
    after.Untouched context := by
  cases read with
  | charge => exact untouched
  | load =>
    intro other seen there isNew
    rcases cases_put there with ⟨rfl, rfl⟩ | ⟨-, older⟩
    · cases isNew
    · exact untouched other seen older isNew
  | @fetch object loaded field found present has missing read =>
    exact untouched.put present has (by simp [HeapObject.isNew, fetched]) rfl rfl

theorem Reading.untouched (reading : Reading context heap after)
    (untouched : heap.Untouched context) : after.Untouched context := by
  induction reading with
  | refl => exact untouched
  | tail _ read ih => exact read.untouched ih

theorem Write.untouched (write : Write context object field value heap after)
    (untouched : heap.Untouched context) : after.Untouched context := by
  cases write with
  | intro present has fits known target => exact untouched.put present has rfl rfl rfl

theorem Move.untouched (move : Move context writable heap after)
    (untouched : heap.Untouched context) : after.Untouched context := by
  cases move with
  | read read => exact read.untouched untouched
  | restrict | release | emit => exact untouched
  | allocate found room =>
    intro other seen there isNew another lacks held known
    rcases cases_put there with ⟨rfl, rfl⟩ | ⟨-, older⟩
    · rw [get?_defaults] at known
      split at known
      · exact (Option.some.inj known).symm
      · cases known
    · exact untouched other seen older isNew another lacks held known
  | write _ write => exact write.untouched untouched
  | pay transfer =>
    cases transfer with
    | intro _ _ _ taken between _ _ _ given =>
      exact given.untouched (Reading.untouched between (taken.untouched untouched))

theorem Moves.untouched (moves : Moves context writable heap after)
    (untouched : heap.Untouched context) : after.Untouched context := by
  induction moves with
  | refl => exact untouched
  | tail _ move ih => exact move.untouched ih

/-- **Whatever runs, a field of a new object that code cannot use is recorded with the default of its
type.** -/
theorem Moves.eq_default_of_refused {roots : List ObjectRef} {charger : Charger}
    (moves : Moves context writable { charger } after)
    (present : after.objects.get? object = some loaded) (new : loaded.isNew = true)
    (refused : Refused context after object field loaded.className)
    (recorded : .field object field value ∈ after.updates roots) : value = field.type.default := by
  have sound := moves.sound (sound_start context charger)
  have untouched := moves.untouched fun _ _ absent => by cases absent
  have lacks : context.classes.hasField loaded.className field = false := by
    by_contra has
    exact refused.not_usable ((sound.usable_iff present new).mpr (Bool.eq_true_of_not_eq_false has))
  obtain ⟨other, held, there, -, told⟩ := (mem_updates sound).mp recorded
  obtain ⟨rfl, known, -⟩ := (mem_updates_field (sound.fields other held there)).mp told
  cases there.symm.trans present
  exact untouched object loaded present new field lacks value known

end Heap

end ObjectLedger
