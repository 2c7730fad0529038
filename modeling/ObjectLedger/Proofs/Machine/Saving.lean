/-
**The updates of a heap say what changed, and nothing else.**

* `Heap.Reachable`: objects that the fields of a heap lead to, from roots, events and stored
  objects. `Heap.mem_reach_iff`: the search finds just these.
* **`Heap.exists_mem_updates_iff`**: of the fields that can be read of a stored object, just those
  that changed are recorded.
* **`Heap.recordsAll_of_reachable`**, `Heap.reachable_of_mem_updates`: all of a new object is
  recorded if it can be reached, and nothing of it otherwise.
-/
import ObjectLedger.Proofs.Machine.Free
import ObjectLedger.Proofs.Machine.Recording

namespace ObjectLedger

namespace Heap

variable {context : Context} {heap : Heap} {roots : List ObjectRef} {object target : ObjectRef}
  {loaded : HeapObject} {field : FieldSignature} {value : Value}

/-! ### Searching -/

/-- What holds of the starting points of a search and is handed on by references holds of all that
it finds. -/
theorem of_mem_reach {found : ObjectRef → Prop} {pending : List ObjectRef}
    {unvisited : List (ObjectRef × HeapObject)} {entry : ObjectRef × HeapObject}
    (starts : ∀ reference ∈ pending, found reference)
    (follows : ∀ other ∈ unvisited, found other.1 → ∀ reference ∈ other.2.references,
      found reference)
    (reached : entry ∈ reach pending unvisited) : found entry.1 := by
  fun_induction reach pending unvisited with
  | case1 => cases reached
  | case2 unvisited reference rest absent ih =>
    exact ih (fun other member => starts other (List.mem_cons_of_mem _ member)) follows reached
  | case3 unvisited reference rest first looked ih =>
    have named : first.1 = reference := by simpa using List.find?_some looked
    have start : found first.1 := named ▸ starts reference List.mem_cons_self
    rcases List.mem_cons.mp reached with rfl | later
    · exact start
    · refine ih (fun other member => ?_)
        (fun other member => follows other (List.mem_filter.mp member).1) later
      rcases List.mem_append.mp member with referred | waiting
      · exact follows first (List.mem_of_find?_eq_some looked) start other referred
      · exact starts other (List.mem_cons_of_mem _ waiting)

/-- What is there and referred to by what a search finds is found as well. -/
theorem reach_closed {pending : List ObjectRef} {unvisited : List (ObjectRef × HeapObject)}
    {entry other : ObjectRef × HeapObject} (reached : entry ∈ reach pending unvisited)
    (points : other.1 ∈ entry.2.references) (there : other ∈ unvisited) :
    ∃ seen ∈ reach pending unvisited, seen.1 = other.1 := by
  fun_induction reach pending unvisited with
  | case1 => cases reached
  | case2 unvisited reference rest absent ih => exact ih reached there
  | case3 unvisited reference rest first looked ih =>
    have named : first.1 = reference := by simpa using List.find?_some looked
    by_cases same : other.1 = reference
    · exact ⟨first, List.mem_cons_self, named.trans same.symm⟩
    · have left : other ∈ without unvisited reference :=
        List.mem_filter.mpr ⟨there, by simpa using same⟩
      have later : ∃ seen ∈ reach (first.2.references ++ rest) (without unvisited reference),
          seen.1 = other.1 := by
        rcases List.mem_cons.mp reached with rfl | reached
        · exact reach_covers left (List.mem_append_left _ points)
        · exact ih reached left
      obtain ⟨seen, member, known⟩ := later
      exact ⟨seen, List.mem_cons_of_mem _ member, known⟩

/-! ### Reachable objects -/

/-- What the fields of a heap lead to, from roots, events and the stored objects that are there. -/
inductive Reachable (heap : Heap) (roots : List ObjectRef) : ObjectRef → Prop
  | root {object : ObjectRef} (member : object ∈ roots) : Reachable heap roots object
  | event {object : ObjectRef} (member : object ∈ heap.events) : Reachable heap roots object
  | stored {object : ObjectRef} {loaded : HeapObject}
      (present : heap.objects.get? object = some loaded) (stored : loaded.isNew = false) :
      Reachable heap roots object
  | held {object target : ObjectRef} {loaded : HeapObject} {field : FieldSignature}
      (earlier : Reachable heap roots object) (present : heap.objects.get? object = some loaded)
      (points : loaded.fields.get? field = some (.reference target)) :
      Reachable heap roots target

theorem mem_startingPoints (sound : Sound context heap) :
    object ∈ heap.startingPoints roots ↔ object ∈ roots ∨ object ∈ heap.events ∨
      ∃ loaded, heap.objects.get? object = some loaded ∧ loaded.isNew = false := by
  have stored : object ∈ (heap.objects.entries.filter fun entry => !entry.2.isNew).map Prod.fst ↔
      ∃ loaded, heap.objects.get? object = some loaded ∧ loaded.isNew = false := by
    simp [List.mem_map, List.mem_filter, sound.objects.mem_entries]
  rw [startingPoints, List.mem_append, List.mem_append, stored, or_assoc]

theorem mem_references (proper : loaded.fields.Proper) :
    target ∈ loaded.references ↔ ∃ field, loaded.fields.get? field = some (.reference target) := by
  unfold HeapObject.references
  rw [List.mem_filterMap]
  constructor
  · rintro ⟨⟨field, value⟩, member, points⟩
    cases value with
    | reference other =>
      cases points
      exact ⟨field, proper.mem_entries.mp member⟩
    | _ => cases points
  · rintro ⟨field, known⟩
    exact ⟨(field, .reference target), proper.mem_entries.mpr known, rfl⟩

/-- Reached objects that are there are found. -/
theorem Reachable.mem_reach (reachable : heap.Reachable roots object)
    (sound : Sound context heap) (present : heap.objects.get? object = some loaded) :
    (object, loaded) ∈ reach (heap.startingPoints roots) heap.objects.entries := by
  -- whatever is found under a reference is the object that is there
  have only : ∀ {object loaded}, heap.objects.get? object = some loaded →
      (∃ seen ∈ reach (heap.startingPoints roots) heap.objects.entries, seen.1 = object) →
        (object, loaded) ∈ reach (heap.startingPoints roots) heap.objects.entries := by
    rintro _ loaded present ⟨⟨object, seen⟩, found, rfl⟩
    cases present.symm.trans (sound.objects.mem_entries.mp (mem_of_mem_reach found))
    exact found
  have starts : ∀ {object loaded}, heap.objects.get? object = some loaded →
      object ∈ heap.startingPoints roots →
        (object, loaded) ∈ reach (heap.startingPoints roots) heap.objects.entries :=
    fun present start => only present (reach_covers (sound.objects.mem_entries.mpr present) start)
  induction reachable generalizing loaded with
  | root member => exact starts present ((mem_startingPoints sound).mpr (Or.inl member))
  | event member =>
    exact starts present ((mem_startingPoints sound).mpr (Or.inr (Or.inl member)))
  | stored there stored =>
    exact starts present ((mem_startingPoints sound).mpr (Or.inr (Or.inr ⟨_, there, stored⟩)))
  | held earlier there points ih =>
    have refers := (mem_references (sound.fields _ _ there)).mpr ⟨_, points⟩
    exact only present (reach_closed (ih there) refers (sound.objects.mem_entries.mpr present))

/-- **The search finds just the objects that can be reached.** -/
theorem mem_reach_iff (sound : Sound context heap)
    (present : heap.objects.get? object = some loaded) :
    (object, loaded) ∈ reach (heap.startingPoints roots) heap.objects.entries ↔
      heap.Reachable roots object := by
  refine ⟨fun reached => ?_, fun reachable => reachable.mem_reach sound present⟩
  refine of_mem_reach (fun start member => ?_) (fun entry member earlier other points => ?_) reached
  · rcases (mem_startingPoints sound).mp member with root | event | ⟨seen, there, stored⟩
    · exact .root root
    · exact .event event
    · exact .stored there stored
  · have there := sound.objects.mem_entries.mp member
    obtain ⟨field, known⟩ := (mem_references (sound.fields _ _ there)).mp points
    exact .held earlier there known

/-! ### New objects -/

/-- Nothing is recorded of an object that cannot be reached. -/
theorem reachable_of_mem_updates (sound : Sound context heap) {update : Update}
    (member : update ∈ heap.updates roots) : heap.Reachable roots update.object := by
  obtain ⟨object, loaded, present, reached, told⟩ := (mem_updates sound).mp member
  rw [object_of_mem_updates told]
  exact (mem_reach_iff sound present).mp reached

/-- The updates tell the class of an object and every field that it has. -/
def RecordsAll (context : Context) (updates : List Update) (object : ObjectRef)
    (loaded : HeapObject) : Prop :=
  .classTag object loaded.className loaded.jar ∈ updates ∧
    ∀ field ∈ context.classes.fieldsOf loaded.className,
      ∃ value, .field object field value ∈ updates

/-- **All of a new object is recorded if it can be reached.** -/
theorem recordsAll_of_reachable (sound : Sound context heap)
    (present : heap.objects.get? object = some loaded) (new : loaded.isNew = true)
    (reachable : heap.Reachable roots object) :
    RecordsAll context (heap.updates roots) object loaded := by
  have reached := (mem_reach_iff sound present).mpr reachable
  have none := Option.isNone_iff_eq_none.mp new
  refine ⟨(mem_updates sound).mpr ⟨object, loaded, present, reached,
    mem_updates_classTag.mpr ⟨rfl, new, rfl, rfl⟩⟩, fun field member => ?_⟩
  obtain ⟨value, known⟩ := Option.isSome_iff_exists.mp
    ((((sound.typed object loaded present).made none).2 field).mpr member)
  refine ⟨value, (mem_updates sound).mpr ⟨object, loaded, present, reached,
    (mem_updates_field (sound.fields object loaded present)).mpr ⟨rfl, known, ?_⟩⟩⟩
  rw [HeapObject.isChanged, none]

/-! ### Stored objects -/

/-- **Of the fields that can be read of an object that is not new, just those that changed are
recorded.** -/
theorem exists_mem_updates_iff (sound : Sound context heap) (readable : context.view.Readable)
    (stored : ∀ loaded, heap.objects.get? object = some loaded → loaded.isNew = false)
    (seen : heap.fieldSeen context object field = some value) :
    (∃ told, .field object field told ∈ heap.updates roots) ↔
      value ≠ context.view.value object field := by
  rw [fieldSeen_eq readable] at seen
  obtain ⟨className, named, seen⟩ := Option.bind_eq_some_iff.mp seen
  obtain ⟨has, holds⟩ := Option.ite_none_right_eq_some.mp seen
  cases holds
  constructor
  · rintro ⟨told, member⟩ same
    obtain ⟨other, loaded, present, reached, recorded⟩ := (mem_updates sound).mp member
    obtain ⟨rfl, known, changed⟩ :=
      (mem_updates_field (sound.fields other loaded present)).mp recorded
    cases named.symm.trans (classSeen_of_present present)
    rw [value_of_present present, known, Option.getD_some] at same
    have old := stored loaded present
    cases table : loaded.stored with
    | none => rw [HeapObject.isNew, table] at old; cases old
    | some found =>
      -- the value in the store was remembered before the field could change
      obtain ⟨original, remembered⟩ := Option.isSome_iff_exists.mp
        ((sound.typed object loaded present).compared found table field has
          (Or.inr (by rw [known]; rfl)))
      have first := sound.found object loaded found present table field original remembered
      rw [HeapObject.isChanged, table, bne_iff_ne, remembered] at changed
      exact changed (by rw [same, first])
  · intro different
    cases present : heap.objects.get? object with
    | none => exact absurd (value_of_absent present field) different
    | some loaded =>
      exact ⟨_, (recordedBy_updates sound roots).changed object loaded present
        (stored loaded present) field different⟩

end Heap

end ObjectLedger
