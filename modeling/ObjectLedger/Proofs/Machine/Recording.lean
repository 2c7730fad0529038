/-
**What the updates of a transaction say.**

* `Heap.mem_of_mem_reach`, `Heap.reach_covers`: what is reached is there, and starting points that
  are there are reached.
* `Heap.RecordedBy`: updates that record a heap. They say what fields hold, say it of all stored
  objects that changed, and say all of a new object or nothing.
* **`Heap.recordedBy_updates`**: the updates of a heap record it.
* **`Heap.RecordedBy.getD_findSome?`**: so they tell what every field holds, except for new objects
  that are not recorded.
-/
import ObjectLedger.Proofs.Machine.Move
import ObjectLedger.Proofs.Order

namespace ObjectLedger

namespace Heap

variable {context : Context} {heap : Heap} {object : ObjectRef} {loaded : HeapObject}
  {field : FieldSignature} {updates : List Update}

/-! ### Reaching objects -/

theorem mem_of_mem_reach {pending : List ObjectRef} {unvisited : List (ObjectRef × HeapObject)}
    {entry : ObjectRef × HeapObject} (reached : entry ∈ reach pending unvisited) :
    entry ∈ unvisited := by
  fun_induction reach pending unvisited with
  | case1 => cases reached
  | case2 unvisited reference rest absent ih => exact ih reached
  | case3 unvisited reference rest first found ih =>
    rcases List.mem_cons.mp reached with rfl | later
    · exact List.mem_of_find?_eq_some found
    · exact (List.mem_filter.mp (ih later)).1

/-- Whatever is pending and there is reached. -/
theorem reach_covers {pending : List ObjectRef} {unvisited : List (ObjectRef × HeapObject)}
    {entry : ObjectRef × HeapObject} (there : entry ∈ unvisited) (starts : entry.1 ∈ pending) :
    ∃ other ∈ reach pending unvisited, other.1 = entry.1 := by
  fun_induction reach pending unvisited with
  | case1 => cases starts
  | case2 unvisited reference rest absent ih =>
    rcases List.mem_cons.mp starts with same | later
    · exact absurd same (by simpa using List.find?_eq_none.mp absent entry there)
    · exact ih there later
  | case3 unvisited reference rest first found ih =>
    have named : first.1 = reference := by simpa using List.find?_some found
    by_cases same : entry.1 = reference
    · exact ⟨first, List.mem_cons_self, named.trans same.symm⟩
    · have later : entry.1 ∈ rest := (List.mem_cons.mp starts).resolve_left same
      obtain ⟨other, reached, known⟩ := ih (List.mem_filter.mpr ⟨there, by simpa using same⟩)
        (List.mem_append_right _ later)
      exact ⟨other, List.mem_cons_of_mem _ reached, known⟩

/-- The updates of a heap are those of the objects that are reached. -/
theorem mem_updates (sound : Sound context heap) {roots : List ObjectRef} {update : Update} :
    update ∈ heap.updates roots ↔ ∃ object loaded, heap.objects.get? object = some loaded ∧
      (object, loaded) ∈ reach (heap.startingPoints roots) heap.objects.entries ∧
        update ∈ loaded.updates object := by
  unfold Heap.updates
  rw [mem_normalize, List.mem_flatMap]
  refine ⟨fun ⟨entry, reached, member⟩ => ⟨entry.1, entry.2, ?_, reached, member⟩,
    fun ⟨object, loaded, _, reached, member⟩ => ⟨(object, loaded), reached, member⟩⟩
  exact sound.objects.mem_entries.mp (mem_of_mem_reach reached)

/-- A starting point that is there is reached. -/
theorem mem_reach_of_start (sound : Sound context heap) {roots : List ObjectRef}
    (present : heap.objects.get? object = some loaded) (starts : object ∈ heap.startingPoints roots) :
    (object, loaded) ∈ reach (heap.startingPoints roots) heap.objects.entries := by
  have there : (object, loaded) ∈ heap.objects.entries := sound.objects.mem_entries.mpr present
  obtain ⟨⟨other, seen⟩, reached, same⟩ := reach_covers there starts
  cases same
  have again := sound.objects.mem_entries.mp (mem_of_mem_reach reached)
  cases present.symm.trans again
  exact reached

/-- All stored objects that were used are reached. -/
theorem mem_reach_of_stored (sound : Sound context heap) (roots : List ObjectRef)
    (present : heap.objects.get? object = some loaded) (stored : loaded.isNew = false) :
    (object, loaded) ∈ reach (heap.startingPoints roots) heap.objects.entries :=
  mem_reach_of_start sound present (List.mem_append_right _ (List.mem_map.mpr ⟨_,
    List.mem_filter.mpr ⟨sound.objects.mem_entries.mpr present, by simp [stored]⟩, rfl⟩))

/-! ### The updates of an object -/

theorem object_of_mem_updates {update : Update} (member : update ∈ loaded.updates object) :
    update.object = object := by
  unfold HeapObject.updates at member
  rcases List.mem_append.mp member with tag | changed
  · split at tag
    · rw [List.mem_singleton.mp tag]
      rfl
    · cases tag
  · obtain ⟨entry, _, rfl⟩ := List.mem_map.mp changed
    rfl

theorem mem_updates_field (proper : loaded.fields.Proper) {other : ObjectRef} {value : Value} :
    .field other field value ∈ loaded.updates object ↔ other = object ∧
      loaded.fields.get? field = some value ∧ loaded.isChanged field value = true := by
  unfold HeapObject.updates
  rw [List.mem_append, List.mem_map]
  refine ⟨fun member => ?_, fun ⟨same, known, changed⟩ => Or.inr ⟨(field, value), ?_, by rw [same]⟩⟩
  · rcases member with tag | ⟨⟨another, held⟩, inside, same⟩
    · split at tag
      · cases List.mem_singleton.mp tag
      · cases tag
    · cases same
      obtain ⟨inside, changed⟩ := List.mem_filter.mp inside
      exact ⟨rfl, proper.mem_entries.mp inside, changed⟩
  · exact List.mem_filter.mpr ⟨proper.mem_entries.mpr known, changed⟩

theorem mem_updates_classTag {other : ObjectRef} {className : String} {jar : TransactionRef} :
    .classTag other className jar ∈ loaded.updates object ↔ other = object ∧
      loaded.isNew = true ∧ loaded.className = className ∧ loaded.jar = jar := by
  unfold HeapObject.updates
  rw [List.mem_append, List.mem_map]
  constructor
  · rintro (tag | ⟨entry, -, same⟩)
    · split at tag
      · rename_i new
        cases List.mem_singleton.mp tag
        exact ⟨rfl, new, rfl, rfl⟩
      · cases tag
    · cases same
  · rintro ⟨rfl, new, rfl, rfl⟩
    exact Or.inl (by simp [new])

/-- All fields of a new object among the roots are recorded. -/
theorem mem_updates_of_new (sound : Sound context heap) {roots : List ObjectRef} {value : Value}
    (present : heap.objects.get? object = some loaded) (new : loaded.isNew = true)
    (root : object ∈ roots) (known : loaded.fields.get? field = some value) :
    .field object field value ∈ heap.updates roots := by
  have starts : object ∈ heap.startingPoints roots :=
    List.mem_append_left _ (List.mem_append_left _ root)
  refine (mem_updates sound).mpr ⟨object, loaded, present, mem_reach_of_start sound present starts,
    (mem_updates_field (sound.fields object loaded present)).mpr ⟨rfl, known, ?_⟩⟩
  unfold HeapObject.isNew at new
  unfold HeapObject.isChanged
  rw [Option.isNone_iff_eq_none.mp new]

/-! ### Recording a heap -/

/-- Updates that record a heap: what they say holds, they say it of every stored object that
changed, they tell the classes of new objects only, and they say all of a new object or nothing, and
no more than what it has. -/
structure RecordedBy (context : Context) (heap : Heap) (updates : List Update) : Prop where
  told : ∀ object field value, .field object field value ∈ updates →
    value = heap.value context.view object field
  used : ∀ update ∈ updates, ∃ loaded, heap.objects.get? update.object = some loaded
  changed : ∀ object loaded, heap.objects.get? object = some loaded → loaded.isNew = false →
    ∀ field, heap.value context.view object field ≠ context.view.value object field →
      .field object field (heap.value context.view object field) ∈ updates
  tags : ∀ object className jar, .classTag object className jar ∈ updates → ∃ loaded,
    heap.objects.get? object = some loaded ∧ loaded.isNew = true ∧ loaded.className = className ∧
      loaded.jar = jar
  made : ∀ update ∈ updates, ∀ loaded, heap.objects.get? update.object = some loaded →
    loaded.isNew = true → .classTag update.object loaded.className loaded.jar ∈ updates ∧
      ∀ field value, loaded.fields.get? field = some value →
        .field update.object field value ∈ updates
  had : ∀ object field value, .field object field value ∈ updates → ∀ loaded,
    heap.objects.get? object = some loaded → loaded.isNew = true →
      (loaded.fields.get? field).isSome

/-- **The updates of a heap record it.** -/
theorem recordedBy_updates (sound : Sound context heap) (roots : List ObjectRef) :
    RecordedBy context heap (heap.updates roots) where
  told object field value member := by
    obtain ⟨other, loaded, present, _, told⟩ := (mem_updates sound).mp member
    obtain ⟨rfl, known, _⟩ := (mem_updates_field (sound.fields other loaded present)).mp told
    rw [value_of_present present, known]
    rfl
  used update member := by
    obtain ⟨object, loaded, present, _, told⟩ := (mem_updates sound).mp member
    rw [object_of_mem_updates told]
    exact ⟨loaded, present⟩
  changed object loaded present stored field different := by
    refine (mem_updates sound).mpr
      ⟨object, loaded, present, mem_reach_of_stored sound roots present stored, ?_⟩
    rw [value_of_present present] at different ⊢
    cases known : loaded.fields.get? field with
    | none =>
      rw [known] at different
      exact absurd rfl different
    | some value =>
      rw [known] at different
      refine (mem_updates_field (sound.fields object loaded present)).mpr ⟨rfl, known, ?_⟩
      unfold HeapObject.isChanged
      cases found : loaded.stored with
      | none => rfl
      | some table =>
        rw [Option.getD_some, bne_iff_ne]
        exact fun same => different (sound.found object loaded table present found field value same)
  tags object className jar member := by
    obtain ⟨other, loaded, present, _, told⟩ := (mem_updates sound).mp member
    obtain ⟨rfl, new, sameClass, sameJar⟩ := mem_updates_classTag.mp told
    exact ⟨loaded, present, new, sameClass, sameJar⟩
  made update member loaded present new := by
    obtain ⟨object, other, there, reached, told⟩ := (mem_updates sound).mp member
    rw [object_of_mem_updates told] at present ⊢
    cases there.symm.trans present
    refine ⟨(mem_updates sound).mpr ⟨object, loaded, there, reached,
        mem_updates_classTag.mpr ⟨rfl, new, rfl, rfl⟩⟩, fun field value known =>
      (mem_updates sound).mpr ⟨object, loaded, there, reached, ?_⟩⟩
    · refine (mem_updates_field (sound.fields object loaded present)).mpr ⟨rfl, known, ?_⟩
      unfold HeapObject.isNew at new
      unfold HeapObject.isChanged
      rw [Option.isNone_iff_eq_none.mp new]
  had object field value member loaded present _ := by
    obtain ⟨other, seen, there, _, told⟩ := (mem_updates sound).mp member
    obtain ⟨rfl, known, _⟩ := (mem_updates_field (sound.fields other seen there)).mp told
    cases present.symm.trans there
    exact Option.isSome_of_eq_some known

/-- The values of an object that is there can be said as well, those of a new one if they are said
already. -/
theorem RecordedBy.and_field {value : Value} (records : RecordedBy context heap updates)
    (present : heap.objects.get? object = some loaded)
    (known : heap.value context.view object field = value)
    (recorded : loaded.isNew = true → .field object field value ∈ updates) :
    RecordedBy context heap (updates ++ [.field object field value]) where
  told other another held member := by
    rcases List.mem_append.mp member with older | new
    · exact records.told other another held older
    · cases List.mem_singleton.mp new
      exact known.symm
  used update member := by
    rcases List.mem_append.mp member with older | new
    · exact records.used update older
    · rw [List.mem_singleton.mp new]
      exact ⟨loaded, present⟩
  changed other seen there old another different :=
    List.mem_append_left _ (records.changed other seen there old another different)
  tags other className jar member := by
    rcases List.mem_append.mp member with older | new
    · exact records.tags other className jar older
    · cases List.mem_singleton.mp new
  made update member seen there new := by
    have older : update ∈ updates := by
      rcases List.mem_append.mp member with older | last
      · exact older
      · rw [List.mem_singleton.mp last] at there ⊢
        cases present.symm.trans there
        exact recorded new
    obtain ⟨tag, all⟩ := records.made update older seen there new
    exact ⟨List.mem_append_left _ tag, fun another held told =>
      List.mem_append_left _ (all another held told)⟩
  had other another held member seen there new := by
    refine records.had other another held ?_ seen there new
    rcases List.mem_append.mp member with older | last
    · exact older
    · cases List.mem_singleton.mp last
      cases present.symm.trans there
      exact recorded new

theorem RecordedBy.normalize (records : RecordedBy context heap updates) :
    RecordedBy context heap (normalize updates) where
  told object field value member := records.told object field value (mem_normalize.mp member)
  used update member := records.used update (mem_normalize.mp member)
  changed object loaded present stored field different :=
    mem_normalize.mpr (records.changed object loaded present stored field different)
  tags object className jar member := records.tags object className jar (mem_normalize.mp member)
  made update member loaded present new := by
    obtain ⟨tag, all⟩ := records.made update (mem_normalize.mp member) loaded present new
    exact ⟨mem_normalize.mpr tag, fun field value known => mem_normalize.mpr (all field value known)⟩
  had object field value member := records.had object field value (mem_normalize.mp member)

/-- What is said twice of the same is the same. -/
theorem RecordedBy.eq_of_key_eq {first second : Update} (records : RecordedBy context heap updates)
    (member : first ∈ updates) (also : second ∈ updates) (object : first.object = second.object)
    (key : first.key = second.key) : first = second := by
  cases first with
  | classTag target className jar =>
    cases second with
    | field => cases key
    | classTag other otherName otherJar =>
      obtain rfl : target = other := object
      obtain ⟨loaded, present, -, rfl, rfl⟩ := records.tags target className jar member
      obtain ⟨seen, there, -, rfl, rfl⟩ := records.tags target otherName otherJar also
      cases present.symm.trans there
      rfl
  | field target field value =>
    cases second with
    | classTag => cases key
    | field other another found =>
      obtain rfl : target = other := object
      cases key
      rw [records.told target field value member, records.told target field found also]

/-- What the first update of a field says about it. -/
theorem findSome?_valueOf? {value : Value}
    (found : (updates.filter fun update => update.object = object).findSome?
      (LedgerView.valueOf? field) = some value) : .field object field value ∈ updates := by
  obtain ⟨update, inside, gives⟩ := List.exists_of_findSome?_eq_some found
  obtain ⟨member, about⟩ := List.mem_filter.mp inside
  cases update with
  | classTag => cases gives
  | field other another held =>
    obtain rfl : other = object := of_decide_eq_true about
    rw [LedgerView.valueOf?] at gives
    obtain ⟨rfl, same⟩ := Option.ite_none_right_eq_some.mp gives
    cases same
    exact member

theorem findSome?_valueOf?_ne_none {value : Value} (member : .field object field value ∈ updates) :
    (updates.filter fun update => update.object = object).findSome?
      (LedgerView.valueOf? field) ≠ none := by
  intro nothing
  have silent := List.findSome?_eq_none_iff.mp nothing _
    (List.mem_filter.mpr ⟨member, by simp [Update.object]⟩)
  simp [LedgerView.valueOf?] at silent

/-- **Updates that record a heap tell what every field holds**, except for new objects that are not
recorded. -/
theorem RecordedBy.getD_findSome? (records : RecordedBy context heap updates)
    (sound : Sound context heap) (object : ObjectRef) (field : FieldSignature) :
    ((updates.filter fun update => update.object = object).findSome?
      (LedgerView.valueOf? field)).getD (context.view.value object field) =
      if object.transaction = context.transaction ∧
          (updates.filter fun update => update.object = object) = [] then
        context.view.value object field
      else heap.value context.view object field := by
  cases found : (updates.filter fun update => update.object = object).findSome?
      (LedgerView.valueOf? field) with
  | some value =>
    have told := records.told object field value (findSome?_valueOf? found)
    rw [if_neg, told]
    · rfl
    · rintro ⟨-, nothing⟩
      rw [nothing] at found
      cases found
  | none =>
    rw [Option.getD_none]
    split
    · rfl
    · rename_i recorded
      by_contra different
      cases present : heap.objects.get? object with
      | none => exact different (value_of_absent present field).symm
      | some loaded =>
        cases new : loaded.isNew with
        | false =>
          exact findSome?_valueOf?_ne_none (records.changed object loaded present new field
            fun same => different same.symm) found
        | true =>
          obtain ⟨creator, -⟩ := sound.numbered object loaded present new
          obtain ⟨update, inside⟩ := List.exists_mem_of_ne_nil _
            fun nothing => recorded ⟨creator, nothing⟩
          obtain ⟨member, about⟩ := List.mem_filter.mp inside
          have about : update.object = object := by simpa using about
          subst about
          obtain ⟨-, all⟩ := records.made update member loaded present new
          rw [value_of_present present] at different
          cases known : loaded.fields.get? field with
          | none =>
            rw [known] at different
            exact different rfl
          | some value => exact findSome?_valueOf?_ne_none (all field value known) found

end Heap

end ObjectLedger
