/-
**All readers of an object agree.**

* `LedgerView.AgreesOn`: the class tag, the state and the fields of an object tell the same.
  **`LedgerView.Shows.agreesOn`**: so they do wherever the responses along histories are recorded and
  tell classes once.
* `Heap.SeenAs`: code that pays nothing sees an object of a class, with fields as the store tells.
  **`Heap.Reading.seenAs`**: so it does, whatever was read before.
* **`Node.Submitted.readers_agree`**: both hold wherever submissions lead to.
-/
import ObjectLedger.Proofs.Machine.Free
import ObjectLedger.Proofs.Node.Classes

namespace ObjectLedger

variable {view : LedgerView} {contents : Contents} {object : ObjectRef} {field : FieldSignature}
  {context : Context} {heap after : Heap} {loaded : HeapObject} {className : String}
  {jar : TransactionRef} {updates : List Update}

/-! ### The readers of a store -/

/-- The class, the state and the fields of an object tell the same: one class tag, and for each
field the value that counts. -/
structure LedgerView.AgreesOn (view : LedgerView) (object : ObjectRef) (className : String)
    (jar : TransactionRef) (updates : List Update) : Prop where
  classTag : view.classTag? object = .ok (some (.classTag object className jar))
  state : view.state object = .ok updates
  about : ∀ update ∈ updates, update.object = object
  tags : updates.filter Update.isClassTag = [.classTag object className jar]
  fields : ∀ field, ∃ found, view.field? object field = .ok found ∧
    ∀ value, .field object field value ∈ updates ↔ found = some value

namespace Contents

theorem object_of_mem_updatesAlong {entries : List TransactionRef} {update : Update}
    (member : update ∈ contents.updatesAlong object entries) : update.object = object := by
  obtain ⟨entry, -, along⟩ := List.mem_flatMap.mp member
  cases found : contents.responses entry with
  | none =>
    rw [found] at along
    cases along
  | some response =>
    rw [found] at along
    exact of_decide_eq_true (List.mem_filter.mp along).2

theorem mem_state_iff_find? {update : Update} : update ∈ contents.state object ↔
    (contents.updatesAlong object (contents.histories object)).find?
      (fun other => other.key = update.key) = some update := by
  rw [mem_state, ← live_updatesAlong, History.live_eq_find?]

theorem object_of_mem_state {update : Update} (member : update ∈ contents.state object) :
    update.object = object :=
  object_of_mem_updatesAlong (List.mem_of_find?_eq_some (mem_state_iff_find?.mp member))

/-- The state has a value of a field if it is the first one along the history. -/
theorem mem_state_field {value : Value} : .field object field value ∈ contents.state object ↔
    (contents.updatesAlong object (contents.histories object)).findSome?
      (LedgerView.valueOf? field) = some value := by
  rw [mem_state_iff_find?, findSome?_eq_bind_find? (isSome_valueOf? field)]
  constructor
  · intro first
    rw [show (Update.field object field value).key = .field field from rfl] at first
    rw [first]
    simp [LedgerView.valueOf?]
  · intro given
    obtain ⟨update, first, holds⟩ := Option.bind_eq_some_iff.mp given
    have about := object_of_mem_updatesAlong (List.mem_of_find?_eq_some first)
    cases update with
    | classTag => cases holds
    | field target other found =>
      obtain rfl : target = object := about
      obtain rfl : other = field := by simpa [Update.key] using List.find?_some first
      obtain rfl : found = value := by simpa [LedgerView.valueOf?] using holds
      exact first

/-- The one class tag of the state is the first one along the history. -/
theorem filter_isClassTag_state
    (told : (contents.updatesAlong object (contents.histories object)).findSome?
      Heap.classTagOf? = some (className, jar)) :
    (contents.state object).filter Update.isClassTag = [.classTag object className jar] := by
  rw [findSome?_eq_bind_find? isSome_classTagOf?] at told
  obtain ⟨tag, first, told⟩ := Option.bind_eq_some_iff.mp told
  have about := object_of_mem_updatesAlong (List.mem_of_find?_eq_some first)
  cases tag with
  | field => cases told
  | classTag target =>
    cases told
    obtain rfl : target = object := about
    have only : ∀ update, update ∈ (contents.state target).filter Update.isClassTag ↔
        update ∈ [Update.classTag target className jar] := by
      intro update
      rw [List.mem_filter, mem_state_iff_find?, List.mem_singleton]
      constructor
      · rintro ⟨also, isTag⟩
        cases update with
        | field => cases isTag
        | classTag => exact Option.some.inj (also.symm.trans first)
      · rintro rfl
        exact ⟨first, rfl⟩
    have once : ((contents.state target).filter Update.isClassTag).Nodup :=
      (increasing_normalize _).nodup.filter _
    exact List.perm_singleton.mp
      ((List.perm_ext_iff_of_nodup once (List.nodup_singleton _)).mpr only)

end Contents

/-- **The readers of a store agree on each object with a history**, if transactions tell the
classes of the objects that they create. -/
theorem LedgerView.Shows.agreesOn (shown : view.Shows contents) (sound : contents.Sound)
    (tagged : view.Tagged) (known : contents.histories object ≠ []) :
    ∃ className jar, view.tag? object = some (className, jar) ∧
      view.AgreesOn object className jar (contents.state object) := by
  have recorded := sound.intact.isSome_responses object
  have read : view.updatesAlong object (contents.histories object) =
      .ok (contents.updatesAlong object (contents.histories object)) :=
    shown.updatesAlong_eq recorded
  obtain ⟨oldest, last⟩ := Option.isSome_iff_exists.mp (List.getLast?_isSome.mpr known)
  obtain ⟨response, found, isTag⟩ := sound.tagged object oldest last
  obtain ⟨tag, first⟩ := Option.isSome_iff_exists.mp isTag
  have given : ((contents.updatesAlong object (contents.histories object)).findSome?
      Heap.classTagOf?).isSome := by
    rw [List.findSome?_isSome_iff]
    refine ⟨tag, List.mem_flatMap.mpr ⟨oldest, List.mem_of_getLast? last, ?_⟩, ?_⟩
    · rw [found]
      exact List.mem_of_find?_eq_some first
    · have isTag := List.find?_some first
      cases tag with
      | classTag => rfl
      | field => cases isTag
  obtain ⟨⟨className, jar⟩, told⟩ := Option.isSome_iff_exists.mp given
  have all : (view.history object >>= view.updatesAlong object) =
      .ok (contents.updatesAlong object (contents.histories object)) :=
    bind_eq_ok.mpr ⟨_, shown.history_eq object, read⟩
  refine ⟨className, jar, ?_, ?_⟩
  · rw [LedgerView.tag?, all]
    exact told
  · exact
      { classTag := shown.classTag?_eq sound tagged told
        state := shown.state_ok recorded
        about := fun update => Contents.object_of_mem_state
        tags := Contents.filter_isClassTag_state told
        fields := fun field => ⟨_, field?_of_updatesAlong (shown.history_eq object) read field,
          fun value => Contents.mem_state_field⟩ }

/-! ### Running code -/

namespace Heap

/-- Code sees an object of a class whose fields hold what the store tells. -/
structure SeenAs (context : Context) (heap : Heap) (object : ObjectRef) (className : String) :
    Prop where
  /-- Without paying, the class is seen. -/
  class_eq : heap.classSeen context object = some className
  /-- Paying, no other class is seen. -/
  class_of_ok : ∀ told after, classOf context object heap = .ok told after → told = className
  field_eq : ∀ field, context.classes.hasField className field = true →
    ∃ found, context.view.field? object field = .ok found ∧
      heap.fieldSeen context object field = some (found.getD field.type.default)

theorem Reading.nextProgressive_eq (reading : Reading context heap after) :
    after.nextProgressive = heap.nextProgressive := by
  induction reading with
  | refl => rfl
  | tail _ read ih =>
    rw [← ih]
    cases read <;> rfl

/-- What was read is of the class that its history tells. -/
theorem Reading.tag?_eq {charger : Charger} (reading : Reading context { charger } heap)
    (present : heap.objects.get? object = some loaded) :
    context.view.tag? object = some (loaded.className, loaded.jar) := by
  have sound := reading.sound (sound_start context charger)
  refine (sound.typed object loaded present).tag?_eq ?_
  cases new : loaded.isNew with
  | false => rfl
  | true =>
    obtain ⟨-, below⟩ := sound.numbered object loaded present new
    rw [reading.nextProgressive_eq] at below
    exact absurd below UInt64.not_lt_zero

theorem Reading.value_of_start {charger : Charger} (reading : Reading context { charger } heap) :
    heap.value context.view object field = context.view.value object field := by
  rw [reading.value_eq]
  exact value_of_absent rfl field

/-- **Whatever was read before, an object is seen as its history tells**, if its class is linked. -/
theorem Reading.seenAs {charger : Charger} (reading : Reading context { charger } heap)
    (readable : context.view.Readable) (tag : context.view.tag? object = some (className, jar))
    (linked : context.classes.contains className = true) :
    heap.SeenAs context object className := by
  have seen : heap.classSeen context object = some className := by
    cases present : heap.objects.get? object with
    | some loaded =>
      rw [classSeen_of_present present]
      have same := (reading.tag?_eq present).symm.trans tag
      exact congrArg some (Prod.mk.inj (Option.some.inj same)).1
    | none =>
      rw [classSeen_of_absent readable present, tag]
      exact Option.filter_some_pos linked
  refine ⟨seen, fun told after ran => ?_, fun field has => ?_⟩
  · obtain ⟨loaded, middle, loads, rest⟩ := ok_of_bind ran
    cases rest
    obtain ⟨later, present⟩ := (reads_load context object).ends loads
    have same := (Reading.tag?_eq (reading.trans later) present).symm.trans tag
    exact (Prod.mk.inj (Option.some.inj same)).1
  · obtain ⟨found, read⟩ := readable.exists_field object field
    refine ⟨found, read, ?_⟩
    rw [fieldSeen_eq readable, seen, Option.bind_some, if_pos has, reading.value_of_start,
      LedgerView.value_of_field? read]

end Heap

namespace Node

/-- **All readers of an object agree wherever submissions lead to**: the class, the state and the
fields that the store tells, and the class and the fields that code sees which runs with any classes
among which there is that of the object, whatever it has read before. -/
theorem Submitted.readers_agree {settings : NodeConfig} {root : Option String}
    {node : Node Medium} {requests : List Request} {history : List TransactionRef}
    (run : Submitted (Node.start settings { backend := Medium.blank root }) node requests)
    (looks : context.view = node.ledger.view)
    (known : context.view.history object = .ok history) (nonempty : history ≠ []) :
    ∃ className jar updates, context.view.AgreesOn object className jar updates ∧
      (context.classes.contains className = true → ∀ charger heap,
        Heap.Reading context { charger } heap → heap.SeenAs context object className) := by
  have begins := sound_start settings root
  obtain ⟨contents, sound⟩ := run.sound begins
  have shown : context.view.Shows contents := looks ▸ sound.holds.shows
  have readable : context.view.Readable := sound.sound.readable shown
  have recorded : contents.histories object ≠ [] := by
    cases known.symm.trans (shown.history_eq object)
    exact nonempty
  obtain ⟨className, jar, tag, agrees⟩ :=
    shown.agreesOn sound.sound (looks ▸ run.tagged begins) recorded
  exact ⟨className, jar, _, agrees, fun linked _ _ reading => reading.seenAs readable tag linked⟩

end Node

/-- What the store tells of the gamete is what code with the classes of its jar sees. -/
theorem Strangers.readers_agree_gamete :
    ∃ updates, Node.Submitted Purses.begun joined [Purses.installing, Purses.creation, joining] ∧
      (looking ⟨0⟩).view.history Purses.gamete = .ok [⟨1⟩] ∧
      (looking ⟨0⟩).classes.contains ClassName.gamete = true ∧
      (looking ⟨0⟩).view.AgreesOn Purses.gamete ClassName.gamete ⟨0⟩ updates ∧
      Heap.SeenAs (looking ⟨0⟩) { charger := .unmetered } Purses.gamete ClassName.gamete := by
  obtain ⟨known, linked, named⟩ : (looking ⟨0⟩).view.history Purses.gamete = .ok [⟨1⟩] ∧
      (looking ⟨0⟩).classes.contains ClassName.gamete = true ∧
      (looking ⟨0⟩).view.classTag? Purses.gamete =
        .ok (some (.classTag Purses.gamete ClassName.gamete ⟨0⟩)) := by decide +kernel
  have looks : (looking ⟨0⟩).view = joined.ledger.view := rfl
  obtain ⟨className, jar, updates, agrees, seen⟩ :=
    Node.Submitted.readers_agree submitted_joined looks known (List.cons_ne_nil _ _)
  cases named.symm.trans agrees.classTag
  exact ⟨updates, submitted_joined, known, linked, agrees, seen linked _ _ .refl⟩

end ObjectLedger
