/-
**What fields hold in a store, push after push.**

* `LedgerView.Shows.value_eq`: a field holds what the first entry of a history that provides it
  says.
* **`Contents.Pushed.value_eq`**: after a push it holds what the response says, or else what it
  held. `Contents.Pushed.tag?_eq`: the same for the class of an object.
* `Contents.Sound`: histories are intact, the transaction that creates an object is recorded, and
  the oldest entry of a history tells the class. **`Contents.Pushed.sound`**: the push of a response
  keeps it so, if all that is new in the response is `Grounded`.
-/
import ObjectLedger.Proofs.Except
import ObjectLedger.Proofs.Machine.Value
import ObjectLedger.Proofs.Store.Log

namespace ObjectLedger

open History

variable {before after contents : Contents} {view later : LedgerView} {reference : TransactionRef}
  {response : Response} {object : ObjectRef} {field : FieldSignature}

/-! ### Values -/

/-- What the first update gives that gives something, if just the updates of one key do. -/
theorem findSome?_eq_bind_find? {α : Type} {key : UpdateKey} {gives : Update → Option α}
    (about : ∀ update, (gives update).isSome = true ↔ update.key = key) (updates : List Update) :
    updates.findSome? gives = (updates.find? fun update => update.key = key).bind gives := by
  induction updates with
  | nil => rfl
  | cons update rest ih =>
    rw [List.findSome?_cons, List.find?_cons]
    by_cases same : update.key = key
    · obtain ⟨value, given⟩ := Option.isSome_iff_exists.mp ((about update).mpr same)
      simp [same, given]
    · have nothing : gives update = none :=
        Option.not_isSome_iff_eq_none.mp fun given => same ((about update).mp given)
      simp [same, nothing, ih]

theorem isSome_valueOf? (field : FieldSignature) (update : Update) :
    (LedgerView.valueOf? field update).isSome = true ↔ update.key = .field field := by
  cases update <;> simp [LedgerView.valueOf?, Update.key]

theorem isSome_classTagOf? (update : Update) :
    (Heap.classTagOf? update).isSome = true ↔ update.key = .classTag := by
  cases update <;> simp [Heap.classTagOf?, Update.key]

/-- The class and the jar that the first class tag along the history of an object tells. -/
def LedgerView.tag? (view : LedgerView) (object : ObjectRef) : Option (String × TransactionRef) :=
  match view.history object >>= view.updatesAlong object with
  | .ok updates => updates.findSome? Heap.classTagOf?
  | .error _ => none

namespace Contents

/-- What a field holds. -/
def value (contents : Contents) (object : ObjectRef) (field : FieldSignature) : Value :=
  ((contents.update? object (.field field) (contents.histories object)).bind
    (LedgerView.valueOf? field)).getD field.type.default

theorem Intact.isSome_responses (intact : contents.Intact) (object : ObjectRef) :
    ∀ entry ∈ contents.histories object, (contents.responses entry).isSome := by
  intro entry member
  obtain ⟨response, found, -⟩ := intact object entry member
  rw [found]
  rfl

end Contents

/-- **A field holds what the first entry that provides it says.** -/
theorem LedgerView.Shows.value_eq (shown : view.Shows contents) (intact : contents.Intact) :
    view.value object field = contents.value object field := by
  have read := LedgerView.field?_of_updatesAlong (shown.history_eq object)
    (shown.updatesAlong_eq (intact.isSome_responses object)) field
  rw [LedgerView.value_of_field? read, findSome?_eq_bind_find? (isSome_valueOf? field),
    ← live_eq_find?, contents.live_updatesAlong]
  rfl

/-- **The class of an object is the one that the first entry with a class tag tells.** -/
theorem LedgerView.Shows.tag?_eq (shown : view.Shows contents) (intact : contents.Intact) :
    view.tag? object =
      (contents.update? object .classTag (contents.histories object)).bind Heap.classTagOf? := by
  have all : (view.history object >>= view.updatesAlong object) =
      .ok (contents.updatesAlong object (contents.histories object)) :=
    bind_eq_ok.mpr ⟨_, shown.history_eq object,
      shown.updatesAlong_eq (intact.isSome_responses object)⟩
  rw [LedgerView.tag?, all]
  simp only []
  rw [findSome?_eq_bind_find? isSome_classTagOf?, ← live_eq_find?, contents.live_updatesAlong]

namespace Contents

/-- **After a push the response comes first, then what counted before.** -/
theorem Pushed.update?_eq (pushed : before.Pushed reference response after)
    (intact : before.Intact) (object : ObjectRef) (key : UpdateKey) :
    after.update? object key (after.histories object) =
      ((response.updatesOf object).find? fun update => update.key = key).or
        (before.update? object key (before.histories object)) := by
  unfold update?
  rw [pushed.provider?_histories intact]
  by_cases provided : key ∈ keysOf response object
  · obtain ⟨update, member, same⟩ := mem_keysOf.mp provided
    have first : after.updateAt? object key reference =
        (response.updatesOf object).find? fun update => update.key = key := by
      rw [updateAt?, pushed.response_self]
      rfl
    have known : ((response.updatesOf object).find? fun update => update.key = key).isSome :=
      List.find?_isSome.mpr ⟨update, member, by simpa using same⟩
    rw [if_pos provided, Option.bind_some, first, Option.or_of_isSome known]
  · have silent : ((response.updatesOf object).find? fun update => update.key = key) = none :=
      List.find?_eq_none.mpr fun update member same =>
        provided (mem_keysOf.mpr ⟨update, member, by simpa using same⟩)
    rw [if_neg provided, silent, Option.none_or]
    cases found : before.provider? object key (before.histories object) with
    | none => rfl
    | some entry =>
      have member : entry ∈ before.histories object := List.mem_of_find?_eq_some found
      have different : entry ≠ reference := fun same =>
        intact.not_mem_histories pushed.fresh object (same ▸ member)
      rw [Option.bind_some, Option.bind_some, updateAt?, updateAt?, pushed.responses,
        Function.update_of_ne different]

/-- **After a push a field holds what the response says, or else what it held.** -/
theorem Pushed.value_eq (pushed : before.Pushed reference response after)
    (intact : before.Intact) (shown : view.Shows before) (shownAfter : later.Shows after) :
    later.value object field = view.valueAfter response object field := by
  rw [shownAfter.value_eq (pushed.intact intact), LedgerView.valueAfter, shown.value_eq intact,
    Contents.value, pushed.update?_eq intact, findSome?_eq_bind_find? (isSome_valueOf? field)]
  cases found : (response.updatesOf object).find? fun update => update.key = .field field with
  | none => rfl
  | some update =>
    have named : update.key = .field field := by simpa using List.find?_some found
    obtain ⟨value, given⟩ := Option.isSome_iff_exists.mp ((isSome_valueOf? field update).mpr named)
    simp [given]

/-- **After a push the class of an object is the one that the response tells, or else as it
was.** -/
theorem Pushed.tag?_eq (pushed : before.Pushed reference response after) (intact : before.Intact)
    (shown : view.Shows before) (shownAfter : later.Shows after) :
    later.tag? object =
      ((response.updatesOf object).findSome? Heap.classTagOf?).or (view.tag? object) := by
  rw [shownAfter.tag?_eq (pushed.intact intact), shown.tag?_eq intact, pushed.update?_eq intact,
    findSome?_eq_bind_find? isSome_classTagOf?]
  cases found : (response.updatesOf object).find? fun update => update.key = .classTag with
  | none => rfl
  | some update =>
    have named : update.key = .classTag := by simpa using List.find?_some found
    obtain ⟨tag, given⟩ := Option.isSome_iff_exists.mp ((isSome_classTagOf? update).mpr named)
    simp [given]

/-! ### Soundness -/

/-- Histories are intact, the transaction that creates an object is recorded, and the oldest entry
of a history tells the class of the object. -/
structure Sound (contents : Contents) : Prop where
  intact : contents.Intact
  created : ∀ object, contents.histories object ≠ [] →
    (contents.responses object.transaction).isSome
  tagged : ∀ object oldest, (contents.histories object).getLast? = some oldest →
    ∃ response, contents.responses oldest = some response ∧
      ((response.updatesOf object).find? Update.isClassTag).isSome

theorem sound_empty : empty.Sound where
  intact _ _ member := by cases member
  created _ nonempty := absurd rfl nonempty
  tagged _ _ last := by cases last

/-- What a response is about is known, or new and told the class of. -/
def Grounded (contents : Contents) (reference : TransactionRef) (response : Response) : Prop :=
  ∀ object, response.updatesOf object ≠ [] → contents.histories object = [] →
    object.transaction = reference ∧ ((response.updatesOf object).find? Update.isClassTag).isSome

/-- A response without updates is about nothing. -/
theorem grounded_of_updates_eq_nil (nothing : response.updates = []) :
    contents.Grounded reference response := by
  intro object updated
  unfold Response.updatesOf at updated
  rw [nothing] at updated
  exact absurd rfl updated

/-- **The push of a grounded response keeps contents sound.** -/
theorem Pushed.sound (pushed : before.Pushed reference response after) (sound : before.Sound)
    (grounded : before.Grounded reference response) : after.Sound where
  intact := pushed.intact sound.intact
  created object nonempty := by
    rw [pushed.responses]
    by_cases same : object.transaction = reference
    · rw [same, Function.update_self]
      rfl
    · rw [Function.update_of_ne same]
      refine sound.created object fun nothing => ?_
      by_cases updated : response.updatesOf object = []
      · exact nonempty ((pushed.others object updated).trans nothing)
      · exact same (grounded object updated nothing).1
  tagged object oldest last := by
    have old : ∀ oldest, (before.histories object).getLast? = some oldest →
        ∃ response, after.responses oldest = some response ∧
          ((response.updatesOf object).find? Update.isClassTag).isSome := by
      intro oldest last
      obtain ⟨earlier, found, tag⟩ := sound.tagged object oldest last
      exact ⟨earlier, pushed.responses_of_some found, tag⟩
    by_cases updated : response.updatesOf object = []
    · rw [pushed.others object updated] at last
      exact old oldest last
    · obtain ⟨dropped, extended⟩ := pushed.extended object updated
      have same := getLast?_extend (sound.intact.not_mem_histories pushed.fresh object) extended
      rw [last] at same
      cases same
      cases known : (before.histories object).getLast? with
      | some oldest => exact old oldest known
      | none =>
        have nothing := List.getLast?_eq_none_iff.mp known
        exact ⟨response, pushed.response_self, (grounded object updated nothing).2⟩

end Contents

end ObjectLedger
