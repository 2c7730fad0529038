/-
**Simplified histories and the whole log.**

A history keeps the entries that still provide a key which no newer entry updates. What counts is
the *entry* that provides a key first, not what it says: a replaced response updates the same keys,
so the provider stays the provider.

* `Contents.provider?`: the first entry that provides a key; `Contents.update?`: what it says.
* `Contents.Intact`: every entry of a history has a response that updates the object.
* **`Contents.Pushed.provider?_histories`**: after a push the new reference provides the keys of its
  response, and the other keys have the providers they had.
* `Contents.Agrees`: histories and a log have the same providers; kept by every step.
-/
import ObjectLedger.Proofs.Store.Contents
import ObjectLedger.Proofs.Store.Extension

namespace ObjectLedger

/-! ### Keys -/

namespace History

theorem mem_keysOf {response : Response} {object : ObjectRef} {key : UpdateKey} :
    key ∈ keysOf response object ↔ ∃ update ∈ response.updatesOf object, update.key = key :=
  List.mem_map

theorem keysOf_eq_nil {response : Response} {object : ObjectRef} :
    keysOf response object = [] ↔ response.updatesOf object = [] :=
  List.map_eq_nil_iff

/-- The update that counts for each key, when updates are read from the newest on. -/
def live (updates : List Update) (key : UpdateKey) : Option Update :=
  (firstOfKeys updates).find? fun update => update.key = key

/-- The kept updates are followed by the first ones of the other keys. -/
theorem find?_foldl_firstOfKeys (key : UpdateKey) (kept updates : List Update) :
    (updates.foldl (fun kept update =>
      if kept.any fun earlier => earlier.key = update.key then kept else kept ++ [update])
        kept).find? (fun update => update.key = key) =
      (kept ++ updates).find? fun update => update.key = key := by
  induction updates generalizing kept with
  | nil => simp
  | cons update rest ih =>
    rw [List.foldl_cons, ih]
    split
    · rename_i known
      obtain ⟨earlier, member, same⟩ := List.any_eq_true.mp known
      simp only [List.find?_append, List.find?_cons]
      by_cases here : update.key = key
      · have found : (kept.find? fun update => update.key = key).isSome :=
          List.find?_isSome.mpr ⟨earlier, member, by simpa [here] using same⟩
        obtain ⟨first, equation⟩ := Option.isSome_iff_exists.mp found
        simp [equation]
      · simp [here]
    · rw [List.append_assoc]
      rfl

theorem live_eq_find? (updates : List Update) (key : UpdateKey) :
    live updates key = updates.find? fun update => update.key = key :=
  find?_foldl_firstOfKeys key [] updates

/-- Of the later updates those stay that are the first of their key. -/
theorem mem_foldl_firstOfKeys (update : Update) (kept updates : List Update) :
    update ∈ updates.foldl (fun kept update =>
      if kept.any fun earlier => earlier.key = update.key then kept else kept ++ [update]) kept ↔
      update ∈ kept ∨ (∀ earlier ∈ kept, earlier.key ≠ update.key) ∧
        updates.find? (fun other => other.key = update.key) = some update := by
  induction updates generalizing kept with
  | nil => simp
  | cons first rest ih =>
    rw [List.foldl_cons, ih, List.find?_cons]
    split
    · rename_i known
      obtain ⟨earlier, member, same⟩ := List.any_eq_true.mp known
      have same : earlier.key = first.key := by simpa using same
      by_cases here : first.key = update.key
      · have covered : ¬ ∀ earlier ∈ kept, earlier.key ≠ update.key :=
          fun apart => apart earlier member (same.trans here)
        simp [covered]
      · simp [here]
    · rename_i fresh
      have apart : ∀ earlier ∈ kept, earlier.key ≠ first.key := by simpa using fresh
      by_cases here : first.key = update.key
      · rw [here] at apart
        simp only [here, decide_true, Option.some.injEq, List.mem_append, List.mem_singleton]
        constructor
        · rintro ((member | rfl) | ⟨other, _⟩)
          · exact Or.inl member
          · exact Or.inr ⟨apart, rfl⟩
          · exact absurd here (other first (Or.inr rfl))
        · rintro (member | ⟨_, rfl⟩)
          · exact Or.inl (Or.inl member)
          · exact Or.inl (Or.inr rfl)
      · have different : update ≠ first := fun same => here (congrArg Update.key same.symm)
        simp [here, different, or_imp, forall_and]

/-- The updates that are kept are the first ones of their keys. -/
theorem mem_firstOfKeys {update : Update} {updates : List Update} :
    update ∈ firstOfKeys updates ↔ live updates update.key = some update := by
  rw [live_eq_find?, firstOfKeys, mem_foldl_firstOfKeys]
  simp

end History

namespace Contents

open History

variable {before after contents : Contents} {reference : TransactionRef} {response : Response}

/-! ### Providers -/

/-- The response of an entry updates the key of the object. -/
def provides (contents : Contents) (object : ObjectRef) (key : UpdateKey)
    (entry : TransactionRef) : Bool :=
  (contents.responses entry).any fun response => (keysOf response object).contains key

/-- The first entry that provides a key. -/
def provider? (contents : Contents) (object : ObjectRef) (key : UpdateKey)
    (entries : List TransactionRef) : Option TransactionRef :=
  entries.find? (contents.provides object key)

/-- What the response of an entry says first about a key of an object. -/
def updateAt? (contents : Contents) (object : ObjectRef) (key : UpdateKey)
    (entry : TransactionRef) : Option Update :=
  (contents.responses entry).bind fun response =>
    (response.updatesOf object).find? fun update => update.key = key

/-- What the first entry that provides a key says about it. -/
def update? (contents : Contents) (object : ObjectRef) (key : UpdateKey)
    (entries : List TransactionRef) : Option Update :=
  (contents.provider? object key entries).bind (contents.updateAt? object key)

/-- Every entry of a history has a response that updates the object. -/
def Intact (contents : Contents) : Prop :=
  ∀ object, ∀ entry ∈ contents.histories object, ∃ response,
    contents.responses entry = some response ∧ response.updatesOf object ≠ []

theorem provides_of_some {entry : TransactionRef} {object : ObjectRef} {key : UpdateKey}
    (found : contents.responses entry = some response) :
    contents.provides object key entry = (keysOf response object).contains key := by
  rw [provides, found, Option.any_some]

theorem updateAt?_eq_none_iff {object : ObjectRef} {key : UpdateKey} {entry : TransactionRef} :
    contents.updateAt? object key entry = none ↔ contents.provides object key entry = false := by
  unfold updateAt? provides
  cases contents.responses entry with
  | none => simp
  | some response => simp [mem_keysOf]

/-- Entries that come first are asked first. -/
theorem provider?_append (object : ObjectRef) (key : UpdateKey)
    (first second : List TransactionRef) :
    contents.provider? object key (first ++ second) =
      (contents.provider? object key first).or (contents.provider? object key second) :=
  List.find?_append

theorem provider?_congr {object : ObjectRef} {key : UpdateKey} {entries : List TransactionRef}
    (same : ∀ entry ∈ entries, after.provides object key entry = before.provides object key entry) :
    after.provider? object key entries = before.provider? object key entries := by
  unfold provider?
  induction entries with
  | nil => rfl
  | cons entry rest ih =>
    rw [List.find?_cons, List.find?_cons, same entry List.mem_cons_self,
      ih fun other member => same other (List.mem_cons_of_mem _ member)]

/-- The entry itself is asked first. -/
theorem provider?_cons {entry : TransactionRef} (found : contents.responses entry = some response)
    (object : ObjectRef) (key : UpdateKey) (rest : List TransactionRef) :
    contents.provider? object key (entry :: rest) =
      if key ∈ keysOf response object then some entry else contents.provider? object key rest := by
  rw [provider?, List.find?_cons, provides_of_some found]
  split
  · rename_i provided
    rw [if_pos (by simpa using provided)]
  · rename_i silent
    rw [if_neg (by simpa using silent)]
    rfl

/-- The entries that are kept provide every key that is not covered, as all entries did. -/
theorem provider?_of_looked {object : ObjectRef} {covered : List UpdateKey}
    {entries kept : List TransactionRef} {dropped : Nat} (absent : reference ∉ entries)
    (looked : Looked contents.look object reference covered entries kept dropped) :
    ∀ key, key ∉ covered →
      contents.provider? object key kept = contents.provider? object key entries := by
  induction looked with
  | nil => exact fun _ _ => rfl
  | skip => exact absurd List.mem_cons_self absent
  | @drop _ entry response _ _ _ _ found _ inside _ ih =>
    intro key uncovered
    have missing : key ∉ keysOf response object := fun member => uncovered (inside key member)
    rw [provider?_cons (Except.ok.inj found), if_neg missing]
    exact ih (fun member => absent (List.mem_cons_of_mem _ member)) key
      (by simp [uncovered, missing])
  | @keep _ entry response _ _ _ _ found _ _ _ ih =>
    intro key uncovered
    rw [provider?_cons (Except.ok.inj found), provider?_cons (Except.ok.inj found)]
    split
    · rfl
    · rename_i missing
      exact ih (fun member => absent (List.mem_cons_of_mem _ member)) key
        (by simp [uncovered, missing])

/-- The history of an object after a response: the keys that the response does not update have the
providers they had. -/
theorem provider?_extend {object : ObjectRef} {history extended : List TransactionRef}
    {dropped : Nat} (absent : reference ∉ history)
    (computed : extend contents.look reference response object history = .ok (extended, dropped)) :
    ∃ rest, extended = reference :: rest ∧ (∀ entry ∈ rest, entry ∈ history) ∧
      ∀ key, key ∉ keysOf response object →
        contents.provider? object key rest = contents.provider? object key history := by
  rcases extend_eq_ok_of_not_mem absent computed with
    ⟨rfl, rfl, -⟩ | ⟨newer, oldest, kept, rfl, looked, rfl⟩
  · exact ⟨[], rfl, fun _ member => member, fun _ _ => rfl⟩
  · have same := provider?_of_looked (fun member => absent (List.mem_append_left _ member)) looked
    refine ⟨kept ++ [oldest], rfl, fun entry member => ?_, fun key uncovered => ?_⟩
    · rcases List.mem_append.mp member with member | member
      · exact List.mem_append_left _ (looked.sublist.subset member)
      · exact List.mem_append_right _ member
    · rw [provider?_append, provider?_append, same key uncovered]

/-! ### Steps -/

theorem Pushed.provides_of_ne (pushed : before.Pushed reference response after)
    {entry : TransactionRef} (different : entry ≠ reference) (object : ObjectRef)
    (key : UpdateKey) : after.provides object key entry = before.provides object key entry := by
  rw [provides, pushed.responses, Function.update_of_ne different]
  rfl

theorem Pushed.provider?_of_not_mem (pushed : before.Pushed reference response after)
    {entries : List TransactionRef} (absent : reference ∉ entries) (object : ObjectRef)
    (key : UpdateKey) :
    after.provider? object key entries = before.provider? object key entries :=
  provider?_congr fun _ member =>
    pushed.provides_of_ne (fun same => absent (same ▸ member)) object key

theorem Pushed.response_self (pushed : before.Pushed reference response after) :
    after.responses reference = some response := by
  rw [pushed.responses, Function.update_self]

/-- A push forgets no response. -/
theorem Pushed.responses_of_some (pushed : before.Pushed reference response after)
    {entry : TransactionRef} {earlier : Response} (found : before.responses entry = some earlier) :
    after.responses entry = some earlier := by
  have different : entry ≠ reference := by
    rintro rfl
    rw [pushed.fresh] at found
    cases found
  rw [pushed.responses, Function.update_of_ne different, found]

/-- The responses after a push are those before and the one that is new. -/
theorem Pushed.responses_iff (pushed : before.Pushed reference response after)
    {other : TransactionRef} {told : Response} :
    after.responses other = some told ↔
      other = reference ∧ told = response ∨ before.responses other = some told := by
  by_cases here : other = reference
  · subst here
    rw [pushed.response_self, pushed.fresh]
    simp [eq_comm]
  · rw [pushed.responses, Function.update_of_ne here]
    simp [here]

theorem Pushed.isSome_responses (pushed : before.Pushed reference response after)
    (other : TransactionRef) :
    (after.responses other).isSome ↔ other = reference ∨ (before.responses other).isSome := by
  by_cases here : other = reference
  · subst here
    rw [pushed.response_self]
    exact iff_of_true rfl (Or.inl rfl)
  · rw [pushed.responses, Function.update_of_ne here]
    exact (or_iff_right here).symm

/-- No history names a reference without a response. -/
theorem Intact.not_mem_histories (intact : before.Intact)
    (fresh : before.responses reference = none) (object : ObjectRef) :
    reference ∉ before.histories object := by
  intro member
  obtain ⟨response, found, _⟩ := intact object reference member
  rw [fresh] at found
  cases found

/-- What a history that the reference is new to is made of after a push. -/
theorem Pushed.histories_cases_of_not_mem (pushed : before.Pushed reference response after)
    {object : ObjectRef} (absent : reference ∉ before.histories object) :
    (response.updatesOf object = [] ∧ after.histories object = before.histories object) ∨
      ∃ rest, response.updatesOf object ≠ [] ∧ after.histories object = reference :: rest ∧
        (∀ entry ∈ rest, entry ∈ before.histories object) ∧
        ∀ key, key ∉ keysOf response object →
          before.provider? object key rest =
            before.provider? object key (before.histories object) := by
  by_cases updated : response.updatesOf object = []
  · exact Or.inl ⟨updated, pushed.others object updated⟩
  · obtain ⟨dropped, extended⟩ := pushed.extended object updated
    obtain ⟨rest, shape, inside, same⟩ := provider?_extend absent extended
    exact Or.inr ⟨rest, updated, shape, inside, same⟩

/-- What a history is made of after a push. -/
theorem Pushed.histories_cases (pushed : before.Pushed reference response after)
    (intact : before.Intact) (object : ObjectRef) :
    (response.updatesOf object = [] ∧ after.histories object = before.histories object) ∨
      ∃ rest, response.updatesOf object ≠ [] ∧ after.histories object = reference :: rest ∧
        ∀ entry ∈ rest, entry ∈ before.histories object :=
  (pushed.histories_cases_of_not_mem (intact.not_mem_histories pushed.fresh object)).imp id
    fun ⟨rest, updated, shape, inside, _⟩ => ⟨rest, updated, shape, inside⟩

theorem Pushed.intact (pushed : before.Pushed reference response after)
    (intact : before.Intact) : after.Intact := by
  have kept : ∀ object, ∀ entry ∈ before.histories object, ∃ response,
      after.responses entry = some response ∧ response.updatesOf object ≠ [] := by
    intro object entry member
    obtain ⟨earlier, found, updates⟩ := intact object entry member
    exact ⟨earlier, pushed.responses_of_some found, updates⟩
  intro object entry member
  rcases pushed.histories_cases intact object with ⟨_, same⟩ | ⟨rest, updated, shape, inside⟩
  · exact kept object entry (same ▸ member)
  · rw [shape] at member
    rcases List.mem_cons.mp member with rfl | member
    · exact ⟨response, pushed.response_self, updated⟩
    · exact kept object entry (inside entry member)

/-- After a push the new reference provides the keys of its response in a history that it is new to,
and the other keys have the providers they had. -/
theorem Pushed.provider?_extended (pushed : before.Pushed reference response after)
    {object : ObjectRef} (absent : reference ∉ before.histories object) (key : UpdateKey) :
    after.provider? object key (after.histories object) =
      if key ∈ keysOf response object then some reference
      else before.provider? object key (before.histories object) := by
  rcases pushed.histories_cases_of_not_mem absent with
    ⟨untouched, same⟩ | ⟨rest, -, shape, inside, others⟩
  · rw [same, pushed.provider?_of_not_mem absent,
      if_neg (by rw [keysOf_eq_nil.mpr untouched]; exact List.not_mem_nil)]
  · rw [shape, provider?_cons pushed.response_self,
      pushed.provider?_of_not_mem fun member => absent (inside reference member)]
    split
    · rfl
    · exact others key ‹_›

/-- **After a push the new reference provides the keys of its response, and the other keys have the
providers they had.** -/
theorem Pushed.provider?_histories (pushed : before.Pushed reference response after)
    (intact : before.Intact) (object : ObjectRef) (key : UpdateKey) :
    after.provider? object key (after.histories object) =
      if key ∈ keysOf response object then some reference
      else before.provider? object key (before.histories object) :=
  pushed.provider?_extended (intact.not_mem_histories pushed.fresh object) key

/-- The same for a log to which the new reference is added. -/
theorem Pushed.provider?_log (pushed : before.Pushed reference response after)
    {log : List TransactionRef} (absent : reference ∉ log) (object : ObjectRef)
    (key : UpdateKey) :
    after.provider? object key (reference :: log) =
      if key ∈ keysOf response object then some reference
      else before.provider? object key log := by
  rw [provider?_cons pushed.response_self, pushed.provider?_of_not_mem absent]

/-- Histories and a log of all references have the same providers. -/
structure Agrees (contents : Contents) (log : List TransactionRef) : Prop where
  intact : contents.Intact
  mem_log : ∀ entry, entry ∈ log ↔ (contents.responses entry).isSome
  provider?_eq : ∀ object key,
    contents.provider? object key (contents.histories object) =
      contents.provider? object key log

theorem agrees_empty : empty.Agrees [] where
  intact _ _ member := by cases member
  mem_log _ := by simp [empty]
  provider?_eq _ _ := rfl

theorem Agrees.pushed {log : List TransactionRef} (agrees : before.Agrees log)
    (pushed : before.Pushed reference response after) : after.Agrees (reference :: log) where
  intact := pushed.intact agrees.intact
  mem_log entry := by
    rw [List.mem_cons, pushed.isSome_responses, agrees.mem_log]
  provider?_eq object key := by
    have absent : reference ∉ log := fun member => by
      have found := (agrees.mem_log reference).mp member
      rw [pushed.fresh] at found
      cases found
    rw [pushed.provider?_histories agrees.intact, pushed.provider?_log absent,
      agrees.provider?_eq]

end Contents

/-- The responses update the same keys of the same objects. -/
def Response.SameKeys (first second : Response) : Prop :=
  ∀ object key, key ∈ History.keysOf first object ↔ key ∈ History.keysOf second object

namespace Contents

open History

/-- A response in the place of one that updates the key or not, as it does, provides what that one
provided. -/
theorem provides_putResponse {contents : Contents} {reference : TransactionRef}
    {old new : Response} {object : ObjectRef} {key : UpdateKey}
    (found : contents.responses reference = some old)
    (same : key ∈ keysOf new object ↔ key ∈ keysOf old object) (entry : TransactionRef) :
    (contents.putResponse reference new).provides object key entry =
      contents.provides object key entry := by
  by_cases here : entry = reference
  · subst here
    rw [provides_of_some (putResponse_responses_self ..), provides_of_some found,
      Bool.eq_iff_iff]
    simpa using same
  · unfold provides
    rw [putResponse_responses_of_ne _ _ here]

theorem isSome_putResponse {contents : Contents} {reference : TransactionRef} {old : Response}
    (found : contents.responses reference = some old) (new : Response) (entry : TransactionRef) :
    ((contents.putResponse reference new).responses entry).isSome ↔
      (contents.responses entry).isSome := by
  by_cases here : entry = reference
  · subst here
    rw [putResponse_responses_self, found]
    exact Iff.rfl
  · rw [putResponse_responses_of_ne _ _ here]

theorem Agrees.replaced {contents : Contents} {log : List TransactionRef}
    {reference : TransactionRef} {old new : Response} (agrees : contents.Agrees log)
    (found : contents.responses reference = some old) (same : new.SameKeys old) :
    (contents.putResponse reference new).Agrees log where
  intact object entry member := by
    obtain ⟨response, present, updates⟩ := agrees.intact object entry member
    by_cases here : entry = reference
    · subst here
      cases found.symm.trans present
      refine ⟨new, putResponse_responses_self .., fun nothing => updates ?_⟩
      rw [← keysOf_eq_nil, List.eq_nil_iff_forall_not_mem] at nothing ⊢
      exact fun key member => nothing key ((same object key).mpr member)
    · exact ⟨response, (putResponse_responses_of_ne _ _ here).trans present, updates⟩
  mem_log entry := (agrees.mem_log entry).trans (isSome_putResponse found new entry).symm
  provider?_eq object key := by
    have unchanged := provides_putResponse found (same object key)
    rw [provider?_congr fun entry _ => unchanged entry,
      provider?_congr fun entry _ => unchanged entry]
    exact agrees.provider?_eq object key

end Contents

end ObjectLedger
