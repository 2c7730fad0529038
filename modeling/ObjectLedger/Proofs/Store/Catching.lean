/-
**A store that catches up with another.**

Both stores are given the same transactions. One of them has some of the responses from the start, and
does not extend histories for these.

* `History.kept`, `History.prolong`: the extension of a history, from the keys of its entries.
* `History.Behind`: the history is that of the other store, but for the entries whose responses were
  there from the start. **`History.Behind.eq_iff`**: it is the same just if the other one has none of
  these.
-/
import ObjectLedger.Proofs.Store.Acceptance

namespace ObjectLedger

/-! ### Extension, from the keys of entries -/

namespace History

variable {keys : TransactionRef → List UpdateKey} {covered fewer : List UpdateKey}
  {entries history other : List TransactionRef} {reference oldest : TransactionRef}

/-- The entries with a key that neither is covered nor is one of a newer entry. -/
def kept (keys : TransactionRef → List UpdateKey) :
    List UpdateKey → List TransactionRef → List TransactionRef
  | _, [] => []
  | covered, entry :: rest =>
    if (keys entry).all covered.contains then kept keys (covered ++ keys entry) rest
    else entry :: kept keys (covered ++ keys entry) rest

/-- The history after a new entry. -/
def prolong (keys : TransactionRef → List UpdateKey) (reference : TransactionRef)
    (history : List TransactionRef) : List TransactionRef :=
  reference :: (kept keys (keys reference) history.dropLast ++ history.getLast?.toList)

/-- What is kept stays in its order. -/
theorem kept_sublist : (kept keys covered entries).Sublist entries := by
  induction entries generalizing covered with
  | nil => exact List.Sublist.refl _
  | cons entry rest ih =>
    rw [kept]
    split
    · exact ih.cons entry
    · exact ih.cons_cons entry

theorem kept_subset : kept keys covered entries ⊆ entries :=
  kept_sublist.subset

/-- It only matters which keys are covered. -/
theorem kept_congr (same : ∀ key, key ∈ covered ↔ key ∈ fewer) :
    kept keys covered entries = kept keys fewer entries := by
  induction entries generalizing covered fewer with
  | nil => rfl
  | cons entry rest ih =>
    have all : (keys entry).all covered.contains = (keys entry).all fewer.contains := by
      rw [Bool.eq_iff_iff]
      simp [same]
    have tail : kept keys (covered ++ keys entry) rest = kept keys (fewer ++ keys entry) rest :=
      ih fun key => by simp [same]
    rw [kept, kept, all, tail]

/-- What is dropped because of some keys need not be dropped before because of fewer. -/
theorem kept_kept (inside : fewer ⊆ covered) :
    kept keys covered (kept keys fewer entries) = kept keys covered entries := by
  induction entries generalizing covered fewer with
  | nil => rfl
  | cons entry rest ih =>
    have grown : fewer ++ keys entry ⊆ covered ++ keys entry :=
      List.append_subset.mpr ⟨List.subset_append_of_subset_left _ inside,
        List.subset_append_right _ _⟩
    by_cases early : (keys entry).all fewer.contains
    · have earlier : keys entry ⊆ fewer := fun key member => by
        simpa using List.all_eq_true.mp early key member
      have late : (keys entry).all covered.contains := List.all_eq_true.mpr fun key member => by
        simpa using inside (earlier member)
      have more : fewer ++ keys entry ⊆ covered := List.append_subset.mpr
        ⟨inside, fun _ member => inside (earlier member)⟩
      rw [kept, if_pos early, kept, if_pos late, ih more]
      exact kept_congr fun key => by
        simpa using fun member => inside (earlier member)
    · rw [kept, if_neg early, kept, kept, ih grown]

/-- What is kept is what is not covered. -/
theorem kept_of_looked {responses : Responses} {object : ObjectRef} {result : List TransactionRef}
    {dropped : Nat} (absent : reference ∉ entries)
    (known : ∀ entry ∈ entries, ∀ response, responses entry = .ok (some response) →
      keysOf response object = keys entry)
    (looked : Looked responses object reference covered entries result dropped) :
    result = kept keys covered entries := by
  induction looked with
  | nil => rfl
  | skip => exact absurd List.mem_cons_self absent
  | drop different found updated inside later ih =>
    have same := known _ List.mem_cons_self _ found
    rw [same] at inside ih
    rw [kept, if_pos (by simpa using inside)]
    exact ih (fun member => absent (List.mem_cons_of_mem _ member))
      fun other member => known other (List.mem_cons_of_mem _ member)
  | keep different found updated outside later ih =>
    have same := known _ List.mem_cons_self _ found
    rw [same] at outside ih
    rw [kept, if_neg (by simpa using outside)]
    exact congrArg _ (ih (fun member => absent (List.mem_cons_of_mem _ member))
      fun other member => known other (List.mem_cons_of_mem _ member))

theorem prolong_concat (keys : TransactionRef → List UpdateKey) (reference : TransactionRef)
    (newer : List TransactionRef) (oldest : TransactionRef) :
    prolong keys reference (newer ++ [oldest]) =
      (reference :: kept keys (keys reference) newer) ++ [oldest] := by
  simp [prolong]

theorem extend_eq_prolong {responses : Responses} {object : ObjectRef} {response : Response}
    {extended : List TransactionRef} {dropped : Nat} (absent : reference ∉ history)
    (given : keysOf response object = keys reference)
    (known : ∀ entry ∈ history, ∀ response, responses entry = .ok (some response) →
      keysOf response object = keys entry)
    (computed : extend responses reference response object history = .ok (extended, dropped)) :
    extended = prolong keys reference history := by
  rcases extend_eq_ok_of_not_mem absent computed with
    ⟨rfl, rfl, -⟩ | ⟨newer, oldest, result, rfl, looked, rfl⟩
  · rfl
  · rw [prolong_concat, ← given, kept_of_looked
      (fun member => absent (List.mem_append_left _ member))
      (fun entry member => known entry (List.mem_append_left _ member)) looked]

/-- A second extension goes on from what the first one kept. -/
theorem kept_cons_kept (newer : List TransactionRef) :
    kept keys covered (reference :: kept keys (keys reference) newer) =
      if (keys reference).all covered.contains then kept keys (covered ++ keys reference) newer
      else reference :: kept keys (covered ++ keys reference) newer := by
  rw [kept, kept_kept (List.subset_append_right _ _)]

theorem prolong_subset : prolong keys reference history ⊆ reference :: history := by
  refine List.cons_subset_cons _ (List.append_subset.mpr
    ⟨List.Subset.trans kept_subset (List.dropLast_subset _), fun entry member => ?_⟩)
  exact List.mem_of_getLast? (Option.mem_toList.mp member)

/-! ### Histories that lag behind -/

/-- The other history is what the history would be without the entries that are skipped. -/
structure Behind (skipped : TransactionRef → Prop) (keys : TransactionRef → List UpdateKey)
    (history other : List TransactionRef) : Prop where
  taken : ∀ entry ∈ other, ¬ skipped entry
  /-- Unless the object was made by an entry that is skipped, its oldest entry is the same, and so
  are the newer ones where none of them is skipped, or none of those that are not covered. -/
  same : (∃ oldest, history.getLast? = some oldest ∧ skipped oldest) ∨
    history.getLast? = other.getLast? ∧
    ((∀ entry ∈ history.dropLast, ¬ skipped entry) → history.dropLast = other.dropLast) ∧
    ∀ covered, (∀ entry ∈ kept keys covered history.dropLast, ¬ skipped entry) →
      kept keys covered history.dropLast = kept keys covered other.dropLast

namespace Behind

variable {skipped : TransactionRef → Prop}

theorem refl (taken : ∀ entry ∈ history, ¬ skipped entry) : Behind skipped keys history history :=
  ⟨taken, Or.inr ⟨rfl, fun _ => rfl, fun _ _ => rfl⟩⟩

/-- **The histories are the same just if nothing in the one is skipped in the other.** -/
theorem eq_iff (behind : Behind skipped keys history other) :
    other = history ↔ ∀ entry ∈ history, ¬ skipped entry := by
  refine ⟨fun same => same ▸ behind.taken, fun taken => ?_⟩
  rcases behind.same with ⟨oldest, last, isSkipped⟩ | ⟨last, newer, -⟩
  · exact absurd isSkipped (taken oldest (List.mem_of_getLast? last))
  · have newer := newer fun entry member => taken entry (List.dropLast_subset _ member)
    rcases List.eq_nil_or_concat' history with rfl | ⟨rest, oldest, rfl⟩
    · exact List.getLast?_eq_none_iff.mp last.symm
    · rw [List.getLast?_concat] at last
      rw [List.dropLast_concat] at newer
      rw [newer, List.dropLast_append_getLast? _ last.symm]

/-- An entry that the other history skips leaves it behind. -/
theorem skip (behind : Behind skipped keys history other) (isSkipped : skipped reference) :
    Behind skipped keys (prolong keys reference history) other := by
  refine ⟨behind.taken, ?_⟩
  rcases List.eq_nil_or_concat' history with rfl | ⟨newer, oldest, rfl⟩
  · exact Or.inl ⟨reference, rfl, isSkipped⟩
  · rw [prolong_concat, List.getLast?_concat, List.dropLast_concat]
    have same := behind.same
    rw [List.getLast?_concat, List.dropLast_concat] at same
    refine same.imp id fun ⟨last, _, covers⟩ => ⟨last, fun taken => ?_, fun covered taken => ?_⟩
    · exact absurd isSkipped (taken reference List.mem_cons_self)
    · rw [kept_cons_kept] at taken ⊢
      split at taken
      · rename_i all
        -- the entry is covered, so it covers nothing more
        have nothing : kept keys (covered ++ keys reference) newer = kept keys covered newer :=
          kept_congr fun key => by simpa using List.all_eq_true.mp all key
        rw [if_pos all, nothing]
        rw [nothing] at taken
        exact covers covered taken
      · exact absurd isSkipped (taken reference List.mem_cons_self)

/-- An entry that both histories take leaves it behind. -/
theorem take (behind : Behind skipped keys history other) (taken : ¬ skipped reference) :
    Behind skipped keys (prolong keys reference history) (prolong keys reference other) := by
  refine ⟨fun entry member => ?_, ?_⟩
  · rcases List.mem_cons.mp (prolong_subset member) with rfl | member
    · exact taken
    · exact behind.taken entry member
  · have same := behind.same
    rcases List.eq_nil_or_concat' history with rfl | ⟨newer, oldest, rfl⟩
    · rcases same with ⟨oldest, last, -⟩ | ⟨last, -⟩
      · cases last
      · obtain rfl := List.getLast?_eq_none_iff.mp last.symm
        exact Or.inr ⟨rfl, fun _ => rfl, fun _ _ => rfl⟩
    · rw [List.getLast?_concat, List.dropLast_concat] at same
      rw [prolong_concat, List.getLast?_concat, List.dropLast_concat]
      rcases same with made | ⟨last, -, covers⟩
      · exact Or.inl made
      · obtain ⟨older, rfl⟩ := List.getLast?_eq_some_iff.mp last.symm
        rw [List.dropLast_concat] at covers
        rw [prolong_concat, List.getLast?_concat, List.dropLast_concat]
        refine Or.inr ⟨rfl, fun rest => ?_, fun covered rest => ?_⟩
        · exact congrArg _ (covers _ fun entry member => rest entry (List.mem_cons_of_mem _ member))
        · rw [kept_cons_kept] at rest
          rw [kept_cons_kept, kept_cons_kept]
          split at rest
          · rw [if_pos ‹_›, if_pos ‹_›, covers _ rest]
          · rw [if_neg ‹_›, if_neg ‹_›,
              covers _ fun entry member => rest entry (List.mem_cons_of_mem _ member)]

end Behind

/-- What an extension looks at has responses that update the object. -/
theorem open_of_looked {contents : Contents} {object : ObjectRef} {result : List TransactionRef}
    {dropped : Nat} (absent : reference ∉ entries)
    (looked : Looked contents.look object reference covered entries result dropped) :
    ∀ entry ∈ entries, ∃ response, contents.responses entry = some response ∧
      response.updatesOf object ≠ [] := by
  induction looked with
  | nil => exact fun _ member => by cases member
  | skip => exact absurd List.mem_cons_self absent
  | drop different found updated _ later ih | keep different found updated _ later ih =>
    exact List.forall_mem_cons.mpr ⟨⟨_, Except.ok.inj found, mt keysOf_eq_nil.mpr updated⟩,
      ih fun member => absent (List.mem_cons_of_mem _ member)⟩

theorem dropLast_prolong_subset :
    (prolong keys reference history).dropLast ⊆ reference :: history.dropLast := by
  rcases List.eq_nil_or_concat' history with rfl | ⟨newer, oldest, rfl⟩
  · exact List.nil_subset _
  · rw [prolong_concat, List.dropLast_concat, List.dropLast_concat]
    exact List.cons_subset_cons _ kept_subset

end History

/-! ### One push -/

namespace Contents

open History

variable {before after : Contents} {reference : TransactionRef} {response : Response}
  {object : ObjectRef} {keys : TransactionRef → List UpdateKey}

/-- The entries of histories have responses. -/
def Recorded (contents : Contents) : Prop :=
  ∀ object, ∀ entry ∈ contents.histories object, (contents.responses entry).isSome

theorem Recorded.absent (recorded : before.Recorded) (fresh : before.responses reference = none)
    (object : ObjectRef) : reference ∉ before.histories object := by
  intro member
  have found := recorded object reference member
  rw [fresh] at found
  cases found

/-- **A push prolongs the histories of the objects that it updates.** -/
theorem Pushed.histories_eq (pushed : before.Pushed reference response after)
    (recorded : before.Recorded) (given : keysOf response object = keys reference)
    (known : ∀ entry response, before.responses entry = some response →
      keysOf response object = keys entry) :
    after.histories object = if response.updatesOf object = [] then before.histories object
      else prolong keys reference (before.histories object) := by
  split
  · exact pushed.others object ‹_›
  · obtain ⟨dropped, extended⟩ := pushed.extended object ‹_›
    exact extend_eq_prolong (recorded.absent pushed.fresh object) given
      (fun entry _ response found => known entry response (Except.ok.inj found)) extended

/-- The keys of an object that entries with given responses update. -/
def keysIn (responses : TransactionRef → Option Response) (object : ObjectRef)
    (entry : TransactionRef) : List UpdateKey :=
  (responses entry).elim [] fun response => keysOf response object

theorem Pushed.histories_subset (pushed : before.Pushed reference response after)
    (recorded : before.Recorded) (object : ObjectRef) :
    after.histories object ⊆ reference :: before.histories object ∧
      (after.histories object).dropLast ⊆ reference :: (before.histories object).dropLast := by
  have shape : after.histories object = if response.updatesOf object = [] then
      before.histories object
      else prolong (keysIn after.responses object) reference (before.histories object) :=
    pushed.histories_eq recorded (by rw [keysIn, pushed.response_self]; rfl)
    fun entry earlier found => by rw [keysIn, pushed.responses_of_some found]; rfl
  rw [shape]
  split
  · exact ⟨List.subset_cons_self _ _, List.subset_cons_self _ _⟩
  · exact ⟨prolong_subset, dropLast_prolong_subset⟩

theorem Pushed.recorded (pushed : before.Pushed reference response after)
    (recorded : before.Recorded) : after.Recorded := by
  intro object entry member
  rcases List.mem_cons.mp ((pushed.histories_subset recorded object).1 member) with rfl | member
  · rw [pushed.response_self]
    rfl
  · obtain ⟨earlier, found⟩ := Option.isSome_iff_exists.mp (recorded object entry member)
    rw [pushed.responses_of_some found]
    rfl

/-- The histories that a push extends are open. -/
theorem Pushed.open_before (pushed : before.Pushed reference response after)
    (recorded : before.Recorded) (updated : response.updatesOf object ≠ []) :
    before.Open object := by
  obtain ⟨dropped, extended⟩ := pushed.extended object updated
  have absent := recorded.absent pushed.fresh object
  unfold Open
  rcases extend_eq_ok_of_not_mem absent extended with
    ⟨nothing, -⟩ | ⟨newer, oldest, kept, same, looked, -⟩
  · rw [nothing]
    exact fun _ member => by cases member
  · rw [same] at absent ⊢
    rw [List.dropLast_concat]
    exact open_of_looked (fun member => absent (List.mem_append_left _ member)) looked

/-- A push leaves open histories open, and closes none. -/
theorem Pushed.open_iff (pushed : before.Pushed reference response after)
    (recorded : before.Recorded) : after.Open object ↔ before.Open object := by
  by_cases updated : response.updatesOf object = []
  · unfold Open
    rw [pushed.others object updated]
    refine forall₂_congr fun entry member => ?_
    obtain ⟨earlier, found⟩ := Option.isSome_iff_exists.mp
      (recorded object entry (List.dropLast_subset _ member))
    rw [pushed.responses_of_some found, found]
  · have isOpen := pushed.open_before recorded updated
    refine iff_of_true (fun entry member => ?_) isOpen
    rcases List.mem_cons.mp ((pushed.histories_subset recorded object).2 member) with rfl | member
    · exact ⟨response, pushed.response_self, updated⟩
    · obtain ⟨earlier, found, updates⟩ := isOpen entry member
      exact ⟨earlier, pushed.responses_of_some found, updates⟩

theorem putResponse_self (found : before.responses reference = some response) :
    before.putResponse reference response = before := by
  unfold putResponse
  rw [← found, Function.update_eq_self]

/-! ### Catching up -/

/-- The one contents take what the other ones take, but start with some of the responses, and skip
the histories for these. -/
structure CatchesUp (skipped : TransactionRef → Prop) (final : TransactionRef → Option Response)
    (tracked : ObjectRef → Prop) (left plain again : Contents) : Prop where
  plain_final : ∀ entry response, plain.responses entry = some response →
    final entry = some response
  left_final : ∀ entry response, left.responses entry = some response →
    final entry = some response
  responses : ∀ entry, again.responses entry = (plain.responses entry).or (left.responses entry)
  plain_recorded : plain.Recorded
  again_recorded : again.Recorded
  behind : ∀ object, tracked object →
    Behind skipped (keysIn final object) (plain.histories object) (again.histories object)
  isOpen : ∀ object, tracked object → plain.Open object → again.Open object
  others : ∀ object, ¬ tracked object → again.histories object = left.histories object

namespace CatchesUp

variable {skipped : TransactionRef → Prop} {final : TransactionRef → Option Response}
  {tracked : ObjectRef → Prop} {left plain again plain' again' : Contents}

theorem again_final (catchesUp : CatchesUp skipped final tracked left plain again)
    (entry : TransactionRef) (response : Response)
    (found : again.responses entry = some response) : final entry = some response := by
  rw [catchesUp.responses] at found
  rcases Option.or_eq_some_iff.mp found with found | ⟨-, found⟩
  · exact catchesUp.plain_final entry response found
  · exact catchesUp.left_final entry response found

/-- The history of a pushed response, from the final keys. -/
theorem histories_eq {contents : Contents} (recorded : before.Recorded)
    (agrees : ∀ entry response, before.responses entry = some response →
      final entry = some response)
    (pushed : before.Pushed reference response contents) (told : final reference = some response)
    (object : ObjectRef) :
    contents.histories object = if response.updatesOf object = [] then before.histories object
      else prolong (keysIn final object) reference (before.histories object) :=
  pushed.histories_eq recorded (by rw [keysIn, told]; rfl)
    fun entry earlier found => by rw [keysIn, agrees entry earlier found]; rfl

theorem final_of_pushed {contents : Contents}
    (agrees : ∀ entry response, before.responses entry = some response →
      final entry = some response)
    (pushed : before.Pushed reference response contents) (told : final reference = some response)
    (entry : TransactionRef) (found : Response) (known : contents.responses entry = some found) :
    final entry = some found := by
  rw [pushed.responses] at known
  by_cases same : entry = reference
  · subst same
    rw [Function.update_self] at known
    rw [told, known]
  · rw [Function.update_of_ne same] at known
    exact agrees entry found known

/-- **A response that was there from the start is skipped.** -/
theorem skip (catchesUp : CatchesUp skipped final tracked left plain again)
    (pushed : plain.Pushed reference response plain') (told : final reference = some response)
    (isSkipped : skipped reference) (present : left.responses reference = some response) :
    CatchesUp skipped final tracked left plain' again where
  plain_final := final_of_pushed catchesUp.plain_final pushed told
  left_final := catchesUp.left_final
  responses entry := by
    rw [catchesUp.responses, pushed.responses]
    by_cases same : entry = reference
    · subst same
      rw [pushed.fresh, Function.update_self, present]
      rfl
    · rw [Function.update_of_ne same]
  plain_recorded := pushed.recorded catchesUp.plain_recorded
  again_recorded := catchesUp.again_recorded
  behind object isTracked := by
    rw [histories_eq catchesUp.plain_recorded catchesUp.plain_final pushed told object]
    split
    · exact catchesUp.behind object isTracked
    · exact (catchesUp.behind object isTracked).skip isSkipped
  isOpen object isTracked opened := catchesUp.isOpen object isTracked
    ((pushed.open_iff catchesUp.plain_recorded).mp opened)
  others := catchesUp.others

/-- **A response that was not there is taken.** -/
theorem take (catchesUp : CatchesUp skipped final tracked left plain again)
    (pushed : plain.Pushed reference response plain') (told : final reference = some response)
    (taken : ¬ skipped reference) (all : ∀ object, tracked object)
    (pushedToo : again.Pushed reference response again') :
    CatchesUp skipped final tracked left plain' again' where
  plain_final := final_of_pushed catchesUp.plain_final pushed told
  left_final := catchesUp.left_final
  responses entry := by
    rw [pushedToo.responses, pushed.responses]
    by_cases same : entry = reference
    · subst same
      rw [Function.update_self, Function.update_self]
      rfl
    · rw [Function.update_of_ne same, Function.update_of_ne same, catchesUp.responses]
  plain_recorded := pushed.recorded catchesUp.plain_recorded
  again_recorded := pushedToo.recorded catchesUp.again_recorded
  behind object isTracked := by
    rw [histories_eq catchesUp.plain_recorded catchesUp.plain_final pushed told object,
      histories_eq catchesUp.again_recorded catchesUp.again_final pushedToo told object]
    split
    · exact catchesUp.behind object isTracked
    · exact (catchesUp.behind object isTracked).take taken
  isOpen object isTracked opened :=
    (pushedToo.open_iff catchesUp.again_recorded).mpr (catchesUp.isOpen object isTracked
      ((pushed.open_iff catchesUp.plain_recorded).mp opened))
  others object untracked := absurd (all object) untracked

end CatchesUp

end Contents

end ObjectLedger
