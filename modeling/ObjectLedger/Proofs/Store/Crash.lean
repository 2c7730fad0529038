/-
**A directory after an interrupted commit.**

* `Disk.InOrder.mem_written_of_history`, `Disk.InOrder.mem_written_of_manifest`: a commit that came to a
  history has written all responses, and one that came to the manifest everything.
* `Memory.interrupted`: the records that are left. **`Disk.Mirrors.exists_open_of_interrupted`**: the
  directory can be opened, and shows them.
* `Contents.Within`: responses stay as they are, and histories do not vanish.
* **`Ledger.recovered_of_interrupted`**: histories name recorded responses about the object, the state
  of each object is that before or that after the pending calls, the manifest has a history if it had
  one before, or if it was named by the pending calls and had one after them, and no transaction with
  a file is later than the last one.
* **`Ledger.manifest_without_history`**: a manifest that was committed before its object can be without
  a history, even if it would have one without the interruption.
-/
import ObjectLedger.Proofs.Store.Calls
import ObjectLedger.Proofs.Store.Live

namespace ObjectLedger

namespace Disk

variable {files written front back : List (FilePath × Contents)} {records : Records}
  {directory : Directory} {disk : Disk} {memory : Memory}

/-! ### Earlier and later files -/

/-- A writing that came to a later file has written the earlier ones. -/
theorem subset_of_reached (start : written <+: front ++ back) {path : FilePath}
    (reached : path ∈ written.map Prod.fst) (late : path ∉ front.map Prod.fst) :
    front ⊆ written := by
  rcases List.prefix_or_prefix_of_prefix start (List.prefix_append front back) with early | whole
  · exact absurd ((early.map Prod.fst).subset reached) late
  · exact whole.subset

/-- A commit that came to a history has written all responses. -/
theorem InOrder.mem_written_of_history (inOrder : InOrder records files)
    (start : written <+: files) {object : ObjectRef}
    (reached : Layout.history object ∈ written.map Prod.fst) {reference : TransactionRef}
    {response : Response} (found : records.responses.get? reference = some response) :
    Layout.response reference ∈ written.map Prod.fst := by
  obtain @⟨requests, responses, errors, histories, requestEntries, responseEntries, errorEntries,
    historyEntries⟩ := inOrder
  rw [List.append_assoc] at start
  refine List.map_subset Prod.fst (subset_of_reached start reached ?_) ?_
  · intro member
    simp [requestFile, responseFiles, errorFile, Layout.request, Layout.response,
      Layout.responseText, Layout.error, Layout.history, Layout.transaction,
      Layout.transactions] at member
  · have entry := responseEntries.mem_iff.mpr (Table.mem_entries_of_get? found)
    have listed : (Layout.response reference, contentsOf Codec.response "response" response) ∈
        responses.flatMap responseFiles :=
      List.mem_flatMap.mpr ⟨_, entry, List.mem_cons_self⟩
    exact List.mem_map_of_mem (f := Prod.fst)
      (List.mem_append_left _ (List.mem_append_right _ listed))

theorem InOrder.mem_of_pick (inOrder : InOrder records files) {kind : RecordKind} {key : kind.Key}
    {value : kind.Value} (found : kind.pick records key = some value) :
    (kind.place key, kind.contents value) ∈ files := by
  obtain ⟨requestEntries, responseEntries, errorEntries, historyEntries⟩ := inOrder
  simp only [List.mem_append, List.mem_map, List.mem_flatMap]
  cases kind with
  | request =>
    have entry := requestEntries.mem_iff.mpr (Table.mem_entries_of_get? found)
    exact Or.inl (Or.inl (Or.inl (Or.inl ⟨_, entry, rfl⟩)))
  | response =>
    have entry := responseEntries.mem_iff.mpr (Table.mem_entries_of_get? found)
    exact Or.inl (Or.inl (Or.inl (Or.inr ⟨_, entry, List.mem_cons_self⟩)))
  | error =>
    have entry := errorEntries.mem_iff.mpr (Table.mem_entries_of_get? found)
    exact Or.inl (Or.inl (Or.inr ⟨_, entry, rfl⟩))
  | history =>
    have entry := historyEntries.mem_iff.mpr (Table.mem_entries_of_get? found)
    exact Or.inl (Or.inr ⟨_, entry, rfl⟩)
  | manifest =>
    have found : records.manifest = some value := found
    rw [found]
    exact Or.inr List.mem_cons_self

/-- A commit that came to the manifest has written everything. -/
theorem InOrder.mem_written_of_manifest (inOrder : InOrder records files)
    (start : written <+: files) (reached : Layout.manifest ∈ written.map Prod.fst)
    (kind : RecordKind) {key : kind.Key} {value : kind.Value}
    (found : kind.pick records key = some value) : kind.place key ∈ written.map Prod.fst := by
  have listed := inOrder.mem_of_pick found
  obtain ⟨-, -, -, -⟩ := inOrder
  rcases List.mem_append.mp listed with front | last
  · refine List.mem_map_of_mem (f := Prod.fst) (subset_of_reached start reached ?_ front)
    intro member
    simp [requestFile, responseFiles, errorFile, historyFile, Layout.request, Layout.response,
      Layout.responseText, Layout.error, Layout.history, Layout.manifest, Layout.transaction,
      Layout.transactions] at member
  · obtain ⟨manifest, -, same⟩ := Option.map_eq_some_iff.mp (Option.mem_toList.mp last)
    have place : kind.place key = Layout.manifest := congrArg Prod.fst same.symm
    rw [place]
    exact reached

end Disk

/-! ### What is left -/

namespace Memory

variable {memory : Memory} {paths : List FilePath}

/-- The records that are left when just some files of a commit were written. -/
def interrupted (memory : Memory) (paths : List FilePath) : Memory where
  committed := memory.committed.merge (memory.pending.only paths.contains)
  pending := {}

/-- A record is left as it would be after the commit if its file was written, and else as it was. -/
theorem lookup_interrupted (memory : Memory) (paths : List FilePath) (view : View)
    (kind : RecordKind) (key : kind.Key) :
    (memory.interrupted paths).lookup view (kind.pick · key) =
      memory.lookup (if kind.place key ∈ paths then .uncommitted else .committed)
        (kind.pick · key) := by
  have committed : kind.pick (memory.interrupted paths).committed key = memory.lookup
      (if kind.place key ∈ paths then .uncommitted else .committed) (kind.pick · key) := by
    unfold interrupted
    rw [RecordKind.pick_merge, Records.pick_only]
    by_cases written : kind.place key ∈ paths
    · rw [if_pos (List.contains_iff_mem.mpr written), if_pos written]
      rfl
    · rw [if_neg fun found => written (List.contains_iff_mem.mp found), if_neg written]
      rfl
  rw [← committed]
  cases view with
  | committed => rfl
  | uncommitted =>
    show (kind.pick {} key <|> _) = _
    cases kind <;> rfl

/-- What the answers about committed records show. -/
def settledContents (memory : Memory) : Contents where
  responses reference := memory.committed.responses.get? reference
  histories object := (memory.committed.histories.get? object).getD []

theorem responses_interrupted (memory : Memory) (paths : List FilePath)
    (reference : TransactionRef) :
    (memory.interrupted paths).contents.responses reference =
      if Layout.response reference ∈ paths then memory.contents.responses reference
      else memory.settledContents.responses reference := by
  refine (memory.lookup_interrupted paths .uncommitted .response reference).trans ?_
  by_cases written : Layout.response reference ∈ paths
  · rw [if_pos written, if_pos (show RecordKind.place .response reference ∈ paths from written)]
    rfl
  · rw [if_neg written, if_neg (show RecordKind.place .response reference ∉ paths from written)]
    rfl

theorem histories_interrupted (memory : Memory) (paths : List FilePath) (object : ObjectRef) :
    (memory.interrupted paths).contents.histories object =
      if Layout.history object ∈ paths then memory.contents.histories object
      else memory.settledContents.histories object := by
  refine (congrArg (Option.getD · []) (memory.lookup_interrupted paths .uncommitted .history
    object)).trans ?_
  by_cases written : Layout.history object ∈ paths
  · rw [if_pos written, if_pos (show RecordKind.place .history object ∈ paths from written)]
    rfl
  · rw [if_neg written, if_neg (show RecordKind.place .history object ∉ paths from written)]
    rfl

theorem history_interrupted (memory : Memory) (paths : List FilePath) (object : ObjectRef) :
    Backend.history (memory.interrupted paths) .committed object =
      .ok (if Layout.history object ∈ paths then memory.contents.histories object
        else memory.settledContents.histories object) :=
  congrArg Except.ok (memory.histories_interrupted paths object)

end Memory

namespace Disk

variable {files written : List (FilePath × Contents)} {directory : Directory} {disk : Disk}
  {memory : Memory}

/-- When some files were written the directory can be opened, and shows what is left. -/
theorem Mirrors.interrupted (mirrors : disk.Mirrors memory) (lists : Lists files disk.pending)
    (inside : written ⊆ files)
    (whole : writeFiles disk.root disk.directory written = (.ok (), directory)) :
    ∃ last, «open» disk.root directory = .ok { root := disk.root, directory, lastCommitted := last } ∧
      Mirrors { root := disk.root, directory, lastCommitted := last }
        (memory.interrupted (written.map Prod.fst)) ∧
      IsLatest directory.HasFolder last := by
  have shows := mirrors.shows.writeFiles (lists.part inside) (congrArg Prod.fst whole)
  rw [whole, mirrors.pending] at shows
  obtain ⟨last, opened, isLatest⟩ := exists_open disk.root shows.tidy
  exact ⟨last, opened, ⟨rfl, Records.proper_empty, shows⟩, isLatest⟩

/-- **After an interrupted commit the directory can be opened, and shows what is left.** -/
theorem Mirrors.exists_open_of_interrupted (mirrors : disk.Mirrors memory)
    (inOrder : InOrder disk.pending files) (count : Nat) :
    ∃ written found, written <+: files ∧
      «open» disk.root (writeFiles disk.root disk.directory (files.take count)).2 = .ok found ∧
      found.root = disk.root ∧ found.Mirrors (memory.interrupted (written.map Prod.fst)) ∧
      IsLatest found.directory.HasFolder (Backend.lastReference found) := by
  have lists := inOrder.lists mirrors.proper
  have inside := List.take_subset count files
  obtain ⟨written, start, whole⟩ := exists_written disk.root mirrors.shows.tidy
    fun file member => lists.isRecord file (inside member)
  obtain ⟨last, opened, left, isLatest⟩ := mirrors.interrupted lists
    (fun file member => inside (start.subset member)) whole
  exact ⟨written, _, start.trans (List.take_prefix count files), opened, rfl, left, isLatest⟩

end Disk

/-! ### Growing contents -/

namespace Contents

variable {before after contents : Contents} {object : ObjectRef}

/-- Responses stay as they are, and histories do not vanish. -/
structure Within (before after : Contents) : Prop where
  responses : ∀ reference response, before.responses reference = some response →
    after.responses reference = some response
  histories : ∀ object, before.histories object ≠ [] → after.histories object ≠ []

theorem Within.refl (contents : Contents) : contents.Within contents :=
  ⟨fun _ _ found => found, fun _ nonempty => nonempty⟩

theorem Within.trans {middle : Contents} (within : before.Within middle)
    (further : middle.Within after) : before.Within after :=
  ⟨fun reference response found =>
      further.responses reference response (within.responses reference response found),
    fun object nonempty => further.histories object (within.histories object nonempty)⟩

theorem Pushed.within {reference : TransactionRef} {response : Response}
    (pushed : before.Pushed reference response after) (intact : before.Intact) :
    before.Within after where
  responses _ _ found := pushed.responses_of_some found
  histories object nonempty := by
    rcases pushed.histories_cases intact object with ⟨_, same⟩ | ⟨rest, _, shape, _⟩
    · rw [same]
      exact nonempty
    · rw [shape]
      exact List.cons_ne_nil _ _

/-- The state of an object depends on the responses of its history only. -/
theorem state_congr (history : before.histories object = after.histories object)
    (responses : ∀ entry ∈ before.histories object,
      before.responses entry = after.responses entry) :
    before.state object = after.state object := by
  have updates : before.updatesAlong object (before.histories object) =
      after.updatesAlong object (before.histories object) :=
    List.flatMap_congr fun entry member => by rw [responses entry member]
  unfold state
  rw [updates, history]

end Contents

namespace Contents

variable {before after left : Contents} {object : ObjectRef}

/-- Each response is left as it was before or is after, and so is each history; a history that is
left as it is after finds all responses as they are after. -/
structure Between (before after left : Contents) : Prop where
  responses : ∀ reference, left.responses reference = after.responses reference ∨
    left.responses reference = before.responses reference
  histories : ∀ object, left.histories object = before.histories object ∨
    left.histories object = after.histories object ∧ left.responses = after.responses

theorem Between.response_eq (between : Between before after left) (within : before.Within after)
    {reference : TransactionRef} {response : Response}
    (found : before.responses reference = some response) :
    left.responses reference = some response := by
  rcases between.responses reference with same | same
  · rw [same]
    exact within.responses reference response found
  · rw [same]
    exact found

/-- What is left is intact. -/
theorem Between.intact (between : Between before after left) (within : before.Within after)
    (intactBefore : before.Intact) (intactAfter : after.Intact) : left.Intact := by
  intro object entry member
  rcases between.histories object with same | ⟨same, responses⟩
  · rw [same] at member
    obtain ⟨response, found, updated⟩ := intactBefore object entry member
    exact ⟨response, between.response_eq within found, updated⟩
  · rw [same] at member
    rw [responses]
    exact intactAfter object entry member

/-- **The state of an object is left as it was before, or as it is after.** -/
theorem Between.state_eq (between : Between before after left) (within : before.Within after)
    (intactBefore : before.Intact) (object : ObjectRef) :
    left.state object = before.state object ∨ left.state object = after.state object := by
  rcases between.histories object with same | ⟨same, responses⟩
  · refine Or.inl (state_congr same fun entry member => ?_)
    rw [same] at member
    obtain ⟨response, found, -⟩ := intactBefore object entry member
    rw [found, between.response_eq within found]
  · exact Or.inr (state_congr same fun _ _ => by rw [responses])

theorem Between.histories_ne_nil (between : Between before after left)
    (within : before.Within after) (nonempty : before.histories object ≠ []) :
    left.histories object ≠ [] := by
  rcases between.histories object with same | ⟨same, -⟩
  · rw [same]
    exact nonempty
  · rw [same]
    exact within.histories object nonempty

end Contents

namespace Memory

variable {memory : Memory} {paths : List FilePath}

/-- What no commit has to write is the same before and after. -/
theorem responses_eq_settled {reference : TransactionRef}
    (nothing : memory.pending.responses.get? reference = none) :
    memory.contents.responses reference = memory.settledContents.responses reference := by
  show (memory.pending.responses.get? reference <|> memory.committed.responses.get? reference) = _
  rw [nothing]
  rfl

theorem histories_eq_settled {object : ObjectRef}
    (nothing : memory.pending.histories.get? object = none) :
    memory.contents.histories object = memory.settledContents.histories object := by
  show (memory.pending.histories.get? object <|> memory.committed.histories.get? object).getD [] = _
  rw [nothing]
  rfl

/-- **What an interrupted commit leaves is between what was there before and what is there after.** -/
theorem between_interrupted {files written : List (FilePath × Disk.Contents)}
    (inOrder : Disk.InOrder memory.pending files) (start : written <+: files) :
    memory.settledContents.Between memory.contents
      (memory.interrupted (written.map Prod.fst)).contents where
  responses reference := by
    rw [responses_interrupted]
    split
    · exact Or.inl rfl
    · exact Or.inr rfl
  histories object := by
    rw [histories_interrupted]
    split
    · rename_i reached
      refine Or.inr ⟨rfl, funext fun reference => ?_⟩
      rw [responses_interrupted]
      split
      · rfl
      · rename_i missing
        refine (responses_eq_settled ?_).symm
        cases found : memory.pending.responses.get? reference with
        | none => rfl
        | some response => exact absurd (inOrder.mem_written_of_history start reached found) missing
    · exact Or.inl rfl

/-- An interrupted commit that came to the manifest leaves all histories as they are after. -/
theorem histories_of_manifest {files written : List (FilePath × Disk.Contents)}
    (inOrder : Disk.InOrder memory.pending files) (start : written <+: files)
    (reached : Layout.manifest ∈ written.map Prod.fst) (object : ObjectRef) :
    (memory.interrupted (written.map Prod.fst)).contents.histories object =
      memory.contents.histories object := by
  rw [histories_interrupted]
  split
  · rfl
  · rename_i missing
    refine (histories_eq_settled ?_).symm
    cases found : memory.pending.histories.get? object with
    | none => rfl
    | some history =>
      exact absurd (inOrder.mem_written_of_manifest start reached .history found) missing

end Memory

namespace Ledger

variable {disk : Ledger Disk} {memory : Ledger Memory}

/-- A call that overwrites nothing lets contents grow. -/
theorem Call.Makes.within {call : Call} {contents after : Contents}
    (makes : call.Makes contents after) (adds : call.isReplace = false)
    (intact : contents.Intact) : after.Intact ∧ contents.Within after := by
  cases makes with
  | unchanged => exact ⟨intact, .refl contents⟩
  | pushed pushed => exact ⟨pushed.intact intact, pushed.within intact⟩
  | replaced => cases adds

theorem within_performAll {σ : Type} [Backend σ] [LawfulBackend σ] (ledger : Ledger σ)
    {contents : Contents} (holds : ledger.Holds contents) (intact : contents.Intact)
    {calls : List Call} (add : ∀ call ∈ calls, call.isReplace = false) :
    ∃ after, (ledger.performAll calls).2.Holds after ∧ after.Intact ∧ contents.Within after := by
  induction calls generalizing ledger contents with
  | nil => exact ⟨contents, holds, intact, .refl contents⟩
  | cons call rest ih =>
    obtain ⟨middle, holdsMiddle, makes⟩ := holds_perform holds call
    obtain ⟨intactMiddle, within⟩ := makes.within (add call List.mem_cons_self) intact
    obtain ⟨after, holdsAfter, intactAfter, further⟩ := ih _ holdsMiddle intactMiddle
      fun other member => add other (List.mem_cons_of_mem _ member)
    exact ⟨after, holdsAfter, intactAfter, within.trans further⟩

/-- A call leaves a directory that mirrors a memory, if it is no commit that fails. -/
theorem perform_mirrors (disk : Ledger Disk) (memory : Ledger Memory)
    (mirrors : disk.backend.Mirrors memory.backend) {call : Call}
    (completed : call = .commit → disk.commit.1 = .ok ()) :
    (disk.perform call).1 = (memory.perform call).1 ∧
      (disk.perform call).2.backend.Mirrors (memory.perform call).2.backend := by
  have proper : memory.backend.pending.Proper := mirrors.pending ▸ mirrors.proper
  refine perform_related disk memory Disk.Mirrors call (mirrors.answers_eq .uncommitted) mirrors
    (fun change written => mirrors.write (written.proper proper)) fun commits => ?_
  have success : (Backend.commit disk.backend).1 = .ok () :=
    disk.commit_eq.1.symm.trans (completed commits)
  exact ⟨success, mirrors.commit success⟩

/-- A directory goes on mirroring a memory as long as each commit succeeds. -/
theorem performAll_mirrors (disk : Ledger Disk) (memory : Ledger Memory)
    (mirrors : disk.backend.Mirrors memory.backend) {calls : List Call}
    (completed : ∀ before, before ++ [.commit] <+: calls →
      (disk.performAll before).2.commit.1 = .ok ()) :
    (disk.performAll calls).1 = (memory.performAll calls).1 ∧
      (disk.performAll calls).2.backend.Mirrors (memory.performAll calls).2.backend :=
  performAll_related Disk.Mirrors disk memory mirrors fun before _ start mirrorsBefore =>
    perform_mirrors _ _ mirrorsBefore fun commits => completed before (commits ▸ start)

/-! ### Recovery -/

/-- A store in files shows what the memory that it mirrors holds. -/
theorem shows_of_mirrors {memory : Memory} (mirrors : disk.backend.Mirrors memory) :
    disk.view.Shows memory.contents :=
  disk.shows_of_answers_eq (mirrors.answers_eq .uncommitted)

theorem settledContents_eq (calls : List Call) :
    (blankMemory.performAll calls).2.backend.settledContents =
      (blankMemory.performAll (settled calls)).2.backend.contents := by
  have same := answers_committed calls
  show Contents.mk _ _ = Contents.mk _ _
  congr 1
  · funext reference
    exact Except.ok.inj (congrFun (congrArg Answers.response same) reference)
  · funext object
    exact Except.ok.inj (congrFun (congrArg Answers.history same) object)

theorem settled_start (calls : List Call) : settled calls <+: calls :=
  List.rdropWhile_prefix _ _

/-- Along calls that overwrite nothing the contents are intact, and grow since the last commit. -/
theorem within_settled {calls : List Call} (add : ∀ call ∈ calls, call.isReplace = false) :
    let memory := (blankMemory.performAll calls).2.backend
    memory.settledContents.Intact ∧ memory.contents.Intact ∧
      memory.settledContents.Within memory.contents := by
  have empty : Contents.empty.Intact := fun _ _ member => by cases member
  obtain ⟨batch, split⟩ := settled_start calls
  rw [← split] at add
  obtain ⟨before, holdsBefore, intactBefore, -⟩ := within_performAll blankMemory
    Memory.holds_empty empty fun call member => add call (List.mem_append_left _ member)
  obtain ⟨after, holdsAfter, intactAfter, within⟩ := within_performAll _
    holdsBefore intactBefore fun call member => add call (List.mem_append_right _ member)
  rw [← performAll_append, split] at holdsAfter
  intro memory
  have first : memory.settledContents = before := (settledContents_eq calls).trans holdsBefore
  have second : memory.contents = after := holdsAfter
  rw [first, second]
  exact ⟨intactBefore, intactAfter, within⟩

/-- A store as it is found after the commit of some calls was interrupted, beside the store before
these calls and the store after them. -/
structure Recovered (before after found : Ledger Disk) : Prop where
  /-- A history names recorded responses that update the object. -/
  history : ∀ object, ∃ history, Backend.history found.backend .committed object = .ok history ∧
    ∀ entry ∈ history, ∃ response,
      Backend.response found.backend .committed entry = .ok (some response) ∧
        response.updatesOf object ≠ []
  /-- The state of an object is that before the calls or that after them. -/
  state : ∀ object, ∃ state, found.view.state object = .ok state ∧
    (before.view.state object = .ok state ∨ after.view.state object = .ok state)
  /-- A manifest that was named before the calls and had a history has one. -/
  earlier_manifest : ∀ object, Backend.manifest found.backend .committed = .ok (some object) →
    before.view.manifest = .ok (some object) → before.view.history object ≠ .ok [] →
      Backend.history found.backend .committed object ≠ .ok []
  /-- A manifest that the calls named has a history if it has one after them. -/
  new_manifest : ∀ object, Backend.manifest found.backend .committed = .ok (some object) →
    before.view.manifest ≠ .ok (some object) → after.view.history object ≠ .ok [] →
      Backend.history found.backend .committed object ≠ .ok []
  /-- No transaction with a file is later than the last one. -/
  last : ∀ reference name,
    (found.backend.directory.files.get? (Layout.transaction reference ++ [name])).isSome →
      ∃ last, found.lastReference = some last ∧ reference ≤ last

/-- What is left of a mirrored memory is sound. -/
theorem recovered {before after found : Ledger Disk} {memory : Memory}
    {files written : List (FilePath × Disk.Contents)}
    (shownBefore : before.view.Shows memory.settledContents)
    (namedBefore : before.view.manifest = .ok memory.committed.manifest)
    (shownAfter : after.view.Shows memory.contents)
    (sound : memory.settledContents.Intact ∧ memory.contents.Intact ∧
      memory.settledContents.Within memory.contents)
    (inOrder : Disk.InOrder memory.pending files) (start : written <+: files)
    (left : found.backend.Mirrors (memory.interrupted (written.map Prod.fst)))
    (last : IsLatest found.backend.directory.HasFolder found.lastReference) :
    Recovered before after found := by
  obtain ⟨intactBefore, intactAfter, within⟩ := sound
  have between := memory.between_interrupted inOrder start
  have intact := between.intact within intactBefore intactAfter
  have shown := shows_of_mirrors left
  have answers := left.answers_eq .committed
  have history_eq : ∀ object, Backend.history found.backend .committed object =
      .ok ((memory.interrupted (written.map Prod.fst)).contents.histories object) :=
    congrFun (congrArg Answers.history answers)
  refine ⟨fun object => ⟨_, history_eq object, fun entry member => ?_⟩, fun object => ?_,
    fun object _ earlier nonempty => ?_, fun object named new nonempty => ?_,
    fun reference name present => last.le (left.shows.tidy.hasFolder present)⟩
  · obtain ⟨response, recorded, updated⟩ := intact object entry member
    refine ⟨response, ?_, updated⟩
    exact (congrFun (congrArg Answers.response answers) entry).trans (congrArg Except.ok recorded)
  · refine ⟨_, shown.state_ok (intact.isSome_responses object), ?_⟩
    rw [shownBefore.state_ok (intactBefore.isSome_responses object),
      shownAfter.state_ok (intactAfter.isSome_responses object)]
    exact (between.state_eq within intactBefore object).imp (congrArg _ ·.symm) (congrArg _ ·.symm)
  · rw [shownBefore.history_eq] at nonempty
    rw [history_eq]
    have kept := between.histories_ne_nil within fun nothing => nonempty (congrArg _ nothing)
    exact fun nothing => kept (Except.ok.inj nothing)
  · have manifest : Backend.manifest found.backend .committed = .ok (memory.lookup
        (if Layout.manifest ∈ written.map Prod.fst then .uncommitted else .committed)
        Records.manifest) :=
      (congrArg Answers.manifest answers).trans
        (congrArg Except.ok (memory.lookup_interrupted _ .committed .manifest ()))
    rw [manifest] at named
    rw [namedBefore] at new
    split at named
    · rename_i reached
      rw [shownAfter.history_eq] at nonempty
      rw [history_eq, memory.histories_of_manifest inOrder start reached object]
      exact nonempty
    · exact absurd named new

/-- **What an interrupted commit leaves is sound**, whatever calls that overwrite nothing were made
since the last commit. -/
theorem recovered_of_interrupted (root : String) (calls : List Call)
    (add : ∀ call ∈ calls, call.isReplace = false)
    (completed : ∀ before, before ++ [.commit] <+: calls →
      ((blankDisk root).performAll before).2.commit.1 = .ok ())
    (files : List (FilePath × Disk.Contents))
    (inOrder : Disk.InOrder ((blankDisk root).performAll calls).2.backend.pending files)
    (count : Nat) :
    ∃ found,
      Disk.«open» root (Disk.writeFiles root
        ((blankDisk root).performAll calls).2.backend.directory (files.take count)).2 = .ok found ∧
      Recovered ((blankDisk root).performAll (settled calls)).2 ((blankDisk root).performAll calls).2
        { backend := found } := by
  have mirrorsAfter : ∀ some, some <+: calls → ((blankDisk root).performAll some).2.backend.Mirrors
      (blankMemory.performAll some).2.backend := fun some start =>
    (performAll_mirrors _ _ (Disk.Twins.empty root).mirrors fun before earlier =>
      completed before (earlier.trans start)).2
  have mirrors := mirrorsAfter calls List.prefix_rfl
  have mirrorsBefore := mirrorsAfter (settled calls) (settled_start calls)
  have shownBefore := shows_of_mirrors mirrorsBefore
  rw [← settledContents_eq] at shownBefore
  have namedBefore := congrArg Answers.manifest
    ((mirrorsBefore.answers_eq .uncommitted).trans (answers_committed calls).symm)
  have rootKept : ((blankDisk root).performAll calls).2.backend.root = root :=
    root_performAll (blankDisk root) calls
  generalize ((blankDisk root).performAll calls).2 = after at *
  obtain rfl := rootKept
  obtain ⟨written, found, start, opened, -, left, isLatest⟩ :=
    mirrors.exists_open_of_interrupted inOrder count
  rw [mirrors.pending] at inOrder
  exact ⟨found, opened, recovered shownBefore namedBefore (shows_of_mirrors mirrors)
    (within_settled add) inOrder start left isLatest⟩

/-- The lamp is named as the manifest, and made after a commit. -/
def lampNamed : List Call :=
  [.push ⟨0⟩ lampRequest .initialization, .commit, .push ⟨1⟩ lampRequest (lampResponse "off")]

theorem encodable_lampNamed : ∀ call ∈ lampNamed, call.Encodable := by
  obtain ⟨asked, named, told⟩ := encodable_lamp
  simp only [List.forall_mem_cons] at told
  simp [lampNamed, Call.Encodable, asked, named, told]

theorem completed_lampNamed (before : List Call) (start : before ++ [.commit] <+: lampNamed) :
    ((blankDisk "store").performAll before).2.commit.1 = .ok () := by
  have start := (List.prefix_append before _).trans start
  exact commit_ok_of_encodable "store"
    (fun call member => encodable_lampNamed call (start.subset member))
    (start.length_le.trans (by decide))

/-- The directory when the last commit is interrupted after the response of the lamp. -/
def lampDirectory : Directory :=
  let after := ((blankDisk "store").performAll lampNamed).2.backend
  (Disk.writeFiles "store" after.directory ((Disk.filesOf after.pending).take 3)).2

/-- What this leaves is sound. -/
theorem recovered_lampNamed :
    (∀ call ∈ lampNamed, call.isReplace = false) ∧
      ∃ found, Disk.«open» "store" lampDirectory = .ok found ∧
        Recovered ((blankDisk "store").performAll (settled lampNamed)).2
          ((blankDisk "store").performAll lampNamed).2 { backend := found } :=
  ⟨by decide, recovered_of_interrupted "store" lampNamed (by decide) completed_lampNamed _
    (Disk.inOrder_filesOf _) 3⟩

theorem performAll_lampNamed : (blankMemory.performAll lampNamed).2.backend =
    { committed :=
        { requests := ⟨[(⟨0⟩, lampRequest)]⟩
          responses := ⟨[(⟨0⟩, .initialization)]⟩
          manifest := some lamp }
      pending :=
        { requests := ⟨[(⟨1⟩, lampRequest)]⟩
          responses := ⟨[(⟨1⟩, lampResponse "off")]⟩
          histories := ⟨[(lamp, [⟨1⟩])]⟩ } } :=
  rfl

/-- **A manifest that was committed before its object can be left without a history**, even if it
would have one without the interruption. -/
theorem manifest_without_history :
    (∀ call ∈ lampNamed, call.isReplace = false) ∧
      (∀ before, before ++ [.commit] <+: lampNamed →
        ((blankDisk "store").performAll before).2.commit.1 = .ok ()) ∧
      ∃ found, Disk.«open» "store" lampDirectory = .ok found ∧
        Backend.manifest found .committed = .ok (some lamp) ∧
        ((blankDisk "store").performAll lampNamed).2.view.history lamp = .ok [⟨1⟩] ∧
        Backend.history found .committed lamp = .ok [] := by
  refine ⟨by decide, completed_lampNamed, ?_⟩
  have short : ∀ before, before <+: lampNamed →
      (blankMemory.performAll before).2.ShortHistories :=
    fun before start => shortHistories_of_length (start.length_le.trans (by decide))
  obtain ⟨-, twins⟩ := performAll_twins (blankDisk "store") blankMemory
    (Disk.Twins.empty "store") short encodable_lampNamed
  have encodable := twins.encodable (short lampNamed List.prefix_rfl)
  have mirrors := twins.mirrors
  have shown := shows_of_mirrors mirrors
  have rootKept := root_performAll (blankDisk "store") lampNamed
  rw [← mirrors.pending] at encodable
  unfold lampDirectory
  rw [performAll_lampNamed] at mirrors shown
  generalize ((blankDisk "store").performAll lampNamed).2 = after at *
  have lists := Disk.lists_filesOf mirrors.proper
  have inside := List.take_subset 3 (Disk.filesOf after.backend.pending)
  have whole := Disk.writeFiles_ok after.backend.root mirrors.shows.tidy
    (fun file member => lists.isRecord file (inside member))
    fun file member => encodable.exists_bytes mirrors.proper (inside member)
  obtain ⟨last, opened, left, -⟩ := mirrors.interrupted lists inside (Prod.ext whole rfl)
  -- only the request and the response of the lamp were written
  have paths : ((Disk.filesOf after.backend.pending).take 3).map Prod.fst =
      [Layout.request ⟨1⟩, Layout.response ⟨1⟩, Layout.responseText ⟨1⟩] := by
    rw [mirrors.pending]
    simp [Disk.filesOf, Table.sorted]
  rw [paths, rootKept] at left
  rw [rootKept] at opened
  have answers := left.answers_eq .committed
  refine ⟨_, opened, (congrArg Answers.manifest answers).trans ?_, shown.history_eq lamp,
    (congrFun (congrArg Answers.history answers) lamp).trans ?_⟩
  · refine congrArg Except.ok ((Memory.lookup_interrupted _ _ .committed .manifest ()).trans ?_)
    split <;> rfl
  · have missing : Layout.history lamp ∉
        [Layout.request ⟨1⟩, Layout.response ⟨1⟩, Layout.responseText ⟨1⟩] := by
      simp [Layout.history, Layout.request, Layout.response, Layout.responseText,
        Layout.transaction, Layout.transactions]
    refine (Memory.history_interrupted _ _ lamp).trans ?_
    rw [if_neg missing]
    rfl

end Ledger

end ObjectLedger
