/-
**Stores that arise from an empty directory.**

* `Ledger.Arisen`: stores that calls, commits that fail and commits that are interrupted lead to.
* `Memory.Recorded`: the entries of histories have responses, those of committed histories committed
  ones.
* **`Ledger.Arisen.mirrors`**: a store that arises mirrors such records.
-/
import ObjectLedger.Proofs.Store.Catching
import ObjectLedger.Proofs.Store.Crash

namespace ObjectLedger

/-! ### Recorded entries -/

namespace Contents

variable {before after left contents : Contents}

theorem Recorded.putResponse (recorded : contents.Recorded) (reference : TransactionRef)
    (response : Response) : (contents.putResponse reference response).Recorded := by
  intro object entry member
  by_cases same : entry = reference
  · subst same
    rw [putResponse_responses_self]
    rfl
  · rw [putResponse_responses_of_ne _ _ same]
    exact recorded object entry member

theorem recorded_empty : empty.Recorded := fun _ _ member => by cases member

/-- What is left between two contents is recorded if both are, and no response vanishes. -/
theorem Between.recorded (between : Between before after left)
    (grows : ∀ entry, (before.responses entry).isSome → (after.responses entry).isSome)
    (recordedBefore : before.Recorded) (recordedAfter : after.Recorded) : left.Recorded := by
  intro object entry member
  rcases between.histories object with same | ⟨same, responses⟩
  · have known := recordedBefore object entry (same ▸ member)
    rcases between.responses entry with told | told
    · rw [told]
      exact grows entry known
    · rw [told]
      exact known
  · rw [responses]
    exact recordedAfter object entry (same ▸ member)

end Contents

/-- Each call keeps the entries of histories recorded. -/
theorem Ledger.Call.Makes.recorded {call : Ledger.Call} {contents after : Contents}
    (makes : call.Makes contents after) (recorded : contents.Recorded) : after.Recorded := by
  cases makes with
  | unchanged => exact recorded
  | pushed pushed => exact pushed.recorded recorded
  | replaced => exact recorded.putResponse _ _

namespace Memory

variable {memory : Memory} {paths : List FilePath}

/-- The entries of histories have responses, and those of committed histories committed ones. -/
structure Recorded (memory : Memory) : Prop where
  settled : memory.settledContents.Recorded
  all : memory.contents.Recorded

/-- Without pending records all contents are committed. -/
theorem contents_eq_settled (memory : Memory) (settled : memory.pending = {}) :
    memory.contents = memory.settledContents := by
  obtain ⟨_, _⟩ := memory
  cases settled
  rfl

theorem isSome_responses_of_settled (memory : Memory) (entry : TransactionRef)
    (known : (memory.settledContents.responses entry).isSome) :
    (memory.contents.responses entry).isSome := by
  show (memory.pending.responses.get? entry <|> memory.committed.responses.get? entry).isSome
  cases memory.pending.responses.get? entry
  · exact known
  · rfl

theorem Recorded.commit (recorded : memory.Recorded) : (Backend.commit memory).2.Recorded := by
  have all : (Backend.commit memory).2.contents.Recorded := by
    rw [contents_commit]
    exact recorded.all
  exact ⟨contents_eq_settled (Backend.commit memory).2 rfl ▸ all, all⟩

/-- Some of the records of a commit are written, and all of them are pending still. -/
def partly (memory : Memory) (paths : List FilePath) : Memory :=
  { memory with committed := (memory.interrupted paths).committed }

theorem contents_partly (memory : Memory) (paths : List FilePath) :
    (memory.partly paths).contents = memory.contents := by
  have left : (memory.interrupted paths).contents = (memory.interrupted paths).settledContents :=
    contents_eq_settled _ rfl
  show Contents.mk _ _ = Contents.mk _ _
  congr 1
  · funext reference
    have told := memory.responses_interrupted paths reference
    rw [left] at told
    show (memory.pending.responses.get? reference <|> _) =
      (memory.pending.responses.get? reference <|> memory.committed.responses.get? reference)
    cases pending : memory.pending.responses.get? reference with
    | some response => rfl
    | none =>
      refine told.trans ?_
      rw [responses_eq_settled pending, ite_self]
      rfl
  · funext object
    have told := memory.histories_interrupted paths object
    rw [left] at told
    show (memory.pending.histories.get? object <|> _).getD [] =
      (memory.pending.histories.get? object <|> memory.committed.histories.get? object).getD []
    cases pending : memory.pending.histories.get? object with
    | some history => rfl
    | none =>
      refine told.trans ?_
      rw [histories_eq_settled pending, ite_self]
      rfl

/-- What an interrupted commit leaves is recorded. -/
theorem Recorded.interrupted (recorded : memory.Recorded)
    {files written : List (FilePath × Disk.Contents)} (inOrder : Disk.InOrder memory.pending files)
    (start : written <+: files) : (memory.interrupted (written.map Prod.fst)).Recorded := by
  have all := (memory.between_interrupted inOrder start).recorded
    memory.isSome_responses_of_settled recorded.settled recorded.all
  have settled := contents_eq_settled (memory.interrupted (written.map Prod.fst)) rfl
  exact ⟨settled ▸ all, all⟩

/-- What a commit that fails leaves is recorded. -/
theorem Recorded.partly (recorded : memory.Recorded)
    {files written : List (FilePath × Disk.Contents)} (inOrder : Disk.InOrder memory.pending files)
    (start : written <+: files) : (memory.partly (written.map Prod.fst)).Recorded where
  settled := (recorded.interrupted inOrder start).settled
  all := by
    rw [contents_partly]
    exact recorded.all

end Memory

namespace Disk

variable {disk : Disk} {memory : Memory}

/-- **A commit leaves a mirror, whether it succeeds or not.** -/
theorem Mirrors.commit_recorded (mirrors : disk.Mirrors memory) (recorded : memory.Recorded) :
    ∃ after, disk.commit.2.Mirrors after ∧ after.Recorded := by
  cases success : disk.commit.1 with
  | ok done => exact ⟨_, mirrors.commit success, recorded.commit⟩
  | error cause =>
    have inOrder := inOrder_filesOf disk.pending
    have lists := lists_filesOf mirrors.proper
    obtain ⟨written, start, whole⟩ :=
      exists_written disk.root mirrors.shows.tidy lists.isRecord
    have after : disk.commit.2 =
        { disk with directory := (writeFiles disk.root disk.directory (filesOf disk.pending)).2 } := by
      unfold Disk.commit at success ⊢
      split at success
      · cases success
      · rename_i failed
        rw [failed]
    have shows := mirrors.shows.writeFiles (lists.part start.subset)
      (congrArg Prod.fst whole)
    rw [whole] at shows
    rw [mirrors.pending] at inOrder start
    rw [after]
    refine ⟨memory.partly (written.map Prod.fst), ⟨mirrors.pending, mirrors.proper, ?_⟩,
      recorded.partly inOrder start⟩
    rw [mirrors.pending] at shows ⊢
    exact shows

end Disk

namespace Ledger

/-! ### Arising -/

/-- Stores in the files of a directory that arise from an empty one, by calls, of which some commits
may fail, and by opening the directory again after a commit that was interrupted. -/
inductive Arisen (root : String) : Ledger Disk → Prop
  | blank : Arisen root (blankDisk root)
  | called {ledger : Ledger Disk} (earlier : Arisen root ledger) (call : Call) :
      Arisen root (ledger.perform call).2
  | reopened {ledger : Ledger Disk} {found : Disk} (earlier : Arisen root ledger)
      (files : List (FilePath × Disk.Contents))
      (inOrder : Disk.InOrder ledger.backend.pending files) (count : Nat)
      (opened : Disk.«open» root
        (Disk.writeFiles root ledger.backend.directory (files.take count)).2 = .ok found) :
      Arisen root { backend := found }

variable {root : String} {ledger : Ledger Disk} {memory : Memory}

theorem recorded_of_called (mirrors : ledger.backend.Mirrors memory) (recorded : memory.Recorded)
    (call : Call) : ∃ after, (ledger.perform call).2.backend.Mirrors after ∧ after.Recorded := by
  cases commits : call.isCommit with
  | true =>
    obtain rfl : call = .commit := by cases call <;> first | rfl | cases commits
    show ∃ after, ledger.commit.2.backend.Mirrors after ∧ _
    rw [ledger.commit_eq.2]
    exact mirrors.commit_recorded recorded
  | false =>
    have holds : Holds { backend := memory } memory.contents := rfl
    obtain ⟨after, same, makes⟩ := holds_perform holds call
    have kept := committed_perform { backend := memory } commits
    have completed : call = .commit → ledger.commit.1 = .ok () := fun isCommit => by
      rw [isCommit] at commits
      cases commits
    have goesOn := (perform_mirrors ledger { backend := memory } mirrors completed).2
    refine ⟨(perform { backend := memory } call).2.backend, goesOn, ?_, ?_⟩
    · unfold Memory.settledContents
      rw [kept]
      exact recorded.settled
    · obtain rfl : (perform { backend := memory } call).2.backend.contents = after := same
      exact makes.recorded recorded.all

/-- **A store that arises mirrors recorded records.** -/
theorem Arisen.mirrors (arisen : Arisen root ledger) :
    ledger.backend.root = root ∧ ∃ memory, ledger.backend.Mirrors memory ∧ memory.Recorded := by
  induction arisen with
  | blank =>
    exact ⟨rfl, {}, (Disk.Twins.empty root).mirrors, Contents.recorded_empty, Contents.recorded_empty⟩
  | called _ call ih =>
    obtain ⟨rootKept, memory, mirrors, recorded⟩ := ih
    exact ⟨(root_perform _ call).trans rootKept, recorded_of_called mirrors recorded call⟩
  | @reopened ledger found _ files inOrder count opened ih =>
    obtain ⟨rfl, memory, mirrors, recorded⟩ := ih
    obtain ⟨written, again, start, openedToo, rootKept, left, -⟩ :=
      mirrors.exists_open_of_interrupted inOrder count
    cases opened.symm.trans openedToo
    rw [mirrors.pending] at inOrder
    exact ⟨rootKept, _, left, recorded.interrupted inOrder start⟩

end Ledger

end ObjectLedger
