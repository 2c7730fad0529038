/-
**A store in files and a store in memory are the same store.**

* `Ledger.Call`, `Ledger.perform`, `Ledger.performAll`: calls and what comes of them.
* `Disk.Twins`: a store in files that mirrors one in memory. **`Ledger.perform_twins`**: each call
  has the same result on both and leaves twins; `Ledger.performAll_twins`: so have all calls.
* **`Ledger.performAll_disk_eq_memory`**: after any calls each view gives the same answers, committed
  answers are the uncommitted ones of the last commit, a commit changes no uncommitted answer, and
  the directory can be opened again as the same store.
-/
import Mathlib.Data.List.DropRight
import ObjectLedger.Proofs.Store.Acceptance
import ObjectLedger.Proofs.Store.Agreement
import ObjectLedger.Proofs.Store.Opening

namespace ObjectLedger

namespace Ledger

/-! ### Calls -/

/-- A call that may change a store. -/
inductive Call where
  | push (reference : TransactionRef) (request : Request) (response : Response)
  | replace (reference : TransactionRef) (request : Request) (response : Response)
  | pushError (reference : TransactionRef) (request : Request) (reason : String)
  | commit
  deriving DecidableEq

/-- The call makes the pending records committed ones. -/
def Call.isCommit : Call → Bool
  | commit => true
  | _ => false

/-- The call overwrites a response. -/
def Call.isReplace : Call → Bool
  | replace _ _ _ => true
  | _ => false

/-- The binary forms of the request and of the response can be written. -/
def Call.Encodable : Call → Prop
  | push _ request response | replace _ request response =>
    Codec.request.oversize? request = none ∧ Codec.response.oversize? response = none
  | pushError _ request _ => Codec.request.oversize? request = none
  | commit => True

section Runs

variable {σ : Type} [Backend σ]

/-- The result of a call, and the store after it. -/
def perform (ledger : Ledger σ) : Call → Except StoreError Unit × Ledger σ
  | .push reference request response => ledger.push reference request response
  | .replace reference request response => ledger.replace reference request response
  | .pushError reference request reason => (.ok (), ledger.pushError reference request reason)
  | .commit => ledger.commit

/-- The results of calls, one after the other, and the store after all of them. -/
def performAll (ledger : Ledger σ) : List Call → List (Except StoreError Unit) × Ledger σ
  | [] => ([], ledger)
  | call :: rest =>
    let (results, last) := (ledger.perform call).2.performAll rest
    ((ledger.perform call).1 :: results, last)

theorem performAll_append (ledger : Ledger σ) (calls others : List Call) :
    (ledger.performAll (calls ++ others)).2 =
      ((ledger.performAll calls).2.performAll others).2 := by
  induction calls generalizing ledger with
  | nil => rfl
  | cons call rest ih => exact ih _

/-- A commit of a store is one of its backend. -/
theorem commit_eq (ledger : Ledger σ) :
    ledger.commit.1 = (Backend.commit ledger.backend).1 ∧
      ledger.commit.2.backend = (Backend.commit ledger.backend).2 := by
  unfold commit
  generalize Backend.commit ledger.backend = result
  obtain ⟨_ | _, _⟩ := result <;> exact ⟨rfl, rfl⟩

end Runs

/-- What a call may write to the pending records. -/
inductive Call.Writes : Call → (Records → Records) → Prop
  | push {reference : TransactionRef} {request : Request} {response : Response}
      (histories : List (ObjectRef × List TransactionRef)) (manifest : Option ObjectRef) :
      Writes (.push reference request response)
        (writeTransaction reference request response histories manifest)
  | replace {reference : TransactionRef} {request : Request} {response : Response} :
      Writes (.replace reference request response) (·.putTransaction reference request response)
  | pushError {reference : TransactionRef} {request : Request} {reason : String} :
      Writes (.pushError reference request reason) (·.putError reference request reason)

/-- **Stores that give the same answers go on together**: a call has the same result on both, and
keeps whatever its writes and commits keep. -/
theorem perform_related {σ τ : Type} [Backend σ] [Backend τ] (first : Ledger σ)
    (second : Ledger τ) (related : σ → τ → Prop) (call : Call)
    (agree : Backend.answers first.backend .uncommitted =
      Backend.answers second.backend .uncommitted)
    (before : related first.backend second.backend)
    (write : ∀ change, call.Writes change →
      related (Backend.write first.backend change) (Backend.write second.backend change))
    (commit : call = .commit →
      (Backend.commit first.backend).1 = (Backend.commit second.backend).1 ∧
        related (Backend.commit first.backend).2 (Backend.commit second.backend).2) :
    (first.perform call).1 = (second.perform call).1 ∧
      related (first.perform call).2.backend (second.perform call).2.backend := by
  cases call with
  | push reference request response =>
    obtain ⟨result, kept⟩ := push_related agree reference request response
    exact ⟨result, kept related before fun histories manifest => write _ (.push histories manifest)⟩
  | replace reference request response =>
    obtain ⟨result, kept⟩ := replace_related agree reference request response
    exact ⟨result, kept related before (write _ .replace)⟩
  | pushError reference request reason => exact ⟨rfl, write _ .pushError⟩
  | commit =>
    show first.commit.1 = second.commit.1 ∧ related first.commit.2.backend second.commit.2.backend
    rw [first.commit_eq.1, first.commit_eq.2, second.commit_eq.1, second.commit_eq.2]
    exact commit rfl

/-- **What each call of a run keeps the whole run keeps**, and the results are the same. -/
theorem performAll_related {σ τ : Type} [Backend σ] [Backend τ] (related : σ → τ → Prop)
    (first : Ledger σ) (second : Ledger τ) (begins : related first.backend second.backend)
    {calls : List Call}
    (step : ∀ before call, before ++ [call] <+: calls →
      related (first.performAll before).2.backend (second.performAll before).2.backend →
        ((first.performAll before).2.perform call).1 =
            ((second.performAll before).2.perform call).1 ∧
          related ((first.performAll before).2.perform call).2.backend
            ((second.performAll before).2.perform call).2.backend) :
    (first.performAll calls).1 = (second.performAll calls).1 ∧
      related (first.performAll calls).2.backend (second.performAll calls).2.backend := by
  induction calls generalizing first second with
  | nil => exact ⟨rfl, begins⟩
  | cons call rest ih =>
    obtain ⟨result, after⟩ := step [] call (List.prefix_append [call] rest) begins
    obtain ⟨results, last⟩ := ih _ _ after fun before other start =>
      step (call :: before) other (List.cons_prefix_cons.mpr ⟨rfl, start⟩)
    exact ⟨congr (congrArg List.cons result) results, last⟩

/-- No history is too long for its length to be written. -/
def ShortHistories {σ : Type} [Backend σ] (ledger : Ledger σ) : Prop :=
  ∀ object history, Backend.history ledger.backend .uncommitted object = .ok history →
    history.length ≤ Codec.maxLength

end Ledger

/-- The binary forms of all requests and responses can be written. -/
structure Records.Writable (records : Records) : Prop where
  requests : ∀ reference request, records.requests.get? reference = some request →
    Codec.request.oversize? request = none
  responses : ∀ reference response, records.responses.get? reference = some response →
    Codec.response.oversize? response = none

namespace Records

variable {records : Records} {reference : TransactionRef} {request : Request}
  {response : Response}

theorem writable_empty : Writable {} where
  requests _ _ absent := by cases absent
  responses _ _ absent := by cases absent

theorem Writable.putTransaction (writable : records.Writable)
    (requestFits : Codec.request.oversize? request = none)
    (responseFits : Codec.response.oversize? response = none) :
    (records.putTransaction reference request response).Writable where
  requests other found present := by
    rw [Records.putTransaction, Table.get?_insert] at present
    split at present
    · cases present
      exact requestFits
    · exact writable.requests other found present
  responses other found present := by
    rw [Records.putTransaction, Table.get?_insert] at present
    split at present
    · cases present
      exact responseFits
    · exact writable.responses other found present

theorem Writable.putError (writable : records.Writable)
    (requestFits : Codec.request.oversize? request = none) (reason : String) :
    (records.putError reference request reason).Writable where
  requests other found present := by
    rw [Records.putError, Table.get?_insert] at present
    split at present
    · cases present
      exact requestFits
    · exact writable.requests other found present
  responses := writable.responses

theorem Writable.writeTransaction (writable : records.Writable)
    (requestFits : Codec.request.oversize? request = none)
    (responseFits : Codec.response.oversize? response = none)
    (histories : List (ObjectRef × List TransactionRef)) (manifest : Option ObjectRef) :
    (Ledger.writeTransaction reference request response histories manifest records).Writable :=
  kept_writeTransaction (fun _ writable => writable.putTransaction requestFits responseFits)
    (fun _ writable _ _ => { writable with }) (fun _ writable _ _ => { writable with }) writable

theorem Complete.putTransaction (complete : records.Complete) (reference : TransactionRef)
    (request : Request) (response : Response) :
    (records.putTransaction reference request response).Complete := by
  intro other present
  unfold Knows
  rw [Records.putTransaction, Table.get?_insert] at *
  by_cases same : other = reference
  · simp [same]
  · simp only [if_neg same] at present ⊢
    exact complete other present

theorem Complete.putError (complete : records.Complete) (reference : TransactionRef)
    (request : Request) (reason : String) :
    (records.putError reference request reason).Complete := by
  intro other present
  unfold Knows
  rw [Records.putError, Table.get?_insert] at *
  by_cases same : other = reference
  · simp [same]
  · simp only [if_neg same] at present ⊢
    exact complete other present

theorem Complete.writeTransaction (complete : records.Complete) (reference : TransactionRef)
    (request : Request) (response : Response)
    (histories : List (ObjectRef × List TransactionRef)) (manifest : Option ObjectRef) :
    (Ledger.writeTransaction reference request response histories manifest records).Complete :=
  kept_writeTransaction (fun _ complete => complete.putTransaction reference request response)
    (fun _ complete _ _ => complete) (fun _ complete _ _ => complete) complete

end Records

namespace Ledger.Call.Writes

variable {call : Call} {change : Records → Records} {records : Records}

theorem proper (writes : call.Writes change) (proper : records.Proper) :
    (change records).Proper := by
  cases writes with
  | push histories manifest => exact proper.writeTransaction _ _ _ histories manifest
  | replace => exact proper.putTransaction _ _ _
  | pushError => exact proper.putError _ _ _

theorem complete (writes : call.Writes change) (complete : records.Complete) :
    (change records).Complete := by
  cases writes with
  | push histories manifest => exact complete.writeTransaction _ _ _ histories manifest
  | replace => exact complete.putTransaction _ _ _
  | pushError => exact complete.putError _ _ _

theorem writable (writes : call.Writes change) (encodable : call.Encodable)
    (writable : records.Writable) : (change records).Writable := by
  cases writes with
  | push histories manifest =>
    exact writable.writeTransaction encodable.1 encodable.2 histories manifest
  | replace => exact writable.putTransaction encodable.1 encodable.2
  | pushError => exact writable.putError encodable _

end Ledger.Call.Writes

theorem Disk.contentsOf_ok {α : Type} {codec : Codec α} {context : String} {value : α}
    (fits : codec.oversize? value = none) : ∃ bytes, contentsOf codec context value = .ok bytes :=
  ⟨codec.encode value, by rw [contentsOf, Codec.encodeRecord, fits]; rfl⟩

theorem Codec.oversize?_history {history : List TransactionRef}
    (short : history.length ≤ maxLength) : Codec.history.oversize? history = none := by
  show (beyondMaximum? history.length <|> history.findSome? fun _ => none) = none
  unfold beyondMaximum?
  rw [if_pos short]
  simp

/-- Pending records can be written if no history is too long. -/
theorem Records.Writable.encodable {memory : Memory} (writable : memory.pending.Writable)
    (short : Ledger.ShortHistories { backend := memory }) : Disk.Encodable memory.pending := by
  intro kind key value found
  cases kind with
  | request => exact Disk.contentsOf_ok (writable.requests key value found)
  | response => exact Disk.contentsOf_ok (writable.responses key value found)
  | error | manifest => exact ⟨_, rfl⟩
  | history =>
    refine Disk.contentsOf_ok (Codec.oversize?_history (short key value ?_))
    have found : memory.pending.histories.get? key = some value := found
    show Except.ok ((memory.pending.histories.get? key <|> _).getD []) = _
    rw [found]
    rfl

/-! ### Twins -/

/-- Records in files that mirror those in memory, of which all can be written. -/
structure Disk.Twins (disk : Disk) (memory : Memory) : Prop where
  mirrors : disk.Mirrors memory
  dated : disk.Dated memory
  writable : memory.pending.Writable

namespace Disk.Twins

variable {disk : Disk} {memory : Memory}

theorem empty (root : String) : Twins { root, directory := {} } {} where
  mirrors := ⟨rfl, Records.proper_empty, Directory.shows_empty⟩
  dated :=
    { last := rfl
      mem_folders := fun name => iff_of_false List.not_mem_nil fun ⟨_, known, _⟩ => by
        rcases known with known | known <;> cases known
      complete := fun _ absent => by cases absent }
  writable := Records.writable_empty

theorem lastReference_eq (twins : disk.Twins memory) :
    Backend.lastReference disk = Backend.lastReference memory :=
  twins.dated.lastReference_eq twins.mirrors

/-- A change of both that keeps records as they should be leaves twins. -/
theorem write (twins : disk.Twins memory) {change : Records → Records}
    (proper : (change memory.pending).Proper) (complete : (change memory.pending).Complete)
    (writable : (change memory.pending).Writable) :
    (Backend.write disk change).Twins (Backend.write memory change) where
  mirrors := twins.mirrors.write proper
  dated := twins.dated.write complete
  writable := writable

/-- All pending records can be written. -/
theorem encodable (twins : disk.Twins memory)
    (short : Ledger.ShortHistories { backend := memory }) : Encodable memory.pending :=
  twins.writable.encodable short

/-- A commit succeeds and leaves twins. -/
theorem commit (twins : disk.Twins memory)
    (short : Ledger.ShortHistories { backend := memory }) :
    disk.commit.1 = .ok () ∧ disk.commit.2.Twins (Backend.commit memory).2 := by
  have success := twins.mirrors.commit_ok (twins.encodable short)
  exact ⟨success, twins.mirrors.commit success, twins.dated.commit twins.mirrors success,
    Records.writable_empty⟩

end Disk.Twins

namespace Ledger

variable {disk : Ledger Disk} {memory : Ledger Memory}

/-- **Each call has the same result on twins and leaves twins.** -/
theorem perform_twins (twins : disk.backend.Twins memory.backend) (short : memory.ShortHistories)
    {call : Call} (encodable : call.Encodable) :
    (disk.perform call).1 = (memory.perform call).1 ∧
      (disk.perform call).2.backend.Twins (memory.perform call).2.backend := by
  have proper : memory.backend.pending.Proper := twins.mirrors.pending ▸ twins.mirrors.proper
  refine perform_related disk memory Disk.Twins call (twins.mirrors.answers_eq .uncommitted) twins
    (fun change written => twins.write (written.proper proper)
      (written.complete twins.dated.complete) (written.writable encodable twins.writable))
    fun _ => ?_
  exact twins.commit short

/-- **So have all calls.** -/
theorem performAll_twins (disk : Ledger Disk) (memory : Ledger Memory)
    (twins : disk.backend.Twins memory.backend) {calls : List Call}
    (short : ∀ before, before <+: calls → (memory.performAll before).2.ShortHistories)
    (encodable : ∀ call ∈ calls, call.Encodable) :
    (disk.performAll calls).1 = (memory.performAll calls).1 ∧
      (disk.performAll calls).2.backend.Twins (memory.performAll calls).2.backend := by
  refine performAll_related Disk.Twins disk memory twins fun before call start twinsBefore => ?_
  have member : call ∈ calls :=
    start.subset (List.mem_append_right before (List.mem_singleton_self call))
  exact perform_twins twinsBefore (short before ((List.prefix_append before [call]).trans start))
    (encodable call member)

/-! ### Short histories -/

/-- What a call can make of contents. -/
inductive Call.Makes : Call → Contents → Contents → Prop
  | unchanged (call : Call) (contents : Contents) : Makes call contents contents
  | pushed {contents after : Contents} {reference : TransactionRef} {request : Request}
      {response : Response} (pushed : contents.Pushed reference response after) :
      Makes (.push reference request response) contents after
  | replaced {contents : Contents} {reference : TransactionRef} {request : Request}
      {response : Response} :
      Makes (.replace reference request response) contents (contents.putResponse reference response)

/-- **What each call makes of the contents of a store.** -/
theorem holds_perform {σ : Type} [Backend σ] [LawfulBackend σ] {ledger : Ledger σ}
    {contents : Contents} (holds : ledger.Holds contents) (call : Call) :
    ∃ after, (ledger.perform call).2.Holds after ∧ call.Makes contents after := by
  cases call with
  | push reference request response =>
    have pushed := holds_push holds reference request response
    show ∃ after, (ledger.push reference request response).2.Holds after ∧ _
    generalize ledger.push reference request response = result at pushed ⊢
    obtain ⟨_ | ⟨⟨⟩⟩, last⟩ := result
    · exact ⟨contents, pushed, .unchanged _ _⟩
    · obtain ⟨after, holdsAfter, pushed⟩ := pushed
      exact ⟨after, holdsAfter, .pushed pushed⟩
  | replace reference request response =>
    have replaced := holds_replace holds reference request response
    show ∃ after, (ledger.replace reference request response).2.Holds after ∧ _
    generalize ledger.replace reference request response = result at replaced ⊢
    obtain ⟨_ | ⟨⟨⟩⟩, last⟩ := result
    · exact ⟨contents, replaced, .unchanged _ _⟩
    · exact ⟨_, replaced.2, .replaced⟩
  | pushError reference request reason =>
    exact ⟨contents, holds_pushError holds reference request reason, .unchanged _ _⟩
  | commit => exact ⟨contents, holds_commit holds, .unchanged _ _⟩

/-- A call makes no history longer than by one entry. -/
theorem Call.Makes.length_histories_le {call : Call} {contents after : Contents}
    (makes : call.Makes contents after) (object : ObjectRef) :
    (after.histories object).length ≤ (contents.histories object).length + 1 := by
  cases makes with
  | unchanged => exact Nat.le_succ _
  | pushed pushed => exact pushed.length_histories_le object
  | replaced => exact Nat.le_succ _

theorem holds_performAll {σ : Type} [Backend σ] [LawfulBackend σ] (ledger : Ledger σ)
    {contents : Contents} (holds : ledger.Holds contents) (calls : List Call) :
    ∃ after, (ledger.performAll calls).2.Holds after ∧
      ∀ object, (after.histories object).length ≤
        (contents.histories object).length + calls.length := by
  induction calls generalizing ledger contents with
  | nil => exact ⟨contents, holds, fun _ => Nat.le_refl _⟩
  | cons call rest ih =>
    obtain ⟨middle, holdsMiddle, makes⟩ := holds_perform holds call
    obtain ⟨after, holdsAfter, longest⟩ := ih _ holdsMiddle
    refine ⟨after, holdsAfter, fun object => ?_⟩
    have := makes.length_histories_le object
    have := longest object
    rw [List.length_cons]
    omega

/-! ### Committed answers -/

theorem committed_perform (memory : Ledger Memory) {call : Call} (pending : call.isCommit = false) :
    (memory.perform call).2.backend.committed = memory.backend.committed :=
  (perform_related memory memory (fun after _ => after.committed = memory.backend.committed) call
    rfl rfl
    (fun _ _ => rfl) fun commits => by
      rw [commits] at pending
      cases pending).2

theorem answers_congr_committed {first second : Memory}
    (same : first.committed = second.committed) :
    Backend.answers first .committed = Backend.answers second .committed := by
  obtain ⟨_, _⟩ := first
  cases same
  rfl

theorem root_perform (ledger : Ledger Disk) (call : Call) :
    (ledger.perform call).2.backend.root = ledger.backend.root := by
  refine (perform_related ledger ledger (fun after _ => after.root = ledger.backend.root) call
    rfl rfl (fun _ _ => rfl)
    fun _ => ⟨rfl, ?_⟩).2
  show (Disk.commit ledger.backend).2.root = _
  unfold Disk.commit
  split <;> rfl

theorem root_performAll (ledger : Ledger Disk) (calls : List Call) :
    (ledger.performAll calls).2.backend.root = ledger.backend.root := by
  induction calls generalizing ledger with
  | nil => rfl
  | cons call rest ih => exact (ih _).trans (root_perform ledger call)

/-- The calls up to the last commit. -/
def settled (calls : List Call) : List Call :=
  calls.rdropWhile fun call => !call.isCommit

/-- A store without records, in the files of an empty directory. -/
def blankDisk (root : String) : Ledger Disk :=
  { backend := { root, directory := {} } }

/-- A store without records, in memory. -/
def blankMemory : Ledger Memory :=
  { backend := {} }

/-- Committed answers are the uncommitted ones of the last commit. -/
theorem answers_committed (calls : List Call) :
    Backend.answers (blankMemory.performAll calls).2.backend .committed =
      Backend.answers (blankMemory.performAll (settled calls)).2.backend .uncommitted := by
  induction calls using List.reverseRecOn with
  | nil => rfl
  | append_singleton calls call ih =>
    cases last : call.isCommit with
    | true =>
      have whole : settled (calls ++ [call]) = calls ++ [call] :=
        List.rdropWhile_concat_neg _ _ _ (by simp [last])
      have commit : call = .commit := by
        cases call <;> first | rfl | cases last
      rw [whole, performAll_append, commit]
      exact (Memory.answers_commit _ _).trans (Memory.answers_commit _ _).symm
    | false =>
      have before : settled (calls ++ [call]) = settled calls :=
        List.rdropWhile_concat_pos _ _ _ (by simp [last])
      rw [before, performAll_append, ← ih]
      exact answers_congr_committed
        (committed_perform (blankMemory.performAll calls).2 last)

/-- No history is too long after calls that are not too many. -/
theorem shortHistories_of_length {calls : List Call} (few : calls.length ≤ Codec.maxLength) :
    (blankMemory.performAll calls).2.ShortHistories := by
  obtain ⟨after, holds, short⟩ := holds_performAll blankMemory Memory.holds_empty calls
  intro object history told
  rw [holds.history_eq object] at told
  cases told
  have := short object
  simp only [Contents.empty, List.length_nil] at this
  omega

/-- Each commit of calls that are not too many succeeds. -/
theorem commit_ok_of_encodable (root : String) {calls : List Call}
    (encodable : ∀ call ∈ calls, call.Encodable) (few : calls.length ≤ Codec.maxLength) :
    ((blankDisk root).performAll calls).2.commit.1 = .ok () := by
  have short : ∀ before, before <+: calls → (blankMemory.performAll before).2.ShortHistories :=
    fun before start => shortHistories_of_length (start.length_le.trans few)
  have twins := (performAll_twins (blankDisk root) blankMemory
    (Disk.Twins.empty root) short encodable).2
  rw [(commit_eq _).1]
  exact (twins.commit (short calls List.prefix_rfl)).1

/-- After some calls a store in the files of an empty directory and one in memory are the same. -/
structure SameStore (root : String) (calls : List Call) (disk : Ledger Disk)
    (memory : Ledger Memory) : Prop where
  answers_eq : ∀ view, Backend.answers disk.backend view = Backend.answers memory.backend view
  lastReference_eq : disk.lastReference = memory.lastReference
  /-- What is committed is what was pending or committed at the last commit. -/
  committed_disk : Backend.answers disk.backend .committed =
    Backend.answers ((blankDisk root).performAll (settled calls)).2.backend .uncommitted
  committed_memory : Backend.answers memory.backend .committed =
    Backend.answers (blankMemory.performAll (settled calls)).2.backend .uncommitted
  commit_ok : disk.commit.1 = .ok () ∧ memory.commit.1 = .ok ()
  /-- A commit changes no answer about uncommitted records, and makes them committed. -/
  commit_disk : ∀ view, Backend.answers disk.commit.2.backend view =
    Backend.answers disk.backend .uncommitted
  commit_memory : ∀ view, Backend.answers memory.commit.2.backend view =
    Backend.answers memory.backend .uncommitted
  commit_lastReference : disk.commit.2.lastReference = disk.lastReference
  /-- After a commit the directory can be opened again as the same store. -/
  reopened : Disk.«open» root disk.commit.2.backend.directory = .ok disk.commit.2.backend

/-- **A store in the files of an empty directory and one in memory are the same store**: any calls
have the same results on both, and leave stores that are the same. -/
theorem performAll_disk_eq_memory (root : String) (calls : List Call)
    (encodable : ∀ call ∈ calls, call.Encodable)
    (short : ∀ before, before <+: calls → (blankMemory.performAll before).2.ShortHistories) :
    ((blankDisk root).performAll calls).1 = (blankMemory.performAll calls).1 ∧
      SameStore root calls ((blankDisk root).performAll calls).2
        (blankMemory.performAll calls).2 := by
  have twinsAfter : ∀ before, before <+: calls →
      ((blankDisk root).performAll before).1 = (blankMemory.performAll before).1 ∧
        ((blankDisk root).performAll before).2.backend.Twins
          (blankMemory.performAll before).2.backend :=
    fun before start => performAll_twins _ _ (Disk.Twins.empty root)
      (fun _ earlier => short _ (earlier.trans start)) fun call member =>
        encodable call (start.subset member)
  obtain ⟨results, twins⟩ := twinsAfter calls List.prefix_rfl
  have rootKept := root_performAll (blankDisk root) calls
  generalize memoryIs : (blankMemory.performAll calls).2 = memory at *
  generalize diskIs : ((blankDisk root).performAll calls).2 = disk at *
  have agree := twins.mirrors.answers_eq
  obtain ⟨success, after⟩ := twins.commit (memoryIs ▸ short calls List.prefix_rfl)
  have same := disk.commit_eq.2
  exact ⟨results,
    { answers_eq := agree
      lastReference_eq := twins.lastReference_eq
      committed_disk := by
        rw [agree, ← memoryIs, answers_committed]
        exact ((twinsAfter _ (List.rdropWhile_prefix _ _)).2.mirrors.answers_eq .uncommitted).symm
      committed_memory := memoryIs ▸ answers_committed calls
      commit_ok := ⟨disk.commit_eq.1.trans success, rfl⟩
      commit_disk := fun view => by
        rw [same, agree]
        exact (after.mirrors.answers_eq view).trans (memory.backend.answers_commit view)
      commit_memory := memory.backend.answers_commit
      commit_lastReference := by
        unfold Ledger.lastReference
        rw [same]
        exact after.lastReference_eq.trans
          (memory.backend.lastReference_commit.trans twins.lastReference_eq.symm)
      reopened := by
        have rootToo : disk.commit.2.backend.root = root := (root_perform disk .commit).trans rootKept
        rw [← rootToo, same]
        exact after.dated.reopened after.mirrors after.mirrors.pending }⟩

/-- A lamp is made and switched on, and after a commit its maker is replaced. -/
def lamp : ObjectRef := ⟨⟨1⟩, 0⟩

def lampRequest : Request := .nameManifest ⟨⟨0⟩, false⟩ lamp

def lampResponse (state : String) : Response :=
  .gameteCreation
    [.classTag lamp "Lamp" ⟨0⟩, .field lamp ⟨"Lamp", "state", .string⟩ (.string state)] lamp

def lampCalls : List Call :=
  [.push ⟨1⟩ lampRequest (lampResponse "off"), .push ⟨2⟩ lampRequest (lampResponse "on"),
    .pushError ⟨3⟩ lampRequest "refused", .push ⟨4⟩ lampRequest .initialization, .commit,
    .replace ⟨2⟩ lampRequest (lampResponse "broken"), .push ⟨2⟩ lampRequest .initialization]

theorem encodable_lamp : Codec.request.oversize? lampRequest = none ∧
    Codec.response.oversize? .initialization = none ∧ ∀ state ∈ ["off", "on", "broken"],
      Codec.response.oversize? (lampResponse state) = none := by
  decide +kernel

/-- After the calls about the lamp both stores know its history and its last state. -/
theorem sameStore_lampCalls :
    (∀ call ∈ lampCalls, call.Encodable) ∧
      (∀ before, before <+: lampCalls → (blankMemory.performAll before).2.ShortHistories) ∧
      ((blankDisk "store").performAll lampCalls).1 = (blankMemory.performAll lampCalls).1 ∧
      SameStore "store" lampCalls ((blankDisk "store").performAll lampCalls).2
        (blankMemory.performAll lampCalls).2 ∧
      (blankMemory.performAll lampCalls).2.view.history lamp = .ok [⟨2⟩, ⟨1⟩] := by
  have encodable : ∀ call ∈ lampCalls, call.Encodable := by
    obtain ⟨asked, named, told⟩ := encodable_lamp
    simp only [List.forall_mem_cons] at told
    simp [lampCalls, Call.Encodable, asked, named, told]
  have short : ∀ before, before <+: lampCalls →
      (blankMemory.performAll before).2.ShortHistories := by
    intro before start
    exact shortHistories_of_length (start.length_le.trans (by decide))
  obtain ⟨results, same⟩ := performAll_disk_eq_memory "store" lampCalls encodable short
  exact ⟨encodable, short, results, same, by decide +kernel⟩

end Ledger

end ObjectLedger
