/-
**What of the records is committed does not show.**

* `Records.Uniform`: a change after which what is found depends only on what was found before.
  `Ledger.Call.Writes.uniform`: the change of every call is one.
* `Memory.Alike`: memories where the same is found, whatever of it is committed.
  `Memory.Alike.answers_eq`, `Memory.Alike.lastReference_eq`: they answer alike.
* `Medium.Follows`: a medium that looks like a memory where nothing need be committed.
  **`Medium.Follows.write`**, `Medium.Follows.commit`: calls of both and commits of the one keep it so.
* **`Ledger.Follows.perform`**: so each call has the same result in both stores.
-/
import ObjectLedger.Proofs.Store.Calls
import ObjectLedger.Store.ObjectState

namespace ObjectLedger

/-! ### Uniform changes -/

/-- What is found after an insertion is either given by it or what was found before. -/
theorem Table.insert_cases {κ ν : Type} [DecidableEq κ] (place : κ) (value : ν) (key : κ) :
    (∃ found, ∀ table : Table κ ν, (table.insert place value).get? key = some found) ∨
      ∀ table : Table κ ν, (table.insert place value).get? key = table.get? key := by
  by_cases same : key = place
  · exact Or.inl ⟨value, fun table => by rw [same, Table.get?_insert_self]⟩
  · exact Or.inr fun table => Table.get?_insert_of_ne table value same

namespace Records

variable {change next : Records → Records}

/-- What is found after the change is either given by it or what was found before. -/
def Uniform (change : Records → Records) : Prop :=
  ∀ (kind : RecordKind) (key : kind.Key),
    (∃ value, ∀ records, kind.pick (change records) key = some value) ∨
      ∀ records, kind.pick (change records) key = kind.pick records key

theorem Uniform.comp (later : Uniform next) (first : Uniform change) :
    Uniform fun records => next (change records) := by
  intro kind key
  rcases later kind key with ⟨value, given⟩ | same
  · exact Or.inl ⟨value, fun records => given (change records)⟩
  · rcases first kind key with ⟨value, given⟩ | before
    · exact Or.inl ⟨value, fun records => (same _).trans (given records)⟩
    · exact Or.inr fun records => (same _).trans (before records)

theorem uniform_putTransaction (reference : TransactionRef) (request : Request)
    (response : Response) : Uniform (·.putTransaction reference request response) := by
  intro kind key
  cases kind with
  | request =>
    exact (Table.insert_cases reference request key).imp
      (fun ⟨value, given⟩ => ⟨value, fun records => given records.requests⟩)
      fun same records => same records.requests
  | response =>
    exact (Table.insert_cases reference response key).imp
      (fun ⟨value, given⟩ => ⟨value, fun records => given records.responses⟩)
      fun same records => same records.responses
  | error | history | manifest => exact Or.inr fun _ => rfl

theorem uniform_putError (reference : TransactionRef) (request : Request) (reason : String) :
    Uniform (·.putError reference request reason) := by
  intro kind key
  cases kind with
  | request =>
    exact (Table.insert_cases reference request key).imp
      (fun ⟨value, given⟩ => ⟨value, fun records => given records.requests⟩)
      fun same records => same records.requests
  | error =>
    exact (Table.insert_cases reference reason key).imp
      (fun ⟨value, given⟩ => ⟨value, fun records => given records.errors⟩)
      fun same records => same records.errors
  | response | history | manifest => exact Or.inr fun _ => rfl

theorem uniform_putHistory (object : ObjectRef) (history : List TransactionRef) :
    Uniform (·.putHistory object history) := by
  intro kind key
  cases kind with
  | history =>
    exact (Table.insert_cases object history key).imp
      (fun ⟨value, given⟩ => ⟨value, fun records => given records.histories⟩)
      fun same records => same records.histories
  | request | response | error | manifest => exact Or.inr fun _ => rfl

theorem uniform_putManifest (object : ObjectRef) : Uniform (·.putManifest object) := by
  intro kind key
  cases kind with
  | manifest => exact Or.inl ⟨object, fun _ => rfl⟩
  | request | response | error | history => exact Or.inr fun _ => rfl

theorem uniform_writeTransaction (reference : TransactionRef) (request : Request)
    (response : Response) (histories : List (ObjectRef × List TransactionRef))
    (manifest : Option ObjectRef) :
    Uniform (Ledger.writeTransaction reference request response histories manifest) := by
  have written : ∀ change, Uniform change → Uniform fun records =>
      histories.foldl (fun records entry => records.putHistory entry.1 entry.2)
        (change records) := by
    induction histories with
    | nil => exact fun _ uniform => uniform
    | cons entry rest ih =>
      exact fun change uniform => ih _ ((uniform_putHistory entry.1 entry.2).comp uniform)
  have transaction := written _ (uniform_putTransaction reference request response)
  cases manifest with
  | none => exact transaction
  | some object => exact (uniform_putManifest object).comp transaction

end Records

theorem Ledger.Call.Writes.uniform {call : Ledger.Call} {change : Records → Records}
    (writes : call.Writes change) : Records.Uniform change := by
  cases writes with
  | push histories manifest => exact Records.uniform_writeTransaction _ _ _ histories manifest
  | replace => exact Records.uniform_putTransaction _ _ _
  | pushError => exact Records.uniform_putError _ _ _

/-! ### Memories that look alike -/

namespace Memory

variable {memory other : Memory}

/-- **The same records are found**, whatever of them is committed. -/
def Alike (memory other : Memory) : Prop :=
  ∀ (kind : RecordKind) (key : kind.Key),
    memory.lookup .uncommitted (kind.pick · key) = other.lookup .uncommitted (kind.pick · key)

theorem Alike.answers_eq (alike : memory.Alike other) :
    Backend.answers memory .uncommitted = Backend.answers other .uncommitted :=
  answers_congr alike

/-- The greatest reference with a response or a rejection. -/
theorem isLatest_lastReference (memory : Memory) :
    IsLatest (fun reference =>
      (memory.lookup .uncommitted (RecordKind.pick .response · reference)).isSome ∨
        (memory.lookup .uncommitted (RecordKind.pick .error · reference)).isSome)
      (Backend.lastReference memory) := by
  refine (memory.pending.isLatest_lastReference.latest
    memory.committed.isLatest_lastReference).congr fun reference => ?_
  show memory.pending.Knows reference ∨ memory.committed.Knows reference ↔
    (memory.pending.responses.get? reference <|> memory.committed.responses.get? reference).isSome ∨
      (memory.pending.errors.get? reference <|> memory.committed.errors.get? reference).isSome
  unfold Records.Knows
  cases memory.pending.responses.get? reference <;> cases memory.pending.errors.get? reference <;>
    simp

theorem Alike.lastReference_eq (alike : memory.Alike other) :
    Backend.lastReference memory = Backend.lastReference other := by
  refine memory.isLatest_lastReference.unique (other.isLatest_lastReference.congr fun reference => ?_)
  rw [alike .response reference, alike .error reference]

theorem Alike.write (alike : memory.Alike other) {change : Records → Records}
    (uniform : Records.Uniform change) :
    (Backend.write memory change).Alike (Backend.write other change) := by
  intro kind key
  show (kind.pick (change memory.pending) key <|> kind.pick memory.committed key) =
    (kind.pick (change other.pending) key <|> kind.pick other.committed key)
  rcases uniform kind key with ⟨value, given⟩ | same
  · rw [given, given]
    rfl
  · rw [same, same]
    exact alike kind key

theorem Alike.commit (alike : memory.Alike other) : (Backend.commit memory).2.Alike other :=
  fun kind key => (lookup_commit (kind.looks key) memory .uncommitted).trans (alike kind key)

end Memory

/-! ### Records that cannot be written -/

/-- A record could not be written. -/
def StoreError.isOfWriting : StoreError → Bool
  | .unencodable _ _ => true
  | .file (.createFolder _) | .file (.writeTemporary _) | .file (.rename _ _) => true
  | _ => false

theorem RecordKind.isOfWriting_of_contents {kind : RecordKind} {value : kind.Value}
    {cause : StoreError} (failed : kind.contents value = .error cause) :
    cause.isOfWriting = true := by
  have encoding : ∀ {α : Type} (codec : Codec α) (context : String) (value : α),
      Disk.contentsOf codec context value = .error cause → cause.isOfWriting = true := by
    intro α codec context value failed
    unfold Disk.contentsOf at failed
    cases encoded : codec.encodeRecord value with
    | ok bytes =>
      rw [encoded] at failed
      cases failed
    | error reason =>
      rw [encoded] at failed
      cases failed
      rfl
  cases kind with
  | request => exact encoding _ _ _ failed
  | response => exact encoding _ _ _ failed
  | history => exact encoding _ _ _ failed
  | error | manifest => cases failed

namespace Disk

variable {root : String} {directory : Directory} {cause : StoreError}

theorem isOfWriting_of_writeFile {path : FilePath} {bytes : List UInt8}
    (failed : (writeFile root directory path bytes).1 = .error cause) :
    cause.isOfWriting = true := by
  unfold writeFile at failed
  dsimp only at failed
  split at failed
  · cases failed
    rfl
  · split at failed
    · cases failed
      rfl
    · split at failed
      · cases failed
        rfl
      · cases failed

theorem isOfWriting_of_writeFiles {files : List (FilePath × Contents)}
    (encoding : ∀ file ∈ files, ∀ cause, file.2 = .error cause → cause.isOfWriting = true)
    (failed : (writeFiles root directory files).1 = .error cause) : cause.isOfWriting = true := by
  induction files generalizing directory with
  | nil => cases failed
  | cons file rest ih =>
    obtain ⟨path, contents⟩ := file
    obtain ⟨head, others⟩ := List.forall_mem_cons.mp encoding
    cases contents with
    | error reason =>
      cases failed
      exact head _ rfl
    | ok bytes =>
      unfold writeFiles at failed
      split at failed
      · exact ih others failed
      · rename_i reason written wrote
        cases failed
        exact isOfWriting_of_writeFile (congrArg Prod.fst wrote)

end Disk

/-- **A commit fails only where a record cannot be written.** -/
theorem Medium.Mirrors.isOfWriting_of_commit {medium : Medium} {memory : Memory}
    {cause : StoreError} (mirrors : medium.Mirrors memory)
    (failed : (Backend.commit medium).1 = .error cause) : cause.isOfWriting = true := by
  cases medium with
  | memory store => cases failed
  | disk store =>
    have mirrors : store.Mirrors memory := mirrors
    have failed : store.commit.1 = .error cause := failed
    unfold Disk.commit at failed
    split at failed
    · cases failed
    · rename_i reason written wrote
      cases failed
      refine Disk.isOfWriting_of_writeFiles (fun file member reason broken => ?_)
        (congrArg Prod.fst wrote)
      rcases ((Disk.inOrder_filesOf _).mem_iff mirrors.proper).mp member with
        ⟨kind, key, value, -, rfl⟩ | ⟨_, _, _, rfl⟩
      · exact RecordKind.isOfWriting_of_contents broken
      · cases broken

/-! ### Media -/

namespace Medium

variable {medium plain : Medium} {memory : Memory}

/-- The records are those in memory, and the folders of a directory those of transactions. -/
structure Tracks (medium : Medium) (memory : Memory) : Prop where
  mirrors : medium.Mirrors memory
  dated : ∀ disk, medium = .disk disk → disk.Dated memory

namespace Tracks

theorem blank (root : Option String) : (Medium.blank root).Tracks {} := by
  cases root with
  | none => exact ⟨⟨rfl, Records.proper_empty⟩, fun disk other => by cases other⟩
  | some root =>
    have twins := Disk.Twins.empty root
    exact ⟨twins.mirrors, fun disk same => by cases same; exact twins.dated⟩

theorem lastReference_eq (tracks : medium.Tracks memory) :
    Backend.lastReference medium = Backend.lastReference memory := by
  obtain ⟨mirrors, dated⟩ := tracks
  cases medium with
  | memory store => exact congrArg Backend.lastReference mirrors.1
  | disk store => exact (dated store rfl).lastReference_eq mirrors

theorem write (tracks : medium.Tracks memory) {call : Ledger.Call} {change : Records → Records}
    (writes : call.Writes change) :
    (Backend.write medium change).Tracks (Backend.write memory change) := by
  obtain ⟨mirrors, dated⟩ := tracks
  refine ⟨mirrors.write (writes.proper mirrors.proper), fun disk same => ?_⟩
  cases medium with
  | memory store => cases same
  | disk store =>
    cases same
    exact (dated store rfl).write (writes.complete (dated store rfl).complete)

theorem commit (tracks : medium.Tracks memory) (success : (Backend.commit medium).1 = .ok ()) :
    (Backend.commit medium).2.Tracks (Backend.commit memory).2 := by
  obtain ⟨mirrors, dated⟩ := tracks
  refine ⟨mirrors.commit success, fun disk same => ?_⟩
  cases medium with
  | memory store => cases same
  | disk store =>
    cases same
    exact (dated store rfl).commit mirrors success

end Tracks

/-- **The medium looks like a memory**, whatever of their records is committed. -/
def Follows (medium plain : Medium) : Prop :=
  ∃ own memory, medium.Tracks own ∧ plain = .memory memory ∧ own.Alike memory

namespace Follows

theorem blank (root : Option String) : (Medium.blank root).Follows (Medium.blank none) :=
  ⟨{}, {}, .blank root, rfl, fun _ _ => rfl⟩

theorem answers_eq (follows : medium.Follows plain) :
    Backend.answers medium .uncommitted = Backend.answers plain .uncommitted := by
  obtain ⟨own, memory, tracks, rfl, alike⟩ := follows
  exact (tracks.mirrors.answers_eq .uncommitted).trans alike.answers_eq

theorem lastReference_eq (follows : medium.Follows plain) :
    Backend.lastReference medium = Backend.lastReference plain := by
  obtain ⟨own, memory, tracks, rfl, alike⟩ := follows
  exact tracks.lastReference_eq.trans alike.lastReference_eq

theorem write (follows : medium.Follows plain) {call : Ledger.Call} {change : Records → Records}
    (writes : call.Writes change) :
    (Backend.write medium change).Follows (Backend.write plain change) := by
  obtain ⟨own, memory, tracks, rfl, alike⟩ := follows
  exact ⟨_, _, tracks.write writes, rfl, alike.write writes.uniform⟩

theorem commit (follows : medium.Follows plain) (success : (Backend.commit medium).1 = .ok ()) :
    (Backend.commit medium).2.Follows plain := by
  obtain ⟨own, memory, tracks, rfl, alike⟩ := follows
  exact ⟨_, _, tracks.commit success, rfl, alike.commit⟩

end Follows

end Medium

/-! ### Stores -/

namespace Ledger

/-- A call leaves the time as it is. -/
theorem now_perform {σ : Type} [Backend σ] (ledger : Ledger σ) (call : Call) :
    (ledger.perform call).2.now = ledger.now := by
  cases call with
  | push reference request response =>
    show (ledger.push reference request response).2.now = _
    rcases ledger.push_cases reference request response with ⟨_, _, -, ran⟩ | ⟨_, _, _, -, ran⟩
    · rw [ran]
    · rw [ran]
  | replace reference request response =>
    show (ledger.replace reference request response).2.now = _
    unfold replace
    split <;> rfl
  | pushError reference request reason => rfl
  | commit =>
    show ledger.commit.2.now = _
    unfold commit
    split <;> rfl

variable {ledger plain : Ledger Medium}

/-- **The store looks like one in memory**, whatever of their records is committed, at the same time. -/
structure Follows (ledger plain : Ledger Medium) : Prop where
  backend : ledger.backend.Follows plain.backend
  now : ledger.now = plain.now

namespace Follows

theorem view_eq (follows : ledger.Follows plain) : ledger.view = plain.view := by
  let answers := Backend.answers ledger.backend .uncommitted
  show (⟨answers.response, answers.history, answers.manifest, ledger.now⟩ : LedgerView) = _
  unfold answers
  rw [follows.backend.answers_eq, follows.now]
  rfl

/-- **Each call has the same result in both stores**, and they go on looking alike. -/
theorem perform (follows : ledger.Follows plain) {call : Call} (pending : call.isCommit = false) :
    (ledger.perform call).1 = (plain.perform call).1 ∧
      (ledger.perform call).2.Follows (plain.perform call).2 := by
  obtain ⟨result, backend⟩ := perform_related ledger plain Medium.Follows call
    follows.backend.answers_eq follows.backend (fun change writes => follows.backend.write writes)
    fun commits => by
      rw [commits] at pending
      cases pending
  refine ⟨result, backend, ?_⟩
  rw [now_perform, now_perform, follows.now]

/-- A commit of the one store does not show. -/
theorem commit (follows : ledger.Follows plain) (success : ledger.commit.1 = .ok ()) :
    ledger.commit.2.Follows plain where
  backend := by
    rw [ledger.commit_eq.1] at success
    rw [ledger.commit_eq.2]
    exact follows.backend.commit success
  now := (ledger.now_perform .commit).trans follows.now

end Follows

end Ledger

end ObjectLedger
