/-
**A directory mirrors records in memory.**

* `Answers`: what a store answers to every question, in one view.
* `Disk.Mirrors`: the same records are pending, and the files give the committed ones.
  `Disk.Mirrors.answers_eq`: so each view gives the same answers.
* **`Disk.Mirrors.commit`**: a commit that succeeds keeps it so. `Disk.Mirrors.commit_ok`: it succeeds
  if each pending record can be written.
* `Memory.answers_commit`: in memory a commit changes no answer about uncommitted records, and makes
  them the answers about committed ones.
* `Medium.Mirrors`: the same for either place of records.
-/
import ObjectLedger.Proofs.Store.Disk

namespace ObjectLedger

/-! ### Answers -/

/-- What a store answers to every question, in one view. -/
@[ext] structure Answers where
  response : TransactionRef → Except StoreError (Option Response)
  request : TransactionRef → Except StoreError (Option Request)
  error : TransactionRef → Except StoreError (Option String)
  history : ObjectRef → Except StoreError (List TransactionRef)
  manifest : Except StoreError (Option ObjectRef)

/-- The answers of a backend. -/
def Backend.answers {σ : Type} [Backend σ] (backend : σ) (view : View) : Answers where
  response := Backend.response backend view
  request := Backend.request backend view
  error := Backend.error backend view
  history := Backend.history backend view
  manifest := Backend.manifest backend view

namespace Records

variable {records : Records} {reference : TransactionRef} {request : Request}
  {response : Response}

/-- What every part of a transaction keeps the whole transaction keeps. -/
theorem kept_writeTransaction {kept : Records → Prop}
    {histories : List (ObjectRef × List TransactionRef)} {manifest : Option ObjectRef}
    (transaction : ∀ records, kept records →
      kept (records.putTransaction reference request response))
    (history : ∀ records, kept records → ∀ entry ∈ histories,
      kept (records.putHistory entry.1 entry.2))
    (named : ∀ records, kept records → ∀ object ∈ manifest, kept (records.putManifest object))
    (before : kept records) :
    kept (Ledger.writeTransaction reference request response histories manifest records) := by
  have written : kept (histories.foldl (fun records entry => records.putHistory entry.1 entry.2)
      (records.putTransaction reference request response)) := by
    have start := transaction records before
    generalize records.putTransaction reference request response = middle at start
    clear before
    induction histories generalizing middle with
    | nil => exact start
    | cons entry rest ih =>
      exact ih (fun records holds other member =>
        history records holds other (List.mem_cons_of_mem _ member)) _
        (history _ start entry List.mem_cons_self)
  cases manifest with
  | none => exact written
  | some object => exact named _ written object rfl

theorem Proper.putTransaction (proper : records.Proper) (reference : TransactionRef)
    (request : Request) (response : Response) :
    (records.putTransaction reference request response).Proper :=
  { proper with
    requests := proper.requests.insert reference request
    responses := proper.responses.insert reference response }

theorem Proper.putError (proper : records.Proper) (reference : TransactionRef) (request : Request)
    (reason : String) : (records.putError reference request reason).Proper :=
  { proper with
    requests := proper.requests.insert reference request
    errors := proper.errors.insert reference reason }

theorem Proper.writeTransaction (proper : records.Proper) (reference : TransactionRef)
    (request : Request) (response : Response)
    (histories : List (ObjectRef × List TransactionRef)) (manifest : Option ObjectRef) :
    (Ledger.writeTransaction reference request response histories manifest records).Proper :=
  kept_writeTransaction (fun _ proper => proper.putTransaction reference request response)
    (fun _ proper entry _ =>
      { proper with histories := proper.histories.insert entry.1 entry.2 })
    (fun _ proper _ _ => { proper with }) proper

end Records

namespace Disk

variable {disk : Disk} {memory : Memory}

/-- The same records are pending, and the files give the committed records. -/
structure Mirrors (disk : Disk) (memory : Memory) : Prop where
  pending : disk.pending = memory.pending
  proper : disk.pending.Proper
  shows : disk.directory.Shows memory.committed

/-- A pending record over the committed one is the record looked up in memory. -/
theorem Mirrors.overlay_eq (mirrors : disk.Mirrors memory) (view : View) (kind : RecordKind)
    (key : kind.Key) {committed : Except StoreError (Option kind.Value)}
    (same : committed = .ok (kind.pick memory.committed key)) :
    overlay view (kind.pick disk.pending key) committed =
      .ok (memory.lookup view (kind.pick · key)) := by
  rw [same, mirrors.pending]
  cases view with
  | committed => rfl
  | uncommitted =>
    show overlay .uncommitted (kind.pick memory.pending key) _ =
      .ok (kind.pick memory.pending key <|> kind.pick memory.committed key)
    cases kind.pick memory.pending key <;> rfl

theorem Mirrors.readRecord?_eq (mirrors : disk.Mirrors memory) (kind : RecordKind)
    (key : kind.Key) {codec : Codec kind.Value} {context : String}
    (reads : ∀ bytes, kind.read bytes = recordIn codec context bytes) :
    disk.readRecord? (kind.place key) codec context = .ok (kind.pick memory.committed key) := by
  rw [Disk.readRecord?_eq mirrors.shows.tidy (kind.isRecord_place key).place, ← reads]
  exact mirrors.shows.read_eq kind key

theorem Mirrors.committedError_eq (mirrors : disk.Mirrors memory) (reference : TransactionRef) :
    disk.committedError reference = .ok (memory.committed.errors.get? reference) := by
  unfold committedError
  rw [mirrors.shows.tidy.readFile?_eq disk.root (Layout.isRecord_error reference).place]
  exact mirrors.shows.read_eq .error reference

theorem Mirrors.committedManifest_eq (mirrors : disk.Mirrors memory) :
    disk.committedManifest = .ok memory.committed.manifest := by
  have told : RecordKind.read .manifest (disk.directory.files.get? Layout.manifest) = _ :=
    mirrors.shows.read_eq .manifest ()
  unfold committedManifest
  rw [mirrors.shows.tidy.readFile?_eq disk.root Layout.isRecord_manifest.place]
  cases found : disk.directory.files.get? Layout.manifest with
  | none =>
    rw [found] at told
    exact told
  | some bytes =>
    rw [found, RecordKind.read.eq_def] at told
    exact told

/-- **Each view gives the same answers.** -/
theorem Mirrors.answers_eq (mirrors : disk.Mirrors memory) (view : View) :
    Backend.answers disk view = Backend.answers memory view := by
  refine Answers.ext (funext fun reference => ?_) (funext fun reference => ?_)
    (funext fun reference => ?_) (funext fun object => ?_) ?_
  · exact mirrors.overlay_eq view .response reference
      (mirrors.readRecord?_eq .response reference fun _ => rfl)
  · exact mirrors.overlay_eq view .request reference
      (mirrors.readRecord?_eq .request reference fun _ => rfl)
  · exact mirrors.overlay_eq view .error reference (mirrors.committedError_eq reference)
  · exact congrArg (· >>= fun history => pure (history.getD []))
      (mirrors.overlay_eq view .history object
        (mirrors.readRecord?_eq .history object fun _ => rfl))
  · exact mirrors.overlay_eq view .manifest () mirrors.committedManifest_eq

/-! ### Writing -/

/-- What keeps each record from being pending twice keeps a directory a mirror. -/
theorem Mirrors.write (mirrors : disk.Mirrors memory) {change : Records → Records}
    (proper : (change memory.pending).Proper) :
    (Backend.write disk change).Mirrors (Backend.write memory change) where
  pending := congrArg change mirrors.pending
  proper := by
    show (change disk.pending).Proper
    rw [mirrors.pending]
    exact proper
  shows := mirrors.shows

theorem commit_eq_ok (success : disk.commit.1 = .ok ()) :
    (writeFiles disk.root disk.directory (filesOf disk.pending)).1 = .ok () ∧
      disk.commit.2 = { disk with
        directory := (writeFiles disk.root disk.directory (filesOf disk.pending)).2
        pending := {}
        lastCommitted := latest disk.lastCommitted disk.pending.lastReference } := by
  unfold commit at success ⊢
  generalize writeFiles disk.root disk.directory (filesOf disk.pending) = result at *
  obtain ⟨_ | ⟨⟨⟩⟩, written⟩ := result
  · cases success
  · exact ⟨rfl, rfl⟩

/-- **A commit that succeeds keeps a directory a mirror.** -/
theorem Mirrors.commit (mirrors : disk.Mirrors memory) (success : disk.commit.1 = .ok ()) :
    disk.commit.2.Mirrors (Backend.commit memory).2 := by
  obtain ⟨written, after⟩ := commit_eq_ok success
  rw [after]
  refine ⟨rfl, Records.proper_empty, ?_⟩
  have shows := mirrors.shows.writeFiles (lists_filesOf mirrors.proper) written
  rw [mirrors.pending] at shows
  rw [mirrors.pending]
  exact shows

/-- The records can be written to files. -/
def Encodable (records : Records) : Prop :=
  ∀ (kind : RecordKind) (key : kind.Key) (value : kind.Value),
    kind.pick records key = some value → ∃ bytes, kind.contents value = .ok bytes

theorem Encodable.exists_bytes {records : Records} (encodable : Encodable records)
    (proper : records.Proper) {file : FilePath × Contents} (member : file ∈ filesOf records) :
    ∃ bytes, file.2 = .ok bytes := by
  rcases ((inOrder_filesOf _).mem_iff proper).mp member with
    ⟨kind, key, value, found, rfl⟩ | ⟨_, _, _, rfl⟩
  · exact encodable kind key value found
  · exact ⟨_, rfl⟩

/-- **A commit succeeds if each pending record can be written.** -/
theorem Mirrors.commit_ok (mirrors : disk.Mirrors memory) (encodable : Encodable memory.pending) :
    disk.commit.1 = .ok () := by
  rw [← mirrors.pending] at encodable
  have written := writeFiles_ok disk.root mirrors.shows.tidy
    (lists_filesOf mirrors.proper).isRecord fun _ => encodable.exists_bytes mirrors.proper
  unfold Disk.commit
  generalize writeFiles disk.root disk.directory (filesOf disk.pending) = result at *
  obtain ⟨_, _⟩ := result
  cases written
  rfl

end Disk

/-! ### Memory -/

/-- A look at records that finds nothing in empty ones, and newer ones first. -/
structure Records.Looks {α : Type} (select : Records → Option α) : Prop where
  blank : select {} = none
  merged : ∀ older newer, select (older.merge newer) = (select newer <|> select older)

theorem RecordKind.looks (kind : RecordKind) (key : kind.Key) : Records.Looks (kind.pick · key) where
  blank := by cases kind <;> rfl
  merged older newer := kind.pick_merge older newer key

namespace Memory

variable {α : Type} {memory other : Memory} {select : Records → Option α}

/-- Memories where the same records are found give the same answers. -/
theorem answers_congr {view viewToo : View}
    (same : ∀ (kind : RecordKind) (key : kind.Key),
      memory.lookup view (kind.pick · key) = other.lookup viewToo (kind.pick · key)) :
    Backend.answers memory view = Backend.answers other viewToo :=
  Answers.ext (funext fun reference => congrArg Except.ok (same .response reference))
    (funext fun reference => congrArg Except.ok (same .request reference))
    (funext fun reference => congrArg Except.ok (same .error reference))
    (funext fun object => congrArg (fun found => Except.ok (Option.getD found []))
      (same .history object))
    (congrArg Except.ok (same .manifest ()))

/-- A commit shows in every view what the pending records showed. -/
theorem lookup_commit (looks : Records.Looks select) (memory : Memory) (seen : View) :
    (Backend.commit memory).2.lookup seen select = memory.lookup .uncommitted select := by
  have shown : select (memory.committed.merge memory.pending) =
      memory.lookup .uncommitted select := looks.merged ..
  cases seen with
  | committed => exact shown
  | uncommitted =>
    show (select {} <|> select (memory.committed.merge memory.pending)) = _
    rw [looks.blank, shown]
    rfl

/-- **A commit makes the uncommitted records the committed ones, and changes no answer about
them.** -/
theorem answers_commit (memory : Memory) (view : View) :
    Backend.answers (Backend.commit memory).2 view = Backend.answers memory .uncommitted :=
  answers_congr fun kind key => lookup_commit (kind.looks key) memory view

theorem contents_commit (memory : Memory) : (Backend.commit memory).2.contents = memory.contents :=
  LawfulBackend.holds_commit (show LawfulBackend.Holds memory memory.contents from rfl)

end Memory

/-- A store that gives the same answers as memory shows what the memory holds. -/
theorem Ledger.shows_of_answers_eq {σ : Type} [Backend σ] (ledger : Ledger σ) {memory : Memory}
    (same : Backend.answers ledger.backend .uncommitted = Backend.answers memory .uncommitted) :
    ledger.view.Shows memory.contents where
  response_eq := congrArg Answers.response same
  history_eq object := congrFun (congrArg Answers.history same) object

/-! ### Either place -/

namespace Medium

variable {medium : Medium} {memory : Memory}

/-- The records are those in memory, or the files mirror them. -/
def Mirrors : Medium → Memory → Prop
  | .memory store, memory => store = memory ∧ memory.pending.Proper
  | .disk store, memory => store.Mirrors memory

theorem Mirrors.proper (mirrors : medium.Mirrors memory) : memory.pending.Proper := by
  cases medium with
  | memory store => exact mirrors.2
  | disk store =>
    have mirrors : store.Mirrors memory := mirrors
    exact mirrors.pending ▸ mirrors.proper

theorem Mirrors.answers_eq (mirrors : medium.Mirrors memory) (view : View) :
    Backend.answers medium view = Backend.answers memory view := by
  cases medium with
  | memory store =>
    obtain ⟨rfl, -⟩ := mirrors
    rfl
  | disk store =>
    have mirrors : store.Mirrors memory := mirrors
    exact mirrors.answers_eq view

theorem Mirrors.write (mirrors : medium.Mirrors memory) {change : Records → Records}
    (proper : (change memory.pending).Proper) :
    (Backend.write medium change).Mirrors (Backend.write memory change) := by
  cases medium with
  | memory store => exact ⟨congrArg (Backend.write · change) mirrors.1, proper⟩
  | disk store =>
    have mirrors : store.Mirrors memory := mirrors
    exact mirrors.write proper

theorem Mirrors.commit (mirrors : medium.Mirrors memory)
    (success : (Backend.commit medium).1 = .ok ()) :
    (Backend.commit medium).2.Mirrors (Backend.commit memory).2 := by
  cases medium with
  | memory store =>
    obtain ⟨rfl, -⟩ := mirrors
    exact ⟨rfl, Records.proper_empty⟩
  | disk store =>
    have mirrors : store.Mirrors memory := mirrors
    exact mirrors.commit success

theorem Mirrors.commit_ok (mirrors : medium.Mirrors memory)
    (encodable : Disk.Encodable memory.pending) : (Backend.commit medium).1 = .ok () := by
  cases medium with
  | memory store => rfl
  | disk store =>
    have mirrors : store.Mirrors memory := mirrors
    exact mirrors.commit_ok encodable

end Medium

end ObjectLedger
