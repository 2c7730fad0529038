/-
**Opening a directory finds the greatest transaction.**

* `IsLatest`: the greatest of some references, none if there are none.
  `Records.isLatest_lastReference`: what records say about it.
* **`Disk.exists_open`**: a tidy directory can be opened, and the greatest reference of a folder in it
  is found.
* `Disk.mem_folders_writeFiles`: writing files makes the folders on the way to them.
* `Disk.Dated`: the folders of a directory are those of the transactions that have a response or a
  rejection. **`Disk.Dated.commit`**: a commit keeps it so. **`Disk.Dated.reopened`**: opening the
  directory again then gives the same store.
-/
import ObjectLedger.Proofs.Store.Mirror

namespace ObjectLedger

/-! ### The greatest reference -/

/-- The greatest of the known references, none if none is known. -/
def IsLatest (known : TransactionRef → Prop) : Option TransactionRef → Prop
  | none => ∀ reference, ¬ known reference
  | some last => known last ∧ ∀ reference, known reference → reference ≤ last

namespace IsLatest

variable {known others : TransactionRef → Prop} {first second : Option TransactionRef}

theorem congr (same : ∀ reference, known reference ↔ others reference)
    (isLatest : IsLatest known first) : IsLatest others first := by
  have equal : known = others := funext fun reference => propext (same reference)
  exact equal ▸ isLatest

theorem le (isLatest : IsLatest known first) {reference : TransactionRef}
    (member : known reference) : ∃ last, first = some last ∧ reference ≤ last := by
  cases first with
  | none => exact absurd member (isLatest reference)
  | some last => exact ⟨last, rfl, isLatest.2 reference member⟩

/-- There is only one greatest reference. -/
theorem unique (isLatest : IsLatest known first) (isLatestToo : IsLatest known second) :
    first = second := by
  cases first with
  | none =>
    cases second with
    | none => rfl
    | some last => exact absurd isLatestToo.1 (isLatest last)
  | some last =>
    obtain ⟨other, rfl, below⟩ := isLatestToo.le isLatest.1
    have above := isLatest.2 other isLatestToo.1
    exact congrArg (fun value => some (TransactionRef.mk value)) (UInt64.le_antisymm below above)

/-- The later of the greatest of some references and the greatest of others. -/
theorem latest (isLatest : IsLatest known first) (isLatestToo : IsLatest others second) :
    IsLatest (fun reference => known reference ∨ others reference) (latest first second) := by
  cases first with
  | none => exact isLatestToo.congr fun reference => (or_iff_right (isLatest reference)).symm
  | some last =>
    cases second with
    | none => exact isLatest.congr fun reference => (or_iff_left (isLatestToo reference)).symm
    | some other =>
      show IsLatest _ (some (last.max other))
      unfold TransactionRef.max
      split
      · rename_i below
        refine ⟨Or.inr isLatestToo.1, fun reference member => ?_⟩
        rcases member with member | member
        · exact UInt64.le_trans (isLatest.2 reference member) below
        · exact isLatestToo.2 reference member
      · rename_i above
        refine ⟨Or.inl isLatest.1, fun reference member => ?_⟩
        rcases member with member | member
        · exact isLatest.2 reference member
        · exact UInt64.le_trans (isLatestToo.2 reference member)
            (UInt64.le_of_lt (UInt64.not_le.mp above))

/-- The greatest of the references that are given. -/
theorem foldl (given : List (Option TransactionRef)) (isLatest : IsLatest known first) :
    IsLatest (fun reference => known reference ∨ some reference ∈ given)
      (given.foldl ObjectLedger.latest first) := by
  induction given generalizing known first with
  | nil => exact isLatest.congr fun _ => by simp
  | cons head rest ih =>
    have single : IsLatest (fun reference => some reference = head) head := by
      cases head with
      | none => exact fun _ absent => by cases absent
      | some last =>
        refine ⟨rfl, fun reference same => ?_⟩
        cases same
        exact UInt64.le_refl _
    refine (ih (isLatest.latest single)).congr fun reference => ?_
    rw [List.mem_cons, or_assoc]

end IsLatest

namespace Records

/-- The transaction has a response or a rejection. -/
def Knows (records : Records) (reference : TransactionRef) : Prop :=
  (records.responses.get? reference).isSome ∨ (records.errors.get? reference).isSome

/-- Each request has a response or a rejection. -/
def Complete (records : Records) : Prop :=
  ∀ reference, (records.requests.get? reference).isSome → records.Knows reference

theorem knows_merge (older newer : Records) (reference : TransactionRef) :
    (older.merge newer).Knows reference ↔ newer.Knows reference ∨ older.Knows reference := by
  unfold Knows merge
  simp only [Table.get?_merge]
  cases newer.responses.get? reference <;> cases newer.errors.get? reference <;> simp

end Records

theorem Table.mem_keys {κ ν : Type} [DecidableEq κ] {table : Table κ ν} {key : κ} :
    key ∈ table.keys ↔ (table.get? key).isSome := by
  unfold keys get?
  rw [Option.isSome_map, List.find?_isSome, List.mem_map]
  simp

/-- **The greatest reference with a response or a rejection.** -/
theorem Records.isLatest_lastReference (records : Records) :
    IsLatest records.Knows records.lastReference := by
  have none : IsLatest (fun _ => False) none := fun _ absent => absent
  have folded := none.foldl ((records.responses.keys ++ records.errors.keys).map some)
  rw [List.foldl_map] at folded
  refine folded.congr fun reference => ?_
  simp [Knows, Table.mem_keys]

/-- In memory a commit leaves the greatest reference. -/
theorem Memory.lastReference_commit (memory : Memory) :
    Backend.lastReference (Backend.commit memory).2 = Backend.lastReference memory :=
  ((memory.committed.merge memory.pending).isLatest_lastReference.congr
    (memory.committed.knows_merge memory.pending)).unique
    (memory.pending.isLatest_lastReference.latest memory.committed.isLatest_lastReference)

/-! ### Opening -/

namespace Directory

variable {directory : Directory}

/-- There is a folder for the name of a transaction. -/
def HasFolder (directory : Directory) (reference : TransactionRef) : Prop :=
  ∃ name, Layout.transactions ∈ directory.folders ∧
    Layout.transactions ++ [name] ∈ directory.folders ∧ TransactionRef.parse name = .ok reference

/-- The transaction of a file has a folder. -/
theorem Tidy.hasFolder (tidy : directory.Tidy) {reference : TransactionRef} {name : String}
    (present : (directory.files.get? (Layout.transaction reference ++ [name])).isSome) :
    directory.HasFolder reference := by
  have above := tidy.ancestry _ present
  have first := above Layout.transactions (by
    simp [Directory.ancestry, Layout.transaction, Layout.transactions, List.range_succ])
  have second := above (Layout.transaction reference) (by
    simp [Directory.ancestry, Layout.transaction, Layout.transactions, List.range_succ])
  refine ⟨reference.toText, ?_, ?_, TransactionRef.parse_toText reference⟩
  · simpa [isFolder, Layout.transactions] using first
  · simpa [isFolder, Layout.transaction, Layout.transactions] using second

/-- What is in the folder of all transactions are the folders of transactions. -/
theorem Tidy.mem_entries (tidy : directory.Tidy) {names : List String}
    (listed : directory.entries? Layout.transactions = .ok names) (name : String) :
    name ∈ names ↔ Layout.transactions ++ [name] ∈ directory.folders := by
  have noFile : Layout.transactions ++ [name] ∉ directory.files.keys := by
    intro member
    have place := tidy.file_place _ (Table.mem_keys.mp member)
    rcases place.cases with ⟨_, same, _⟩ | ⟨_, same⟩ | ⟨_, _, same⟩ <;>
      simp [Layout.transactions] at same
  unfold entries? at listed
  split at listed
  · cases listed
  · split at listed
    · cases listed
    · split at listed
      · cases listed
      · cases listed
        simp only [List.mem_filterMap, List.mem_filter, List.mem_append, Bool.and_eq_true,
          decide_eq_true_eq]
        constructor
        · rintro ⟨candidate, ⟨inside, above, -⟩, last⟩
          have shape : Layout.transactions ++ [name] = candidate := by
            rw [← above]
            exact List.dropLast_append_getLast? name last
          rw [← shape] at inside
          exact inside.resolve_left noFile
        · intro inside
          exact ⟨_, ⟨Or.inr inside, by simp, by simp [Layout.transactions]⟩, by simp⟩

end Directory

namespace Disk

variable {directory : Directory}

theorem isLatest_greatestReference (names : List String) :
    IsLatest (fun reference => ∃ name ∈ names, TransactionRef.parse name = .ok reference)
      (greatestReference names) := by
  have none : IsLatest (fun _ => False) none := fun _ absent => absent
  have folded := none.foldl (names.map fun name => (TransactionRef.parse name).toOption)
  rw [List.foldl_map] at folded
  refine folded.congr fun reference => ?_
  rw [false_or, List.mem_map]
  refine exists_congr fun name => and_congr_right fun _ => ?_
  cases TransactionRef.parse name <;> simp [Except.toOption]

/-- **A tidy directory can be opened, and the greatest reference of a folder in it is found.** -/
theorem exists_open (root : String) (tidy : directory.Tidy) :
    ∃ last, «open» root directory = .ok { root, directory, lastCommitted := last } ∧
      IsLatest directory.HasFolder last := by
  have noFile : directory.isFile Layout.transactions = false :=
    tidy.isFile_eq_false (show FilePath.IsFolderPlace ["transactions"] from trivial)
  have isFolder : directory.isFolder Layout.transactions =
      directory.folders.contains Layout.transactions := rfl
  by_cases present : Layout.transactions ∈ directory.folders
  · obtain ⟨names, listed⟩ : ∃ names, directory.entries? Layout.transactions = .ok names := by
      simp [Directory.entries?, Directory.obstacle?, Directory.ancestry, noFile, isFolder, present,
        show Layout.transactions.dropLast = [] from rfl]
    have scanned : scanLastReference root directory = .ok (greatestReference names) := by
      simp [scanLastReference, Directory.isPresent, isFolder, present, listed]
    refine ⟨greatestReference names, ?_, (isLatest_greatestReference names).congr fun _ => ?_⟩
    · unfold «open»
      rw [scanned]
      rfl
    · simp only [tidy.mem_entries listed]
      exact exists_congr fun name => (and_iff_right present).symm
  · have scanned : scanLastReference root directory = .ok none := by
      simp [scanLastReference, Directory.isPresent, isFolder, present, noFile]
    refine ⟨none, ?_, fun _ held => held.elim fun _ inside => present inside.1⟩
    unfold «open»
    rw [scanned]
    rfl

end Disk

/-! ### Folders -/

namespace Directory

variable {directory after : Directory} {path folder : FilePath}

theorem mem_folders_createFolders (made : directory.createFolders path = .ok after) :
    folder ∈ after.folders ↔ folder ∈ directory.folders ∨ folder ∈ ancestry path := by
  unfold createFolders at made
  split at made
  · cases made
  · cases made
    have present : ∀ known ∈ ancestry path, directory.isFolder known = true ↔
        known ∈ directory.folders := by
      intro known member
      obtain ⟨count, below, rfl⟩ := List.mem_map.mp member
      have nonempty : path ≠ [] := by
        rintro rfl
        cases below
      simp [isFolder, nonempty]
    rw [List.mem_append, List.mem_filter]
    by_cases inside : folder ∈ ancestry path
    · by_cases known : folder ∈ directory.folders
      · exact iff_of_true (Or.inl known) (Or.inl known)
      · have missing : (!directory.isFolder folder) = true := by
          simpa using fun there => known ((present folder inside).mp there)
        exact iff_of_true (Or.inr ⟨inside, missing⟩) (Or.inr inside)
    · simp [inside]

theorem folders_writeFile {bytes : List UInt8} (wrote : directory.writeFile path bytes = .ok after) :
    after.folders = directory.folders := by
  unfold writeFile at wrote
  split at wrote
  · cases wrote
  · split at wrote <;> cases wrote
    rfl

theorem folders_rename {source : FilePath} (moved : directory.rename source path = .ok after) :
    after.folders = directory.folders := by
  unfold rename at moved
  split at moved
  · cases moved
  · split at moved
    · cases moved
    · rename_i written wrote
      have same : written.folders = directory.folders := folders_writeFile wrote
      split at moved <;> cases moved <;> exact same

end Directory

namespace Disk

variable {disk : Disk} {memory : Memory} {directory : Directory} {root : String}
  {files : List (FilePath × Contents)} {folder : FilePath}

theorem mem_folders_writeFile {after : Directory} {path : FilePath} {bytes : List UInt8}
    (wrote : writeFile root directory path bytes = (.ok (), after)) :
    folder ∈ after.folders ↔
      folder ∈ directory.folders ∨ folder ∈ Directory.ancestry path.dropLast := by
  unfold writeFile at wrote
  simp only at wrote
  split at wrote
  · cases wrote
  · rename_i made making
    split at wrote
    · cases wrote
    · rename_i draft drafting
      split at wrote
      · cases wrote
      · rename_i moved moving
        cases wrote
        rw [Directory.folders_rename moving, Directory.folders_writeFile drafting,
          Directory.mem_folders_createFolders making]

/-- **Writing files makes the folders on the way to them.** -/
theorem mem_folders_writeFiles (success : (writeFiles root directory files).1 = .ok ()) :
    folder ∈ (writeFiles root directory files).2.folders ↔ folder ∈ directory.folders ∨
      ∃ file ∈ files, folder ∈ Directory.ancestry file.1.dropLast := by
  induction files generalizing directory with
  | nil => simp [writeFiles]
  | cons file rest ih =>
    obtain ⟨path, contents⟩ := file
    cases contents with
    | error cause => cases success
    | ok bytes =>
      unfold writeFiles at success ⊢
      split at success
      · rename_i written wrote
        rw [ih success, mem_folders_writeFile wrote, or_assoc, List.exists_mem_cons_iff]
      · cases success

/-- The folders of a directory are those of transactions with a response or a rejection, of which
the greatest is known. A pending request has a response or a rejection, too. -/
structure Dated (disk : Disk) (memory : Memory) : Prop where
  last : disk.lastCommitted = memory.committed.lastReference
  mem_folders : ∀ name, Layout.transactions ++ [name] ∈ disk.directory.folders ↔
    ∃ reference, memory.committed.Knows reference ∧ reference.toText = name
  complete : memory.pending.Complete

/-- What leaves a response or a rejection with each pending request keeps the folders those of the
transactions. -/
theorem Dated.write (dated : disk.Dated memory) {change : Records → Records}
    (complete : (change memory.pending).Complete) :
    (Backend.write disk change).Dated (Backend.write memory change) where
  last := dated.last
  mem_folders := dated.mem_folders
  complete := complete

theorem Dated.lastReference_eq (dated : disk.Dated memory) (mirrors : disk.Mirrors memory) :
    Backend.lastReference disk = Backend.lastReference memory := by
  show latest disk.pending.lastReference disk.lastCommitted = _
  rw [mirrors.pending, dated.last]
  rfl

theorem mem_ancestry_transaction {reference : TransactionRef} {name : String} :
    Layout.transactions ++ [name] ∈ Directory.ancestry (Layout.transaction reference) ↔
      reference.toText = name := by
  simp [Directory.ancestry, Layout.transaction, Layout.transactions, List.range_succ, eq_comm]

/-- The folders of transactions on the way to the files of records. -/
theorem InOrder.mem_ancestry {records : Records} (inOrder : InOrder records files)
    (proper : records.Proper) (complete : records.Complete) (name : String) :
    (∃ file ∈ files, Layout.transactions ++ [name] ∈ Directory.ancestry file.1.dropLast) ↔
      ∃ reference, records.Knows reference ∧ reference.toText = name := by
  constructor
  · rintro ⟨file, member, way⟩
    rcases (inOrder.mem_iff proper).mp member with
      ⟨kind, key, value, found, rfl⟩ | ⟨reference, response, found, rfl⟩
    · have present := Option.isSome_of_eq_some found
      cases kind with
      | request => exact ⟨key, complete key present, mem_ancestry_transaction.mp way⟩
      | response => exact ⟨key, Or.inl present, mem_ancestry_transaction.mp way⟩
      | error => exact ⟨key, Or.inr present, mem_ancestry_transaction.mp way⟩
      | history =>
        simp [RecordKind.place, Layout.history, Layout.transactions, Directory.ancestry] at way
      | manifest =>
        simp [RecordKind.place, Layout.manifest, Directory.ancestry] at way
    · exact ⟨reference, Or.inl (Option.isSome_of_eq_some found), mem_ancestry_transaction.mp way⟩
  · rintro ⟨reference, known, rfl⟩
    rcases known with known | known
    · obtain ⟨response, found⟩ := Option.isSome_iff_exists.mp known
      exact ⟨_, (inOrder.mem_iff proper).mpr (Or.inl ⟨.response, reference, response, found, rfl⟩),
        mem_ancestry_transaction.mpr rfl⟩
    · obtain ⟨reason, found⟩ := Option.isSome_iff_exists.mp known
      exact ⟨_, (inOrder.mem_iff proper).mpr (Or.inl ⟨.error, reference, reason, found, rfl⟩),
        mem_ancestry_transaction.mpr rfl⟩

/-- **A commit keeps the folders those of the transactions.** -/
theorem Dated.commit (dated : disk.Dated memory) (mirrors : disk.Mirrors memory)
    (success : disk.commit.1 = .ok ()) : disk.commit.2.Dated (Backend.commit memory).2 := by
  obtain ⟨written, after⟩ := commit_eq_ok success
  rw [after]
  have knows := memory.committed.knows_merge memory.pending
  refine ⟨?_, fun name => ?_, fun _ absent => by cases absent⟩
  · show latest disk.lastCommitted disk.pending.lastReference = _
    rw [dated.last, mirrors.pending]
    refine (memory.committed.isLatest_lastReference.latest
      memory.pending.isLatest_lastReference).unique ?_
    exact (Records.isLatest_lastReference _).congr fun reference => (knows reference).trans or_comm
  · rw [mem_folders_writeFiles written, dated.mem_folders,
      (inOrder_filesOf _).mem_ancestry mirrors.proper (mirrors.pending ▸ dated.complete) name,
      mirrors.pending]
    show _ ↔ ∃ reference, (memory.committed.merge memory.pending).Knows reference ∧ _
    simp only [knows, or_and_right, exists_or]
    exact or_comm

/-- **Opening the directory again gives the same store, if nothing is pending.** -/
theorem Dated.reopened (dated : disk.Dated memory) (mirrors : disk.Mirrors memory)
    (settled : disk.pending = {}) : «open» disk.root disk.directory = .ok disk := by
  obtain ⟨last, opened, isLatest⟩ := exists_open disk.root mirrors.shows.tidy
  have same : ∀ reference, disk.directory.HasFolder reference ↔
      memory.committed.Knows reference := by
    intro reference
    constructor
    · rintro ⟨name, -, folder, parsed⟩
      obtain ⟨other, known, rfl⟩ := (dated.mem_folders name).mp folder
      rw [TransactionRef.parse_toText] at parsed
      cases parsed
      exact known
    · rintro (known | known)
      · exact mirrors.shows.tidy.hasFolder (mirrors.shows.isSome_file .response reference known)
      · exact mirrors.shows.tidy.hasFolder (mirrors.shows.isSome_file .error reference known)
  have lasts := (isLatest.congr same).unique memory.committed.isLatest_lastReference
  rw [opened, lasts, ← dated.last, ← settled]

end Disk

end ObjectLedger
