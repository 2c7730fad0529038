/-
**A commit that failed can be made again.**

* `Records.Put`: one writing of a record, which is pending until a commit.
* `Disk.CommitFails`, `Disk.Commits`: what a commit that fails, or that succeeds, can leave; the files of
  a kind of records are written in any order. `Disk.commitFails_of_error`, `Disk.commits_of_ok`.
* `Directory.Ahead`, `Disk.Ahead`: only folders and files of pending records were added.
  **`Disk.ahead_of_commitFails`**: so it is after a commit that failed. **`Disk.Ahead.answers_eq`**: this
  does not show in an answer. **`Disk.Ahead.commits`**: it is gone after a commit that succeeds.
* **`Disk.Commits.answers_eq`**: a commit that succeeds makes the uncommitted answers the committed ones.
* **`Disk.retried`**: a commit that failed loses nothing, and after any writings it can be made again as
  if it had never been tried. **`Ledger.performAll_ahead`**: in between all calls have the same
  results.
* `Backend.Retains`: commits that fail change no answer. **`Medium.retains`**: so it is in memory and in
  the files of a directory.
-/
import ObjectLedger.Proofs.Store.Calls
import ObjectLedger.Proofs.Store.Tree

namespace ObjectLedger

/-! ### Writings -/

theorem Table.isSome_insert {κ ν : Type} [DecidableEq κ] {table : Table κ ν} {other : κ}
    (present : (table.get? other).isSome) (key : κ) (value : ν) :
    ((table.insert key value).get? other).isSome := by
  rw [Table.get?_insert]
  split
  · rfl
  · exact present

namespace Records

variable {records older middle newer : Records}

/-- One writing of a record. -/
inductive Put where
  | transaction (reference : TransactionRef) (request : Request) (response : Response)
  | error (reference : TransactionRef) (request : Request) (reason : String)
  | history (object : ObjectRef) (history : List TransactionRef)
  | manifest (object : ObjectRef)

/-- The reference of a response or of a rejection. -/
def Put.reference? : Put → Option TransactionRef
  | transaction reference _ _ | error reference _ _ => some reference
  | history _ _ | manifest _ => none

/-- The records after a writing. -/
def put (records : Records) : Put → Records
  | .transaction reference request response => records.putTransaction reference request response
  | .error reference request reason => records.putError reference request reason
  | .history object history => records.putHistory object history
  | .manifest object => records.putManifest object

/-- The records after some writings. -/
def putAll (puts : List Put) (records : Records) : Records :=
  puts.foldl put records

/-- No record vanishes. -/
def Keeps (older newer : Records) : Prop :=
  ∀ (kind : RecordKind) (key : kind.Key),
    (kind.pick older key).isSome → (kind.pick newer key).isSome

theorem Keeps.trans (first : older.Keeps middle) (second : middle.Keeps newer) :
    older.Keeps newer :=
  fun kind key present => second kind key (first kind key present)

theorem keeps_put (records : Records) (put : Put) : records.Keeps (records.put put) := by
  intro kind key present
  cases put with
  | transaction reference request response =>
    cases kind with
    | request | response => exact Table.isSome_insert (κ := TransactionRef) present _ _
    | error | history | manifest => exact present
  | error reference request reason =>
    cases kind with
    | request | error => exact Table.isSome_insert (κ := TransactionRef) present _ _
    | response | history | manifest => exact present
  | history object history =>
    cases kind with
    | history => exact Table.isSome_insert (κ := ObjectRef) present _ _
    | request | response | error | manifest => exact present
  | manifest object =>
    cases kind with
    | manifest => rfl
    | request | response | error | history => exact present

theorem Proper.put (proper : records.Proper) (put : Put) : (records.put put).Proper := by
  cases put with
  | transaction reference request response => exact proper.putTransaction reference request response
  | error reference request reason => exact proper.putError reference request reason
  | history object history =>
    exact { proper with histories := proper.histories.insert object history }
  | manifest object => exact { proper with }

theorem keeps_putAll (puts : List Put) (records : Records) : records.Keeps (records.putAll puts) := by
  induction puts generalizing records with
  | nil => exact fun _ _ present => present
  | cons put rest ih => exact (keeps_put records put).trans (ih _)

theorem Proper.putAll (proper : records.Proper) (puts : List Put) :
    (records.putAll puts).Proper := by
  induction puts generalizing records with
  | nil => exact proper
  | cons put rest ih => exact ih (proper.put put)

end Records

namespace Disk

variable {disk failed after : Disk} {records older newer : Records}
  {files filesToo : List (FilePath × Contents)}

/-! ### Paths of records -/

/-- Files of the same records are the same in any order. -/
theorem InOrder.mem_congr (inOrder : InOrder records files) (inOrderToo : InOrder records filesToo)
    {file : FilePath × Contents} : file ∈ files ↔ file ∈ filesToo := by
  rw [inOrder.mem_iff_entries, inOrderToo.mem_iff_entries]

/-- A record is written to its file once. -/
theorem InOrder.contents_eq (inOrder : InOrder records files) (proper : records.Proper)
    {path : FilePath} {one other : Contents} (first : (path, one) ∈ files)
    (second : (path, other) ∈ files) : one = other := by
  rcases (inOrder.mem_iff proper).mp first with
    ⟨kind, key, value, found, same⟩ | ⟨reference, response, found, same⟩
  · obtain ⟨rfl, rfl⟩ := Prod.mk.inj same
    obtain ⟨valueToo, foundToo, rfl⟩ :=
      (inOrder.mem_place_iff kind (proper.kind kind) key other).mp second
    rw [Option.some.inj (found.symm.trans foundToo)]
  · obtain ⟨rfl, rfl⟩ := Prod.mk.inj same
    rcases (inOrder.mem_iff proper).mp second with
      ⟨kind, key, value, -, same⟩ | ⟨referenceToo, responseToo, foundToo, same⟩
    · have labels : ["transactions", "response.txt"] = kind.files :=
        (congrArg RecordKind.label (Prod.mk.inj same).1).symm.trans (kind.label_place key)
      cases kind <;> exact absurd labels (by decide)
    · obtain ⟨places, rfl⟩ := Prod.mk.inj same
      cases Layout.eq_of_transaction places
      rw [Option.some.inj (found.symm.trans foundToo)]

/-- The path is that of the file of one of the records. -/
def Covers (records : Records) (path : FilePath) : Prop :=
  path ∈ (filesOf records).map Prod.fst

theorem covers_iff (inOrder : InOrder records files) (path : FilePath) :
    Covers records path ↔ path ∈ files.map Prod.fst := by
  unfold Covers
  simp only [List.mem_map, (inOrder_filesOf records).mem_congr inOrder]

theorem Covers.isRecord {path : FilePath} (covers : Covers records path) :
    Layout.IsRecord path := by
  obtain ⟨file, member, rfl⟩ := List.mem_map.mp covers
  exact (inOrder_filesOf records).isRecord file member

/-- No records have no files. -/
theorem not_covers_empty (path : FilePath) : ¬ Covers {} path := by
  intro covers
  obtain ⟨file, member, -⟩ := List.mem_map.mp covers
  rcases ((inOrder_filesOf {}).mem_iff Records.proper_empty).mp member with
    ⟨kind, key, value, found, -⟩ | ⟨reference, response, found, -⟩
  · cases kind <;> cases found
  · cases found

/-- A record that is not there has no file. -/
theorem isSome_pick_of_covers (proper : records.Proper) {kind : RecordKind} {key : kind.Key}
    (covers : Covers records (kind.place key)) : (kind.pick records key).isSome := by
  obtain ⟨⟨_, contents⟩, member, rfl⟩ := List.mem_map.mp covers
  obtain ⟨value, found, -⟩ :=
    ((inOrder_filesOf records).mem_place_iff kind (proper.kind kind) key contents).mp member
  rw [found]
  rfl

/-- The files of records that do not vanish stay. -/
theorem Covers.mono (keeps : older.Keeps newer) (proper : older.Proper)
    (properToo : newer.Proper) {path : FilePath} (covers : Covers older path) :
    Covers newer path := by
  obtain ⟨⟨_, contents⟩, member, rfl⟩ := List.mem_map.mp covers
  have found : ∀ (kind : RecordKind) (key : kind.Key), (kind.pick older key).isSome →
      ∃ value, kind.pick newer key = some value := fun kind key present =>
    Option.isSome_iff_exists.mp (keeps kind key present)
  have inOrder := inOrder_filesOf newer
  rcases ((inOrder_filesOf older).mem_iff proper).mp member with
    ⟨kind, key, value, present, same⟩ | ⟨reference, response, present, same⟩
  · obtain ⟨later, found⟩ := found kind key (by rw [present]; rfl)
    obtain ⟨rfl, -⟩ := Prod.mk.inj same
    exact List.mem_map.mpr
      ⟨_, (inOrder.mem_iff properToo).mpr (Or.inl ⟨kind, key, later, found, rfl⟩), rfl⟩
  · obtain ⟨later, found⟩ := found .response reference (by
      show (older.responses.get? reference).isSome
      rw [present]
      rfl)
    obtain ⟨rfl, -⟩ := Prod.mk.inj same
    exact List.mem_map.mpr
      ⟨_, (inOrder.mem_iff properToo).mpr (Or.inr ⟨reference, later, found, rfl⟩), rfl⟩

/-! ### Commits -/

/-- What a commit that fails can leave: a beginning of the files, the writing of the next one not
finished, and everything pending. -/
inductive CommitFails (disk : Disk) : Disk → Prop
  | intro {written rest : List (FilePath × Contents)} {path : FilePath} {contents : Contents}
      {middle left : Directory}
      (inOrder : InOrder disk.pending (written ++ (path, contents) :: rest))
      (whole : writeFiles disk.root disk.directory written = (.ok (), middle))
      (abandons : Abandons path middle left) : CommitFails disk { disk with directory := left }

/-- What a commit that succeeds leaves: all files, and nothing pending. -/
inductive Commits (disk : Disk) : Disk → Prop
  | intro {files : List (FilePath × Contents)} {written : Directory}
      (inOrder : InOrder disk.pending files)
      (whole : writeFiles disk.root disk.directory files = (.ok (), written)) :
      Commits disk { disk with
        directory := written
        pending := {}
        lastCommitted := latest disk.lastCommitted disk.pending.lastReference }

/-- A writing of files that stops has written those before, and did not finish one. -/
theorem exists_abandoned {root : String} {directory left : Directory} {cause : StoreError}
    (stopped : writeFiles root directory files = (.error cause, left)) :
    ∃ written path contents rest middle, files = written ++ (path, contents) :: rest ∧
      writeFiles root directory written = (.ok (), middle) ∧ Abandons path middle left := by
  induction files generalizing directory with
  | nil => cases stopped
  | cons file rest ih =>
    obtain ⟨path, contents⟩ := file
    cases contents with
    | error problem =>
      cases stopped
      exact ⟨[], path, .error cause, rest, _, rfl, rfl, .refl path _⟩
    | ok bytes =>
      rw [writeFiles] at stopped
      split at stopped
      · rename_i made wrote
        obtain ⟨written, next, contents, others, middle, rfl, whole, abandons⟩ := ih stopped
        exact ⟨(path, .ok bytes) :: written, next, contents, others, middle, rfl,
          (writeFiles_cons_of_ok wrote written).trans whole, abandons⟩
      · rename_i problem made failed
        cases stopped
        exact ⟨[], path, .ok bytes, rest, _, rfl, rfl, abandons_of_error failed⟩

/-- A commit that gives an error fails. -/
theorem commitFails_of_error {cause : StoreError} (stopped : disk.commit.1 = .error cause) :
    disk.CommitFails disk.commit.2 := by
  have inOrder := inOrder_filesOf disk.pending
  unfold commit at stopped ⊢
  cases result : writeFiles disk.root disk.directory (filesOf disk.pending) with
  | mk outcome left =>
    rw [result] at stopped
    cases outcome with
    | ok done => cases stopped
    | error cause =>
      obtain ⟨written, path, contents, rest, middle, split, whole, abandons⟩ :=
        exists_abandoned result
      rw [split] at inOrder
      exact .intro inOrder whole abandons

/-- A commit without an error succeeds. -/
theorem commits_of_ok (success : disk.commit.1 = .ok ()) : disk.Commits disk.commit.2 := by
  obtain ⟨written, after⟩ := commit_eq_ok success
  rw [after]
  exact .intro (inOrder_filesOf disk.pending) (Prod.ext written rfl)

end Disk

/-! ### Being ahead -/

namespace Directory

variable {apart : FilePath → Prop} {ahead plain after : Directory} {path : FilePath} {root : String}

/-- Of two trees one has more folders, which are on the way to some records, and only the files of
these records differ, but for drafts. -/
structure Ahead (apart : FilePath → Prop) (ahead plain : Directory) : Prop where
  tree : ahead.IsTree
  treeToo : plain.IsTree
  isRecord : ∀ path, apart path → Layout.IsRecord path
  file_eq : ∀ path, ¬ Layout.IsDraft path → ¬ apart path →
    ahead.files.get? path = plain.files.get? path
  kept : ∀ folder ∈ plain.folders, folder ∈ ahead.folders
  made : ∀ folder ∈ ahead.folders,
    folder ∈ plain.folders ∨ ∃ path, apart path ∧ folder ∈ ancestry path.dropLast

theorem Ahead.refl (tree : plain.IsTree) (isRecord : ∀ path, apart path → Layout.IsRecord path) :
    Ahead apart plain plain where
  tree := tree
  treeToo := tree
  isRecord := isRecord
  file_eq _ _ _ := rfl
  kept _ member := member
  made _ member := Or.inl member

theorem Ahead.mono {more : FilePath → Prop} (before : Ahead apart ahead plain)
    (inside : ∀ path, apart path → more path) (isRecord : ∀ path, more path → Layout.IsRecord path) :
    Ahead more ahead plain :=
  { before with
    isRecord
    file_eq := fun path noDraft outside =>
      before.file_eq path noDraft fun within => outside (inside path within)
    made := fun folder member => (before.made folder member).imp id
      fun ⟨path, within, above⟩ => ⟨path, inside path within, above⟩ }

/-- Where folders are there are the same files. -/
theorem Ahead.isFile_eq (before : Ahead apart ahead plain) (place : path.IsFolderPlace) :
    ahead.isFile path = plain.isFile path := by
  unfold isFile Table.contains
  rw [before.file_eq path (Layout.not_isDraft_of_isFolderPlace place) fun within =>
    (before.isRecord path within).place.not_folder place]

/-- Where files are there are the same folders. -/
theorem Ahead.isFolder_eq (before : Ahead apart ahead plain) (place : path.IsFilePlace) :
    ahead.isFolder path = plain.isFolder path := by
  rw [Bool.eq_iff_iff, isFolder_iff, isFolder_iff]
  refine or_congr_right ⟨fun member => ?_, before.kept path⟩
  rcases before.made path member with known | ⟨other, within, above⟩
  · exact known
  · exact absurd ((before.isRecord other within).place.ancestry path above) place.not_folder

/-- They admit the same records. -/
theorem Ahead.admits_iff (before : Ahead apart ahead plain) (record : Layout.IsRecord path) :
    ahead.Admits path ↔ plain.Admits path := by
  have isFile : ∀ folder ∈ ancestry path.dropLast, ahead.isFile folder = plain.isFile folder :=
    fun folder above => before.isFile_eq (record.place.ancestry folder above)
  have place := before.isFolder_eq record.place
  have draft := before.isFolder_eq record.draft_place
  constructor
  · rintro ⟨way, one, two⟩
    exact ⟨fun folder above => (isFile folder above).symm.trans (way folder above),
      place.symm.trans one, draft.symm.trans two⟩
  · rintro ⟨way, one, two⟩
    exact ⟨fun folder above => (isFile folder above).trans (way folder above), place.trans one,
      draft.trans two⟩

/-- **A record whose file does not differ is read in the same way.** -/
theorem Ahead.read_eq (before : Ahead apart ahead plain) (record : Layout.IsRecord path)
    (outside : ¬ apart path) : ahead.read path = plain.read path := by
  have blocked : ahead.isBlocked path = plain.isBlocked path := by
    unfold isBlocked
    rw [before.isFolder_eq record.place]
    congr 1
    rw [Bool.eq_iff_iff, List.any_eq_true, List.any_eq_true]
    refine exists_congr fun folder => and_congr_right fun above => ?_
    rw [before.isFile_eq (record.place.ancestry folder above)]
  rw [before.tree.read_eq, before.treeToo.read_eq, blocked, before.file_eq path record.not_isDraft
    outside]

/-- So it stays when one of the records is written. -/
theorem Ahead.writeFile {bytes : List UInt8} (before : Ahead apart ahead plain)
    (within : apart path)
    (wrote : Disk.writeFile root ahead path bytes = (.ok (), after)) :
    Ahead apart after plain := by
  have record := before.isRecord path within
  obtain ⟨-, files, tree⟩ := Disk.writeFile_eq_ok record wrote
  refine { before with
    tree := tree before.tree
    file_eq := fun other noDraft outside => ?_
    kept := fun folder member =>
      (Disk.mem_folders_writeFile wrote).mpr (Or.inl (before.kept folder member))
    made := fun folder member => ?_ }
  · rw [files other fun same => noDraft ⟨path, record, same.symm⟩, if_neg, before.file_eq other
      noDraft outside]
    rintro rfl
    exact outside within
  · rcases (Disk.mem_folders_writeFile wrote).mp member with known | above
    · exact before.made folder known
    · exact Or.inr ⟨path, within, above⟩

theorem Ahead.writeFiles {files : List (FilePath × Disk.Contents)}
    (before : Ahead apart ahead plain) (within : ∀ file ∈ files, apart file.1)
    (whole : Disk.writeFiles root ahead files = (.ok (), after)) : Ahead apart after plain := by
  induction files generalizing ahead with
  | nil =>
    cases whole
    exact before
  | cons file rest ih =>
    obtain ⟨path, contents⟩ := file
    obtain ⟨here, others⟩ := List.forall_mem_cons.mp within
    obtain ⟨bytes, written, -, wrote, goesOn⟩ := Disk.writeFiles_cons_eq_ok whole
    exact ih (before.writeFile here wrote) others goesOn

/-- Folders on the way to one of the records can be made. -/
theorem Ahead.createFolders {inner : FilePath} (before : Ahead apart ahead plain)
    (within : apart path) (start : inner <+: path.dropLast)
    (making : ahead.createFolders inner = .ok after) : Ahead apart after plain :=
  { before with
    tree := before.tree.createFolders making
    file_eq := by
      rw [files_createFolders making]
      exact before.file_eq
    kept := fun folder member =>
      (mem_folders_createFolders making).mpr (Or.inl (before.kept folder member))
    made := fun folder member => by
      rcases (mem_folders_createFolders making).mp member with known | above
      · exact before.made folder known
      · obtain ⟨nonempty, above⟩ := mem_ancestry.mp above
        exact Or.inr ⟨path, within, mem_ancestry.mpr ⟨nonempty, above.trans start⟩⟩ }

/-- **So it stays when the writing of one of the records is not finished.** -/
theorem Ahead.abandons (before : Ahead apart ahead plain) (within : apart path)
    (abandons : Disk.Abandons path ahead after) : Ahead apart after plain := by
  cases abandons with
  | folders start making => exact before.createFolders within start making
  | draft making drafting =>
    have between := before.createFolders within List.prefix_rfl making
    obtain ⟨-, -, rfl⟩ := writeFile_eq_ok drafting
    refine { between with tree := between.tree.writeFile drafting, file_eq := ?_ }
    intro other noDraft outside
    rw [Table.get?_insert_of_ne, between.file_eq other noDraft outside]
    rintro rfl
    exact noDraft ⟨path, before.isRecord path within, rfl⟩

/-- **Nothing is ahead any more once all of the records were written.** -/
theorem Ahead.settled {files filesToo : List (FilePath × Disk.Contents)}
    {one other : Directory} {rootToo : String} (before : Ahead apart ahead plain)
    (records : ∀ file ∈ files, Layout.IsRecord file.1)
    (same : ∀ file, file ∈ files ↔ file ∈ filesToo)
    (once : ∀ path first second, (path, first) ∈ files → (path, second) ∈ files → first = second)
    (all : ∀ path, apart path → path ∈ files.map Prod.fst)
    (whole : Disk.writeFiles root ahead files = (.ok (), one))
    (wholeToo : Disk.writeFiles rootToo plain filesToo = (.ok (), other)) :
    Ahead (fun _ => False) one other := by
  have recordsToo : ∀ file ∈ filesToo, Layout.IsRecord file.1 := fun file member =>
    records file ((same file).mpr member)
  have folders : ∀ folder, folder ∈ one.folders ↔ folder ∈ ahead.folders ∨
      ∃ file ∈ files, folder ∈ ancestry file.1.dropLast := fun folder => by
    have known : folder ∈ (Disk.writeFiles root ahead files).2.folders ↔ _ :=
      Disk.mem_folders_writeFiles (congrArg Prod.fst whole)
    rwa [whole] at known
  have foldersToo : ∀ folder, folder ∈ other.folders ↔ folder ∈ plain.folders ∨
      ∃ file ∈ files, folder ∈ ancestry file.1.dropLast := fun folder => by
    have known : folder ∈ (Disk.writeFiles rootToo plain filesToo).2.folders ↔ _ :=
      Disk.mem_folders_writeFiles (congrArg Prod.fst wholeToo)
    simp only [← same] at known
    rwa [wholeToo] at known
  refine ⟨Disk.isTree_writeFiles before.tree records whole,
    Disk.isTree_writeFiles before.treeToo recordsToo wholeToo, fun _ absent => absent.elim,
    fun path noDraft _ => ?_, fun folder member => ?_, fun folder member => Or.inl ?_⟩
  · rcases Disk.get?_writeFiles records whole noDraft with
      ⟨bytes, member, found⟩ | ⟨absent, found⟩
    · rcases Disk.get?_writeFiles recordsToo wholeToo noDraft with
        ⟨bytesToo, memberToo, foundToo⟩ | ⟨absentToo, -⟩
      · have contents := once path _ _ member ((same _).mpr memberToo)
        rw [found, foundToo, Except.ok.inj contents]
      · exact absurd (List.mem_map.mpr ⟨_, (same _).mp member, rfl⟩) absentToo
    · rcases Disk.get?_writeFiles recordsToo wholeToo noDraft with
        ⟨bytesToo, memberToo, -⟩ | ⟨-, foundToo⟩
      · exact absurd (List.mem_map.mpr ⟨_, (same _).mpr memberToo, rfl⟩) absent
      · rw [found, foundToo]
        exact before.file_eq path noDraft fun within => absent (all path within)
  · exact (folders folder).mpr (((foldersToo folder).mp member).imp (before.kept folder) id)
  · refine (foldersToo folder).mpr ?_
    rcases (folders folder).mp member with known | written
    · rcases before.made folder known with known | ⟨path, within, above⟩
      · exact Or.inl known
      · obtain ⟨file, member, rfl⟩ := List.mem_map.mp (all path within)
        exact Or.inr ⟨file, member, above⟩
    · exact Or.inr written

end Directory

namespace Disk

variable {ahead plain after : Disk}

/-- The same records are pending, and only some of their files and of the folders on the way to them
were added, and drafts. -/
structure Ahead (ahead plain : Disk) : Prop where
  root : ahead.root = plain.root
  pending : ahead.pending = plain.pending
  lastCommitted : ahead.lastCommitted = plain.lastCommitted
  proper : plain.pending.Proper
  directory : Directory.Ahead (Covers plain.pending) ahead.directory plain.directory

theorem Ahead.refl (tree : plain.directory.IsTree) (proper : plain.pending.Proper) :
    Ahead plain plain :=
  ⟨rfl, rfl, rfl, proper, .refl tree fun _ => Covers.isRecord⟩

/-- **So it stays when a commit fails.** -/
theorem Ahead.commitFails (before : ahead.Ahead plain) (fails : ahead.CommitFails after) :
    after.Ahead plain := by
  cases fails with
  | intro inOrder whole abandons =>
    rw [before.pending] at inOrder
    have covered := covers_iff inOrder
    simp only [List.map_append, List.map_cons] at covered
    have between := before.directory.writeFiles (fun file member => (covered file.1).mpr
      (List.mem_append_left _ (List.mem_map_of_mem member))) whole
    exact { before with
      directory := between.abandons ((covered _).mpr (by simp)) abandons }

/-- **After a commit that fails only files and folders of pending records were added.** -/
theorem ahead_of_commitFails (fails : plain.CommitFails after) (tree : plain.directory.IsTree)
    (proper : plain.pending.Proper) : after.Ahead plain :=
  (Ahead.refl tree proper).commitFails fails

/-- So it stays when records are written to both. -/
theorem Ahead.putAll (before : ahead.Ahead plain) (puts : List Records.Put) :
    (Backend.write ahead (Records.putAll puts)).Ahead (Backend.write plain (Records.putAll puts)) where
  root := before.root
  pending := congrArg (Records.putAll puts) before.pending
  lastCommitted := before.lastCommitted
  proper := before.proper.putAll puts
  directory := before.directory.mono (fun _ covers => covers.mono (Records.keeps_putAll puts _)
    before.proper (before.proper.putAll puts)) fun _ => Covers.isRecord

/-! ### Answers -/

theorem overlay_congr {α : Type} {view : View} {pending : Option α}
    {committed other : Except StoreError (Option α)}
    (same : view = .committed ∨ pending = none → committed = other) :
    overlay view pending committed = overlay view pending other := by
  cases view with
  | committed => exact same (Or.inl rfl)
  | uncommitted =>
    cases pending with
    | none => exact same (Or.inr rfl)
    | some record => rfl

/-- The committed record, from its file. -/
def committed (disk : Disk) (kind : RecordKind) (key : kind.Key) :
    Except StoreError (Option kind.Value) := do
  kind.read (← readFile? disk.root disk.directory (kind.place key))

theorem readRecord?_eq_committed (disk : Disk) (kind : RecordKind) {codec : Codec kind.Value}
    {context : String} (reads : ∀ bytes, kind.read bytes = recordIn codec context bytes)
    (key : kind.Key) : disk.readRecord? (kind.place key) codec context = disk.committed kind key := by
  unfold readRecord? committed
  simp only [reads]
  cases readFile? disk.root disk.directory (kind.place key) with
  | error cause => rfl
  | ok bytes => cases bytes <;> rfl

theorem committedError_eq_committed (disk : Disk) (reference : TransactionRef) :
    disk.committedError reference = disk.committed .error reference := by
  show (readFile? _ _ (Layout.error reference) >>= _) = (readFile? _ _ (Layout.error reference) >>= _)
  cases readFile? disk.root disk.directory (Layout.error reference) <;> rfl

theorem committedManifest_eq_committed (disk : Disk) :
    disk.committedManifest = disk.committed .manifest () := by
  show (readFile? _ _ Layout.manifest >>= _) = (readFile? _ _ Layout.manifest >>= _)
  cases readFile? disk.root disk.directory Layout.manifest with
  | error cause => rfl
  | ok bytes => cases bytes <;> rfl

/-- A record in a view. -/
def seen (disk : Disk) (view : View) (kind : RecordKind) (key : kind.Key) :
    Except StoreError (Option kind.Value) :=
  overlay view (kind.pick disk.pending key) (disk.committed kind key)

/-- **Answers are the records that a view sees.** -/
theorem answers_eq_seen (disk : Disk) (view : View) :
    Backend.answers disk view =
      { response := disk.seen view .response
        request := disk.seen view .request
        error := disk.seen view .error
        history := fun object => do
          let history ← disk.seen view .history object
          return history.getD []
        manifest := disk.seen view .manifest () } := by
  have records : ∀ (kind : RecordKind) {codec : Codec kind.Value} {context : String},
      (∀ bytes, kind.read bytes = recordIn codec context bytes) → ∀ key,
        overlay view (kind.pick disk.pending key)
          (disk.readRecord? (kind.place key) codec context) = disk.seen view kind key :=
    fun kind _ _ reads key => congrArg _ (disk.readRecord?_eq_committed kind reads key)
  exact Answers.ext (funext fun reference => records .response (fun _ => rfl) reference)
    (funext fun reference => records .request (fun _ => rfl) reference)
    (funext fun reference => congrArg (overlay view _) (disk.committedError_eq_committed reference))
    (funext fun object => congrArg
      (fun found : Except StoreError (Option (List TransactionRef)) => do
        let history ← found
        return history.getD [])
      (records .history (fun _ => rfl) object))
    (congrArg (overlay view _) disk.committedManifest_eq_committed)

/-- Where the same records are seen the answers are the same. -/
theorem answers_congr {first second : Disk} {view viewToo : View}
    (same : ∀ (kind : RecordKind) (key : kind.Key),
      first.seen view kind key = second.seen viewToo kind key) :
    Backend.answers first view = Backend.answers second viewToo := by
  have same : first.seen view = second.seen viewToo :=
    funext fun kind => funext fun key => same kind key
  rw [answers_eq_seen, answers_eq_seen, same]

/-- A record whose file does not differ is read in the same way. -/
theorem committed_congr {first second : Disk} (root : first.root = second.root) {kind : RecordKind}
    {key : kind.Key}
    (same : first.directory.read (kind.place key) = second.directory.read (kind.place key)) :
    first.committed kind key = second.committed kind key := by
  unfold committed readFile?
  rw [root, same]

/-- A record that is not pending is read in the same way. -/
theorem Ahead.committed_eq (before : ahead.Ahead plain) {kind : RecordKind} {key : kind.Key}
    (absent : kind.pick plain.pending key = none) :
    ahead.committed kind key = plain.committed kind key := by
  refine committed_congr before.root (before.directory.read_eq (kind.isRecord_place key) ?_)
  intro covers
  have present := isSome_pick_of_covers before.proper covers
  rw [absent] at present
  cases present

/-- **Being ahead does not show in an answer about uncommitted records**, and in none if nothing is
pending. -/
theorem Ahead.answers_eq (before : ahead.Ahead plain) {view : View}
    (hidden : view = .committed → plain.pending = {}) :
    Backend.answers ahead view = Backend.answers plain view := by
  refine answers_congr fun kind key => ?_
  unfold seen
  rw [before.pending]
  refine overlay_congr fun hidden' => before.committed_eq ?_
  rcases hidden' with committed | absent
  · rw [hidden committed]
    cases kind <;> rfl
  · exact absent

theorem Ahead.lastReference_eq (before : ahead.Ahead plain) :
    Backend.lastReference ahead = Backend.lastReference plain := by
  show latest ahead.pending.lastReference ahead.lastCommitted = _
  rw [before.pending, before.lastCommitted]
  rfl

/-! ### Committing -/

/-- A commit can succeed on both, or on none. -/
theorem Ahead.exists_commits_iff (before : ahead.Ahead plain) :
    (∃ after, ahead.Commits after) ↔ ∃ after, plain.Commits after := by
  have writable : ∀ files, InOrder plain.pending files →
      ((∃ after, writeFiles ahead.root ahead.directory files = (.ok (), after)) ↔
        ∃ after, writeFiles plain.root plain.directory files = (.ok (), after)) := by
    intro files inOrder
    have records := inOrder.isRecord
    rw [exists_writeFiles_iff ahead.root records, exists_writeFiles_iff plain.root records]
    exact forall_congr' fun file => forall_congr' fun member =>
      and_congr_right fun _ => before.directory.admits_iff (records file member)
  constructor
  · rintro ⟨_, inOrder, whole⟩
    rw [before.pending] at inOrder
    obtain ⟨written, whole⟩ := (writable _ inOrder).mp ⟨_, whole⟩
    exact ⟨_, .intro inOrder whole⟩
  · rintro ⟨_, inOrder, whole⟩
    obtain ⟨written, whole⟩ := (writable _ inOrder).mpr ⟨_, whole⟩
    exact ⟨_, .intro (before.pending.symm ▸ inOrder) whole⟩

/-- **A commit that succeeds on both leaves neither ahead.** -/
theorem Ahead.commits (before : ahead.Ahead plain) {one other : Disk} (commits : ahead.Commits one)
    (commitsToo : plain.Commits other) : one.Ahead other ∧ other.pending = {} := by
  obtain ⟨inOrder, whole⟩ := commits
  obtain ⟨inOrderToo, wholeToo⟩ := commitsToo
  rw [before.pending] at inOrder
  have settled := before.directory.settled inOrder.isRecord
    (fun _ => inOrder.mem_congr inOrderToo)
    (fun _ _ _ first second => inOrder.contents_eq before.proper first second)
    (fun path => (covers_iff inOrder path).mp) whole wholeToo
  refine ⟨⟨before.root, rfl, ?_, Records.proper_empty, settled.mono (fun _ => False.elim)
    fun _ => Covers.isRecord⟩, rfl⟩
  show latest ahead.lastCommitted ahead.pending.lastReference = _
  rw [before.pending, before.lastCommitted]

/-- **After a commit that succeeds every view gives the answers about uncommitted records.** -/
theorem Commits.answers_eq {disk after : Disk} (commits : disk.Commits after)
    (tree : disk.directory.IsTree) (proper : disk.pending.Proper) (view : View) :
    Backend.answers after view = Backend.answers disk .uncommitted := by
  obtain @⟨files, written, inOrder, whole⟩ := commits
  have records := inOrder.isRecord
  have between := (Ahead.refl tree proper).directory.writeFiles
    (fun file member => (covers_iff inOrder file.1).mpr (List.mem_map_of_mem member)) whole
  refine answers_congr fun kind key => ?_
  unfold seen
  have settled : ∀ record, overlay view (kind.pick {} key) record = record := by
    intro record
    cases view with
    | committed => rfl
    | uncommitted => cases kind <;> rfl
  refine (settled _).trans ?_
  have record := kind.isRecord_place key
  cases pending : kind.pick disk.pending key with
  | none =>
    refine @committed_congr { disk with directory := written } disk rfl kind key
      (between.read_eq record fun covers => ?_)
    have present := isSome_pick_of_covers proper covers
    rw [pending] at present
    cases present
  | some value =>
    -- the file has the bytes of the pending record, which are read back
    have member := (inOrder.mem_place_iff kind (proper.kind kind) key _).mpr ⟨value, pending, rfl⟩
    rcases get?_writeFiles records whole record.not_isDraft with ⟨bytes, here, found⟩ | ⟨absent, -⟩
    · have encoded := inOrder.contents_eq proper member here
      have present : written.isFile (kind.place key) = true := by
        rw [Directory.isFile, Table.contains, found]
        rfl
      have read : written.read (kind.place key) = .ok bytes := by
        rw [between.tree.read_eq, between.tree.isBlocked_of_isFile present, found]
        rfl
      unfold committed readFile?
      rw [read]
      exact RecordKind.read_contents encoded
    · exact absurd (List.mem_map.mpr ⟨_, member, rfl⟩) absent

/-- The same folders, the same files except for drafts, and the same answers. -/
structure Equivalent (one other : Disk) : Prop where
  files : ∀ path, ¬ Layout.IsDraft path →
    one.directory.files.get? path = other.directory.files.get? path
  folders : ∀ path, path ∈ one.directory.folders ↔ path ∈ other.directory.folders
  answers : ∀ view, Backend.answers one view = Backend.answers other view
  lastReference : Backend.lastReference one = Backend.lastReference other

/-- What is ahead of records of which none is pending is the same. -/
theorem Ahead.equivalent (before : ahead.Ahead plain) (settled : plain.pending = {}) :
    ahead.Equivalent plain := by
  have nothing : ∀ path, ¬ Covers plain.pending path := fun path => by
    rw [settled]
    exact not_covers_empty path
  exact
    { files := fun path noDraft => before.directory.file_eq path noDraft (nothing path)
      folders := fun path => ⟨fun member =>
          (before.directory.made path member).resolve_right fun ⟨other, covers, _⟩ =>
            nothing other covers,
        before.directory.kept path⟩
      answers := fun view => before.answers_eq fun _ => settled
      lastReference := before.lastReference_eq }

/-- **A commit that failed loses nothing**: all answers about uncommitted records stay. **It can be
made again**: after any writings a commit can succeed if it could without the one that failed, and
then leaves the same. -/
theorem retried {disk failed : Disk} (tree : disk.directory.IsTree) (proper : disk.pending.Proper)
    (fails : disk.CommitFails failed) :
    Backend.answers failed .uncommitted = Backend.answers disk .uncommitted ∧
      Backend.lastReference failed = Backend.lastReference disk ∧
      ∀ puts : List Records.Put,
        let again := Backend.write failed (Records.putAll puts)
        let plain := Backend.write disk (Records.putAll puts)
        ((∃ after, again.Commits after) ↔ ∃ after, plain.Commits after) ∧
          ∀ one other, again.Commits one → plain.Commits other → one.Equivalent other := by
  have before := ahead_of_commitFails fails tree proper
  refine ⟨before.answers_eq (fun absurd => by cases absurd), before.lastReference_eq,
    fun puts => ?_⟩
  have more := before.putAll puts
  refine ⟨more.exists_commits_iff, fun one other commits commitsToo => ?_⟩
  obtain ⟨same, settled⟩ := more.commits commits commitsToo
  exact same.equivalent settled

end Disk

namespace Ledger

/-- The reference under which a call records something. -/
def Call.reference? : Call → Option TransactionRef
  | push reference _ _ | replace reference _ _ | pushError reference _ _ => some reference
  | commit => none

/-- What a call writes is written record by record, under the reference of the call. -/
theorem Call.Writes.exists_puts {call : Call} {change : Records → Records}
    (writes : call.Writes change) :
    ∃ puts, change = Records.putAll puts ∧ ∀ reference,
      (∃ put ∈ puts, put.reference? = some reference) ↔ call.reference? = some reference := by
  cases writes with
  | @push reference request response histories manifest =>
    refine ⟨.transaction reference request response ::
      (histories.map (fun entry => .history entry.1 entry.2) ++
        (manifest.map Records.Put.manifest).toList), funext fun records => ?_, fun other => ?_⟩
    · unfold writeTransaction Records.putAll
      rw [List.foldl_cons, List.foldl_append, List.foldl_map]
      cases manifest <;> rfl
    · cases manifest <;> simp [Records.Put.reference?, Call.reference?]
  | @replace reference request response =>
    exact ⟨[.transaction reference request response], rfl, fun other => by
      simp [Records.Put.reference?, Call.reference?]⟩
  | @pushError reference request reason =>
    exact ⟨[.error reference request reason], rfl, fun other => by
      simp [Records.Put.reference?, Call.reference?]⟩

/-- **Calls have the same results after a commit that failed**, and leave what is ahead. -/
theorem performAll_ahead (first second : Ledger Disk)
    (before : first.backend.Ahead second.backend) {calls : List Call}
    (pending : ∀ call ∈ calls, call.isCommit = false) :
    (first.performAll calls).1 = (second.performAll calls).1 ∧
      (first.performAll calls).2.backend.Ahead (second.performAll calls).2.backend := by
  refine performAll_related Disk.Ahead first second before fun earlier call start between => ?_
  refine perform_related _ _ Disk.Ahead call (between.answers_eq fun absurd => by cases absurd)
    between (fun change writes => ?_) fun commits => ?_
  · obtain ⟨puts, rfl, -⟩ := writes.exists_puts
    exact between.putAll puts
  · have member := start.subset (List.mem_append_right earlier (List.mem_singleton_self call))
    have never := pending call member
    rw [commits] at never
    cases never

end Ledger

/-! ### Backends whose commits may fail -/

/-- A commit that fails changes no answer about uncommitted records. This may only hold of stores
that are intact, which writings and commits leave them. -/
structure Backend.Retains {σ : Type} [Backend σ] (intact : σ → Prop) : Prop where
  write : ∀ {store : σ} (puts : List Records.Put), intact store →
    intact (Backend.write store (Records.putAll puts))
  commit : ∀ {store : σ}, intact store → intact (Backend.commit store).2
  answers_eq : ∀ {store after : σ} {cause : StoreError}, intact store →
    Backend.commit store = (.error cause, after) →
      Backend.answers after .uncommitted = Backend.answers store .uncommitted
  lastReference_eq : ∀ {store after : σ} {cause : StoreError}, intact store →
    Backend.commit store = (.error cause, after) →
      Backend.lastReference after = Backend.lastReference store

/-- A call leaves an intact store intact. -/
theorem Backend.Retains.perform {σ : Type} [Backend σ] {intact : σ → Prop}
    (retains : Backend.Retains intact) (ledger : Ledger σ) (before : intact ledger.backend)
    (call : Ledger.Call) : intact (ledger.perform call).2.backend := by
  refine (Ledger.perform_related ledger ledger (fun after _ => intact after) call rfl before
    (fun change writes => ?_) fun _ => ⟨rfl, retains.commit before⟩).2
  obtain ⟨puts, rfl, -⟩ := writes.exists_puts
  exact retains.write puts before

namespace Disk

/-- The directory is a tree, and no record is pending twice. -/
structure Intact (disk : Disk) : Prop where
  tree : disk.directory.IsTree
  proper : disk.pending.Proper

/-- **A directory is such a backend.** -/
theorem retains : Backend.Retains Intact where
  write puts intact := ⟨intact.tree, intact.proper.putAll puts⟩
  commit := by
    intro disk intact
    show disk.commit.2.Intact
    cases result : disk.commit.1 with
    | ok done =>
      have commits := commits_of_ok result
      revert commits
      generalize disk.commit.2 = after
      rintro ⟨inOrder, whole⟩
      exact ⟨isTree_writeFiles intact.tree inOrder.isRecord whole, Records.proper_empty⟩
    | error cause =>
      have left := ahead_of_commitFails (commitFails_of_error result) intact.tree intact.proper
      exact ⟨left.directory.tree, left.pending ▸ left.proper⟩
  answers_eq := by
    intro disk after cause intact stopped
    have stopped : disk.commit = (.error cause, after) := stopped
    have fails := commitFails_of_error (congrArg Prod.fst stopped)
    rw [stopped] at fails
    exact (retried intact.tree intact.proper fails).1
  lastReference_eq := by
    intro disk after cause intact stopped
    have stopped : disk.commit = (.error cause, after) := stopped
    have fails := commitFails_of_error (congrArg Prod.fst stopped)
    rw [stopped] at fails
    exact (retried intact.tree intact.proper fails).2.1

end Disk

namespace Medium

/-- Records in memory are always intact. -/
def Intact : Medium → Prop
  | memory _ => True
  | disk store => store.Intact

/-- Only a commit to files can fail. -/
theorem exists_disk_of_commit_eq_error {medium after : Medium} {cause : StoreError}
    (stopped : Backend.commit medium = (.error cause, after)) :
    ∃ store last, medium = disk store ∧ after = disk last ∧
      Backend.commit store = (.error cause, last) := by
  cases medium with
  | memory store => cases stopped
  | disk store =>
    have stopped : (store.commit.1, disk store.commit.2) = (.error cause, after) := stopped
    obtain ⟨result, rfl⟩ := Prod.mk.inj stopped
    exact ⟨store, store.commit.2, rfl, rfl, Prod.ext result rfl⟩

/-- **Either place is such a backend.** -/
theorem retains : Backend.Retains Intact where
  write := by
    intro medium puts intact
    cases medium with
    | memory store => trivial
    | disk store => exact Disk.retains.write puts (show store.Intact from intact)
  commit := by
    intro medium intact
    cases medium with
    | memory store => trivial
    | disk store => exact Disk.retains.commit (show store.Intact from intact)
  answers_eq := by
    intro medium after cause intact stopped
    obtain ⟨store, last, rfl, rfl, failed⟩ := exists_disk_of_commit_eq_error stopped
    exact Disk.retains.answers_eq (show store.Intact from intact) failed
  lastReference_eq := by
    intro medium after cause intact stopped
    obtain ⟨store, last, rfl, rfl, failed⟩ := exists_disk_of_commit_eq_error stopped
    exact Disk.retains.lastReference_eq (show store.Intact from intact) failed

end Medium

namespace Disk

/-! ### The lamp -/

/-- The lamp is pending in an empty directory. -/
def lampPending : Disk :=
  ((Ledger.blankDisk "store").perform
    (.push ⟨1⟩ Ledger.lampRequest (Ledger.lampResponse "off"))).2.backend

/-- The request was written, and of the response only a draft. -/
def lampFailed : Disk :=
  { lampPending with
    directory :=
      { files := ⟨[(Layout.temporary (Layout.response ⟨1⟩), [0]),
          (Layout.request ⟨1⟩, Codec.request.encode Ledger.lampRequest)]⟩
        folders := [Layout.transactions, Layout.transaction ⟨1⟩] } }

theorem pending_lampPending : lampPending.pending =
    { requests := ⟨[(⟨1⟩, Ledger.lampRequest)]⟩
      responses := ⟨[(⟨1⟩, Ledger.lampResponse "off")]⟩
      histories := ⟨[(Ledger.lamp, [⟨1⟩])]⟩ } :=
  rfl

theorem commitFails_lampFailed : lampPending.CommitFails lampFailed := by
  have inOrder := inOrder_filesOf lampPending.pending
  have files : filesOf lampPending.pending =
      [requestFile (⟨1⟩, Ledger.lampRequest)] ++
        (Layout.response ⟨1⟩, contentsOf Codec.response "response" (Ledger.lampResponse "off")) ::
          [(Layout.responseText ⟨1⟩, contentsOfText (Ledger.lampResponse "off").render),
            historyFile (Ledger.lamp, [⟨1⟩])] := by
    have none : (∅ : Table TransactionRef String).entries = [] := rfl
    rw [pending_lampPending]
    simp [filesOf, Table.sorted, requestFile, historyFile, none]
  rw [files] at inOrder
  have whole : writeFiles "store" {} [requestFile (⟨1⟩, Ledger.lampRequest)] =
      (.ok (), { files := ⟨[(Layout.request ⟨1⟩, Codec.request.encode Ledger.lampRequest)]⟩
                 folders := [Layout.transactions, Layout.transaction ⟨1⟩] }) :=
    rfl
  exact .intro inOrder whole (.draft rfl (show Directory.writeFile _ _ [0] = _ from rfl))

/-- After a rejection the commit of the lamp is made again, and leaves what it would have left at
once. -/
theorem retried_lampFailed :
    lampPending.directory.IsTree ∧ lampPending.pending.Proper ∧
      lampPending.CommitFails lampFailed ∧
      Backend.answers lampFailed .uncommitted = Backend.answers lampPending .uncommitted ∧
      Backend.lastReference lampFailed = Backend.lastReference lampPending ∧
      let puts := [Records.Put.error ⟨2⟩ Ledger.lampRequest "refused"]
      ∃ one other, (Backend.write lampFailed (Records.putAll puts)).Commits one ∧
        (Backend.write lampPending (Records.putAll puts)).Commits other ∧ one.Equivalent other := by
  have tree : lampPending.directory.IsTree := Directory.isTree_empty
  have proper : lampPending.pending.Proper := Records.proper_empty.writeTransaction ⟨1⟩
    Ledger.lampRequest (Ledger.lampResponse "off") [(Ledger.lamp, [⟨1⟩])] none
  have fails := commitFails_lampFailed
  obtain ⟨answers, last, again⟩ := retried tree proper fails
  refine ⟨tree, proper, fails, answers, last, ?_⟩
  obtain ⟨possible, same⟩ := again [.error ⟨2⟩ Ledger.lampRequest "refused"]
  have encodable : ∀ call ∈ [Ledger.Call.push ⟨1⟩ Ledger.lampRequest (Ledger.lampResponse "off"),
      .pushError ⟨2⟩ Ledger.lampRequest "refused"], call.Encodable := by
    obtain ⟨asked, -, told⟩ := Ledger.encodable_lamp
    simp only [List.forall_mem_cons] at told
    simp [Ledger.Call.Encodable, asked, told]
  have plain := @commits_of_ok
    (Backend.write lampPending (Records.putAll [.error ⟨2⟩ Ledger.lampRequest "refused"]))
    ((Ledger.commit_eq _).1.symm.trans
      (Ledger.commit_ok_of_encodable "store" encodable (by decide)))
  obtain ⟨one, commits⟩ := possible.mpr ⟨_, plain⟩
  exact ⟨one, _, commits, plain, same one _ commits plain⟩

end Disk

end ObjectLedger
