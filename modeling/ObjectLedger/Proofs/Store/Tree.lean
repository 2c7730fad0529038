/-
**Writing to a directory with anything in it.**

* `Directory.IsTree`: the way to everything leads through folders, and nothing is a folder and a file.
  **`Directory.IsTree.read_eq`**: a file in a tree is read unless something else is in its place or in
  its way.
* `Directory.Admits`: nothing else is in the place or in the way of a record.
  **`Disk.writeFile_of_admits`**, **`Disk.writeFile_eq_ok`**: it is written then, and only then, and no
  other file changes.
* **`Disk.exists_writeFiles_iff`**, **`Disk.get?_writeFiles`**: when many records can be written, and
  which files there are afterwards; their order does not matter for either.
* `Disk.Abandons`: what can be left of the writing of one file that was not finished.
-/
import ObjectLedger.Proofs.Store.Opening

namespace ObjectLedger

namespace Directory

variable {directory after : Directory} {path folder other : FilePath}

/-! ### Trees -/

/-- On the way to a path are the parts from its beginning. -/
theorem mem_ancestry : folder ∈ ancestry path ↔ folder ≠ [] ∧ folder <+: path := by
  unfold ancestry
  rw [List.mem_map]
  constructor
  · rintro ⟨count, below, rfl⟩
    refine ⟨fun nothing => ?_, List.take_prefix _ _⟩
    have short := congrArg List.length nothing
    have below := List.mem_range.mp below
    simp only [List.length_take, List.length_nil] at short
    omega
  · rintro ⟨nonempty, start⟩
    have long := List.length_pos_iff.mpr nonempty
    refine ⟨folder.length - 1, List.mem_range.mpr ?_, ?_⟩
    · have := start.length_le
      omega
    · rw [Nat.sub_add_cancel long]
      exact (List.prefix_iff_eq_take.mp start).symm

/-- Of two folders on the way the first is on the way to the second. -/
theorem pairwise_ancestry (path : FilePath) :
    (ancestry path).Pairwise fun outer inner => outer ∈ ancestry inner.dropLast := by
  show ((List.range path.length).map fun count => path.take (count + 1)).Pairwise _
  rw [List.pairwise_map]
  refine List.Pairwise.imp_of_mem (fun {first second} _ inside before => ?_) List.pairwise_lt_range
  have inside := List.mem_range.mp inside
  have shorter : (path.take (second + 1)).dropLast = path.take second := by
    rw [List.dropLast_eq_take, List.take_take, List.length_take]
    congr 1
    omega
  rw [shorter, mem_ancestry]
  refine ⟨fun nothing => ?_, ?_⟩
  · have short := congrArg List.length nothing
    simp only [List.length_take, List.length_nil] at short
    omega
  · exact List.take_prefix_take_left (by omega)

/-- The way to everything leads through folders, and nothing is a folder and a file. -/
structure IsTree (directory : Directory) : Prop where
  ancestry : ∀ path, directory.isPresent path = true →
    ∀ folder ∈ Directory.ancestry path.dropLast, directory.isFolder folder = true
  apart : ∀ path, directory.isFolder path = true → directory.isFile path = false

theorem isTree_empty : IsTree {} where
  ancestry path present folder member := by
    rcases Bool.or_eq_true_iff.mp present with isFolder | isFile
    · have nothing : path = [] := by simpa [Directory.isFolder] using isFolder
      subst nothing
      cases member
    · cases isFile
  apart _ _ := rfl

/-- There is a folder in the place of a file, or a file in the place of a folder on the way. -/
def isBlocked (directory : Directory) (path : FilePath) : Bool :=
  directory.isFolder path || (ancestry path.dropLast).any directory.isFile

/-- **A file in a tree is read unless something else is in its place or in its way.** -/
theorem IsTree.read_eq (tree : directory.IsTree) (path : FilePath) :
    directory.read path =
      if directory.isBlocked path then .error .wrongKind
      else
        match directory.files.get? path with
        | some bytes => .ok bytes
        | none => .error .notFound := by
  unfold read obstacle? isBlocked
  cases found : (Directory.ancestry path.dropLast).find? fun folder =>
      !directory.isFolder folder with
  | none =>
    have noFile : (Directory.ancestry path.dropLast).any directory.isFile = false := by
      rw [List.any_eq_false]
      intro folder member
      have exists_ := List.find?_eq_none.mp found folder member
      simp [tree.apart folder (by simpa using exists_)]
    rw [noFile, Bool.or_false]
    rfl
  | some folder =>
    obtain ⟨missing, earlier, later, split, before⟩ := List.find?_eq_some_iff_append.mp found
    have missing : directory.isFolder folder = false := by simpa using missing
    have inside : folder ∈ Directory.ancestry path.dropLast := List.mem_of_find?_eq_some found
    have absent : directory.isPresent path = false := by
      rw [Bool.eq_false_iff]
      intro present
      rw [tree.ancestry path present folder inside] at missing
      cases missing
    obtain ⟨noFolder, noFile⟩ := Bool.or_eq_false_iff.mp absent
    -- what is before the first folder that is missing is a folder, and nothing is behind it
    have only : (Directory.ancestry path.dropLast).any directory.isFile =
        directory.isFile folder := by
      rw [Bool.eq_iff_iff, List.any_eq_true]
      refine ⟨fun ⟨candidate, member, isFile⟩ => ?_, fun isFile => ⟨folder, inside, isFile⟩⟩
      rw [split] at member
      rcases List.mem_append.mp member with member | member
      · have isFolder := before candidate member
        rw [tree.apart candidate (by simpa using isFolder)] at isFile
        cases isFile
      · rcases List.mem_cons.mp member with rfl | member
        · exact isFile
        · have order := pairwise_ancestry path.dropLast
          rw [split, List.pairwise_append] at order
          have above := List.rel_of_pairwise_cons order.2.1 member
          have isFolder := tree.ancestry candidate (by simp [isPresent, isFile]) folder above
          rw [missing] at isFolder
          cases isFolder
    have noBytes : directory.files.get? path = none := by
      simpa [isFile, Table.contains] using noFile
    rw [noFolder, only, noBytes]
    cases isFile : directory.isFile folder <;> simp [isFile]

/-- A file in a tree is not blocked. -/
theorem IsTree.isBlocked_of_isFile (tree : directory.IsTree)
    (isFile : directory.isFile path = true) : directory.isBlocked path = false := by
  unfold isBlocked
  rw [Bool.or_eq_false_iff, List.any_eq_false]
  refine ⟨Bool.eq_false_iff.mpr fun isFolder => ?_, fun folder above isFileToo => ?_⟩
  · rw [tree.apart path isFolder] at isFile
    cases isFile
  · rw [tree.apart folder (tree.ancestry path (by simp [isPresent, isFile]) folder above)] at isFileToo
    cases isFileToo

/-! ### Folders and files -/

theorem isFolder_iff : directory.isFolder path = true ↔ path = [] ∨ path ∈ directory.folders := by
  simp [isFolder]

theorem files_createFolders (made : directory.createFolders path = .ok after) :
    after.files = directory.files := by
  unfold createFolders at made
  split at made <;> cases made
  rfl

theorem isFolder_createFolders (made : directory.createFolders path = .ok after) :
    after.isFolder folder = true ↔
      directory.isFolder folder = true ∨ folder ∈ ancestry path := by
  rw [isFolder_iff, isFolder_iff, mem_folders_createFolders made, or_assoc]

/-- Folders can be made unless a file is in the way. -/
theorem exists_createFolders (clear : ∀ folder ∈ ancestry path, directory.isFile folder = false) :
    ∃ made, directory.createFolders path = .ok made := by
  unfold createFolders
  rw [if_neg (by simpa using clear)]
  exact ⟨_, rfl⟩

theorem clear_of_createFolders (made : directory.createFolders path = .ok after) :
    ∀ folder ∈ ancestry path, directory.isFile folder = false := by
  unfold createFolders at made
  split at made
  · cases made
  · rename_i clear
    simpa using clear

/-- What is on the way to what is on the way is on the way. -/
theorem mem_ancestry_of_dropLast (inside : other ∈ ancestry path)
    (above : folder ∈ ancestry other.dropLast) : folder ∈ ancestry path := by
  obtain ⟨nonempty, start⟩ := mem_ancestry.mp above
  exact mem_ancestry.mpr
    ⟨nonempty, start.trans ((List.dropLast_prefix other).trans (mem_ancestry.mp inside).2)⟩

theorem IsTree.createFolders (tree : directory.IsTree)
    (made : directory.createFolders path = .ok after) : after.IsTree := by
  have sameFiles : ∀ other, after.isFile other = directory.isFile other := fun other => by
    rw [isFile, isFile, files_createFolders made]
  refine ⟨fun other present folder above => (isFolder_createFolders made).mpr ?_,
    fun other isFolder => ?_⟩
  · rw [isPresent, sameFiles, Bool.or_eq_true, isFolder_createFolders made] at present
    rcases present with (isFolder | inside) | isFile
    · exact Or.inl (tree.ancestry other (by simp [isPresent, isFolder]) folder above)
    · exact Or.inr (mem_ancestry_of_dropLast inside above)
    · exact Or.inl (tree.ancestry other (by simp [isPresent, isFile]) folder above)
  · rw [sameFiles]
    rcases (isFolder_createFolders made).mp isFolder with isFolder | inside
    · exact tree.apart other isFolder
    · exact clear_of_createFolders made other inside

/-- A file is written if its folders exist and no folder is in its place. -/
theorem writeFile_of_clear
    (exist : ∀ folder ∈ ancestry path.dropLast, directory.isFolder folder = true)
    (clear : directory.isFolder path = false) (bytes : List UInt8) :
    directory.writeFile path bytes =
      .ok { directory with files := directory.files.insert path bytes } := by
  unfold writeFile
  rw [obstacle?_eq_none exist]
  simp [clear]

/-- It is only then. -/
theorem writeFile_eq_ok {bytes : List UInt8} (wrote : directory.writeFile path bytes = .ok after) :
    (∀ folder ∈ ancestry path.dropLast, directory.isFolder folder = true) ∧
      directory.isFolder path = false ∧
      after = { directory with files := directory.files.insert path bytes } := by
  unfold writeFile at wrote
  split at wrote
  · cases wrote
  · rename_i clear
    split at wrote <;> cases wrote
    rename_i noFolder
    refine ⟨?_, by simpa using noFolder, rfl⟩
    simpa [obstacle?] using clear

/-- What was written is read. -/
theorem read_writeFile {bytes : List UInt8} (wrote : directory.writeFile path bytes = .ok after) :
    after.read path = .ok bytes := by
  obtain ⟨exist, clear, rfl⟩ := writeFile_eq_ok wrote
  have noObstacle :
      obstacle? { directory with files := directory.files.insert path bytes } path = none :=
    obstacle?_eq_none exist
  have noFolder :
      isFolder { directory with files := directory.files.insert path bytes } path = false := clear
  simp [read, noObstacle, noFolder]

theorem isFile_insert (bytes : List UInt8) :
    isFile { directory with files := directory.files.insert path bytes } other =
      (decide (other = path) || directory.isFile other) := by
  unfold isFile Table.contains
  rw [Table.get?_insert]
  by_cases same : other = path <;> simp [same]

theorem IsTree.writeFile {bytes : List UInt8} (tree : directory.IsTree)
    (wrote : directory.writeFile path bytes = .ok after) : after.IsTree := by
  obtain ⟨exist, clear, rfl⟩ := writeFile_eq_ok wrote
  refine ⟨fun other present folder above => ?_, fun other isFolder => ?_⟩
  · by_cases same : other = path
    · exact exist folder (same ▸ above)
    · rw [isPresent, isFile_insert, decide_eq_false same, Bool.false_or] at present
      exact tree.ancestry other present folder above
  · have different : other ≠ path := fun same => by
      have isFolder : directory.isFolder path = true := same ▸ isFolder
      rw [clear] at isFolder
      cases isFolder
    rw [isFile_insert, decide_eq_false different, Bool.false_or]
    exact tree.apart other isFolder

theorem IsTree.erase (tree : directory.IsTree) (path : FilePath) :
    IsTree { directory with files := directory.files.erase path } := by
  have left : ∀ other,
      isFile { directory with files := directory.files.erase path } other = true →
        directory.isFile other = true := by
    intro other isFile
    rw [Directory.isFile, Table.contains, Table.get?_erase] at isFile
    split at isFile
    · cases isFile
    · exact isFile
  refine ⟨fun other present => tree.ancestry other ?_, fun other isFolder => ?_⟩
  · rw [isPresent, Bool.or_eq_true] at present ⊢
    exact present.imp id (left other)
  · have none := tree.apart other isFolder
    rw [Bool.eq_false_iff] at none ⊢
    exact fun isFile => none (left other isFile)

/-- A file gets another path if it is there and can be written there. -/
theorem rename_eq_ok {source : FilePath} (moved : directory.rename source path = .ok after) :
    ∃ bytes written, directory.read source = .ok bytes ∧
      directory.writeFile path bytes = .ok written ∧
      after = if source = path then written
        else { written with files := written.files.erase source } := by
  unfold rename at moved
  split at moved
  · cases moved
  · rename_i bytes read
    split at moved
    · cases moved
    · rename_i written wrote
      refine ⟨bytes, written, read, wrote, ?_⟩
      split at moved <;> cases moved
      · rename_i same
        rw [if_pos same]
      · rename_i different
        rw [if_neg different]

theorem IsTree.rename {source : FilePath} (tree : directory.IsTree)
    (moved : directory.rename source path = .ok after) : after.IsTree := by
  obtain ⟨bytes, written, -, wrote, rfl⟩ := rename_eq_ok moved
  split
  · exact tree.writeFile wrote
  · exact (tree.writeFile wrote).erase source

end Directory

/-! ### One record -/

namespace Directory

variable {directory after : Directory} {path other : FilePath}

/-- Nothing but a file is in the place of a record or of its draft, and no file is in their way. -/
structure Admits (directory : Directory) (path : FilePath) : Prop where
  way : ∀ folder ∈ ancestry path.dropLast, directory.isFile folder = false
  place : directory.isFolder path = false
  draft : directory.isFolder (Layout.temporary path) = false

end Directory

namespace Layout

/-- The name under which a record is written before it takes its place. -/
def IsDraft (path : FilePath) : Prop :=
  ∃ record, IsRecord record ∧ temporary record = path

theorem IsRecord.not_isDraft {path : FilePath} (record : IsRecord path) : ¬ IsDraft path :=
  fun ⟨other, _, same⟩ => record.not_draft other same

/-- The place of a folder is neither that of a record nor that of a draft. -/
theorem not_isDraft_of_isFolderPlace {path : FilePath} (place : path.IsFolderPlace) :
    ¬ IsDraft path := by
  rintro ⟨record, isRecord, rfl⟩
  exact isRecord.draft_place.not_folder place

end Layout

namespace Disk

variable {directory after : Directory} {path other : FilePath} {root : String}

/-- **A record is written if the directory admits it.** Then only folders on the way to it are new. -/
theorem writeFile_of_admits (record : Layout.IsRecord path) (admits : directory.Admits path)
    (root : String) (bytes : List UInt8) :
    ∃ written, writeFile root directory path bytes = (.ok (), written) := by
  obtain ⟨made, making⟩ := Directory.exists_createFolders admits.way
  have exist : ∀ folder ∈ Directory.ancestry path.dropLast, made.isFolder folder = true :=
    fun folder inside => (Directory.isFolder_createFolders making).mpr (Or.inr inside)
  have sameFolder := dropLast_temporary record.place.ne_nil
  have kept : ∀ place : FilePath, place.IsFilePlace → directory.isFolder place = false →
      made.isFolder place = false := by
    intro place isPlace missing
    rw [Bool.eq_false_iff] at missing ⊢
    intro isFolder
    rcases (Directory.isFolder_createFolders making).mp isFolder with known | inside
    · exact missing known
    · exact isPlace.not_folder (record.place.ancestry place inside)
  have draftClear := kept _ record.draft_place admits.draft
  have drafting := Directory.writeFile_of_clear (sameFolder.symm ▸ exist) draftClear bytes
  have reading := Directory.read_writeFile drafting
  have moving := @Directory.writeFile_of_clear
    { made with files := made.files.insert (Layout.temporary path) bytes } path exist
    (kept _ record.place admits.place) bytes
  unfold writeFile Directory.rename
  simp only [making, drafting, reading, moving, if_neg (record.not_draft path)]
  exact ⟨_, rfl⟩

/-- The steps of a writing that succeeded. -/
theorem writeFile_steps {bytes : List UInt8}
    (wrote : writeFile root directory path bytes = (.ok (), after)) :
    ∃ made draft, directory.createFolders path.dropLast = .ok made ∧
      made.writeFile (Layout.temporary path) bytes = .ok draft ∧
      draft.rename (Layout.temporary path) path = .ok after := by
  unfold writeFile at wrote
  simp only at wrote
  split at wrote
  · cases wrote
  · rename_i made making
    split at wrote
    · cases wrote
    · rename_i draft drafting
      split at wrote
      · cases wrote
      · rename_i moved moving
        cases wrote
        exact ⟨made, draft, making, drafting, moving⟩

/-- **A record is written only if the directory admits it, and no other file changes.** -/
theorem writeFile_eq_ok (record : Layout.IsRecord path) {bytes : List UInt8}
    (wrote : writeFile root directory path bytes = (.ok (), after)) :
    directory.Admits path ∧
      (∀ other, other ≠ Layout.temporary path → after.files.get? other =
        if other = path then some bytes else directory.files.get? other) ∧
      (directory.IsTree → after.IsTree) := by
  obtain ⟨made, draft, making, drafting, moving⟩ := writeFile_steps wrote
  obtain ⟨found, written, read, placing, rfl⟩ := Directory.rename_eq_ok moving
  obtain rfl : bytes = found := Except.ok.inj ((Directory.read_writeFile drafting).symm.trans read)
  obtain ⟨exist, draftClear, rfl⟩ := Directory.writeFile_eq_ok drafting
  obtain ⟨-, clear, rfl⟩ := Directory.writeFile_eq_ok placing
  have before : ∀ place, made.isFolder place = false → directory.isFolder place = false := by
    intro place missing
    rw [Bool.eq_false_iff] at missing ⊢
    exact fun known => missing ((Directory.isFolder_createFolders making).mpr (Or.inl known))
  refine ⟨⟨Directory.clear_of_createFolders making, before path clear, before _ draftClear⟩,
    fun other different => ?_, fun tree => ?_⟩
  · rw [if_neg (record.not_draft path), Table.get?_erase_of_ne _ different, Table.get?_insert,
      Table.get?_insert_of_ne _ _ different, Directory.files_createFolders making]
  · exact ((tree.createFolders making).writeFile drafting).rename moving

/-- Where folders are there are the same files as before. -/
theorem isFile_writeFile (record : Layout.IsRecord path) {bytes : List UInt8}
    (wrote : writeFile root directory path bytes = (.ok (), after)) {place : FilePath}
    (isPlace : place.IsFolderPlace) : after.isFile place = directory.isFile place := by
  obtain ⟨-, files, -⟩ := writeFile_eq_ok record wrote
  have noDraft : place ≠ Layout.temporary path := by
    rintro rfl
    exact record.draft_place.not_folder isPlace
  have different : place ≠ path := by
    rintro rfl
    exact record.place.not_folder isPlace
  unfold Directory.isFile Table.contains
  rw [files place noDraft, if_neg different]

/-- What a directory admits stays so when a record is written. -/
theorem admits_writeFile (record : Layout.IsRecord path) {bytes : List UInt8}
    (wrote : writeFile root directory path bytes = (.ok (), after))
    (otherRecord : Layout.IsRecord other) : after.Admits other ↔ directory.Admits other := by
  have isFile : ∀ folder ∈ Directory.ancestry other.dropLast,
      after.isFile folder = directory.isFile folder := fun folder inside =>
    isFile_writeFile record wrote (otherRecord.place.ancestry folder inside)
  have isFolder : ∀ place : FilePath, place.IsFilePlace →
      after.isFolder place = directory.isFolder place := by
    intro place isPlace
    rw [Bool.eq_iff_iff, Directory.isFolder_iff, Directory.isFolder_iff,
      mem_folders_writeFile wrote]
    have outside : place ∉ Directory.ancestry path.dropLast := fun inside =>
      isPlace.not_folder (record.place.ancestry place inside)
    simp [outside]
  have draft := isFolder _ otherRecord.draft_place
  have place := isFolder _ otherRecord.place
  constructor
  · rintro ⟨way, one, two⟩
    exact ⟨fun folder inside => isFile folder inside ▸ way folder inside, place ▸ one, draft ▸ two⟩
  · rintro ⟨way, one, two⟩
    exact ⟨fun folder inside => (isFile folder inside).trans (way folder inside), place.trans one,
      draft.trans two⟩

/-! ### Many records -/

variable {files : List (FilePath × Contents)}

/-- A writing of files goes on after the first if this was written. -/
theorem writeFiles_cons_of_ok {bytes : List UInt8} {written : Directory}
    (wrote : writeFile root directory path bytes = (.ok (), written))
    (rest : List (FilePath × Contents)) :
    writeFiles root directory ((path, .ok bytes) :: rest) = writeFiles root written rest := by
  rw [writeFiles, wrote]

/-- A writing of files that succeeded has written the first. -/
theorem writeFiles_cons_eq_ok {contents : Contents} {rest : List (FilePath × Contents)}
    (whole : writeFiles root directory ((path, contents) :: rest) = (.ok (), after)) :
    ∃ bytes written, contents = .ok bytes ∧
      writeFile root directory path bytes = (.ok (), written) ∧
      writeFiles root written rest = (.ok (), after) := by
  cases contents with
  | error cause => cases whole
  | ok bytes =>
    unfold writeFiles at whole
    split at whole
    · rename_i written wrote
      exact ⟨bytes, written, rfl, wrote, whole⟩
    · cases whole

/-- **Records can be written if all of them have bytes and the directory admits them**, in whatever
order. -/
theorem exists_writeFiles_iff (root : String)
    (records : ∀ file ∈ files, Layout.IsRecord file.1) :
    (∃ after, writeFiles root directory files = (.ok (), after)) ↔
      ∀ file ∈ files, (∃ bytes, file.2 = .ok bytes) ∧ directory.Admits file.1 := by
  induction files generalizing directory with
  | nil => exact iff_of_true ⟨_, rfl⟩ fun _ absent => by cases absent
  | cons file rest ih =>
    obtain ⟨path, contents⟩ := file
    obtain ⟨record, others⟩ := List.forall_mem_cons.mp records
    rw [List.forall_mem_cons]
    constructor
    · rintro ⟨after, whole⟩
      obtain ⟨bytes, written, rfl, wrote, goesOn⟩ := writeFiles_cons_eq_ok whole
      have admits := (writeFile_eq_ok record wrote).1
      refine ⟨⟨⟨bytes, rfl⟩, admits⟩, fun file member => ?_⟩
      obtain ⟨encoded, admitted⟩ := (ih others).mp ⟨after, goesOn⟩ file member
      exact ⟨encoded, (admits_writeFile record wrote (others file member)).mp admitted⟩
    · rintro ⟨⟨⟨bytes, encoded⟩, admits⟩, each⟩
      obtain rfl : contents = .ok bytes := encoded
      obtain ⟨written, wrote⟩ := writeFile_of_admits record admits root bytes
      rw [writeFiles_cons_of_ok wrote]
      refine (ih others).mpr fun file member => ?_
      obtain ⟨encoded, admitted⟩ := each file member
      exact ⟨encoded, (admits_writeFile record wrote (others file member)).mpr admitted⟩

/-- **The files after records were written**: the records, and what was there before. -/
theorem get?_writeFiles (records : ∀ file ∈ files, Layout.IsRecord file.1)
    (whole : writeFiles root directory files = (.ok (), after)) (noDraft : ¬ Layout.IsDraft path) :
    (∃ bytes, (path, .ok bytes) ∈ files ∧ after.files.get? path = some bytes) ∨
      path ∉ files.map Prod.fst ∧ after.files.get? path = directory.files.get? path := by
  induction files generalizing directory with
  | nil =>
    cases whole
    exact Or.inr ⟨List.not_mem_nil, rfl⟩
  | cons file rest ih =>
    obtain ⟨first, contents⟩ := file
    obtain ⟨record, others⟩ := List.forall_mem_cons.mp records
    obtain ⟨bytes, written, rfl, wrote, goesOn⟩ := writeFiles_cons_eq_ok whole
    rcases ih others goesOn with ⟨later, member, found⟩ | ⟨absent, same⟩
    · exact Or.inl ⟨later, List.mem_cons_of_mem _ member, found⟩
    · have apart : path ≠ Layout.temporary first := fun same => noDraft ⟨first, record, same.symm⟩
      rw [(writeFile_eq_ok record wrote).2.1 path apart] at same
      by_cases here : path = first
      · rw [if_pos here] at same
        exact Or.inl ⟨bytes, here ▸ List.mem_cons_self, same⟩
      · rw [if_neg here] at same
        exact Or.inr ⟨by simpa [here] using absent, same⟩

theorem isTree_writeFiles (tree : directory.IsTree)
    (records : ∀ file ∈ files, Layout.IsRecord file.1)
    (whole : writeFiles root directory files = (.ok (), after)) : after.IsTree := by
  induction files generalizing directory with
  | nil =>
    cases whole
    exact tree
  | cons file rest ih =>
    obtain ⟨path, contents⟩ := file
    obtain ⟨record, others⟩ := List.forall_mem_cons.mp records
    obtain ⟨bytes, written, -, wrote, goesOn⟩ := writeFiles_cons_eq_ok whole
    exact ih ((writeFile_eq_ok record wrote).2.2 tree) others goesOn

/-! ### Unfinished writings -/

/-- What can be left of the writing of a file that was not finished: some of the folders on the way
to it, or a draft with any bytes. -/
inductive Abandons (path : FilePath) (directory : Directory) : Directory → Prop
  | folders {inner : FilePath} {made : Directory} (start : inner <+: path.dropLast)
      (making : directory.createFolders inner = .ok made) : Abandons path directory made
  | draft {made draft : Directory} {bytes : List UInt8}
      (making : directory.createFolders path.dropLast = .ok made)
      (drafting : made.writeFile (Layout.temporary path) bytes = .ok draft) :
      Abandons path directory draft

/-- No folder has to be made. -/
theorem Abandons.refl (path : FilePath) (directory : Directory) :
    Abandons path directory directory := by
  refine .folders List.nil_prefix ?_
  simp [Directory.createFolders, Directory.ancestry]

/-- A writing that did not succeed was not finished. -/
theorem abandons_of_error {bytes : List UInt8} {cause : StoreError}
    (stopped : writeFile root directory path bytes = (.error cause, after)) :
    Abandons path directory after := by
  unfold writeFile at stopped
  simp only at stopped
  split at stopped
  · cases stopped
    exact .refl path directory
  · rename_i made making
    split at stopped
    · cases stopped
      exact .folders List.prefix_rfl making
    · rename_i draft drafting
      split at stopped <;> cases stopped
      exact .draft making drafting

end Disk

end ObjectLedger
