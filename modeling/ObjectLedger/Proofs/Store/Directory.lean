/-
**Directories that hold a store and nothing else.**

* `FilePath.IsFilePlace`, `FilePath.IsFolderPlace`: the places of the files and of the folders of a
  store; no path is both.
* `Directory.Tidy`: files and folders are at their places, and the folders of a file exist.
* **`Directory.Tidy.readFile?_eq`**: reading in a tidy directory never fails.
* **`Disk.writeFile_eq`**: writing succeeds there, keeps the directory tidy and changes one file.
-/
import Mathlib.Data.List.Basic
import ObjectLedger.Store.Disk

namespace ObjectLedger

namespace FilePath

/-- The place of a file of a store. -/
def IsFilePlace : FilePath → Prop
  | [name] => name ≠ "transactions" ∧ name ≠ "histories"
  | ["histories", _] => True
  | ["transactions", _, _] => True
  | _ => False

/-- The place of a folder of a store. -/
def IsFolderPlace : FilePath → Prop
  | ["transactions"] => True
  | ["histories"] => True
  | ["transactions", _] => True
  | _ => False

theorem IsFilePlace.cases {path : FilePath} (place : IsFilePlace path) :
    (∃ name, path = [name] ∧ name ≠ "transactions" ∧ name ≠ "histories") ∨
      (∃ name, path = ["histories", name]) ∨ ∃ folder name, path = ["transactions", folder, name] := by
  unfold IsFilePlace at place
  split at place
  · exact Or.inl ⟨_, rfl, place⟩
  · exact Or.inr (Or.inl ⟨_, rfl⟩)
  · exact Or.inr (Or.inr ⟨_, _, rfl⟩)
  · exact place.elim

theorem IsFolderPlace.cases {path : FilePath} (place : IsFolderPlace path) :
    path = ["transactions"] ∨ path = ["histories"] ∨ ∃ folder, path = ["transactions", folder] := by
  unfold IsFolderPlace at place
  split at place
  · exact Or.inl rfl
  · exact Or.inr (Or.inl rfl)
  · exact Or.inr (Or.inr ⟨_, rfl⟩)
  · exact place.elim

/-- No place is for a file and for a folder. -/
theorem IsFilePlace.not_folder {path : FilePath} (place : IsFilePlace path) :
    ¬ IsFolderPlace path := by
  intro other
  rcases place.cases with ⟨name, rfl, one, two⟩ | ⟨name, rfl⟩ | ⟨folder, name, rfl⟩
  all_goals
    rcases other.cases with same | same | ⟨_, same⟩ <;> simp_all

theorem IsFilePlace.ne_nil {path : FilePath} (place : IsFilePlace path) : path ≠ [] := by
  rintro rfl
  exact place

/-- The folders on the way to the place of a file are at the places of folders. -/
theorem IsFilePlace.ancestry {path : FilePath} (place : IsFilePlace path) :
    ∀ folder ∈ Directory.ancestry path.dropLast, IsFolderPlace folder := by
  rcases place.cases with ⟨name, rfl, _, _⟩ | ⟨name, rfl⟩ | ⟨folder, name, rfl⟩
  all_goals simp [Directory.ancestry, List.range_succ, IsFolderPlace]

end FilePath

namespace Directory

variable {directory : Directory} {path : FilePath}

/-- Files and folders are at their places, and the folders of a file exist. -/
structure Tidy (directory : Directory) : Prop where
  file_place : ∀ path, (directory.files.get? path).isSome → path.IsFilePlace
  folder_place : ∀ path ∈ directory.folders, path.IsFolderPlace
  ancestry : ∀ path, (directory.files.get? path).isSome →
    ∀ folder ∈ Directory.ancestry path.dropLast, directory.isFolder folder = true

theorem tidy_empty : Tidy {} where
  file_place _ present := by cases present
  folder_place _ member := by cases member
  ancestry _ present := by cases present

theorem Tidy.isFolder_eq_false (tidy : directory.Tidy) (place : path.IsFilePlace) :
    directory.isFolder path = false := by
  unfold isFolder
  rw [Bool.or_eq_false_iff]
  refine ⟨by simpa using place.ne_nil, ?_⟩
  rw [Bool.eq_false_iff]
  intro member
  exact place.not_folder (tidy.folder_place path (by simpa using member))

theorem Tidy.isFile_eq_false (tidy : directory.Tidy) (place : path.IsFolderPlace) :
    directory.isFile path = false := by
  rw [Bool.eq_false_iff]
  intro present
  exact (tidy.file_place path present).not_folder place

/-- Nothing is in the way where all folders exist. -/
theorem obstacle?_eq_none
    (exist : ∀ folder ∈ Directory.ancestry path.dropLast, directory.isFolder folder = true) :
    directory.obstacle? path = none := by
  unfold obstacle?
  rw [Option.map_eq_none_iff, List.find?_eq_none]
  intro folder member
  simp [exist folder member]

theorem Tidy.obstacle?_eq (tidy : directory.Tidy) (place : path.IsFilePlace) :
    directory.obstacle? path = none ∨ directory.obstacle? path = some .notFound := by
  unfold obstacle?
  cases found : (Directory.ancestry path.dropLast).find? fun folder => !directory.isFolder folder with
  | none => exact Or.inl rfl
  | some folder =>
    have noFile := tidy.isFile_eq_false (place.ancestry folder (List.mem_of_find?_eq_some found))
    right
    simp [noFile]

theorem Tidy.read_eq (tidy : directory.Tidy) (place : path.IsFilePlace) :
    directory.read path =
      match directory.files.get? path with
      | some bytes => .ok bytes
      | none => .error .notFound := by
  unfold Directory.read
  rcases tidy.obstacle?_eq place with clear | blocked
  · have noFolder := tidy.isFolder_eq_false place
    cases directory.files.get? path with
    | none => simp [clear, noFolder]
    | some bytes => simp [clear, noFolder]
  · rw [blocked]
    cases present : directory.files.get? path with
    | none => rfl
    | some bytes =>
      have clear := obstacle?_eq_none (tidy.ancestry path (by simp [present]))
      rw [clear] at blocked
      cases blocked

/-- Reading in a tidy directory never fails. -/
theorem Tidy.readFile?_eq (tidy : directory.Tidy) (root : String) (place : path.IsFilePlace) :
    Disk.readFile? root directory path = .ok (directory.files.get? path) := by
  unfold Disk.readFile?
  rw [tidy.read_eq place]
  cases directory.files.get? path <;> rfl

/-! ### Writing -/

theorem isFolder_append {folders : List FilePath} {folder : FilePath}
    (exists_ : directory.isFolder folder = true) :
    isFolder { directory with folders := directory.folders ++ folders } folder = true := by
  unfold isFolder at exists_ ⊢
  simp only [Bool.or_eq_true, List.contains_iff_mem, List.mem_append] at exists_ ⊢
  exact exists_.imp id Or.inl

/-- The folders of a file can be made. -/
theorem Tidy.createFolders_eq (tidy : directory.Tidy) (place : path.IsFilePlace) :
    ∃ made, directory.createFolders path.dropLast = .ok made ∧ made.Tidy ∧
      made.files = directory.files ∧
      ∀ folder ∈ Directory.ancestry path.dropLast, made.isFolder folder = true := by
  have noFile : (Directory.ancestry path.dropLast).any directory.isFile = false := by
    rw [List.any_eq_false]
    intro folder member
    simp [tidy.isFile_eq_false (place.ancestry folder member)]
  unfold createFolders
  rw [noFile]
  refine ⟨_, rfl, ⟨tidy.file_place, ?_, ?_⟩, rfl, ?_⟩
  · intro folder member
    rcases List.mem_append.mp member with member | member
    · exact tidy.folder_place folder member
    · exact place.ancestry folder (List.mem_filter.mp member).1
  · intro other present folder member
    exact isFolder_append (tidy.ancestry other present folder member)
  · intro folder member
    by_cases known : directory.isFolder folder = true
    · exact isFolder_append known
    · have missing : (!directory.isFolder folder) = true := by simpa using known
      unfold isFolder
      simp only [Bool.or_eq_true, List.contains_iff_mem, List.mem_append]
      exact Or.inr (Or.inr (List.mem_filter.mpr ⟨member, missing⟩))

theorem Tidy.writeFile_eq (tidy : directory.Tidy) (place : path.IsFilePlace)
    (exist : ∀ folder ∈ Directory.ancestry path.dropLast, directory.isFolder folder = true)
    (bytes : List UInt8) :
    directory.writeFile path bytes =
        .ok { directory with files := directory.files.insert path bytes } ∧
      Tidy { directory with files := directory.files.insert path bytes } := by
  refine ⟨?_, ?_, tidy.folder_place, ?_⟩
  · unfold writeFile
    rw [obstacle?_eq_none exist]
    simp only [tidy.isFolder_eq_false place, Bool.false_eq_true, if_false]
  · intro other present
    by_cases same : other = path
    · exact same ▸ place
    · rw [Table.get?_insert_of_ne _ _ same] at present
      exact tidy.file_place other present
  · intro other present folder member
    by_cases same : other = path
    · subst same
      exact exist folder member
    · rw [Table.get?_insert_of_ne _ _ same] at present
      exact tidy.ancestry other present folder member

theorem Tidy.erase (tidy : directory.Tidy) (path : FilePath) :
    Tidy { directory with files := directory.files.erase path } := by
  have left : ∀ other, ((directory.files.erase path).get? other).isSome →
      (directory.files.get? other).isSome := by
    intro other present
    rw [Table.get?_erase] at present
    split at present
    · cases present
    · exact present
  exact ⟨fun other present => tidy.file_place other (left other present), tidy.folder_place,
    fun other present => tidy.ancestry other (left other present)⟩

end Directory

namespace Disk

/-- **Writing a file in a tidy directory succeeds, keeps it tidy, and changes that file only, except
for the temporary one.** -/
theorem writeFile_eq {directory : Directory} (tidy : directory.Tidy) (root : String)
    {path : FilePath} (place : path.IsFilePlace)
    (temporaryPlace : FilePath.IsFilePlace (Layout.temporary path))
    (sameFolder : (Layout.temporary path).dropLast = path.dropLast)
    (apart : Layout.temporary path ≠ path) (bytes : List UInt8) :
    ∃ written, writeFile root directory path bytes = (.ok (), written) ∧ written.Tidy ∧
      ∀ other, other ≠ Layout.temporary path →
        written.files.get? other =
          if other = path then some bytes else directory.files.get? other := by
  obtain ⟨made, making, tidyMade, sameFiles, exist⟩ := tidy.createFolders_eq place
  have existTemporary : ∀ folder ∈ Directory.ancestry (Layout.temporary path).dropLast,
      made.isFolder folder = true := by
    rw [sameFolder]
    exact exist
  obtain ⟨writing, tidyDraft⟩ := tidyMade.writeFile_eq temporaryPlace existTemporary bytes
  have reading := tidyDraft.read_eq temporaryPlace
  rw [Table.get?_insert_self] at reading
  obtain ⟨moving, tidyMoved⟩ := tidyDraft.writeFile_eq place exist bytes
  refine ⟨_, ?_, tidyMoved.erase (Layout.temporary path), fun other different => ?_⟩
  · unfold writeFile Directory.rename
    rw [making]
    simp only [writing, reading, moving, if_neg apart]
  · rw [Table.get?_erase_of_ne _ different, Table.get?_insert, Table.get?_insert_of_ne _ _ different,
      sameFiles]

end Disk

end ObjectLedger
