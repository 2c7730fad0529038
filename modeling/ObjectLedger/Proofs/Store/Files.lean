/-
**Writing the files of records, and reading them.**

* `Layout.IsRecord`: the file of a record, which is never the temporary name of another file.
* **`Disk.writeFiles_spec`**: writing files changes no other file, and after a success each file has
  the bytes that were written. `Disk.writeFiles_ok`: it succeeds if all files have bytes.
  `Disk.exists_written`: a writing that stops is a whole writing of the files before.
* `Disk.recordIn_contentsOf`: what was written is read back.
-/
import ObjectLedger.Proofs.Codec.RoundTrip
import ObjectLedger.Proofs.Store.Directory
import ObjectLedger.Proofs.Text.Hexadecimal
import ObjectLedger.Store.Disk

namespace ObjectLedger

/-! ### The files of records -/

namespace Layout

/-- The file of a record, which is never the temporary name of another file. -/
structure IsRecord (path : FilePath) : Prop where
  place : path.IsFilePlace
  draft_place : FilePath.IsFilePlace (temporary path)
  not_draft : ∀ other, temporary other ≠ path

/-- A temporary name ends in `p`. -/
theorem temporary_ne {path : FilePath} (name : String) (last : path.getLast? = some name)
    (ending : name.toList.getLast? ≠ some 'p') (other : FilePath) : temporary other ≠ path := by
  rintro rfl
  unfold temporary at last
  cases named : other.getLast? with
  | none =>
    rw [List.getLast?_eq_none_iff] at named
    subst named
    cases last
  | some older =>
    rw [named] at last
    simp only [Option.map_some, Option.toList_some, List.getLast?_concat, Option.some.injEq] at last
    subst last
    exact ending (by simp)

theorem isRecord_request (reference : TransactionRef) : IsRecord (request reference) where
  place := trivial
  draft_place := trivial
  not_draft := temporary_ne "request.bcs" rfl (by decide)

theorem isRecord_response (reference : TransactionRef) : IsRecord (response reference) where
  place := trivial
  draft_place := trivial
  not_draft := temporary_ne "response.bcs" rfl (by decide)

theorem isRecord_responseText (reference : TransactionRef) :
    IsRecord (responseText reference) where
  place := trivial
  draft_place := trivial
  not_draft := temporary_ne "response.txt" rfl (by decide)

theorem isRecord_error (reference : TransactionRef) : IsRecord (error reference) where
  place := trivial
  draft_place := trivial
  not_draft := temporary_ne "error.txt" rfl (by decide)

theorem isRecord_history (object : ObjectRef) : IsRecord (history object) where
  place := trivial
  draft_place := trivial
  not_draft := temporary_ne (object.fileName ++ ".bcs") rfl (by simp)

theorem isRecord_manifest : IsRecord manifest where
  place := ⟨by decide, by decide⟩
  draft_place := ⟨by decide, by decide⟩
  not_draft := temporary_ne "manifest.json" rfl (by decide)

/-- Different transactions have different folders. -/
theorem eq_of_transaction {first second : TransactionRef} {name : String}
    (same : transaction first ++ [name] = transaction second ++ [name]) : first = second :=
  TransactionRef.toText_injective (List.cons.inj (List.cons.inj same).2).1

theorem history_injective : Function.Injective history := by
  intro first second same
  have names := (List.cons.inj (List.cons.inj same).2).1
  exact ObjectRef.fileName_injective (by simpa using names)

end Layout

namespace Disk

variable {directory : Directory} {files : List (FilePath × Contents)}

/-! ### Writing -/

theorem dropLast_temporary {path : FilePath} (nonempty : path ≠ []) :
    (Layout.temporary path).dropLast = path.dropLast := by
  unfold Layout.temporary
  rw [List.getLast?_eq_some_getLast nonempty]
  simp

/-- The first file is written, and the others after it. -/
theorem writeFiles_cons (root : String) (tidy : directory.Tidy) {path : FilePath}
    (record : Layout.IsRecord path) (bytes : List UInt8) :
    ∃ written, written.Tidy ∧
      (∀ other, other ≠ Layout.temporary path → written.files.get? other =
        if other = path then some bytes else directory.files.get? other) ∧
      ∀ rest, writeFiles root directory ((path, .ok bytes) :: rest) =
        writeFiles root written rest := by
  obtain ⟨written, writing, tidyWritten, read⟩ := writeFile_eq tidy root record.place
    record.draft_place (dropLast_temporary record.place.ne_nil) (record.not_draft path) bytes
  exact ⟨written, tidyWritten, read, fun rest => by rw [writeFiles, writing]⟩

/-- **Writing files changes no other file, and after a success each file has the bytes that were
written.** -/
theorem writeFiles_spec (root : String) (tidy : directory.Tidy)
    (records : ∀ file ∈ files, Layout.IsRecord file.1) :
    (writeFiles root directory files).2.Tidy ∧
      (∀ path, (∀ other, Layout.temporary other ≠ path) →
        (writeFiles root directory files).2.files.get? path = directory.files.get? path ∨
          ∃ bytes, (path, .ok bytes) ∈ files ∧
            (writeFiles root directory files).2.files.get? path = some bytes) ∧
      ((writeFiles root directory files).1 = .ok () → ∀ file ∈ files, ∃ bytes,
        (file.1, .ok bytes) ∈ files ∧
          (writeFiles root directory files).2.files.get? file.1 = some bytes) := by
  induction files generalizing directory with
  | nil => exact ⟨tidy, fun _ _ => Or.inl rfl, fun _ _ member => by cases member⟩
  | cons file rest ih =>
    obtain ⟨path, contents⟩ := file
    obtain ⟨record, others⟩ := List.forall_mem_cons.mp records
    cases contents with
    | error cause => exact ⟨tidy, fun _ _ => Or.inl rfl, fun success => by cases success⟩
    | ok bytes =>
      obtain ⟨written, tidyWritten, read, goesOn⟩ := writeFiles_cons root tidy record bytes
      obtain ⟨tidyAll, kept, each⟩ := ih tidyWritten others
      rw [goesOn]
      refine ⟨tidyAll, fun other apart => ?_, fun success file member => ?_⟩
      · rcases kept other apart with same | ⟨later, member, found⟩
        · rw [read other (apart path).symm] at same
          split at same
          · rename_i here
            exact Or.inr ⟨bytes, here ▸ List.mem_cons_self, same⟩
          · exact Or.inl same
        · exact Or.inr ⟨later, List.mem_cons_of_mem _ member, found⟩
      · rcases List.mem_cons.mp member with rfl | member
        · rcases kept path record.not_draft with same | ⟨later, member, found⟩
          · rw [read path (record.not_draft path).symm, if_pos rfl] at same
            exact ⟨bytes, List.mem_cons_self, same⟩
          · exact ⟨later, List.mem_cons_of_mem _ member, found⟩
        · obtain ⟨later, inside, found⟩ := each success file member
          exact ⟨later, List.mem_cons_of_mem _ inside, found⟩

/-- Files that all have bytes can be written. -/
theorem writeFiles_ok (root : String) (tidy : directory.Tidy)
    (records : ∀ file ∈ files, Layout.IsRecord file.1)
    (encoded : ∀ file ∈ files, ∃ bytes, file.2 = .ok bytes) :
    (writeFiles root directory files).1 = .ok () := by
  induction files generalizing directory with
  | nil => rfl
  | cons file rest ih =>
    obtain ⟨path, contents⟩ := file
    obtain ⟨record, others⟩ := List.forall_mem_cons.mp records
    obtain ⟨⟨bytes, rfl⟩, encodedToo⟩ := List.forall_mem_cons.mp encoded
    obtain ⟨written, tidyWritten, -, goesOn⟩ := writeFiles_cons root tidy record bytes
    rw [goesOn]
    exact ih tidyWritten others encodedToo

/-- **A writing that stops is a whole writing of the files before.** -/
theorem exists_written (root : String) (tidy : directory.Tidy)
    (records : ∀ file ∈ files, Layout.IsRecord file.1) :
    ∃ written, written <+: files ∧
      writeFiles root directory written = (.ok (), (writeFiles root directory files).2) := by
  induction files generalizing directory with
  | nil => exact ⟨[], List.prefix_rfl, rfl⟩
  | cons file rest ih =>
    obtain ⟨path, contents⟩ := file
    obtain ⟨record, others⟩ := List.forall_mem_cons.mp records
    cases contents with
    | error cause => exact ⟨[], List.nil_prefix, rfl⟩
    | ok bytes =>
      obtain ⟨middle, tidyMiddle, -, goesOn⟩ := writeFiles_cons root tidy record bytes
      obtain ⟨written, start, whole⟩ := ih tidyMiddle others
      refine ⟨(path, .ok bytes) :: written, List.cons_prefix_cons.mpr ⟨rfl, start⟩, ?_⟩
      rw [goesOn, goesOn]
      exact whole

/-! ### Reading -/

/-- The record in the bytes of a file, if there is a file. -/
def recordIn {α : Type} (codec : Codec α) (context : String) :
    Option (List UInt8) → Except StoreError (Option α)
  | none => .ok none
  | some bytes =>
    match codec.decodeRecord context bytes with
    | .ok record => .ok (some record)
    | .error cause => .error (.undecodable cause)

theorem readRecord?_eq {α : Type} {disk : Disk} (tidy : disk.directory.Tidy) {path : FilePath}
    (place : path.IsFilePlace) (codec : Codec α) (context : String) :
    disk.readRecord? path codec context =
      recordIn codec context (disk.directory.files.get? path) := by
  unfold readRecord?
  rw [tidy.readFile?_eq disk.root place]
  cases disk.directory.files.get? path <;> rfl

theorem recordIn_contentsOf {α : Type} {codec : Codec α} (roundTrips : codec.RoundTrips)
    {context : String} {value : α} {bytes : List UInt8}
    (encoded : contentsOf codec context value = .ok bytes) :
    recordIn codec context (some bytes) = .ok (some value) := by
  have written : codec.encodeRecord value = .ok bytes := by
    unfold contentsOf at encoded
    cases result : codec.encodeRecord value with
    | error cause => rw [result] at encoded; cases encoded
    | ok other => rw [result] at encoded; simpa [Except.mapError] using encoded
  unfold recordIn
  simp only [Codec.decodeRecord_encodeRecord roundTrips context written]

end Disk

end ObjectLedger
