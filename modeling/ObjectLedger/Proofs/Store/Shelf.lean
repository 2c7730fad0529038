/-
**The files of a store, kind by kind.**

* `RecordKind`: requests, responses, rejections, histories and the manifest. `RecordKind.place`,
  `RecordKind.contents`, `RecordKind.read`: the file of a record, what is written there, and how it
  is read. `RecordKind.read_contents`: what was written is read back.
* `Disk.InOrder`: files are those of some records, one kind after the other.
  **`Disk.InOrder.mem_place_iff`**: which file a record of each kind has.
* **`RecordKind.overlay_writeFiles`**: pending records are read over the files as before, and after a
  success the files alone show them.
* `Disk.Lists.part`: some of the files are those of some of the records.
* `Directory.Shows`: reading the files of a directory gives some records.
  **`Directory.Shows.writeFiles`**: after files were written it gives their records over the earlier
  ones.
-/
import ObjectLedger.Proofs.Codec.Records
import ObjectLedger.Proofs.Json.Manifest
import ObjectLedger.Proofs.Store.Files
import ObjectLedger.Proofs.Table

namespace ObjectLedger

/-! ### Kinds of records -/

/-- The kinds of records that a store keeps. -/
inductive RecordKind where
  | request
  | response
  | error
  | history
  | manifest

namespace RecordKind

/-- What a record is kept under. -/
def Key : RecordKind → Type
  | request | response | error => TransactionRef
  | history => ObjectRef
  | manifest => Unit

/-- What a record says. -/
def Value : RecordKind → Type
  | request => Request
  | response => Response
  | error => String
  | history => List TransactionRef
  | manifest => ObjectRef

/-- The file of a record. -/
def place : (kind : RecordKind) → kind.Key → FilePath
  | request, reference => Layout.request reference
  | response, reference => Layout.response reference
  | error, reference => Layout.error reference
  | history, object => Layout.history object
  | manifest, _ => Layout.manifest

/-- What is written to the file of a record. -/
def contents : (kind : RecordKind) → kind.Value → Disk.Contents
  | request, value => Disk.contentsOf Codec.request "request" value
  | response, value => Disk.contentsOf Codec.response "response" value
  | error, value => Disk.contentsOfText value
  | history, value => Disk.contentsOf Codec.history "history" value
  | manifest, value => Disk.contentsOfText (Rendering.manifestRecord value)

/-- The record in the bytes of a file, if there is a file. -/
def read : (kind : RecordKind) → Option (List UInt8) → Except StoreError (Option kind.Value)
  | request, bytes => Disk.recordIn Codec.request "request" bytes
  | response, bytes => Disk.recordIn Codec.response "response" bytes
  | error, bytes => .ok (bytes.map Text.ofUtf8Lossy)
  | history, bytes => Disk.recordIn Codec.history "history" bytes
  | manifest, none => .ok none
  | manifest, some bytes =>
    match Rendering.readManifestRecord? bytes with
    | some named => .ok (some named)
    | none => .error .malformedManifest

/-- A record among others. -/
def pick : (kind : RecordKind) → Records → kind.Key → Option kind.Value
  | request, records, reference => records.requests.get? reference
  | response, records, reference => records.responses.get? reference
  | error, records, reference => records.errors.get? reference
  | history, records, object => records.histories.get? object
  | manifest, records, _ => records.manifest

/-- A path without the name of the transaction or of the object. -/
def label : FilePath → List String
  | [folder, _, name] => [folder, name]
  | [folder, _] => [folder]
  | path => path

/-- What the files of a kind have in common. -/
def files : RecordKind → List String
  | request => ["transactions", "request.bcs"]
  | response => ["transactions", "response.bcs"]
  | error => ["transactions", "error.txt"]
  | history => ["histories"]
  | manifest => ["manifest.json"]

theorem label_place (kind : RecordKind) (key : kind.Key) : label (kind.place key) = kind.files := by
  cases kind <;> rfl

theorem files_injective : Function.Injective files := by
  intro first second same
  cases first <;> cases second <;> first | rfl | exact absurd same (by decide)

/-- Different records have different files. -/
theorem place_injective {first second : RecordKind} {key : first.Key} {other : second.Key}
    (same : first.place key = second.place other) :
    (⟨first, key⟩ : Sigma RecordKind.Key) = ⟨second, other⟩ := by
  obtain rfl : first = second := files_injective (by rw [← label_place, same, label_place])
  congr 1
  cases first with
  | request | response | error => exact Layout.eq_of_transaction same
  | history => exact Layout.history_injective same
  | manifest => rfl

theorem isRecord_place (kind : RecordKind) (key : kind.Key) : Layout.IsRecord (kind.place key) := by
  cases kind with
  | request => exact Layout.isRecord_request key
  | response => exact Layout.isRecord_response key
  | error => exact Layout.isRecord_error key
  | history => exact Layout.isRecord_history key
  | manifest => exact Layout.isRecord_manifest

theorem read_none (kind : RecordKind) : kind.read none = .ok none := by
  cases kind <;> rfl

/-- **What was written is read back.** -/
theorem read_contents {kind : RecordKind} {value : kind.Value} {bytes : List UInt8}
    (written : kind.contents value = .ok bytes) : kind.read (some bytes) = .ok (some value) := by
  cases kind with
  | request => exact Disk.recordIn_contentsOf Codec.request_roundTrips written
  | response => exact Disk.recordIn_contentsOf Codec.response_roundTrips written
  | history => exact Disk.recordIn_contentsOf Codec.history_roundTrips written
  | error =>
    cases written
    exact congrArg (fun text => Except.ok (some text)) (Text.ofUtf8Lossy_toUTF8 value)
  | manifest =>
    cases written
    have back := Rendering.readManifestRecord?_manifestRecord value
    rw [Json.bytesOf] at back
    rw [read, back]

/-- The records of a kind, each with what it is kept under. -/
def entries : (kind : RecordKind) → Records → List (kind.Key × kind.Value)
  | request, records => records.requests.entries
  | response, records => records.responses.entries
  | error, records => records.errors.entries
  | history, records => records.histories.entries
  | manifest, records => (records.manifest.map fun object => ((), object)).toList

theorem mem_entries_manifest {records : Records} {object : ObjectRef} :
    ((), object) ∈ entries .manifest records ↔ records.manifest = some object := by
  show ((), object) ∈ (records.manifest.map fun object => ((), object)).toList ↔ _
  simp

/-- No record of the kind is there twice. -/
def Proper (kind : RecordKind) (records : Records) : Prop :=
  ((kind.entries records).map Prod.fst).Nodup

theorem Proper.mem_entries {kind : RecordKind} {records : Records} (proper : kind.Proper records)
    {key : kind.Key} {value : kind.Value} :
    (key, value) ∈ kind.entries records ↔ kind.pick records key = some value := by
  cases kind with
  | request => exact Table.Proper.mem_entries (κ := TransactionRef) proper
  | response => exact Table.Proper.mem_entries (κ := TransactionRef) proper
  | error => exact Table.Proper.mem_entries (κ := TransactionRef) proper
  | history => exact Table.Proper.mem_entries (κ := ObjectRef) proper
  | manifest => exact mem_entries_manifest

/-- Records written over others are found first. -/
theorem pick_merge (kind : RecordKind) (older newer : Records) (key : kind.Key) :
    kind.pick (older.merge newer) key = (kind.pick newer key <|> kind.pick older key) := by
  cases kind with
  | manifest => rfl
  | history => exact Table.get?_merge (κ := ObjectRef) _ _ key
  | request | response | error => exact Table.get?_merge (κ := TransactionRef) _ _ key

end RecordKind

/-! ### Some of the records -/

/-- The entries whose key passes a test. -/
def Table.only {κ ν : Type} (table : Table κ ν) (passes : κ → Bool) : Table κ ν :=
  ⟨table.entries.filter fun entry => passes entry.1⟩

theorem Table.get?_only {κ ν : Type} [DecidableEq κ] (table : Table κ ν) (passes : κ → Bool)
    (key : κ) : (table.only passes).get? key = if passes key then table.get? key else none := by
  unfold only get?
  rw [List.find?_filter]
  split
  · rename_i passed
    congr 2
    funext entry
    by_cases same : entry.1 = key
    · simp [same, passed]
    · simp [same]
  · rename_i failed
    rw [Option.map_eq_none_iff, List.find?_eq_none]
    intro entry _ both
    obtain ⟨passed, same⟩ : passes entry.1 = true ∧ entry.1 = key := by simpa using both
    exact failed (same ▸ passed)

namespace Records

/-- The records whose files pass a test. -/
def only (records : Records) (passes : FilePath → Bool) : Records where
  requests := records.requests.only fun reference => passes (Layout.request reference)
  responses := records.responses.only fun reference => passes (Layout.response reference)
  errors := records.errors.only fun reference => passes (Layout.error reference)
  histories := records.histories.only fun object => passes (Layout.history object)
  manifest := if passes Layout.manifest then records.manifest else none

theorem pick_only (kind : RecordKind) (records : Records) (passes : FilePath → Bool)
    (key : kind.Key) :
    kind.pick (records.only passes) key =
      if passes (kind.place key) then kind.pick records key else none := by
  cases kind with
  | manifest => rfl
  | history => exact Table.get?_only (κ := ObjectRef) _ _ key
  | request | response | error => exact Table.get?_only (κ := TransactionRef) _ _ key

/-- No record is there twice. -/
structure Proper (records : Records) : Prop where
  requests : records.requests.Proper
  responses : records.responses.Proper
  errors : records.errors.Proper
  histories : records.histories.Proper

theorem proper_empty : Proper {} :=
  ⟨Table.proper_empty, Table.proper_empty, Table.proper_empty, Table.proper_empty⟩

theorem Proper.kind {records : Records} (proper : records.Proper) (kind : RecordKind) :
    kind.Proper records := by
  cases kind with
  | request => exact proper.requests
  | response => exact proper.responses
  | error => exact proper.errors
  | history => exact proper.histories
  | manifest =>
    show (((records.manifest.map fun object => ((), object)).toList).map Prod.fst).Nodup
    cases records.manifest <;> simp

end Records

namespace Disk

variable {files : List (FilePath × Contents)} {records pending : Records} {root : String}
  {directory : Directory}

/-! ### Files of records -/

/-- The files are those of the records, and of each response a second one for people. -/
structure Lists (files : List (FilePath × Contents)) (records : Records) : Prop where
  isRecord : ∀ file ∈ files, Layout.IsRecord file.1
  mem_iff : ∀ (kind : RecordKind) (key : kind.Key) (contents : Contents),
    (kind.place key, contents) ∈ files ↔
      ∃ value, kind.pick records key = some value ∧ contents = kind.contents value

/-- The file of a request. -/
def requestFile (entry : TransactionRef × Request) : FilePath × Contents :=
  (Layout.request entry.1, contentsOf Codec.request "request" entry.2)

/-- The files of a response, the one for people last. -/
def responseFiles (entry : TransactionRef × Response) : List (FilePath × Contents) :=
  [(Layout.response entry.1, contentsOf Codec.response "response" entry.2),
    (Layout.responseText entry.1, contentsOfText entry.2.render)]

/-- The file of a rejection. -/
def errorFile (entry : TransactionRef × String) : FilePath × Contents :=
  (Layout.error entry.1, contentsOfText entry.2)

/-- The file of a history. -/
def historyFile (entry : ObjectRef × List TransactionRef) : FilePath × Contents :=
  (Layout.history entry.1, contentsOf Codec.history "history" entry.2)

/-- The file of the manifest. -/
def manifestFile (manifest : ObjectRef) : FilePath × Contents :=
  (Layout.manifest, contentsOfText (Rendering.manifestRecord manifest))

/-- The files of the records, one kind after the other, those of a kind in any order. -/
inductive InOrder (records : Records) : List (FilePath × Contents) → Prop
  | intro {requests : List (TransactionRef × Request)} {responses : List (TransactionRef × Response)}
      {errors : List (TransactionRef × String)}
      {histories : List (ObjectRef × List TransactionRef)}
      (requestEntries : requests.Perm records.requests.entries)
      (responseEntries : responses.Perm records.responses.entries)
      (errorEntries : errors.Perm records.errors.entries)
      (historyEntries : histories.Perm records.histories.entries) :
      InOrder records (requests.map requestFile ++ responses.flatMap responseFiles ++
        errors.map errorFile ++ histories.map historyFile ++
        (records.manifest.map manifestFile).toList)

/-- The files of a commit are in such an order. -/
theorem inOrder_filesOf (records : Records) : InOrder records (filesOf records) :=
  .intro (List.mergeSort_perm _ _) (List.mergeSort_perm _ _) (List.mergeSort_perm _ _)
    (List.mergeSort_perm _ _)

/-- Files in order are the files of the entries and those of responses for people. -/
theorem InOrder.mem_iff_entries (inOrder : InOrder records files) {file : FilePath × Contents} :
    file ∈ files ↔
      (∃ (kind : RecordKind) (key : kind.Key) (value : kind.Value),
        (key, value) ∈ kind.entries records ∧ (kind.place key, kind.contents value) = file) ∨
      ∃ reference response, (reference, response) ∈ records.responses.entries ∧
        (Layout.responseText reference, contentsOfText response.render) = file := by
  obtain ⟨requestEntries, responseEntries, errorEntries, historyEntries⟩ := inOrder
  simp only [List.mem_append, List.mem_map, List.mem_flatMap, requestEntries.mem_iff,
    responseEntries.mem_iff, errorEntries.mem_iff, historyEntries.mem_iff, Prod.exists]
  constructor
  · rintro ((((⟨reference, request, found, rfl⟩ | ⟨reference, response, found, member⟩) |
      ⟨reference, reason, found, rfl⟩) | ⟨object, history, found, rfl⟩) | member)
    · exact Or.inl ⟨.request, reference, request, found, rfl⟩
    · rcases List.mem_pair.mp member with rfl | rfl
      · exact Or.inl ⟨.response, reference, response, found, rfl⟩
      · exact Or.inr ⟨reference, response, found, rfl⟩
    · exact Or.inl ⟨.error, reference, reason, found, rfl⟩
    · exact Or.inl ⟨.history, object, history, found, rfl⟩
    · obtain ⟨manifest, found, rfl⟩ := Option.map_eq_some_iff.mp (Option.mem_toList.mp member)
      exact Or.inl ⟨.manifest, (), manifest, RecordKind.mem_entries_manifest.mpr found, rfl⟩
  · rintro (⟨kind, key, value, found, rfl⟩ | ⟨reference, response, found, rfl⟩)
    · cases kind with
      | request => exact Or.inl (Or.inl (Or.inl (Or.inl ⟨key, value, found, rfl⟩)))
      | response =>
        exact Or.inl (Or.inl (Or.inl (Or.inr ⟨key, value, found, List.mem_cons_self⟩)))
      | error => exact Or.inl (Or.inl (Or.inr ⟨key, value, found, rfl⟩))
      | history => exact Or.inl (Or.inr ⟨key, value, found, rfl⟩)
      | manifest =>
        have named := RecordKind.mem_entries_manifest.mp found
        exact Or.inr (Option.mem_toList.mpr (Option.map_eq_some_iff.mpr ⟨value, named, rfl⟩))
    · exact Or.inl (Or.inl (Or.inl (Or.inr
        ⟨reference, response, found, List.mem_cons_of_mem _ List.mem_cons_self⟩)))

theorem InOrder.mem_iff (inOrder : InOrder records files) (proper : records.Proper)
    {file : FilePath × Contents} :
    file ∈ files ↔
      (∃ (kind : RecordKind) (key : kind.Key) (value : kind.Value),
        kind.pick records key = some value ∧ (kind.place key, kind.contents value) = file) ∨
      ∃ reference response, records.responses.get? reference = some response ∧
        (Layout.responseText reference, contentsOfText response.render) = file := by
  rw [inOrder.mem_iff_entries]
  refine or_congr (exists_congr fun kind => exists_congr fun key => exists_congr fun value => ?_)
    (exists_congr fun reference => exists_congr fun response => ?_)
  · rw [(proper.kind kind).mem_entries]
  · rw [proper.responses.mem_entries]

theorem InOrder.isRecord (inOrder : InOrder records files) :
    ∀ file ∈ files, Layout.IsRecord file.1 := by
  intro file member
  rcases inOrder.mem_iff_entries.mp member with ⟨kind, key, _, _, rfl⟩ | ⟨reference, _, _, rfl⟩
  · exact kind.isRecord_place key
  · exact Layout.isRecord_responseText reference

/-- **The file of a record is that of an entry of its kind.** -/
theorem InOrder.mem_place_iff (inOrder : InOrder records files) (kind : RecordKind)
    (proper : kind.Proper records) (key : kind.Key) (contents : Contents) :
    (kind.place key, contents) ∈ files ↔
      ∃ value, kind.pick records key = some value ∧ contents = kind.contents value := by
  rw [inOrder.mem_iff_entries]
  constructor
  · rintro (⟨other, place, value, found, same⟩ | ⟨reference, response, found, same⟩)
    · obtain ⟨places, rfl⟩ := Prod.mk.inj same
      cases RecordKind.place_injective places
      exact ⟨value, proper.mem_entries.mp found, rfl⟩
    · have labels : ["transactions", "response.txt"] = kind.files :=
        (congrArg RecordKind.label (Prod.mk.inj same).1).trans (kind.label_place key)
      cases kind <;> exact absurd labels (by decide)
  · rintro ⟨value, found, rfl⟩
    exact Or.inl ⟨kind, key, value, proper.mem_entries.mpr found, rfl⟩

/-- **Files in order are those of the records.** -/
theorem InOrder.lists (inOrder : InOrder records files) (proper : records.Proper) :
    Lists files records :=
  ⟨inOrder.isRecord, fun kind => inOrder.mem_place_iff kind (proper.kind kind)⟩

theorem lists_filesOf (proper : records.Proper) : Lists (filesOf records) records :=
  (inOrder_filesOf records).lists proper

/-- **Some of the files are those of some of the records.** -/
theorem Lists.part (lists : Lists files records) {written : List (FilePath × Contents)}
    (inside : written ⊆ files) :
    Lists written (records.only fun path => (written.map Prod.fst).contains path) := by
  refine ⟨fun file member => lists.isRecord file (inside member), fun kind key contents => ?_⟩
  rw [Records.pick_only]
  constructor
  · intro member
    have here : (written.map Prod.fst).contains (kind.place key) = true :=
      List.contains_iff_mem.mpr (List.mem_map_of_mem member)
    rw [if_pos here]
    exact (lists.mem_iff kind key contents).mp (inside member)
  · rintro ⟨value, found, rfl⟩
    split at found
    · rename_i here
      obtain ⟨⟨_, other⟩, member, rfl⟩ := List.mem_map.mp (List.contains_iff_mem.mp here)
      obtain ⟨last, same, rfl⟩ := (lists.mem_iff kind key other).mp (inside member)
      cases found.symm.trans same
      exact member
    · cases found

end Disk

/-! ### Written records -/

/-- Reading the files of a directory gives the records. -/
structure Directory.Shows (directory : Directory) (records : Records) : Prop where
  tidy : directory.Tidy
  read_eq : ∀ (kind : RecordKind) (key : kind.Key),
    kind.read (directory.files.get? (kind.place key)) = .ok (kind.pick records key)

/-- A record that reading gives has a file. -/
theorem Directory.Shows.isSome_file {directory : Directory} {records : Records}
    (shows : directory.Shows records) (kind : RecordKind) (key : kind.Key)
    (present : (kind.pick records key).isSome) :
    (directory.files.get? (kind.place key)).isSome := by
  have told := shows.read_eq kind key
  cases file : directory.files.get? (kind.place key) with
  | some bytes => rfl
  | none =>
    rw [file, kind.read_none] at told
    rw [← Except.ok.inj told] at present
    cases present

theorem Directory.shows_empty : Shows {} {} where
  tidy := tidy_empty
  read_eq kind key := by
    cases kind <;> rfl

/-- Writing records of a kind: they can still be read over the files, and after a success the files
alone show them. -/
theorem RecordKind.overlay_writeFiles (root : String) {directory : Directory}
    {files : List (FilePath × Disk.Contents)} {records : Records} (tidy : directory.Tidy)
    (isRecord : ∀ file ∈ files, Layout.IsRecord file.1) (kind : RecordKind) (key : kind.Key)
    (listed : ∀ contents, (kind.place key, contents) ∈ files ↔
      ∃ value, kind.pick records key = some value ∧ contents = kind.contents value) :
    Disk.overlay .uncommitted (kind.pick records key)
        (kind.read ((Disk.writeFiles root directory files).2.files.get? (kind.place key))) =
        Disk.overlay .uncommitted (kind.pick records key)
          (kind.read (directory.files.get? (kind.place key))) ∧
      ((Disk.writeFiles root directory files).1 = .ok () →
        kind.read ((Disk.writeFiles root directory files).2.files.get? (kind.place key)) =
          Disk.overlay .uncommitted (kind.pick records key)
            (kind.read (directory.files.get? (kind.place key)))) := by
  obtain ⟨-, others, each⟩ := Disk.writeFiles_spec root tidy isRecord
  cases found : kind.pick records key with
  | none =>
    have same : (Disk.writeFiles root directory files).2.files.get? (kind.place key) =
        directory.files.get? (kind.place key) := by
      rcases others (kind.place key) (kind.isRecord_place key).not_draft with same | ⟨_, member, -⟩
      · exact same
      · obtain ⟨_, present, -⟩ := (listed _).mp member
        cases found.symm.trans present
    rw [same]
    exact ⟨rfl, fun _ => rfl⟩
  | some value =>
    refine ⟨rfl, fun success => ?_⟩
    obtain ⟨bytes, member, written⟩ :=
      each success (kind.place key, _) ((listed _).mpr ⟨value, found, rfl⟩)
    obtain ⟨_, present, encoded⟩ := (listed _).mp member
    cases found.symm.trans present
    rw [written]
    exact RecordKind.read_contents encoded.symm

/-- **After files were written reading gives their records over the earlier ones.** -/
theorem Directory.Shows.writeFiles {directory : Directory} {older newer : Records}
    {files : List (FilePath × Disk.Contents)} (shows : directory.Shows older)
    (lists : Disk.Lists files newer) {root : String}
    (success : (Disk.writeFiles root directory files).1 = .ok ()) :
    (Disk.writeFiles root directory files).2.Shows (older.merge newer) := by
  refine ⟨(Disk.writeFiles_spec root shows.tidy lists.isRecord).1, fun kind key => ?_⟩
  rw [(kind.overlay_writeFiles root shows.tidy lists.isRecord key (lists.mem_iff kind key)).2
    success, shows.read_eq, RecordKind.pick_merge]
  cases kind.pick newer key <;> rfl

end ObjectLedger
