/-
**Records in files.**

* `Disk`: a directory, the pending records, and the greatest reference committed so far.
* `Disk.open`: opening of a directory, which looks for the greatest transaction in it.
* `Disk.commit`: each pending record is written to a file of its own, under a temporary name
  first. The pending records are dropped only after the last file is written, so that a commit
  that did not succeed can be repeated; what was written before stays.
-/
import ObjectLedger.Json.Rendering
import ObjectLedger.Store.Backend
import ObjectLedger.Store.Layout
import ObjectLedger.Text.Utf8

namespace ObjectLedger

/-- Records that are kept in the files of a directory. -/
structure Disk where
  /-- The path of the directory, for messages. -/
  root : String
  directory : Directory
  pending : Records := {}
  lastCommitted : Option TransactionRef := none
  deriving Inhabited

namespace Disk

/-! ### Files -/

/-- The bytes of a file, none if there is no such file. -/
def readFile? (root : String) (directory : Directory) (path : FilePath) :
    Except StoreError (Option (List UInt8)) :=
  match directory.read path with
  | .ok bytes => .ok (some bytes)
  | .error .notFound => .ok none
  | .error .wrongKind => .error (.file (.read (Layout.toText root path)))

/-- A record in a file, none if there is no such file. -/
def readRecord? {α : Type} (disk : Disk) (path : FilePath) (codec : Codec α) (context : String) :
    Except StoreError (Option α) := do
  match ← readFile? disk.root disk.directory path with
  | none => return none
  | some bytes =>
    match codec.decodeRecord context bytes with
    | .ok record => return some record
    | .error cause => .error (.undecodable cause)

/-- Writes a file: its folders first, then a temporary file, which takes the place of the file. What
was done before a step that does not succeed stays done. -/
def writeFile (root : String) (directory : Directory) (path : FilePath) (bytes : List UInt8) :
    Except StoreError Unit × Directory :=
  let place := Layout.toText root path
  let temporary := Layout.temporary path
  let temporaryPlace := Layout.toText root temporary
  match directory.createFolders path.dropLast with
  | .error _ => (.error (.file (.createFolder (Layout.toText root path.dropLast))), directory)
  | .ok directory =>
    match directory.writeFile temporary bytes with
    | .error _ => (.error (.file (.writeTemporary temporaryPlace)), directory)
    | .ok directory =>
      match directory.rename temporary path with
      | .error _ => (.error (.file (.rename temporaryPlace place)), directory)
      | .ok directory => (.ok (), directory)

/-- The bytes of a file, or why it has none. -/
abbrev Contents := Except StoreError (List UInt8)

/-- Writes files in order, up to the first that cannot be written. -/
def writeFiles (root : String) : Directory → List (FilePath × Contents) →
    Except StoreError Unit × Directory
  | directory, [] => (.ok (), directory)
  | directory, (_, .error cause) :: _ => (.error cause, directory)
  | directory, (path, .ok bytes) :: rest =>
    match writeFile root directory path bytes with
    | (.ok (), directory) => writeFiles root directory rest
    | (.error cause, directory) => (.error cause, directory)

/-! ### Opening -/

/-- The greatest reference among names; other names do not matter. -/
def greatestReference (names : List String) : Option TransactionRef :=
  names.foldl (fun last name => latest last (TransactionRef.parse name).toOption) none

/-- The greatest transaction in a directory. -/
def scanLastReference (root : String) (directory : Directory) :
    Except StoreError (Option TransactionRef) :=
  if !directory.isPresent Layout.transactions then .ok none
  else
    match directory.entries? Layout.transactions with
    | .ok names => .ok (greatestReference names)
    | .error _ => .error (.file (.list (Layout.toText root Layout.transactions)))

/-- Opens a directory. -/
def «open» (root : String) (directory : Directory) : Except StoreError Disk := do
  let lastCommitted ← scanLastReference root directory
  return { root, directory, lastCommitted }

/-! ### Committing -/

/-- The contents of the file of a record. -/
def contentsOf {α : Type} (codec : Codec α) (context : String) (value : α) : Contents :=
  (codec.encodeRecord value).mapError fun cause => .unencodable context cause

/-- The contents of a file of text. -/
def contentsOfText (text : String) : Contents :=
  .ok text.toUTF8.toList

/-- The files of the records, in the order in which they are written: requests, responses,
rejections, histories, and the manifest last. -/
def filesOf (records : Records) : List (FilePath × Contents) :=
  records.requests.sorted.map (fun (reference, request) =>
      (Layout.request reference, contentsOf Codec.request "request" request)) ++
    records.responses.sorted.flatMap (fun (reference, response) =>
      [(Layout.response reference, contentsOf Codec.response "response" response),
        (Layout.responseText reference, contentsOfText response.render)]) ++
    records.errors.sorted.map (fun (reference, reason) =>
      (Layout.error reference, contentsOfText reason)) ++
    records.histories.sorted.map (fun (object, history) =>
      (Layout.history object, contentsOf Codec.history "history" history)) ++
    (records.manifest.map fun manifest =>
      (Layout.manifest, contentsOfText (Rendering.manifestRecord manifest))).toList

/-- Writes the pending records to files. -/
def commit (disk : Disk) : Except StoreError Unit × Disk :=
  match writeFiles disk.root disk.directory (filesOf disk.pending) with
  | (.ok (), directory) =>
    (.ok (), { disk with
      directory
      pending := {}
      lastCommitted := latest disk.lastCommitted disk.pending.lastReference })
  | (.error cause, directory) => (.error cause, { disk with directory })

/-! ### Reading -/

/-- A pending record if the view sees it, and else the committed one. -/
def overlay {α : Type} (view : View) (pending : Option α)
    (committed : Except StoreError (Option α)) : Except StoreError (Option α) :=
  match view, pending with
  | .uncommitted, some record => .ok (some record)
  | _, _ => committed

/-- The committed reason of a rejection. -/
def committedError (disk : Disk) (reference : TransactionRef) :
    Except StoreError (Option String) := do
  let bytes ← readFile? disk.root disk.directory (Layout.error reference)
  return bytes.map Text.ofUtf8Lossy

/-- The committed manifest. -/
def committedManifest (disk : Disk) : Except StoreError (Option ObjectRef) := do
  match ← readFile? disk.root disk.directory Layout.manifest with
  | none => return none
  | some bytes =>
    match Rendering.readManifestRecord? bytes with
    | some manifest => return some manifest
    | none => .error .malformedManifest

instance : Backend Disk where
  response disk view reference :=
    overlay view (disk.pending.responses.get? reference)
      (disk.readRecord? (Layout.response reference) Codec.response "response")
  request disk view reference :=
    overlay view (disk.pending.requests.get? reference)
      (disk.readRecord? (Layout.request reference) Codec.request "request")
  error disk view reference :=
    overlay view (disk.pending.errors.get? reference) (disk.committedError reference)
  history disk view object := do
    let history ← overlay view (disk.pending.histories.get? object)
      (disk.readRecord? (Layout.history object) Codec.history "history")
    return history.getD []
  manifest disk view := overlay view disk.pending.manifest disk.committedManifest
  lastReference disk := latest disk.pending.lastReference disk.lastCommitted
  write disk change := { disk with pending := change disk.pending }
  commit disk := disk.commit

end Disk

end ObjectLedger
