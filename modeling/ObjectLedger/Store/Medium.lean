/-
**Either place for the records of a store.**

* `Medium`: records in memory, or in the files of a directory. It is a backend as they are.
* `Medium.opened`: the medium that settings ask for.
* `Medium.directory`, `Medium.withDirectory`: the files behind a medium.
-/
import ObjectLedger.Store.Disk
import ObjectLedger.Store.Memory

namespace ObjectLedger

/-- Where a store keeps its records. -/
inductive Medium where
  | memory (memory : Memory)
  | disk (disk : Disk)
  deriving Inhabited

namespace Medium

/-- The medium of a path: the files in the directory there, or memory if there is no path. -/
def opened (root : Option String) (directory : Directory) : Except StoreError Medium :=
  match root with
  | none => .ok (.memory {})
  | some root => (Disk.«open» root directory).map Medium.disk

/-- The files that the records are kept in; there are none in memory. -/
def directory : Medium → Directory
  | memory _ => {}
  | disk store => store.directory

/-- The medium after its files were changed by someone else. -/
def withDirectory (medium : Medium) (directory : Directory) : Medium :=
  match medium with
  | memory store => memory store
  | disk store => disk { store with directory }

instance : Backend Medium where
  response
    | .memory store, view, reference => Backend.response store view reference
    | .disk store, view, reference => Backend.response store view reference
  request
    | .memory store, view, reference => Backend.request store view reference
    | .disk store, view, reference => Backend.request store view reference
  error
    | .memory store, view, reference => Backend.error store view reference
    | .disk store, view, reference => Backend.error store view reference
  history
    | .memory store, view, object => Backend.history store view object
    | .disk store, view, object => Backend.history store view object
  manifest
    | .memory store, view => Backend.manifest store view
    | .disk store, view => Backend.manifest store view
  lastReference
    | .memory store => Backend.lastReference store
    | .disk store => Backend.lastReference store
  write
    | .memory store, change => .memory (Backend.write store change)
    | .disk store, change => .disk (Backend.write store change)
  commit
    | .memory store => (Backend.commit store).map id Medium.memory
    | .disk store => (Backend.commit store).map id Medium.disk

end Medium

end ObjectLedger
