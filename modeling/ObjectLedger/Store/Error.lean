/-
**What can be wrong with a store.**

* `StoreError`: a store that contradicts itself, a write that it does not allow, or a file that
  cannot be used.
-/
import ObjectLedger.Codec.Code
import ObjectLedger.Reference

namespace ObjectLedger

/-- A file operation that did not succeed. -/
inductive FileError where
  | createRoot (path : String)
  | createFolder (path : String)
  | list (path : String)
  | read (path : String)
  | writeTemporary (path : String)
  | rename (source target : String)
  deriving DecidableEq, Repr

/-- The wording of a file operation that did not succeed. -/
def FileError.message : FileError → String
  | createRoot path => "Failed to create store root " ++ path
  | createFolder path => "Failed to create directory " ++ path
  | list path => "Failed to list " ++ path
  | read path => "Failed to read " ++ path
  | writeTemporary path => "Failed to write temp file " ++ path
  | rename source target => "Failed to rename " ++ source ++ " to " ++ target

/-- What can be wrong with a store. -/
inductive StoreError where
  /-- A history names a transaction without a response. -/
  | missingResponse (object : ObjectRef) (transaction : TransactionRef)
  /-- A history names a transaction that does not update the object. -/
  | noUpdates (object : ObjectRef) (transaction : TransactionRef)
  /-- A second transaction names a manifest. -/
  | manifestAlreadySet (manifest : ObjectRef) (transaction : TransactionRef)
  /-- The response to another request claims to name the manifest. -/
  | mismatchedInitialization (transaction : TransactionRef)
  /-- There is a response already. -/
  | alreadyPushed (transaction : TransactionRef)
  /-- There is no response to replace. -/
  | notPushed (transaction : TransactionRef)
  /-- The oldest transaction of a history does not tell the class of the object. -/
  | classTagNotOldest (object : ObjectRef)
  /-- No transaction of a history tells the class of the object. -/
  | noClassTag (object : ObjectRef)
  | file (cause : FileError)
  | undecodable (cause : UndecodableError)
  /-- A record that cannot be written. -/
  | unencodable (context : String) (cause : DecodeError)
  | malformedManifest
  deriving DecidableEq, Repr

namespace StoreError

/-- The wording of an error of the store. -/
def message : StoreError → String
  | missingResponse object transaction =>
    "STORE_CORRUPTED: history of " ++ object.toText ++ " refers to transaction " ++
      transaction.toText ++ " which has no response"
  | noUpdates object transaction =>
    "STORE_CORRUPTED: history of " ++ object.toText ++ " refers to transaction " ++
      transaction.toText ++ " which does not update it"
  | manifestAlreadySet manifest transaction =>
    "STORE_CORRUPTED: transaction " ++ transaction.toText ++
      " tries to set the manifest, already set to " ++ manifest.toText
  | mismatchedInitialization transaction =>
    "STORE_CORRUPTED: initialization response at " ++ transaction.toText ++
      " does not follow an initialization request"
  | alreadyPushed transaction =>
    "transaction " ++ transaction.toText ++ " has already been pushed"
  | notPushed transaction =>
    "transaction " ++ transaction.toText ++ " cannot be replaced: it was never pushed"
  | classTagNotOldest object =>
    "STORE_CORRUPTED: the history of " ++ object.toText ++ " does not end with its class tag"
  | noClassTag object =>
    "STORE_CORRUPTED: the history of " ++ object.toText ++ " has no class tag"
  | file cause => cause.message
  | undecodable cause => cause.message
  | unencodable context cause => "Failed to encode " ++ context ++ " to BCS: " ++ cause.message
  | malformedManifest => "Failed to parse manifest JSON"

end StoreError

end ObjectLedger
