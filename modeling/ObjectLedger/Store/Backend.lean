/-
**Where a store keeps its records.**

* `Records`: requests, responses, rejections, histories and the manifest.
* `Backend`: reading and writing of records. Writes are pending until a commit; a read sees
  either the committed records only or the pending ones as well.
-/
import ObjectLedger.Request
import ObjectLedger.Response
import ObjectLedger.Store.Error
import ObjectLedger.Table

namespace ObjectLedger

/-- Which records a read can see. -/
inductive View where
  | committed
  /-- The committed records under the pending ones. -/
  | uncommitted
  deriving DecidableEq, Repr

/-- The records of a store. -/
structure Records where
  requests : Table TransactionRef Request := {}
  responses : Table TransactionRef Response := {}
  /-- Why requests were rejected. -/
  errors : Table TransactionRef String := {}
  /-- The transactions behind the state of each object, the newest first. -/
  histories : Table ObjectRef (List TransactionRef) := {}
  manifest : Option ObjectRef := none
  deriving Inhabited

/-- The greater of two references, each of which may be missing. -/
def latest : Option TransactionRef → Option TransactionRef → Option TransactionRef
  | none, other => other
  | other, none => other
  | some first, some second => some (first.max second)

namespace Records

/-- The greatest reference with a response or a rejection. -/
def lastReference (records : Records) : Option TransactionRef :=
  (records.responses.keys ++ records.errors.keys).foldl (fun last key => latest last (some key))
    none

/-- Records a transaction. -/
def putTransaction (records : Records) (reference : TransactionRef) (request : Request)
    (response : Response) : Records :=
  { records with
    requests := records.requests.insert reference request
    responses := records.responses.insert reference response }

/-- Records a rejection. -/
def putError (records : Records) (reference : TransactionRef) (request : Request)
    (reason : String) : Records :=
  { records with
    requests := records.requests.insert reference request
    errors := records.errors.insert reference reason }

/-- Records the history of an object. -/
def putHistory (records : Records) (object : ObjectRef) (history : List TransactionRef) :
    Records :=
  { records with histories := records.histories.insert object history }

/-- Records the manifest. -/
def putManifest (records : Records) (manifest : ObjectRef) : Records :=
  { records with manifest := some manifest }

/-- The records with newer ones written over them. -/
def merge (older newer : Records) : Records where
  requests := older.requests.merge newer.requests
  responses := older.responses.merge newer.responses
  errors := older.errors.merge newer.errors
  histories := older.histories.merge newer.histories
  manifest := newer.manifest <|> older.manifest

end Records

/-- A place that keeps the records of a store. -/
class Backend (σ : Type) where
  response : σ → View → TransactionRef → Except StoreError (Option Response)
  request : σ → View → TransactionRef → Except StoreError (Option Request)
  error : σ → View → TransactionRef → Except StoreError (Option String)
  /-- The history of an object, empty for an object without one. -/
  history : σ → View → ObjectRef → Except StoreError (List TransactionRef)
  manifest : σ → View → Except StoreError (Option ObjectRef)
  /-- The greatest reference ever recorded. -/
  lastReference : σ → Option TransactionRef
  /-- Changes the pending records. -/
  write : σ → (Records → Records) → σ
  /-- Makes the pending records committed ones. -/
  commit : σ → Except StoreError Unit × σ

end ObjectLedger
