/-
**The store of a node.**

* `Ledger`: records in a backend, the time of the block, and counters.
* `Ledger.push`: records a new transaction and extends the histories of the objects it updates.
  Every check comes before the first write.
* `Ledger.replace`, `Ledger.pushError`, `Ledger.commit`: overwrites a response without touching
  histories, records a rejection, and makes the pending records committed ones.
-/
import ObjectLedger.Store.Backend
import ObjectLedger.Store.History
import ObjectLedger.Store.Metrics

namespace ObjectLedger

/-- The store of a node over a backend. -/
structure Ledger (σ : Type) where
  backend : σ
  /-- The time of the block, in milliseconds. -/
  now : UInt64 := 0
  metrics : Metrics := {}

namespace Ledger

variable {σ : Type} [Backend σ]

/-- The objects that a response updates, in increasing order. -/
def updatedObjects (response : Response) : List ObjectRef :=
  normalize (response.updates.map Update.object)

/-- The histories of objects after a response, in order, and the counters. The histories found
before an error are counted as well. -/
def extendedHistories (backend : σ) (reference : TransactionRef) (response : Response) :
    Metrics → List ObjectRef →
      Except StoreError (List (ObjectRef × List TransactionRef)) × Metrics
  | metrics, [] => (.ok [], metrics)
  | metrics, object :: rest =>
    match Backend.history backend .uncommitted object with
    | .error cause => (.error cause, metrics)
    | .ok history =>
      match History.extend (Backend.response backend .uncommitted) reference response object
          history with
      | .error cause => (.error cause, metrics)
      | .ok (extended, dropped) =>
        let metrics := metrics.recordExpansion (UInt64.ofNat dropped)
        match extendedHistories backend reference response metrics rest with
        | (.ok others, metrics) => (.ok ((object, extended) :: others), metrics)
        | (.error cause, metrics) => (.error cause, metrics)

/-- The manifest that a transaction names, if it does. A manifest is named only once, and only by
a request for it. -/
def newManifest (backend : σ) (reference : TransactionRef) (request : Request)
    (response : Response) : Except StoreError (Option ObjectRef) :=
  if response.isInitialization then
    match request with
    | .nameManifest _ manifest =>
      match Backend.manifest backend .uncommitted with
      | .error cause => .error cause
      | .ok (some earlier) => .error (.manifestAlreadySet earlier reference)
      | .ok none => .ok (some manifest)
    | _ => .error (.mismatchedInitialization reference)
  else .ok none

/-- Writes a transaction, histories, and the manifest if it is named. -/
def writeTransaction (reference : TransactionRef) (request : Request) (response : Response)
    (histories : List (ObjectRef × List TransactionRef)) (manifest : Option ObjectRef)
    (records : Records) : Records :=
  let records := records.putTransaction reference request response
  let records := histories.foldl
    (fun records (object, history) => records.putHistory object history) records
  match manifest with
  | some manifest => records.putManifest manifest
  | none => records

/-- Records a new transaction and extends the histories of the objects it updates. -/
def push (ledger : Ledger σ) (reference : TransactionRef) (request : Request)
    (response : Response) : Except StoreError Unit × Ledger σ :=
  match Backend.response ledger.backend .uncommitted reference with
  | .error cause => (.error cause, ledger)
  | .ok (some _) => (.error (.alreadyPushed reference), ledger)
  | .ok none =>
    match newManifest ledger.backend reference request response with
    | .error cause => (.error cause, ledger)
    | .ok manifest =>
      match extendedHistories ledger.backend reference response ledger.metrics
          (updatedObjects response) with
      | (.error cause, metrics) => (.error cause, { ledger with metrics })
      | (.ok histories, metrics) =>
        (.ok (), { ledger with
          backend := Backend.write ledger.backend
            (writeTransaction reference request response histories manifest)
          metrics := metrics.recordPush })

/-- Overwrites the response of a transaction. Histories stay as they are. -/
def replace (ledger : Ledger σ) (reference : TransactionRef) (request : Request)
    (response : Response) : Except StoreError Unit × Ledger σ :=
  match Backend.response ledger.backend .uncommitted reference with
  | .error cause => (.error cause, ledger)
  | .ok none => (.error (.notPushed reference), ledger)
  | .ok (some _) =>
    (.ok (), { ledger with
      backend := Backend.write ledger.backend
        fun records => records.putTransaction reference request response
      metrics := ledger.metrics.recordReplace })

/-- Records a rejection. -/
def pushError (ledger : Ledger σ) (reference : TransactionRef) (request : Request)
    (reason : String) : Ledger σ :=
  { ledger with
    backend := Backend.write ledger.backend
      fun records => records.putError reference request reason
    metrics := ledger.metrics.recordError }

/-- Makes the pending records committed ones. -/
def commit (ledger : Ledger σ) : Except StoreError Unit × Ledger σ :=
  match Backend.commit ledger.backend with
  | (.ok (), backend) => (.ok (), { ledger with backend, metrics := ledger.metrics.recordCommit })
  | (.error cause, backend) => (.error cause, { ledger with backend })

/-- The greatest reference ever recorded. -/
def lastReference (ledger : Ledger σ) : Option TransactionRef :=
  Backend.lastReference ledger.backend

end Ledger

end ObjectLedger
