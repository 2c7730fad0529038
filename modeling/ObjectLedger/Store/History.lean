/-
**Histories of objects.**

* `History.extend`: the history of an object after a response at a reference: the reference, then
  the older entries that still provide a key which no newer entry updates, then the oldest entry,
  which tells the class of the object.
* `History.firstOfKeys`: the updates that count when a history is read from its newest entry on.
-/
import ObjectLedger.Store.Error
import ObjectLedger.Response

namespace ObjectLedger.History

/-- How responses are looked up. -/
abbrev Responses := TransactionRef → Except StoreError (Option Response)

/-- The keys of the updates of a response about an object. -/
def keysOf (response : Response) (object : ObjectRef) : List UpdateKey :=
  (response.updatesOf object).map Update.key

/-- The entries that provide a key not covered by newer ones, and the number of entries that do
not. An entry at `reference` itself is skipped. -/
def providers (responses : Responses) (object : ObjectRef) (reference : TransactionRef) :
    List UpdateKey → List TransactionRef → Except StoreError (List TransactionRef × Nat)
  | _, [] => .ok ([], 0)
  | covered, entry :: rest =>
    if entry = reference then providers responses object reference covered rest
    else
      match responses entry with
      | .error cause => .error cause
      | .ok none => .error (.missingResponse object entry)
      | .ok (some response) =>
        let keys := keysOf response object
        if keys.isEmpty then .error (.noUpdates object entry)
        else
          match providers responses object reference (covered ++ keys) rest with
          | .error cause => .error cause
          | .ok (kept, dropped) =>
            if keys.all covered.contains then .ok (kept, dropped + 1)
            else .ok (entry :: kept, dropped)

/-- The history of an object after a response at `reference`, and the number of dropped entries. -/
def extend (responses : Responses) (reference : TransactionRef) (response : Response)
    (object : ObjectRef) (history : List TransactionRef) :
    Except StoreError (List TransactionRef × Nat) :=
  match history.getLast? with
  | none => .ok ([reference], 0)
  | some oldest =>
    match providers responses object reference (keysOf response object) history.dropLast with
    | .error cause => .error cause
    | .ok (kept, dropped) =>
      let last := if oldest = reference then [] else [oldest]
      .ok (reference :: kept ++ last, dropped)

/-- The first update of each key. -/
def firstOfKeys (updates : List Update) : List Update :=
  updates.foldl (fun kept update =>
    if kept.any fun earlier => earlier.key = update.key then kept else kept ++ [update]) []

end ObjectLedger.History
