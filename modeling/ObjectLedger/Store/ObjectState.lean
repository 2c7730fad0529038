/-
**The state of objects in a store.**

* `LedgerView`: what running transactions see of a store: responses, histories, the manifest and
  the time.
* `LedgerView.classTag?`, `LedgerView.state`, `LedgerView.field?`: the class, all live updates and
  one field of an object, rebuilt from its history.
-/
import ObjectLedger.Store.Ledger

namespace ObjectLedger

/-- What running transactions see of a store. -/
structure LedgerView where
  response : TransactionRef → Except StoreError (Option Response)
  /-- The transactions behind the state of an object, the newest first. -/
  history : ObjectRef → Except StoreError (List TransactionRef)
  manifest : Except StoreError (Option ObjectRef)
  now : UInt64

/-- A store with its pending records. -/
def Ledger.view {σ : Type} [Backend σ] (ledger : Ledger σ) : LedgerView where
  response := Backend.response ledger.backend .uncommitted
  history := Backend.history ledger.backend .uncommitted
  manifest := Backend.manifest ledger.backend .uncommitted
  now := ledger.now

namespace LedgerView

/-- The response at an entry of the history of an object. -/
def responseOf (view : LedgerView) (object : ObjectRef) (entry : TransactionRef) :
    Except StoreError Response :=
  match view.response entry with
  | .error cause => .error cause
  | .ok none => .error (.missingResponse object entry)
  | .ok (some response) => .ok response

/-- The class tag of an object, none for an object that does not exist. -/
def classTag? (view : LedgerView) (object : ObjectRef) : Except StoreError (Option Update) := do
  let history ← view.history object
  match history.getLast? with
  | none => return none
  | some creation =>
    let response ← view.responseOf object creation
    match (response.updatesOf object).find? Update.isClassTag with
    | some tag => return some tag
    | none => .error (.classTagNotOldest object)

/-- The updates of an object along entries of its history, the newest first. -/
def updatesAlong (view : LedgerView) (object : ObjectRef) :
    List TransactionRef → Except StoreError (List Update)
  | [] => .ok []
  | entry :: rest => do
    let response ← view.responseOf object entry
    let others ← updatesAlong view object rest
    return response.updatesOf object ++ others

/-- The live updates of an object: its class tag and the latest value of each field. -/
def state (view : LedgerView) (object : ObjectRef) : Except StoreError (List Update) := do
  let history ← view.history object
  let updates ← view.updatesAlong object history
  return normalize (History.firstOfKeys updates)

/-- The value that an update gives to a field. -/
def valueOf? (field : FieldSignature) : Update → Option Value
  | .field _ other value => if other = field then some value else none
  | .classTag _ _ _ => none

/-- The value that the first update of a field gives to it, along entries of a history. Entries
after the one that has it are not looked at. -/
def fieldAlong (view : LedgerView) (object : ObjectRef) (field : FieldSignature) :
    List TransactionRef → Except StoreError (Option Value)
  | [] => .ok none
  | entry :: rest => do
    let response ← view.responseOf object entry
    match (response.updatesOf object).findSome? (valueOf? field) with
    | some value => return some value
    | none => fieldAlong view object field rest

/-- The latest value of a field of an object. -/
def field? (view : LedgerView) (object : ObjectRef) (field : FieldSignature) :
    Except StoreError (Option Value) := do
  let history ← view.history object
  view.fieldAlong object field history

end LedgerView

end ObjectLedger
