/-
**What a node answers instead of a result.**

* `NodeError`: a rejection leaves no trace but a record of its reason; a failure and an exception
  are transactions of the ledger; an internal fault is not to be blamed on the request.
-/
import ObjectLedger.Transaction.Outcome

namespace ObjectLedger

/-- Why a node gives no result. -/
inductive NodeError where
  | rejected (reason : String)
  /-- The transaction took effect as a failure. -/
  | failed (reference : TransactionRef) (cause : Cause)
  /-- The transaction took effect and ended with an exception. -/
  | exception (reference : TransactionRef) (cause : Cause)
  | internal (cause : InternalError)
  deriving DecidableEq, Repr

namespace NodeError

/-- The response is not of the kind that its request leads to. -/
def unexpected (reference : TransactionRef) (response : Response) : NodeError :=
  internal (.unexpectedResponse reference response.ending)

/-- The wording of what a node answers instead of a result. -/
def message : NodeError → String
  | rejected reason => rejectionText reason
  | failed reference cause =>
    "transaction " ++ reference.toText ++ " failed: " ++ cause.toText
  | exception reference cause =>
    "transaction " ++ reference.toText ++ " threw " ++ cause.toText
  | internal cause => "internal error: " ++ cause.message

/-- The transaction that took effect all the same. -/
def reference? : NodeError → Option TransactionRef
  | failed reference _ => some reference
  | exception reference _ => some reference
  | _ => none

/-- The throwable behind a failure or an exception. -/
def cause? : NodeError → Option Cause
  | failed _ cause => some cause
  | exception _ cause => some cause
  | _ => none

/-- The request was rejected. -/
def isRejection : NodeError → Bool
  | rejected _ => true
  | _ => false

/-- The fault inside the node. -/
def source? : NodeError → Option InternalError
  | internal cause => some cause
  | _ => none

end NodeError

end ObjectLedger
