/-
**A node: a store, and the reference of the next transaction.**

* `Node.start`: a node over a store, which goes on after the last reference recorded there.
* `Node.opened`: a node over the store that its settings name.
* `NodeAction`: what a node does; its changes stay when it ends with an error.
* `Request.answer`: what the response to a request gives, or why it gives nothing. A response of
  another kind than that of its request is an internal fault.
* `Node.submit`: runs a request as the next transaction and records what became of it. A rejection
  takes a reference as well.
* `Node.runView`: runs a view, of which nothing is recorded.
* `Node.redeliver`: records a transaction that was run elsewhere.
-/
import ObjectLedger.Node.Error
import ObjectLedger.Store.Medium
import ObjectLedger.Transaction.Build

namespace ObjectLedger

/-- A node over a backend. -/
structure Node (σ : Type) where
  config : NodeConfig
  ledger : Ledger σ
  /-- The linked classpaths that are kept. -/
  cache : ClasspathCache
  /-- The reference of the next transaction. -/
  next : TransactionRef

/-- What a node does. -/
abbrev NodeAction (σ : Type) := EStateM NodeError (Node σ)

/-- What a transaction that took effect gives to whoever asked for it. -/
inductive Answer where
  /-- Code was installed, under a reference that classpaths can use. -/
  | installed (reference : TransactionRef)
  | created (object : ObjectRef)
  | initialized
  /-- A method ended with a result, none for a method without one. -/
  | returned (result : Option Value)
  deriving DecidableEq, Repr

namespace CallOutcome

/-- The result of a call, or why there is none. -/
def result {Result : Type} (reference : TransactionRef) :
    CallOutcome Result → Except NodeError Result
  | successful result _ => .ok result
  | exception cause _ => .error (.exception reference cause)
  | failed failure => .error (.failed reference failure.cause)

end CallOutcome

namespace Response

/-- The gamete that was created. -/
def gameteResult (reference : TransactionRef) : Response → Except NodeError ObjectRef
  | gameteCreation _ gamete => .ok gamete
  | other => .error (.unexpected reference other)

/-- The transaction that installed code, or why it did not. -/
def jarResult (reference : TransactionRef) : Response → Except NodeError TransactionRef
  | jar (.successful _ _ _ _) => .ok reference
  | jar (.failed failure) => .error (.failed reference failure.cause)
  | other => .error (.unexpected reference other)

/-- The object that a constructor made, or why there is none. -/
def constructorResult (reference : TransactionRef) : Response → Except NodeError ObjectRef
  | constructorCall outcome => outcome.result reference
  | other => .error (.unexpected reference other)

/-- The result of a method, or why there is none. -/
def methodResult (reference : TransactionRef) : Response → Except NodeError (Option Value)
  | methodCall outcome => outcome.result reference
  | other => .error (.unexpected reference other)

end Response

/-- What the response to a request gives to whoever asked for the transaction. For a unit that is
installed for free and for the name of the manifest it is not looked at. -/
def Request.answer (reference : TransactionRef) : Request → Response → Except NodeError Answer
  | installInitialJar _ _, _ => .ok (.installed reference)
  | createGamete _ _ _, response => (response.gameteResult reference).map Answer.created
  | nameManifest _ _, _ => .ok .initialized
  | paid _ (.installJar _ _), response => (response.jarResult reference).map Answer.installed
  | paid _ (.construct _ _), response => (response.constructorResult reference).map Answer.created
  | paid _ (.invoke _ _ _), response => (response.methodResult reference).map Answer.returned
  | paid _ (.invokeStatic _ _), response => (response.methodResult reference).map Answer.returned

/-- The action of a result that is known. -/
def NodeAction.ofExcept {σ α : Type} : Except NodeError α → NodeAction σ α
  | .ok value => pure value
  | .error error => throw error

namespace Node

variable {σ : Type} [Backend σ]

/-! ### Starting -/

/-- A node over a store, which goes on after the last reference recorded there. -/
def start (config : NodeConfig) (ledger : Ledger σ) : Node σ where
  config
  ledger
  cache := { capacity := config.loaderCacheSize.toNat }
  next := (ledger.lastReference.map TransactionRef.next).getD .first

/-- A node over the store that its settings name: the files in a directory, or memory. -/
def opened (config : NodeConfig) (directory : Directory) : Except InternalError (Node Medium) :=
  match Medium.opened config.storeDir directory with
  | .ok medium => .ok (start config { backend := medium })
  | .error cause => .error (.openStore (config.storeDir.getD "") cause)

/-! ### Looking -/

/-- The request of a transaction, pending ones included. -/
def request (node : Node σ) (reference : TransactionRef) : Except StoreError (Option Request) :=
  Backend.request node.ledger.backend .uncommitted reference

/-- The response of a transaction, pending ones included. -/
def response (node : Node σ) (reference : TransactionRef) : Except StoreError (Option Response) :=
  Backend.response node.ledger.backend .uncommitted reference

/-- The committed manifest. -/
def manifest (node : Node σ) : Except StoreError (Option ObjectRef) :=
  Backend.manifest node.ledger.backend .committed

/-- The class tag and the latest value of each field of an object. -/
def state (node : Node σ) (object : ObjectRef) : Except StoreError (List Update) :=
  node.ledger.view.state object

/-- The class of an object and the transaction that installed it. -/
def classOf? (node : Node σ) (object : ObjectRef) :
    Except StoreError (Option (String × TransactionRef)) := do
  match ← node.ledger.view.classTag? object with
  | some (.classTag _ className jar) => return some (className, jar)
  | _ => return none

/-! ### Transactions -/

/-- The action of a step of the store. An error of the store is an internal fault. -/
def onLedger (step : Ledger σ → Except StoreError Unit × Ledger σ) : NodeAction σ Unit :=
  fun node =>
    match step node.ledger with
    | (.ok (), ledger) => .ok () { node with ledger }
    | (.error cause, ledger) => .error (.internal (.store cause)) { node with ledger }

/-- Makes the next transaction that of a reference. -/
def goOnAt (reference : TransactionRef) : NodeAction σ Unit :=
  modify fun node => { node with next := reference }

/-- Makes all records durable. -/
def commit : NodeAction σ Unit :=
  onLedger Ledger.commit

/-- Makes all records durable if that is to happen after every transaction. -/
def autoCommit : NodeAction σ Unit := do
  if (← get).config.autoCommit then commit

/-- Builds an outcome and keeps the classpaths that were linked for it. -/
def building (build : ClasspathCache → Except InternalError Outcome × ClasspathCache) :
    NodeAction σ Outcome := fun node =>
  match build node.cache with
  | (.ok outcome, cache) => .ok outcome { node with cache }
  | (.error cause, cache) => .error (.internal cause) { node with cache }

/-- Records a rejection as the next transaction. -/
def recordRejection (reference : TransactionRef) (request : Request) (reason : String) :
    NodeAction σ Unit := do
  modify fun node => { node with ledger := node.ledger.pushError reference request reason }
  goOnAt reference.next
  autoCommit

/-- Records a response as the next transaction. -/
def recordResponse (reference : TransactionRef) (request : Request) (response : Response) :
    NodeAction σ Unit := do
  onLedger fun ledger => ledger.push reference request response
  goOnAt reference.next
  autoCommit

/-- Runs a request as the next transaction and records what became of it. -/
def submit (request : Request) : NodeAction σ (TransactionRef × Response) := do
  let node ← get
  let reference := node.next
  match ← building fun cache =>
      Outcome.build node.config node.ledger.view cache reference request with
  | .rejected reason =>
    recordRejection reference request reason
    throw (.rejected reason)
  | .completed response =>
    recordResponse reference request response
    return (reference, response)
  | .failed response =>
    recordResponse reference request response
    return (reference, response)

/-- Runs a request as the next transaction; failures and exceptions are errors, too. -/
def add (request : Request) : NodeAction σ Answer := do
  let (reference, response) ← submit request
  NodeAction.ofExcept (request.answer reference response)

/-- What is answered once the outcome of a view is known. -/
def answerView (reference : TransactionRef) : Outcome → NodeAction σ (Option Value)
  | .rejected reason => throw (.rejected reason)
  | .completed response | .failed response =>
    NodeAction.ofExcept (response.methodResult reference)

/-- Runs a view. The next transaction takes the same reference. -/
def runView (request : Request) : NodeAction σ (Option Value) := do
  let node ← get
  let outcome ← building fun cache =>
    Outcome.buildView node.config node.ledger.view cache node.next request
  answerView node.next outcome

/-- Records a transaction that was run elsewhere: over the response of a known transaction, or as a
new one, after which the node goes on. All linked classpaths are given up, because another response
may install other code. -/
def redeliver (reference : TransactionRef) (request : Request) (response : Response) :
    NodeAction σ Unit := do
  let node ← get
  match node.response reference with
  | .error cause => throw (.internal (.store cause))
  | .ok (some _) => onLedger fun ledger => ledger.replace reference request response
  | .ok none =>
    onLedger fun ledger => ledger.push reference request response
    if node.next ≤ reference then goOnAt reference.next
  modify fun node => { node with cache := node.cache.clear }
  autoCommit

end Node

end ObjectLedger
