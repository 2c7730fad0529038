/-
**Paid transactions: the purchase of gas, and the two ways to end.**

* `Paid.start`: the checks and the purchase of gas, in a fixed order. What goes wrong up to the
  purchase is a rejection.
* `Paid.fail`: the caller keeps the balance and the nonce it had after the purchase; everything
  else is given up, and the rest of the gas is the penalty.
* `Paid.complete`: the storage of the response is charged and the unused gas is given back.
-/
import ObjectLedger.Machine.Heap
import ObjectLedger.Text.Quoted
import ObjectLedger.Transaction.Minimum
import ObjectLedger.Transaction.Outcome

namespace ObjectLedger

/-- A paid transaction whose caller has bought its gas. -/
structure Paid where
  context : Context
  heap : Heap
  action : Action
  caller : ObjectRef
  gasPrice : UInt64
  /-- The transaction is a view, which must not change any object. -/
  isView : Bool
  /-- The balance and the nonce of the caller right after the purchase of gas. -/
  reserved : List Update

namespace Paid

/-- Why a fault stops a transaction where nothing can be thrown. -/
def unexpected : Fault → Stop
  | .thrown throwable => .internal (.unexpectedThrowable throwable)
  | .internal cause => .internal (.store cause)
  | .unfinished => .internal .unfinished

/-- The result of a run where nothing can be thrown, and the heap after it. -/
def expectNoFault {α : Type} (run : Run α) (heap : Heap) : Except Stop (α × Heap) :=
  match run heap with
  | .ok value heap => .ok (value, heap)
  | .error fault _ => .error (unexpected fault)

/-- A look into the store. -/
def ofStore {α : Type} (look : Except StoreError α) : Except Stop α :=
  look.mapError fun cause => .internal (.store cause)

/-- The value can be written. -/
def checkEncodable {α : Type} (codec : Codec α) (what : String) (value : α) :
    Except Stop Unit :=
  match codec.oversize? value with
  | none => .ok ()
  | some length => .error (.internal (.unencodable what (.sequenceTooLong length)))

/-! ### Start -/

/-- The request is for the chain of the node. -/
def checkChain (config : NodeConfig) (header : Header) : Except Stop Unit :=
  if header.chainId = config.chainId then .ok ()
  else
    .error (.rejected ("incorrect chain id: the request reports " ++
      Text.quoted header.chainId ++ " but the node requires " ++ Text.quoted config.chainId))

/-- The caller is an account. -/
def checkCaller (view : LedgerView) (classes : LinkedClasspath) (caller : ObjectRef) :
    Except Stop Unit := do
  let noAccount : Stop :=
    .rejected ("the caller " ++ caller.toText ++ " is not an externally owned account")
  match ← ofStore (view.classTag? caller) with
  | none => .error (.rejected ("unknown caller " ++ caller.toText))
  | some (.classTag _ className _) =>
    if classes.isSubclass className ClassName.account then .ok () else .error noAccount
  | some (.field _ _ _) => .error noAccount

/-- The request is signed with the key of its caller. -/
def checkSignature (algorithm : SignatureAlgorithm) (view : LedgerView) (request : Request)
    (header : Header) : Except Stop Unit := do
  match ← ofStore (view.field? header.caller .publicKey) with
  | some (.string key) =>
    checkEncodable Codec.request "request for signing" request.withoutSignature
    match algorithm.verify request.signedBytes header.signature key with
    | .ok true => .ok ()
    | .ok false =>
      .error (.rejected ("invalid request signature (" ++ algorithm.name ++ ")"))
    | .error cause => .error (.rejected ("invalid request signature: " ++ cause.message))
  | _ =>
    .error (.rejected ("the caller " ++ header.caller.toText ++ " has no public key"))

/-- The gas account after the base cost, the loading of the classpath and the storage of the
request. -/
def chargeStart (costs : CostModel) (request : Request) (classes : LinkedClasspath)
    (gasLimit : UInt64) : Except OutOfGas Charger := do
  let charger := Charger.withLimit gasLimit
  let charger ← charger.charge .cpu (saturatingAdd costs.baseCpu (costs.cpuOfClasspath classes))
  let charger ← charger.charge .ram (costs.ramOfClasspath classes)
  charger.charge .storage (costs.storageOfBytes request.size)

/-- The balance and the nonce of the caller. -/
def loadAccount (context : Context) (caller : ObjectRef) : Run (Amount × Amount) := do
  let balance ← Heap.getBalance context caller
  let nonce ← Heap.getNonce context caller
  return (balance, nonce)

/-- The balance and the nonce of the caller, and the heap with the caller in it. A caller that
cannot be loaded has not paid for anything yet. -/
def callerAccount (context : Context) (caller : ObjectRef) (heap : Heap) :
    Except Stop ((Amount × Amount) × Heap) :=
  match loadAccount context caller heap with
  | .ok account heap => .ok (account, heap)
  | .error (.thrown throwable) _ =>
    .error (.rejected ("cannot load the caller " ++ caller.toText ++ ": " ++
      throwable.cause.toText))
  | .error fault _ => .error (unexpected fault)

/-- The nonce of the request is that of the caller; a view may have any. -/
def checkNonce (isView : Bool) (header : Header) (nonce : Amount) : Except Stop Unit :=
  if isView || nonce = header.nonce then .ok ()
  else
    .error (.rejected ("incorrect nonce: the request reports " ++ toString header.nonce.toNat ++
      " but the account contains " ++ toString nonce.toNat))

/-- The price of all gas. -/
def priceOf (gasLimit gasPrice : UInt64) : Amount :=
  BitVec.ofNat 128 (gasLimit.toNat * gasPrice.toNat)

/-- The nonce after a transaction; a view leaves it as it is. -/
def nextNonce (isView : Bool) (nonce : Amount) : Except Stop Amount :=
  if isView then .ok nonce
  else
    match Amount.ofNat? (nonce.toNat + 1) with
    | some next => .ok next
    | none => .error (.rejected "the nonce of the caller overflows")

/-- The gas limit of a request: a view has at most that of the node. -/
def gasLimitOf (config : NodeConfig) (isView : Bool) (header : Header) : UInt64 :=
  if isView then min header.gasLimit config.maxGasPerView else header.gasLimit

/-- Checks a request and buys its gas. -/
def start (config : NodeConfig) (view : LedgerView) (reference : TransactionRef)
    (header : Header) (action : Action) (classes : LinkedClasspath) (extra : UInt64)
    (isView : Bool) : Except Stop Paid := do
  let request := Request.paid header action
  let caller := header.caller
  checkChain config header
  checkCaller view classes caller
  checkSignature config.signature view request header
  let gasLimit := gasLimitOf config isView header
  checkEncodable Codec.request "request" request
  let minimal := minimalGas config.gas request action gasLimit classes extra
  if gasLimit < minimal then
    .error (.rejected ("not enough gas to start the transaction: " ++
      toString gasLimit.toNat ++ " units offered, at least " ++ toString minimal.toNat ++
      " needed"))
  let charger ← (chargeStart config.gas request classes gasLimit).mapError fun refusal =>
    Stop.rejected refusal.message
  let context : Context := ⟨view, classes, config.gas, reference, config.maxCallDepth⟩
  let ((balance, nonce), heap) ← callerAccount context caller { charger }
  checkNonce isView header nonce
  let price := priceOf gasLimit header.gasPrice
  if balance.toNat < price.toNat then
    .error (.rejected ("the caller " ++ caller.toText ++ " has not enough funds to buy " ++
      toString gasLimit.toNat ++ " units of gas"))
  let balance := balance - price
  let ((), heap) ← expectNoFault (Heap.setBalance context caller balance) heap
  let next ← nextNonce isView nonce
  let ((), heap) ←
    if isView then .ok ((), heap) else expectNoFault (Heap.setNonce context caller next) heap
  return {
    context, heap, action, caller, isView
    gasPrice := header.gasPrice
    reserved := [.field caller .balance (.bigInteger balance),
      .field caller .nonce (.bigInteger next)] }

/-! ### Ends -/

/-- Ends with a failure. -/
def fail (paid : Paid) (cause : Cause) : Outcome :=
  .failed (paid.action.failed
    { updates := paid.reserved
      gas := paid.heap.charger.consumed
      penalty := paid.heap.charger.penalty
      cause })

/-- What can be reached from the roots and the caller, the balance and the nonce of the caller
always included. -/
def collectUpdates (paid : Paid) (roots : List ObjectRef) : Run (List Update) := do
  let (balance, nonce) ← loadAccount paid.context paid.caller
  let updates := (← get).updates (roots ++ [paid.caller])
  return normalize (updates ++ [.field paid.caller .balance (.bigInteger balance),
    .field paid.caller .nonce (.bigInteger nonce)])

/-- The update is about the balance or the nonce of the caller. -/
def isGasUpdate (paid : Paid) : Update → Bool
  | .field object field _ => object = paid.caller && (field = .balance || field = .nonce)
  | .classTag _ _ _ => false

/-- Gives the unused gas back to the caller. -/
def refund (paid : Paid) : Run Unit := do
  let heap ← get
  let amount := heap.charger.unused.toNat * paid.gasPrice.toNat
  let balance ← Heap.getBalance paid.context paid.caller
  Heap.setBalance paid.context paid.caller (Amount.saturate (balance.toNat + amount))

/-- Ends after code that ran to its end or to an exception. The response is built once to know its
size, and once more after the refund; the balance and the nonce of the caller are part of it both
times, so that the size stays the same. -/
def complete (paid : Paid) (roots : List ObjectRef) (respond : Effects → Response) :
    Except Stop Outcome := do
  let (updates, heap) ← expectNoFault (paid.collectUpdates roots) paid.heap
  let paid := { paid with heap }
  match if paid.isView then updates.find? fun update => !paid.isGasUpdate update else none with
  | some update =>
    return paid.fail
      (Throwable.sideEffects ("view code modified " ++ update.object.toText)).cause
  | none =>
    let events := heap.events
    let candidate := respond ⟨updates, events, heap.charger.consumed⟩
    checkEncodable Codec.response "response" candidate
    match heap.charger.charge .storage (paid.context.costs.storageOfBytes candidate.size) with
    | .error refusal => return paid.fail (Throwable.outOfGas refusal).cause
    | .ok charger =>
      let ((), heap) ← expectNoFault paid.refund { heap with charger }
      let (updates, heap) ← expectNoFault (paid.collectUpdates roots) heap
      return .completed (respond ⟨updates, events, heap.charger.consumed⟩)

/-- Ends after a fault: a checked throwable is an exception if the code may throw it, and a failure
otherwise. -/
def settleFault (paid : Paid) (fault : Fault) (throwsExceptions : Bool) (roots : List ObjectRef)
    (exception : Cause → Effects → Response) : Except Stop Outcome :=
  match fault with
  | .thrown throwable =>
    if throwable.checked && throwsExceptions then
      paid.complete roots (exception throwable.cause)
    else .ok (paid.fail throwable.cause)
  | other => .error (unexpected other)

end Paid

end ObjectLedger
