/-
**The machine: activations that run one instruction after the other.**

* `Machine.step`: one instruction of the top activation, or its end. Every instruction costs CPU;
  calls cost RAM for the activation and its locals, and new objects for their fields.
* `Machine.run`: steps until the first activation ends. A fault ends all activations at once, each
  of which gives back the gas it was restricted from.
* `Machine.construct`, `Machine.invoke`, `Machine.invokeStatic`: running code for a transaction.

Code that only contracts may call learns its caller: the account that pays if a transaction calls
it, or else the `this` of the calling activation. Payable code receives the coins in its first
argument before its body runs.
-/
import ObjectLedger.Machine.Arithmetic
import ObjectLedger.Machine.Frame
import ObjectLedger.Machine.Heap
import ObjectLedger.Machine.Primitive

namespace ObjectLedger.Machine

/-! ### Gas restrictions -/

/-- Restricts the gas that follows to an amount. -/
def restrictGas (amount : UInt64) : Run Unit := do
  let heap ← get
  match heap.charger.pushGas amount with
  | .ok charger => set { heap with charger }
  | .error refusal => Run.fail (.outOfGas refusal)

/-- The heap with the gas set aside last given back. -/
def releaseHeap (heap : Heap) : Heap :=
  { heap with charger := heap.charger.popGas }

/-- Gives back the gas set aside last. -/
def releaseGas : Run Unit :=
  modify releaseHeap

/-- The heap after restricted activations were given up. -/
def unwind (frames : List Frame) (heap : Heap) : Heap :=
  (frames.filter Frame.bounded).foldl (fun heap _ => releaseHeap heap) heap

/-- Runs a part; if it ends with a fault, the restriction is lifted first. -/
def releasingOnFault {α : Type} (part : Run α) : Run α := fun heap =>
  match part heap with
  | .ok value heap => .ok value heap
  | .error fault heap => .error fault (releaseHeap heap)

/-! ### Calls -/

variable (context : Context)

/-- The argument suits the parameter, in kind and class. -/
def checkActual (formal : ValueType) (actual : Value) : Run Unit := do
  if !actual.fits formal then
    Run.fail (.illegalArgument (actual.toText ++ " is not a " ++ formal.toText))
  match formal, actual with
  | .object className, .reference object =>
    if !(← Heap.isInstance context object className) then
      Run.fail (.illegalArgument (object.toText ++ " is not a " ++ className))
  | _, _ => pure ()

/-- The arguments suit the parameters, in number, kind and class. -/
def checkActuals (formals : List ValueType) (actuals : List Value) : Run Unit := do
  if formals.length ≠ actuals.length then
    Run.fail (.illegalArgument ("expected " ++ toString formals.length ++ " actuals, found " ++
      toString actuals.length))
  (formals.zip actuals).forM fun (formal, actual) => checkActual context formal actual

/-- The caller that code sees: none unless only contracts may call it. -/
def visibleCaller (annotations : Annotations) (caller : Option ObjectRef) :
    Except Throwable (Option ObjectRef) :=
  match annotations.fromContract, caller with
  | false, _ => .ok none
  | true, some caller => .ok (some caller)
  | true, none => .error (.illegalState "from_contract code called without a caller")

/-- The caller of code called by an activation on `this`. -/
def callerFrom (annotations : Annotations) (this : Option ObjectRef) :
    Run (Option ObjectRef) := do
  let refused := Throwable.illegalState "from_contract code can only be called by a contract"
  if !annotations.fromContract then return none
  match this with
  | none => Run.fail refused
  | some object =>
    if ← Heap.isInstance context object ClassName.contract then return some object
    else Run.fail refused

/-- The amount that the first argument of payable code names. -/
def paymentOf (actuals : List Value) : Except Throwable Amount :=
  let refused := Throwable.illegalArgument
    "payable code needs a non-negative amount as first argument"
  match actuals with
  | .bigInteger amount :: _ => .ok amount
  | .int amount :: _ =>
    if 0 ≤ amount.toInt then .ok (BitVec.ofNat 128 amount.toInt.toNat) else .error refused
  | _ => .error refused

/-- Moves the coins in the first argument from the caller to the receiver. -/
def receivePayment (caller receiver : Option ObjectRef) (actuals : List Value) : Run Unit := do
  match caller, receiver with
  | some caller, some receiver =>
    let amount ← Run.ofThrowing (paymentOf actuals)
    let balance ← Heap.getBalance context caller
    if balance.toNat < amount.toNat then
      Run.fail (.insufficientFunds caller amount)
    Heap.setBalance context caller (balance - amount)
    let received ← Heap.getBalance context receiver
    match Amount.ofNat? (received.toNat + amount.toNat) with
    | some total => Heap.setBalance context receiver total
    | none => Run.fail (.arithmetic "balance overflow")
  | _, _ => Run.fail (.illegalState "payable code needs a caller and a receiver")

/-- The activation of code under so many others. -/
def enter (depth : Nat) (code : List Instruction) (locals : List Value) (extraLocals : UInt16)
    (this caller : Option ObjectRef) (yields : Yield) (bounded : Bool) : Run Frame := do
  if depth ≥ context.maxCallDepth.toNat then
    Run.fail (.stackOverflow context.maxCallDepth)
  let locals := locals ++ List.replicate extraLocals.toNat .null
  Run.charge .cpu context.costs.invokeCpu
  Run.charge .ram (context.costs.ramOfActivation (saturate locals.length))
  return { code, position := 0, locals, stack := [], this, caller, yields, bounded }

/-- A new object, and the activation of a constructor on it. -/
def callConstructor (depth : Nat) (className : String) (definition : ConstructorDefinition)
    (actuals : List Value) (caller : Option ObjectRef) : Run (ObjectRef × Frame) := do
  checkActuals context definition.formals actuals
  let caller ← Run.ofThrowing (visibleCaller definition.annotations caller)
  let object ← Heap.allocate context className
  if definition.annotations.payable then
    receivePayment context caller (some object) actuals
  let frame ← enter context depth definition.code (.reference object :: actuals)
    definition.locals (some object) caller (.object object) false
  return (object, frame)

/-- The activation of a method. -/
def callMethod (depth : Nat) (definition : MethodDefinition) (this : Option ObjectRef)
    (actuals : List Value) (caller : Option ObjectRef) (bounded : Bool) : Run Frame := do
  checkActuals context definition.formals actuals
  let caller ← Run.ofThrowing (visibleCaller definition.annotations caller)
  if definition.annotations.payable then
    receivePayment context caller this actuals
  let receiver := this.toList.map Value.reference
  let yields := if definition.returns.isSome then Yield.value else Yield.nothing
  enter context depth definition.code (receiver ++ actuals) definition.locals this caller yields
    bounded

/-- The constructor of a signature. -/
def findConstructor (constructor : ConstructorSignature) :
    Except Throwable ConstructorDefinition :=
  match context.classes.resolveConstructor? constructor with
  | some definition => .ok definition
  | none => .error (.noSuchMethod ("no constructor " ++ constructor.toText))

/-- The instance method that a call on an instance of a class runs. -/
def findInstanceMethod (className : String) (method : MethodSignature) :
    Except Throwable MethodDefinition :=
  let missing := Throwable.noSuchMethod
    ("no instance method " ++ method.toText ++ " for class " ++ className)
  match context.classes.resolveMethod? className method with
  | some (_, definition) => if definition.isStatic then .error missing else .ok definition
  | none => .error missing

/-- The static method of a signature. -/
def findStaticMethod (method : MethodSignature) : Except Throwable MethodDefinition :=
  let missing := Throwable.noSuchMethod ("no static method " ++ method.toText)
  match context.classes.resolveMethod? method.definingClass method with
  | some (_, definition) => if definition.isStatic then .ok definition else .error missing
  | none => .error missing

/-- The method that a call from code runs. -/
def findCalled (method : MethodSignature) (receiver : Option ObjectRef) :
    Run MethodDefinition := do
  match receiver with
  | none => Run.ofThrowing (findStaticMethod context method)
  | some object =>
    let className ← Heap.classOf context object
    if !context.classes.isSubclass className method.definingClass then
      Run.fail (.classCast (object.toText ++ " is not a " ++ method.definingClass))
    Run.ofThrowing (findInstanceMethod context className method)

/-- The activation of a method called from code running on `this`. -/
def invokeFrom (depth : Nat) (this : Option ObjectRef) (method : MethodSignature)
    (receiver : Option ObjectRef) (actuals : List Value) (bounded : Bool) : Run Frame := do
  let definition ← findCalled context method receiver
  let caller ← callerFrom context definition.annotations this
  callMethod context depth definition receiver actuals caller bounded

/-! ### Primitives -/

/-- A text among the arguments of a primitive. -/
def textArgument : Value → Except Throwable String
  | .string text => .ok text
  | .null => .error (.nullPointer "null string")
  | other => .error (.classCast (other.toText ++ " is not a string"))

/-- The number of bytes of a text. -/
def textSize (text : String) : Nat :=
  text.utf8ByteSize

/-- Records an event. -/
def emitEvent (argument : Value) : Run Unit := do
  match argument with
  | .reference event =>
    if !(← Heap.isInstance context event ClassName.event) then
      Run.fail (.illegalArgument (event.toText ++ " is not an event"))
    Heap.emit event
  | .null => Run.fail (.nullPointer "null event")
  | other => Run.fail (.illegalArgument (other.toText ++ " is not an event"))

/-- The balance of a contract. -/
def balanceOf (argument : Value) : Run Value := do
  match argument with
  | .reference contract => return .bigInteger (← Heap.getBalance context contract)
  | .null => Run.fail (.nullPointer "")
  | other => Run.fail (.classCast (other.toText ++ " is not a contract"))

/-- Two texts in one, which costs RAM. -/
def concatenate (first second : Value) : Run Value := do
  let start ← Run.ofThrowing (textArgument first)
  let rest ← Run.ofThrowing (textArgument second)
  let joined := start ++ rest
  Run.charge .ram (context.costs.ramOfString (saturate (textSize joined)))
  return .string joined

/-- The time of the block as a machine integer, at most the greatest one. -/
def blockTime : Value :=
  .int (Int64.ofInt (min (Int.ofNat context.view.now.toNat) 0x7FFFFFFFFFFFFFFF))

/-- Runs a primitive for code with the given caller; the result is what it leaves. -/
def callPrimitive (primitive : Primitive) (arguments : List Value) (caller : Option ObjectRef) :
    Run (Option Value) := do
  match primitive, arguments with
  | .now, _ => return some (blockTime context)
  | .caller, _ =>
    match caller with
    | some caller => return some (.reference caller)
    | none =>
      Run.fail (.illegalState "caller() is only available to from_contract code")
  | .emit, argument :: _ =>
    emitEvent context argument
    return none
  | .balanceOf, argument :: _ => return some (← balanceOf context argument)
  | .concat, first :: second :: _ => return some (← concatenate context first second)
  | .length, argument :: _ =>
    let text ← Run.ofThrowing (textArgument argument)
    return some (.int (Int64.ofNat (textSize text)))
  | _, _ => Run.fail (.malformedCode "missing native argument")

/-! ### Steps -/

/-- The machine between two steps. -/
inductive Status where
  /-- Code is running; the top activation and those below it. -/
  | running (frame : Frame) (callers : List Frame)
  /-- The first activation ended. -/
  | finished (result : Option Value)

/-- Ends the top activation. -/
def leave (frame : Frame) (callers : List Frame) (result : Option Value) : Run Status := do
  if frame.bounded then releaseGas
  match callers with
  | [] => return .finished result
  | caller :: rest => return .running (caller.pushResult result) rest

/-- What an activation gives to its caller at its last instruction. -/
def resultOf (frame : Frame) : Except Throwable (Option Value) :=
  match frame.yields with
  | .nothing => .ok none
  | .object reference => .ok (some (.reference reference))
  | .value => do
    let (value, _) ← frame.pop
    .ok (some value)

/-- What an activation gives to its caller when there is no instruction left. -/
def resultAtEnd (frame : Frame) : Except Throwable (Option Value) :=
  match frame.yields with
  | .value => .error (.malformedCode "missing return value")
  | _ => resultOf frame

/-- Runs an instruction of the top activation, which stands after it. -/
def execute (frame : Frame) (callers : List Frame) : Instruction → Run Status
  | .push value => return .running (frame.push value) callers
  | .load slot => do
    let frame ← Run.ofThrowing (frame.load slot)
    return .running frame callers
  | .store slot => do
    let frame ← Run.ofThrowing (frame.store slot)
    return .running frame callers
  | .pop => do
    let (_, frame) ← Run.ofThrowing frame.pop
    return .running frame callers
  | .dup => do
    let (value, frame) ← Run.ofThrowing frame.pop
    return .running ((frame.push value).push value) callers
  | .new constructor => do
    let (actuals, frame) ← Run.ofThrowing (frame.popMany constructor.formals.length)
    let definition ← Run.ofThrowing (findConstructor context constructor)
    let caller ← callerFrom context definition.annotations frame.this
    let (_, called) ← callConstructor context (callers.length + 1) constructor.definingClass
      definition actuals caller
    return .running called (frame :: callers)
  | .getField field => do
    Run.charge .cpu context.costs.fieldAccessCpu
    let (object, frame) ← Run.ofThrowing frame.popReference
    let value ← Heap.getField context object field
    return .running (frame.push value) callers
  | .putField field => do
    Run.charge .cpu context.costs.fieldAccessCpu
    let (value, frame) ← Run.ofThrowing frame.pop
    let (object, frame) ← Run.ofThrowing frame.popReference
    Heap.setField context object field value
    return .running frame callers
  | .invoke method dispatch => do
    let (actuals, frame) ← Run.ofThrowing (frame.popMany method.formals.length)
    let (receiver, frame) ← Run.ofThrowing (frame.popReceiver dispatch)
    let called ← invokeFrom context (callers.length + 1) frame.this method receiver actuals false
    return .running called (frame :: callers)
  | .invokeWithGas method dispatch => do
    let (actuals, frame) ← Run.ofThrowing (frame.popMany method.formals.length)
    let (receiver, frame) ← Run.ofThrowing (frame.popReceiver dispatch)
    let (amount, frame) ← Run.ofThrowing frame.popGas
    restrictGas amount
    let called ← releasingOnFault
      (invokeFrom context (callers.length + 1) frame.this method receiver actuals true)
    return .running called (frame :: callers)
  | .native name arity => do
    let primitive ← Run.ofThrowing (Primitive.resolve name arity)
    Run.charge .cpu context.costs.nativeCpu
    let (arguments, frame) ← Run.ofThrowing (frame.popMany arity.toNat)
    let result ← callPrimitive context primitive arguments frame.caller
    return .running (frame.pushResult result) callers
  | .arithmetic operator => do
    let (second, frame) ← Run.ofThrowing frame.pop
    let (first, frame) ← Run.ofThrowing frame.pop
    let value ← Run.ofThrowing (operator.apply first second)
    return .running (frame.push value) callers
  | .lessThan => do
    let (second, frame) ← Run.ofThrowing frame.pop
    let (first, frame) ← Run.ofThrowing frame.pop
    let less ← Run.ofThrowing (first.lessThan second)
    return .running (frame.push (.boolean less)) callers
  | .equal => do
    let (second, frame) ← Run.ofThrowing frame.pop
    let (first, frame) ← Run.ofThrowing frame.pop
    return .running (frame.push (.boolean (first = second))) callers
  | .not => do
    let (value, frame) ← Run.ofThrowing frame.popBoolean
    return .running (frame.push (.boolean !value)) callers
  | .jump target => return .running (frame.jump target) callers
  | .jumpIfFalse target => do
    let (value, frame) ← Run.ofThrowing frame.popBoolean
    return .running (if value then frame else frame.jump target) callers
  | .ret => do
    let result ← Run.ofThrowing (resultOf frame)
    leave frame callers result
  | .throw className checked => do
    let (message, _) ← Run.ofThrowing frame.popMessage
    Run.fail ⟨className, message, checked⟩

/-- One instruction of the top activation, or its end if there is none left. -/
def step (frame : Frame) (callers : List Frame) : Run Status := do
  match frame.code[frame.position]? with
  | none =>
    let result ← Run.ofThrowing (resultAtEnd frame)
    leave frame callers result
  | some instruction =>
    Run.charge .cpu context.costs.instructionCpu
    execute context { frame with position := frame.position + 1 } callers instruction

/-- Steps until the first activation ends. The first number bounds the steps. -/
def run : Nat → Status → Run (Option Value)
  | _, .finished result => return result
  | 0, .running _ _ => throw .unfinished
  | fuel + 1, .running frame callers => fun heap =>
    match step context frame callers heap with
    | .ok status heap => run fuel status heap
    | .error fault heap => .error fault (unwind (frame :: callers) heap)

/-- More steps than the gas at hand pays for: each instruction costs at least one unit and an
activation ends once. Without such a cost, code may also run for very long. -/
def stepBound (heap : Heap) : Nat :=
  0x4000000000000000 + 2 * heap.charger.unused.toNat

/-- Runs an activation to its end. -/
def runFrame (frame : Frame) : Run (Option Value) := do
  run context (stepBound (← get)) (.running frame [])

/-! ### Running code for a transaction -/

/-- Runs a constructor for an account; the result is the new object. -/
def construct (caller : ObjectRef) (constructor : ConstructorSignature)
    (actuals : List Value) : Run ObjectRef := do
  let definition ← Run.ofThrowing (findConstructor context constructor)
  let (object, frame) ← callConstructor context 0 constructor.definingClass definition actuals
    (some caller)
  discard (runFrame context frame)
  return object

/-- Runs an instance method for an account. -/
def invoke (caller : ObjectRef) (method : MethodSignature) (receiver : ObjectRef)
    (actuals : List Value) : Run (Option Value) := do
  if !(← Heap.isInstance context receiver method.definingClass) then
    Run.fail (.illegalArgument (receiver.toText ++ " is not a " ++ method.definingClass))
  let className ← Heap.classOf context receiver
  let definition ← Run.ofThrowing (findInstanceMethod context className method)
  let frame ← callMethod context 0 definition (some receiver) actuals (some caller) false
  runFrame context frame

/-- Runs a static method for an account. -/
def invokeStatic (caller : ObjectRef) (method : MethodSignature) (actuals : List Value) :
    Run (Option Value) := do
  let definition ← Run.ofThrowing (findStaticMethod context method)
  let frame ← callMethod context 0 definition none actuals (some caller) false
  runFrame context frame

end ObjectLedger.Machine
