/-
**Activations of code.**

* `Frame`: code that is running, with its locals and its stack of operands.
* `Frame.pop`, `Frame.popMany`, `Frame.popReference`, …: taking operands, or what is thrown if they
  are missing or of the wrong kind.
-/
import ObjectLedger.Code.Instruction
import ObjectLedger.Machine.Throwable

namespace ObjectLedger

/-- What code gives to its caller when it ends. -/
inductive Yield where
  | nothing
  /-- The value on top of the stack. -/
  | value
  /-- The object that the constructor worked on. -/
  | object (reference : ObjectRef)
  deriving DecidableEq, Repr

/-- An activation of code. -/
structure Frame where
  code : List Instruction
  /-- The place of the next instruction. -/
  position : Nat
  locals : List Value
  /-- The operands, the top one first. -/
  stack : List Value
  this : Option ObjectRef
  /-- The caller, for code that only contracts may call. -/
  caller : Option ObjectRef
  yields : Yield
  /-- The gas of the activation was restricted when it was called. -/
  bounded : Bool
  deriving Repr

namespace Frame

/-- Too few operands. -/
def underflow : Throwable :=
  .malformedCode "operand stack underflow"

/-- The frame with one more operand. -/
def push (frame : Frame) (value : Value) : Frame :=
  { frame with stack := value :: frame.stack }

/-- The frame with the result of a call, if there is one, as one more operand. -/
def pushResult (frame : Frame) (result : Option Value) : Frame :=
  { frame with stack := result.toList ++ frame.stack }

/-- Takes the top operand. -/
def pop (frame : Frame) : Except Throwable (Value × Frame) :=
  match frame.stack with
  | [] => .error underflow
  | value :: rest => .ok (value, { frame with stack := rest })

/-- Takes so many operands, the one pushed first in front. -/
def popMany (frame : Frame) (count : Nat) : Except Throwable (List Value × Frame) :=
  if frame.stack.length < count then .error underflow
  else
    .ok ((frame.stack.take count).reverse, { frame with stack := frame.stack.drop count })

/-- Takes an object. -/
def popReference (frame : Frame) : Except Throwable (ObjectRef × Frame) := do
  let (value, frame) ← frame.pop
  match value with
  | .reference object => .ok (object, frame)
  | .null => .error (.nullPointer "")
  | other => .error (.classCast (other.toText ++ " is not an object"))

/-- Takes a truth value. -/
def popBoolean (frame : Frame) : Except Throwable (Bool × Frame) := do
  let (value, frame) ← frame.pop
  match value with
  | .boolean truth => .ok (truth, frame)
  | other => .error (.classCast (other.toText ++ " is not a boolean"))

/-- Takes an amount of gas; one above all words counts as the greatest word. -/
def popGas (frame : Frame) : Except Throwable (UInt64 × Frame) := do
  let (value, frame) ← frame.pop
  let invalid := Throwable.illegalArgument ("invalid gas amount " ++ value.toText)
  match value with
  | .int amount =>
    if 0 ≤ amount.toInt then .ok (saturate amount.toInt.toNat, frame) else .error invalid
  | .bigInteger amount => .ok (saturate amount.toNat, frame)
  | _ => .error invalid

/-- Takes the message of a throwable: a text, null for none, or the text of another value. -/
def popMessage (frame : Frame) : Except Throwable (String × Frame) := do
  let (value, frame) ← frame.pop
  match value with
  | .string message => .ok (message, frame)
  | .null => .ok ("", frame)
  | other => .ok (other.toText, frame)

/-- Takes the receiver of a call, if the call has one. -/
def popReceiver (frame : Frame) (dispatch : Dispatch) :
    Except Throwable (Option ObjectRef × Frame) :=
  match dispatch with
  | .virtual => do
    let (receiver, frame) ← frame.popReference
    .ok (some receiver, frame)
  | .static => .ok (none, frame)

/-- No such local. -/
def noSuchLocal : Throwable :=
  .malformedCode "no such local"

/-- The value of a local. -/
def load (frame : Frame) (slot : UInt16) : Except Throwable Frame :=
  match frame.locals[slot.toNat]? with
  | some value => .ok (frame.push value)
  | none => .error noSuchLocal

/-- Gives a local the top operand. -/
def store (frame : Frame) (slot : UInt16) : Except Throwable Frame := do
  let (value, frame) ← frame.pop
  if slot.toNat < frame.locals.length then
    .ok { frame with locals := frame.locals.set slot.toNat value }
  else .error noSuchLocal

/-- The frame about to run another instruction. -/
def jump (frame : Frame) (target : UInt32) : Frame :=
  { frame with position := target.toNat }

end Frame

end ObjectLedger
