/-
**What instructions make of their activation.**

* `Frame.Continues`: the same activation at another point. `Frame.pop_continues`, …: taking operands
  keeps it.
* `Frame.alone?`: what an instruction makes of its activation if it needs nothing else.
  **`Machine.execute_of_alone?`**: it throws, or the activation goes on, and the rest stays.
-/
import ObjectLedger.Machine.Step
import ObjectLedger.Proofs.Except

namespace ObjectLedger

variable {α β : Type} {context : Context}

/-! ### Operands -/

namespace Frame

variable {frame after : Frame}

/-- The same activation at another point: it runs the same code, on the same object, for the same
caller and under the same restriction of gas, if any. -/
structure Continues (frame after : Frame) : Prop where
  code_eq : after.code = frame.code
  this_eq : after.this = frame.this
  caller_eq : after.caller = frame.caller
  bounded_eq : after.bounded = frame.bounded

theorem Continues.refl (frame : Frame) : frame.Continues frame :=
  ⟨rfl, rfl, rfl, rfl⟩

theorem Continues.trans {middle : Frame} (first : frame.Continues middle)
    (second : middle.Continues after) : frame.Continues after :=
  ⟨second.code_eq.trans first.code_eq, second.this_eq.trans first.this_eq,
    second.caller_eq.trans first.caller_eq, second.bounded_eq.trans first.bounded_eq⟩

/-- Other operands. -/
theorem Continues.withStack (continues : frame.Continues after) (stack : List Value) :
    frame.Continues { after with stack } :=
  ⟨continues.code_eq, continues.this_eq, continues.caller_eq, continues.bounded_eq⟩

/-- Another point. -/
theorem Continues.at (frame : Frame) (position : Nat) :
    frame.Continues { frame with position } :=
  ⟨rfl, rfl, rfl, rfl⟩

theorem pop_continues {value : Value} (popped : frame.pop = .ok (value, after)) :
    frame.Continues after := by
  unfold pop at popped
  split at popped
  · cases popped
  · cases popped
    exact (Continues.refl frame).withStack _

theorem popMany_continues {count : Nat} {values : List Value}
    (popped : frame.popMany count = .ok (values, after)) : frame.Continues after := by
  unfold popMany at popped
  split at popped
  · cases popped
  · cases popped
    exact (Continues.refl frame).withStack _

theorem popReference_continues {object : ObjectRef}
    (popped : frame.popReference = .ok (object, after)) : frame.Continues after := by
  obtain ⟨⟨value, rest⟩, first, same⟩ := bind_eq_ok.mp popped
  cases value <;> cases same
  exact pop_continues first

theorem popBoolean_continues {truth : Bool} (popped : frame.popBoolean = .ok (truth, after)) :
    frame.Continues after := by
  obtain ⟨⟨value, rest⟩, first, same⟩ := bind_eq_ok.mp popped
  cases value <;> cases same
  exact pop_continues first

theorem popGas_continues {amount : UInt64} (popped : frame.popGas = .ok (amount, after)) :
    frame.Continues after := by
  obtain ⟨⟨value, rest⟩, first, same⟩ := bind_eq_ok.mp popped
  simp only [] at same
  split at same
  · split at same
    · cases same
      exact pop_continues first
    · cases same
  · cases same
    exact pop_continues first
  · cases same

theorem popReceiver_continues {dispatch : Dispatch} {receiver : Option ObjectRef}
    (popped : frame.popReceiver dispatch = .ok (receiver, after)) : frame.Continues after := by
  cases dispatch with
  | «virtual» =>
    obtain ⟨⟨object, rest⟩, first, same⟩ := bind_eq_ok.mp popped
    cases same
    exact popReference_continues first
  | «static» =>
    cases popped
    exact .refl frame

theorem load_continues {slot : UInt16} (loaded : frame.load slot = .ok after) :
    frame.Continues after := by
  unfold load at loaded
  split at loaded
  · cases loaded
    exact (Continues.refl frame).withStack _
  · cases loaded

theorem store_continues {slot : UInt16} (stored : frame.store slot = .ok after) :
    frame.Continues after := by
  obtain ⟨⟨value, rest⟩, first, same⟩ := bind_eq_ok.mp stored
  simp only [] at same
  split at same
  · cases same
    have popped := pop_continues first
    exact ⟨popped.code_eq, popped.this_eq, popped.caller_eq, popped.bounded_eq⟩
  · cases same

/-! ### Instructions that need their activation only -/

/-- What an instruction makes of its activation if it needs nothing else. -/
def alone? (frame : Frame) : Instruction → Option (Except Throwable Frame)
  | .push value => some (.ok (frame.push value))
  | .load slot => some (frame.load slot)
  | .store slot => some (frame.store slot)
  | .pop => some do
    let (_, frame) ← frame.pop
    .ok frame
  | .dup => some do
    let (value, frame) ← frame.pop
    .ok ((frame.push value).push value)
  | .arithmetic operator => some do
    let (second, frame) ← frame.pop
    let (first, frame) ← frame.pop
    let value ← operator.apply first second
    .ok (frame.push value)
  | .lessThan => some do
    let (second, frame) ← frame.pop
    let (first, frame) ← frame.pop
    let less ← first.lessThan second
    .ok (frame.push (.boolean less))
  | .equal => some do
    let (second, frame) ← frame.pop
    let (first, frame) ← frame.pop
    .ok (frame.push (.boolean (first = second)))
  | .not => some do
    let (value, frame) ← frame.popBoolean
    .ok (frame.push (.boolean !value))
  | .jump target => some (.ok (frame.jump target))
  | .jumpIfFalse target => some do
    let (value, frame) ← frame.popBoolean
    .ok (if value then frame else frame.jump target)
  | _ => none

theorem continues_of_alone? {instruction : Instruction}
    (alone : frame.alone? instruction = some (.ok after)) : frame.Continues after := by
  cases instruction with
  | push value =>
    cases alone
    exact (Continues.refl frame).withStack _
  | load slot => exact load_continues (Option.some.inj alone)
  | store slot => exact store_continues (Option.some.inj alone)
  | pop =>
    obtain ⟨operand, popped, same⟩ := bind_eq_ok.mp (Option.some.inj alone)
    cases same
    exact pop_continues popped
  | dup =>
    obtain ⟨operand, popped, same⟩ := bind_eq_ok.mp (Option.some.inj alone)
    cases same
    exact (pop_continues popped).withStack _
  | arithmetic | lessThan =>
    obtain ⟨second, popped, rest⟩ := bind_eq_ok.mp (Option.some.inj alone)
    obtain ⟨first, poppedToo, rest⟩ := bind_eq_ok.mp rest
    obtain ⟨value, -, same⟩ := bind_eq_ok.mp rest
    cases same
    exact ((pop_continues popped).trans (pop_continues poppedToo)).withStack _
  | equal =>
    obtain ⟨second, popped, rest⟩ := bind_eq_ok.mp (Option.some.inj alone)
    obtain ⟨first, poppedToo, same⟩ := bind_eq_ok.mp rest
    cases same
    exact ((pop_continues popped).trans (pop_continues poppedToo)).withStack _
  | not =>
    obtain ⟨operand, popped, same⟩ := bind_eq_ok.mp (Option.some.inj alone)
    cases same
    exact (popBoolean_continues popped).withStack _
  | jump target =>
    cases alone
    exact .at frame _
  | jumpIfFalse target =>
    obtain ⟨operand, popped, same⟩ := bind_eq_ok.mp (Option.some.inj alone)
    cases same
    split
    · exact popBoolean_continues popped
    · exact (popBoolean_continues popped).trans (.at _ _)
  | _ => cases alone

end Frame

theorem Run.ofThrowing_bind (result : Except Throwable α) (next : α → Except Throwable β) :
    ofThrowing (result >>= next) = ofThrowing result >>= fun value => ofThrowing (next value) := by
  cases result with
  | ok value => rfl
  | error throwable => rfl

namespace Machine

open Run

/-- **An instruction that needs its activation only throws, or the activation goes on.** -/
theorem execute_of_alone? {frame : Frame} {instruction : Instruction}
    {result : Except Throwable Frame} (alone : frame.alone? instruction = some result)
    (callers : List Frame) :
    execute context frame callers instruction =
      ofThrowing result >>= fun next => pure (.running next callers) := by
  cases instruction with
  | push | jump | load | store =>
    cases alone
    rfl
  | pop | dup | arithmetic | lessThan | equal | not | jumpIfFalse =>
    cases alone
    simp only [ofThrowing_bind, bind_assoc]
    rfl
  | _ => cases alone

end Machine

end ObjectLedger
