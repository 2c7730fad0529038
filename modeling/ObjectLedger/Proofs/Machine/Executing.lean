/-
**Steps and runs, from the parts that they are made of.**

* `Machine.run_of_ok`, `Machine.run_of_error`: a run goes on after a step, or stops where it does.
* `Run.Executes`: a property that composes, and that also holds of making objects, of restricting gas
  and giving it back, and of a run whose steps it holds of.
* **`Run.Executes.step`**: then it holds of every step of the machine.
* **`Run.Executes.construct`**, **`Run.Executes.invoke`**, `Run.Executes.invokeStatic`: and of running
  code for a transaction.
-/
import ObjectLedger.Proofs.Machine.Composing
import ObjectLedger.Proofs.Machine.Operands

namespace ObjectLedger

namespace Machine

variable {context : Context} {frame : Frame} {callers : List Frame} {heap middle : Heap}

/-- A run goes on after a step. -/
theorem run_of_ok {status : Status} (stepped : step context frame callers heap = .ok status middle)
    (fuel : Nat) :
    run context (fuel + 1) (.running frame callers) heap = run context fuel status middle := by
  simp only [run, stepped]

/-- A run stops where a step stops. -/
theorem run_of_error {fault : Fault} (stepped : step context frame callers heap = .error fault middle)
    (fuel : Nat) :
    run context (fuel + 1) (.running frame callers) heap =
      .error fault (unwind (frame :: callers) middle) := by
  simp only [run, stepped]

end Machine

namespace Run

/-- The property holds of the pieces that the machine is made of, and of running activations if it
holds of their steps. -/
structure Executes (holds : ∀ {α : Type}, Run α → Prop) : Prop extends Composes holds where
  allocate (context : Context) (className : String) : holds (Heap.allocate context className)
  restrictGas (amount : UInt64) : holds (Machine.restrictGas amount)
  releaseGas : holds Machine.releaseGas
  releasingOnFault {α : Type} {part : Run α} (inside : holds part) :
    holds (Machine.releasingOnFault part)
  runFrame {context : Context}
    (steps : ∀ frame callers, holds (Machine.step context frame callers)) (frame : Frame) :
    holds (Machine.runFrame context frame)

namespace Executes

variable {α β : Type} {holds : ∀ {α : Type}, Run α → Prop} {context : Context}
  (executes : Executes holds)

include executes

/-- What comes after operands were taken. -/
theorem take {result : Except Throwable α} {next : α → Run β}
    (rest : ∀ value, holds (next value)) : holds (ofThrowing result >>= next) :=
  executes.bind (executes.ofThrowing result) rest

/-- What comes after CPU was paid for. -/
theorem pay {amount : UInt64} {next : Unit → Run β} (rest : ∀ value, holds (next value)) :
    holds (charge .cpu amount >>= next) :=
  executes.bind (executes.charge .cpu amount (by decide)) rest

/-! ### Steps -/

theorem leave (frame : Frame) (callers : List Frame) (result : Option Value) :
    holds (Machine.leave frame callers result) := by
  unfold Machine.leave
  cases callers with
  | nil | cons =>
    simp only []
    split
    · exact executes.bind executes.releaseGas fun _ => executes.pure _
    · exact executes.pure _

theorem execute (frame : Frame) (callers : List Frame) (instruction : Instruction) :
    holds (Machine.execute context frame callers instruction) := by
  cases alone : frame.alone? instruction with
  | some result =>
    rw [Machine.execute_of_alone? alone]
    exact executes.take fun _ => executes.pure _
  | none =>
    cases instruction with
    | new constructor =>
      exact executes.take fun _ => executes.take fun _ =>
        executes.bind (executes.callerFrom _ _) fun _ =>
          executes.bind (executes.callConstructor (executes.allocate context) ..) fun _ =>
            executes.pure _
    | getField field =>
      exact executes.pay fun _ => executes.take fun _ =>
        executes.bind (executes.getField _ _) fun _ => executes.pure _
    | putField field =>
      exact executes.pay fun _ => executes.take fun _ => executes.take fun _ =>
        executes.bind (executes.setField _ _ _) fun _ => executes.pure _
    | invoke method dispatch =>
      exact executes.take fun _ => executes.take fun _ =>
        executes.bind (executes.invokeFrom ..) fun _ => executes.pure _
    | invokeWithGas method dispatch =>
      exact executes.take fun _ => executes.take fun _ => executes.take fun _ =>
        executes.bind (executes.restrictGas _) fun _ =>
          executes.bind (executes.releasingOnFault (executes.invokeFrom ..)) fun _ =>
            executes.pure _
    | native name arity =>
      exact executes.take fun _ => executes.pay fun _ => executes.take fun _ =>
        executes.bind (executes.callPrimitive ..) fun _ => executes.pure _
    | ret => exact executes.take fun result => executes.leave frame callers result
    | throw className checked => exact executes.take fun _ => executes.fail _
    | _ => cases alone

/-- **What holds of the pieces holds of a step.** -/
theorem step (frame : Frame) (callers : List Frame) :
    holds (Machine.step context frame callers) := by
  unfold Machine.step
  cases frame.code[frame.position]? with
  | none => exact executes.take fun _ => executes.leave _ _ _
  | some instruction => exact executes.pay fun _ => executes.execute _ _ instruction

/-! ### Running code for a transaction -/

theorem construct (caller : ObjectRef) (constructor : ConstructorSignature)
    (actuals : List Value) : holds (Machine.construct context caller constructor actuals) :=
  executes.take fun _ =>
    executes.bind (executes.callConstructor (executes.allocate context) ..) fun called =>
      executes.bind (executes.discard (executes.runFrame executes.step called.2)) fun _ =>
        executes.pure _

theorem invoke (caller : ObjectRef) (method : MethodSignature) (receiver : ObjectRef)
    (actuals : List Value) : holds (Machine.invoke context caller method receiver actuals) := by
  refine executes.bind (executes.isInstance _ _) fun answer => ?_
  simp only []
  split
  · exact executes.fail_bind
  · exact executes.bind (executes.classOf _) fun _ => executes.take fun _ =>
      executes.bind (executes.callMethod ..) fun frame => executes.runFrame executes.step frame

theorem invokeStatic (caller : ObjectRef) (method : MethodSignature) (actuals : List Value) :
    holds (Machine.invokeStatic context caller method actuals) :=
  executes.take fun _ => executes.bind (executes.callMethod ..) fun frame =>
    executes.runFrame executes.step frame

end Executes

end Run

end ObjectLedger
