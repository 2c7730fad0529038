/-
**Running code pays for no storage.**

* `Run.SparesStorage`: a part leaves the gas consumed for storage as it was, whether it ends or stops.
* **`Run.sparesStorage_executes`**: all parts of running code do.
* `Charger.Balanced.storage_charge`: a charge for storage adds just its amount.
-/
import ObjectLedger.Proofs.Gas.Accounts
import ObjectLedger.Proofs.Machine.Executing
import ObjectLedger.Proofs.Machine.Reading

namespace ObjectLedger

variable {α β : Type} {context : Context} {heap after : Heap}

/-! ### Gas accounts -/

namespace Charger

variable {charger last : Charger} {limit amount : UInt64} {purpose : GasUse}

theorem storage_of_charge (used : purpose ≠ .storage)
    (paid : charger.charge purpose amount = .ok last) :
    last.consumed.storage = charger.consumed.storage := by
  unfold charge at paid
  split at paid
  · cases paid
    rfl
  · split at paid
    · cases paid
    · cases paid
      cases purpose with
      | cpu | ram => rfl
      | storage => exact absurd rfl used

/-- **A charge for storage adds just its amount.** -/
theorem Balanced.storage_charge (balanced : charger.Balanced limit)
    (paid : charger.charge .storage amount = .ok last) :
    last.consumed.storage.toNat = charger.consumed.storage.toNat + amount.toNat := by
  obtain ⟨after, consumed, sum⟩ := balanced.charge paid
  have le := after.consumed_le
  have bound := toNat_le_maxWord limit
  rw [consumed]
  rw [sum] at le
  unfold GasConsumed.sum at le
  simp only [GasConsumed.add, toNat_saturatingAdd]
  omega

end Charger

/-! ### Parts of a running transaction -/

/-- The gas consumed for storage. -/
def Heap.storage (heap : Heap) : UInt64 :=
  heap.charger.consumed.storage

@[simp] theorem Machine.storage_releaseHeap (heap : Heap) :
    (releaseHeap heap).storage = heap.storage := by
  unfold releaseHeap Heap.storage
  rw [Charger.consumed_popGas]

theorem Machine.storage_unwind (frames : List Frame) (heap : Heap) :
    (unwind frames heap).storage = heap.storage := by
  unfold unwind
  induction frames.filter Frame.bounded generalizing heap with
  | nil => rfl
  | cons frame rest ih => exact (ih _).trans (storage_releaseHeap heap)

namespace Run

/-- The part leaves the gas consumed for storage as it was, whether it ends or stops. -/
structure SparesStorage (part : Run α) : Prop where
  storage_eq (heap : Heap) : (stateAfter part heap).storage = heap.storage

variable {part : Run α} {next : α → Run β}

theorem SparesStorage.ends (spares : SparesStorage part) {value : α}
    (ran : part heap = .ok value after) : after.storage = heap.storage :=
  stateAfter_ok ran ▸ spares.storage_eq heap

theorem SparesStorage.bind (first : SparesStorage part)
    (rest : ∀ value, SparesStorage (next value)) : SparesStorage (part >>= next) := by
  refine ⟨fun heap => ?_⟩
  have left := first.storage_eq heap
  cases ran : part heap with
  | ok value middle =>
    rw [stateAfter_ok ran] at left
    rw [stateAfter_bind_of_ok ran, (rest value).storage_eq, left]
  | error fault middle =>
    rw [stateAfter_error ran] at left
    rw [stateAfter_bind_of_error ran, left]

theorem SparesStorage.look {next : Heap → Run α} (rest : ∀ heap, SparesStorage (next heap)) :
    SparesStorage (get >>= next) :=
  ⟨fun heap => (rest heap).storage_eq heap⟩

theorem sparesStorage_pure (value : α) : SparesStorage (pure value) := ⟨fun _ => rfl⟩

theorem sparesStorage_throw (fault : Fault) : SparesStorage (throw fault : Run α) :=
  ⟨fun _ => rfl⟩

theorem sparesStorage_charge {purpose : GasUse} (amount : UInt64) (used : purpose ≠ .storage) :
    SparesStorage (charge purpose amount) := by
  refine ⟨fun heap => ?_⟩
  unfold charge stateAfter
  rw [get_bind_apply]
  cases paid : heap.charger.charge purpose amount with
  | ok charger => exact Charger.storage_of_charge used paid
  | error refusal => rfl

/-- Parts that are made of charges and accesses to objects pay for no storage. -/
theorem sparesStorage_composes : Composes SparesStorage where
  pure := sparesStorage_pure
  fail _ := sparesStorage_throw _
  internal _ := sparesStorage_throw _
  bind := SparesStorage.bind
  charge _ amount used := sparesStorage_charge amount used
  look rest _ := .look rest
  alter _ := ⟨fun _ => rfl⟩
  emit _ := ⟨fun _ => rfl⟩

end Run

open Run

theorem Heap.sparesStorage_allocate (className : String) :
    SparesStorage (allocate context className) := by
  unfold allocate
  cases context.classes.jarOf? className with
  | none => exact sparesStorage_throw _
  | some jar =>
    refine (sparesStorage_charge _ (by decide)).bind fun _ =>
      (sparesStorage_charge _ (by decide)).bind fun _ => ⟨fun heap => ?_⟩
    show (stateAfter (if heap.nextProgressive.toNat = maxWord then _ else _ : Run ObjectRef)
      heap).storage = _
    split <;> rfl

namespace Machine

theorem sparesStorage_restrictGas (amount : UInt64) : SparesStorage (restrictGas amount) := by
  refine ⟨fun heap => ?_⟩
  unfold restrictGas stateAfter
  rw [get_bind_apply]
  cases pushed : heap.charger.pushGas amount with
  | ok charger => exact congrArg GasConsumed.storage (Charger.consumed_of_pushGas pushed)
  | error refusal => rfl

theorem sparesStorage_releasingOnFault {part : Run α} (spares : SparesStorage part) :
    SparesStorage (releasingOnFault part) := by
  refine ⟨fun heap => ?_⟩
  have left := spares.storage_eq heap
  cases ran : part heap with
  | ok value middle =>
    rw [stateAfter_ok ran] at left
    have same : releasingOnFault part heap = .ok value middle := by
      unfold releasingOnFault
      rw [ran]
    rw [stateAfter_ok same, left]
  | error fault middle =>
    rw [stateAfter_error ran] at left
    have same : releasingOnFault part heap = .error fault (releaseHeap middle) := by
      unfold releasingOnFault
      rw [ran]
    rw [stateAfter_error same, storage_releaseHeap, left]

section

variable (steps : ∀ frame callers, SparesStorage (step context frame callers))

include steps

/-- A run whose steps pay for no storage pays for none; by induction on the bound on its steps. -/
theorem sparesStorage_run (fuel : Nat) (status : Status) :
    SparesStorage (run context fuel status) := by
  induction fuel generalizing status with
  | zero =>
    cases status with
    | finished result => exact sparesStorage_pure result
    | running frame callers => exact sparesStorage_throw _
  | succ fuel ih =>
    cases status with
    | finished result => exact sparesStorage_pure result
    | running frame callers =>
      refine ⟨fun heap => ?_⟩
      have stepped := (steps frame callers).storage_eq heap
      cases ran : step context frame callers heap with
      | ok status middle =>
        rw [stateAfter_ok ran] at stepped
        rw [stateAfter, run_of_ok ran, ← stateAfter, (ih status).storage_eq middle, stepped]
      | error fault middle =>
        rw [stateAfter_error ran] at stepped
        rw [stateAfter_error (run_of_error ran fuel), storage_unwind, stepped]

end

end Machine

/-- **Running code pays for no storage.** -/
theorem Run.sparesStorage_executes : Executes SparesStorage where
  toComposes := sparesStorage_composes
  allocate _ := Heap.sparesStorage_allocate
  restrictGas := Machine.sparesStorage_restrictGas
  releaseGas := ⟨Machine.storage_releaseHeap⟩
  releasingOnFault := Machine.sparesStorage_releasingOnFault
  runFrame steps _ := .look fun _ => Machine.sparesStorage_run steps _ _

end ObjectLedger
