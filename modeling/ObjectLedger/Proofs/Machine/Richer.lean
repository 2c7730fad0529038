/-
**More gas does not change what code does.**

* `Charger.Poorer`, `Heap.Poorer`: two heaps differ only in gas, at hand or set aside, of which the
  second one has at least as much everywhere.
* `Fault.Settled`: what ends a run for another reason than a lack of gas.
* `Run.Steady`: from a poorer and a richer heap a part comes to the same end, as long as the poorer
  one has enough gas for it. `Run.steady_composes`: all parts that only charge do.
* `Machine.steady_run`: so do runs whose steps do. **`Run.steady_executes`**: so does the machine, with
  gas that is restricted and given back.
-/
import ObjectLedger.Proofs.Machine.Executing
import ObjectLedger.Proofs.Machine.Reading

namespace ObjectLedger

variable {α β : Type} {context : Context}

theorem sub_le_sub_of_le {first second amount : UInt64} (enough : amount ≤ first)
    (le : first ≤ second) : first - amount ≤ second - amount := by
  rw [UInt64.le_iff_toNat_le, UInt64.toNat_sub_of_le _ _ enough,
    UInt64.toNat_sub_of_le _ _ (UInt64.le_trans enough le)]
  exact Nat.sub_le_sub_right (UInt64.le_iff_toNat_le.mp le) _

theorem saturatingAdd_le_saturatingAdd {first second amount more : UInt64} (le : first ≤ second)
    (leToo : amount ≤ more) : saturatingAdd first amount ≤ saturatingAdd second more := by
  have le := UInt64.le_iff_toNat_le.mp le
  have leToo := UInt64.le_iff_toNat_le.mp leToo
  rw [UInt64.le_iff_toNat_le, toNat_saturatingAdd, toNat_saturatingAdd]
  omega

/-! ### Gas accounts -/

/-- Two gas accounts differ only in gas, of which the second one has at least as much at hand and in
each amount that is set aside. -/
structure Charger.Poorer (charger richer : Charger) : Prop where
  metered_eq : richer.metered = charger.metered
  limit_eq : richer.limit = charger.limit
  consumed_eq : richer.consumed = charger.consumed
  remaining_le : charger.remaining ≤ richer.remaining
  setAside_le : List.Forall₂ (· ≤ ·) charger.setAside richer.setAside

namespace Charger.Poorer

variable {charger richer after : Charger} {purpose : GasUse} {amount : UInt64}

/-- What the poorer account pays the richer one pays as well. -/
theorem charge (poorer : charger.Poorer richer) (paid : charger.charge purpose amount = .ok after) :
    ∃ last, richer.charge purpose amount = .ok last ∧ after.Poorer last := by
  unfold Charger.charge at paid ⊢
  rw [poorer.metered_eq]
  split at paid
  · rename_i unmetered
    cases paid
    exact ⟨richer, if_pos unmetered, poorer⟩
  · rename_i metered
    split at paid
    · cases paid
    · rename_i enough
      cases paid
      have enough : amount ≤ charger.remaining := UInt64.not_lt.mp enough
      have enoughToo := UInt64.le_trans enough poorer.remaining_le
      rw [if_neg metered, if_neg (UInt64.not_lt.mpr enoughToo)]
      exact ⟨_, rfl, rfl, poorer.limit_eq, by rw [poorer.consumed_eq],
        sub_le_sub_of_le enough poorer.remaining_le, poorer.setAside_le⟩

/-- What the poorer account can be restricted to the richer one can be as well. -/
theorem pushGas (poorer : charger.Poorer richer) (pushed : charger.pushGas amount = .ok after) :
    ∃ last, richer.pushGas amount = .ok last ∧ after.Poorer last := by
  unfold Charger.pushGas at pushed ⊢
  rw [poorer.metered_eq]
  split at pushed
  · rename_i unmetered
    cases pushed
    exact ⟨richer, if_pos unmetered, poorer⟩
  · rename_i metered
    split at pushed
    · cases pushed
    · rename_i enough
      cases pushed
      have enough : amount ≤ charger.remaining := UInt64.not_lt.mp enough
      have enoughToo := UInt64.le_trans enough poorer.remaining_le
      rw [if_neg metered, if_neg (UInt64.not_lt.mpr enoughToo)]
      -- both have the same at hand, but the richer one has set more aside
      exact ⟨_, rfl, rfl, poorer.limit_eq, poorer.consumed_eq, UInt64.le_refl _,
        .cons (sub_le_sub_of_le enough poorer.remaining_le) poorer.setAside_le⟩

theorem popGas (poorer : charger.Poorer richer) : charger.popGas.Poorer richer.popGas := by
  have aside := poorer.setAside_le
  unfold Charger.popGas
  generalize charger.setAside = amounts at aside
  generalize richer.setAside = others at aside
  cases aside with
  | nil => exact poorer
  | cons le rest =>
    exact ⟨poorer.metered_eq, poorer.limit_eq, poorer.consumed_eq,
      saturatingAdd_le_saturatingAdd poorer.remaining_le le, rest⟩

theorem unused_le (poorer : charger.Poorer richer) : charger.unused ≤ richer.unused := by
  have folds : ∀ {amounts others : List UInt64} {start more : UInt64},
      List.Forall₂ (· ≤ ·) amounts others → start ≤ more →
        amounts.foldl saturatingAdd start ≤ others.foldl saturatingAdd more := by
    intro amounts others start more aside le
    induction aside generalizing start more with
    | nil => exact le
    | cons here _ ih => exact ih (saturatingAdd_le_saturatingAdd le here)
  exact folds poorer.setAside_le poorer.remaining_le

end Charger.Poorer

/-! ### Heaps -/

/-- Two heaps differ only in gas, of which the second one has at least as much everywhere. -/
structure Heap.Poorer (heap richer : Heap) : Prop where
  charger : heap.charger.Poorer richer.charger
  objects_eq : richer.objects = heap.objects
  nextProgressive_eq : richer.nextProgressive = heap.nextProgressive
  events_eq : richer.events = heap.events

namespace Heap.Poorer

variable {heap richer : Heap}

theorem withCharger (poorer : heap.Poorer richer) {charger other : Charger}
    (gas : charger.Poorer other) :
    Heap.Poorer { heap with charger } { richer with charger := other } :=
  ⟨gas, poorer.objects_eq, poorer.nextProgressive_eq, poorer.events_eq⟩

theorem releaseHeap (poorer : heap.Poorer richer) :
    (Machine.releaseHeap heap).Poorer (Machine.releaseHeap richer) :=
  poorer.withCharger poorer.charger.popGas

theorem unwind (poorer : heap.Poorer richer) (frames : List Frame) :
    (Machine.unwind frames heap).Poorer (Machine.unwind frames richer) := by
  unfold Machine.unwind
  induction frames.filter Frame.bounded generalizing heap richer with
  | nil => exact poorer
  | cons frame rest ih => exact ih poorer.releaseHeap

theorem stepBound_le (poorer : heap.Poorer richer) :
    Machine.stepBound heap ≤ Machine.stepBound richer := by
  have less := UInt64.le_iff_toNat_le.mp poorer.charger.unused_le
  unfold Machine.stepBound
  omega

end Heap.Poorer

/-- What ends a run for another reason than a lack of gas: another throwable, or a fault from
inside. A run that is not over has not ended. -/
def Fault.Settled : Fault → Prop
  | .thrown throwable => throwable.className ≠ "lang.OutOfGasError"
  | .internal _ => True
  | .unfinished => False

/-! ### Parts of a running transaction -/

namespace Run

/-- From a poorer and a richer heap the part comes to the same end, unless the poorer one lacks
gas. -/
structure Steady (part : Run α) : Prop where
  alongside : Alongside Heap.Poorer Fault.Settled part

theorem Steady.bind {part : Run α} {next : α → Run β} (first : Steady part)
    (rest : ∀ value, Steady (next value)) : Steady (part >>= next) :=
  ⟨first.alongside.bind fun value => (rest value).alongside⟩

theorem steady_pure (value : α) : Steady (pure value) := ⟨alongside_pure value⟩

theorem steady_throw (fault : Fault) : Steady (throw fault : Run α) :=
  ⟨alongside_throw fault⟩

theorem steady_modify {change : Heap → Heap}
    (keeps : ∀ heap richer, heap.Poorer richer → (change heap).Poorer (change richer)) :
    Steady (modify change : Run PUnit) :=
  ⟨fun heap richer poorer _ => .ok (keeps heap richer poorer)⟩

theorem steady_charge (purpose : GasUse) (amount : UInt64) : Steady (charge purpose amount) := by
  refine ⟨fun heap richer poorer settles => ?_⟩
  unfold charge at settles ⊢
  unfold StopsOnly at settles
  rw [get_bind_apply] at settles ⊢
  rw [get_bind_apply]
  cases paid : heap.charger.charge purpose amount with
  | ok charger =>
    obtain ⟨last, paidToo, gas⟩ := poorer.charger.charge paid
    rw [paidToo]
    exact .ok (poorer.withCharger gas)
  | error refusal =>
    rw [paid] at settles
    exact absurd rfl (settles _ _ rfl)

/-- **Parts that only charge come to the same end with more gas.** -/
theorem steady_composes : Composes Steady where
  pure := steady_pure
  fail _ := steady_throw _
  internal _ := steady_throw _
  bind := Steady.bind
  charge purpose amount _ := steady_charge purpose amount
  look rest same := by
    refine ⟨fun heap richer poorer settles => ?_⟩
    rw [get_bind_apply, get_bind_apply, same richer heap poorer.objects_eq]
    exact (rest heap).alongside heap richer poorer settles
  alter change := steady_modify fun _ _ poorer =>
    ⟨poorer.charger, congrArg change poorer.objects_eq, poorer.nextProgressive_eq,
      poorer.events_eq⟩
  emit event := steady_modify fun _ _ poorer =>
    ⟨poorer.charger, poorer.objects_eq, poorer.nextProgressive_eq,
      congrArg (· ++ [event]) poorer.events_eq⟩

/-- What comes after a charge. -/
theorem Steady.pay {purpose : GasUse} {amount : UInt64} {next : Unit → Run β}
    (rest : ∀ value, Steady (next value)) : Steady (charge purpose amount >>= next) :=
  (steady_charge purpose amount).bind rest

end Run

open Run

theorem Heap.steady_allocate (className : String) : Steady (allocate context className) := by
  unfold allocate
  cases context.classes.jarOf? className with
  | none => exact steady_throw _
  | some jar =>
    refine .pay fun _ => .pay fun _ => ?_
    refine ⟨fun heap richer poorer settles => ?_⟩
    unfold StopsOnly at settles
    rw [get_bind_apply] at settles ⊢
    rw [get_bind_apply, poorer.nextProgressive_eq, poorer.objects_eq, poorer.events_eq]
    simp only [] at settles ⊢
    split
    · exact .error poorer
    · exact .ok ⟨poorer.charger, rfl, rfl, rfl⟩

namespace Machine

/-! ### Gas restrictions -/

theorem steady_restrictGas (amount : UInt64) : Steady (restrictGas amount) := by
  refine ⟨fun heap richer poorer settles => ?_⟩
  unfold restrictGas at settles ⊢
  unfold StopsOnly at settles
  rw [get_bind_apply] at settles ⊢
  rw [get_bind_apply]
  cases pushed : heap.charger.pushGas amount with
  | ok charger =>
    obtain ⟨last, pushedToo, gas⟩ := poorer.charger.pushGas pushed
    rw [pushedToo]
    exact .ok (poorer.withCharger gas)
  | error refusal =>
    rw [pushed] at settles
    exact absurd rfl (settles _ _ rfl)

theorem steady_releaseGas : Steady releaseGas :=
  steady_modify fun _ _ poorer => poorer.releaseHeap

theorem steady_releasingOnFault {part : Run α} (steady : Steady part) :
    Steady (releasingOnFault part) := by
  refine ⟨fun heap richer poorer settles => ?_⟩
  have same := steady.alongside heap richer poorer fun cause after ran =>
    settles cause (releaseHeap after) (by unfold releasingOnFault; rw [ran])
  unfold releasingOnFault
  generalize part heap = left at same
  generalize part richer = right at same
  cases same with
  | ok relates => exact .ok relates
  | error relates => exact .error relates.releaseHeap

/-! ### Runs -/

section

variable (steps : ∀ frame callers, Steady (step context frame callers))

include steps

/-- A run whose steps come to the same end with more gas does so, too, with a greater bound on its
steps; by induction on them. -/
theorem steady_run {fuel more : Nat} (le : fuel ≤ more) (status : Status) {heap richer : Heap}
    (poorer : heap.Poorer richer)
    (settles : StopsOnly Fault.Settled (run context fuel status) heap) :
    SameEnd Heap.Poorer (run context fuel status heap) (run context more status richer) := by
  induction fuel generalizing more status heap richer with
  | zero =>
    cases status with
    | finished result =>
      cases more with
      | zero | succ => exact .ok poorer
    | running frame callers => exact (settles .unfinished heap rfl).elim
  | succ fuel ih =>
    obtain ⟨more, rfl⟩ : ∃ fewer, more = fewer + 1 := ⟨more - 1, by omega⟩
    cases status with
    | finished result => exact .ok poorer
    | running frame callers =>
      have stepped := (steps frame callers).alongside heap richer poorer
        fun cause after ran =>
          settles cause (unwind (frame :: callers) after) (run_of_error ran fuel)
      have settles : ∀ status after, step context frame callers heap = .ok status after →
          StopsOnly Fault.Settled (run context fuel status) after :=
        fun status after ran cause last stopped =>
          settles cause last ((run_of_ok ran fuel).trans stopped)
      unfold run
      generalize step context frame callers heap = left at stepped settles
      generalize step context frame callers richer = right at stepped
      cases stepped with
      | ok relates => exact ih (Nat.le_of_succ_le_succ le) _ relates (settles _ _ rfl)
      | error relates => exact .error (relates.unwind _)

theorem steady_runFrame (frame : Frame) : Steady (runFrame context frame) := by
  refine ⟨fun heap richer poorer settles => ?_⟩
  unfold runFrame at settles ⊢
  unfold StopsOnly at settles
  rw [get_bind_apply] at settles ⊢
  rw [get_bind_apply]
  exact steady_run steps poorer.stepBound_le _ poorer settles

end

end Machine

/-- **The machine comes to the same end with more gas.** -/
theorem Run.steady_executes : Executes Steady where
  toComposes := steady_composes
  allocate _ := Heap.steady_allocate
  restrictGas := Machine.steady_restrictGas
  releaseGas := Machine.steady_releaseGas
  releasingOnFault := Machine.steady_releasingOnFault
  runFrame := Machine.steady_runFrame

end ObjectLedger
