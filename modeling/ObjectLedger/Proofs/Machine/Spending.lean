/-
**Parts of a running transaction that take gas.**

* `Charger.within`: the gas at hand and what was set aside by a number of restrictions. Charges
  lower it; restricting gas and giving it back do not raise it.
* `Heap.Spends`, `Run.Spending`: at most gas is taken, and a number of objects is made.
  `Run.Spending.bind`: closed under sequence.
* **`Run.frugal_composes`**: charges and accesses to objects make no objects.
* `Machine.spending_callConstructor`, **`Machine.spending_invokeFrom`**: calls, which need room for
  another activation; that of a constructor makes one object.
-/
import ObjectLedger.Proofs.Gas.Accounts
import ObjectLedger.Proofs.Machine.Composing
import ObjectLedger.Proofs.Machine.Reading

namespace ObjectLedger

variable {α β : Type} {context : Context} {heap middle after : Heap}

/-! ### Gas accounts -/

namespace Charger

variable {charger after : Charger} {amount : UInt64} {purpose : GasUse}

/-- The gas at hand and what the innermost restrictions, so many of them, set aside. -/
def within (charger : Charger) (count : Nat) : Nat :=
  charger.remaining.toNat + ((charger.setAside.take count).map UInt64.toNat).sum

theorem within_zero (charger : Charger) : charger.within 0 = charger.remaining.toNat := rfl

theorem within_charge (metered : charger.metered = true)
    (paid : charger.charge purpose amount = .ok after) (count : Nat) :
    after.within count + amount.toNat = charger.within count := by
  obtain ⟨enough, rfl⟩ := charge_eq_ok metered paid
  have less := UInt64.le_iff_toNat_le.mp enough
  simp only [within, UInt64.toNat_sub_of_le _ _ enough]
  omega

/-- The gas that a restriction sets aside is within one restriction more. -/
theorem within_pushGas (metered : charger.metered = true)
    (pushed : charger.pushGas amount = .ok after) (count : Nat) :
    after.metered = true ∧ after.within (count + 1) = charger.within count := by
  obtain ⟨enough, rfl⟩ := pushGas_eq_ok metered pushed
  have less := UInt64.le_iff_toNat_le.mp enough
  refine ⟨metered, ?_⟩
  simp only [within, List.take_succ_cons, List.map_cons, List.sum_cons,
    UInt64.toNat_sub_of_le _ _ enough]
  omega

theorem metered_popGas (charger : Charger) : charger.popGas.metered = charger.metered := by
  unfold popGas
  split
  · rfl
  · rfl

/-- The gas that is given back was within one restriction more. -/
theorem within_popGas_le (charger : Charger) (count : Nat) :
    charger.popGas.within count ≤ charger.within (count + 1) := by
  unfold popGas
  split
  · rename_i none
    simp [within, none]
  · rename_i amount rest aside
    simp only [within, aside, List.take_succ_cons, List.map_cons, List.sum_cons,
      toNat_saturatingAdd]
    omega

theorem remaining_le_unused (charger : Charger) :
    charger.remaining.toNat ≤ charger.unused.toNat := by
  have grows : ∀ {amounts : List UInt64} {start : UInt64},
      start.toNat ≤ (amounts.foldl saturatingAdd start).toNat := by
    intro amounts start
    induction amounts generalizing start with
    | nil => exact Nat.le_refl _
    | cons amount rest ih =>
      have bound := toNat_le_maxWord start
      refine Nat.le_trans ?_ ih
      rw [toNat_saturatingAdd]
      omega
  exact grows

end Charger

/-! ### Parts that take gas -/

/-- Nothing happened to the gas, but that some was taken, all that was consumed from the gas at hand,
and at most so many objects were made. -/
structure Heap.Spends (made : Nat) (heap after : Heap) : Prop where
  metered_eq : after.charger.metered = heap.charger.metered
  setAside_eq : after.charger.setAside = heap.charger.setAside
  remaining_le : after.charger.remaining.toNat ≤ heap.charger.remaining.toNat
  used_le : after.charger.consumed.sum + after.charger.remaining.toNat ≤
    heap.charger.consumed.sum + heap.charger.remaining.toNat
  numbered : after.nextProgressive.toNat ≤ heap.nextProgressive.toNat + made

namespace Heap.Spends

variable {made more : Nat}

theorem refl : Spends made heap heap :=
  ⟨rfl, rfl, Nat.le_refl _, Nat.le_refl _, Nat.le_add_right _ _⟩

theorem trans (first : Spends made heap middle) (second : Spends more middle after) :
    Spends (made + more) heap after := by
  have numbered := first.numbered
  have numberedToo := second.numbered
  exact ⟨second.metered_eq.trans first.metered_eq, second.setAside_eq.trans first.setAside_eq,
    Nat.le_trans second.remaining_le first.remaining_le,
    Nat.le_trans second.used_le first.used_le, by omega⟩

theorem mono (spends : Spends made heap after) (le : made ≤ more) : Spends more heap after :=
  ⟨spends.metered_eq, spends.setAside_eq, spends.remaining_le, spends.used_le,
    Nat.le_trans spends.numbered (Nat.add_le_add_left le _)⟩

theorem within_le (spends : Spends made heap after) (count : Nat) :
    after.charger.within count ≤ heap.charger.within count := by
  have less := spends.remaining_le
  unfold Charger.within
  rw [spends.setAside_eq]
  omega

end Heap.Spends

namespace Run

variable {part : Run α} {next : α → Run β} {made more : Nat} {post : α → Prop} {later : β → Prop}

/-- A part at most took gas and made so many objects before it stopped, and it did not stay
unfinished as long as there were numbers for these objects. -/
structure Breaks (made : Nat) (heap : Heap) (fault : Fault) (after : Heap) : Prop where
  spends : heap.Spends made after
  full : fault = .unfinished → maxWord < heap.nextProgressive.toNat + made

/-- A part stops where it began. -/
theorem Breaks.refl {fault : Fault} (finished : fault ≠ .unfinished) :
    Breaks made heap fault heap :=
  ⟨.refl, fun same => absurd same finished⟩

theorem Breaks.mono {fault : Fault} (breaks : Breaks made heap fault after) (le : made ≤ more) :
    Breaks more heap fault after :=
  ⟨breaks.spends.mono le, fun same => Nat.lt_of_lt_of_le (breaks.full same)
    (Nat.add_le_add_left le _)⟩

/-- A part stops after another one ended. -/
theorem Breaks.of_spends {fault : Fault} (breaks : Breaks more middle fault after)
    (spends : heap.Spends made middle) : Breaks (made + more) heap fault after := by
  refine ⟨spends.trans breaks.spends, fun same => ?_⟩
  have full := breaks.full same
  have numbered := spends.numbered
  omega

/-- The part at most takes gas and makes so many objects, when it ends and when it stops. -/
structure Spending (made : Nat) (part : Run α) (post : α → Prop) : Prop where
  spec (heap : Heap) : Spec part heap (fun value after => heap.Spends made after ∧ post value)
    (Breaks made heap)

namespace Spending

theorem imp {wider : α → Prop} (spending : Spending made part post) (le : made ≤ more)
    (ends : ∀ value, post value → wider value) : Spending more part wider where
  spec heap := (spending.spec heap).imp
    (fun value _ both => ⟨both.1.mono le, ends value both.2⟩) fun _ _ breaks => breaks.mono le

theorem bind (first : Spending made part post)
    (rest : ∀ value, post value → Spending more (next value) later) :
    Spending (made + more) (part >>= next) later where
  spec heap := by
    have begins : Spec part heap (fun value after => heap.Spends made after ∧ post value)
        (Breaks (made + more) heap) :=
      (first.spec heap).imp (fun _ _ both => both) fun _ _ breaks =>
        breaks.mono (Nat.le_add_right _ _)
    refine begins.bind fun value after ends => ?_
    exact ((rest value ends.2).spec after).imp (fun _ _ both => ⟨ends.1.trans both.1, both.2⟩)
      fun _ _ breaks => breaks.of_spends ends.1

theorem pure {value : α} (holds : post value) : Spending made (pure value) post where
  spec _ := ⟨.refl, holds⟩

theorem fail {throwable : Throwable} : Spending made (fail throwable) post where
  spec _ := Breaks.refl Fault.noConfusion

theorem fail_bind {throwable : Throwable} : Spending made (Run.fail throwable >>= next) later where
  spec _ := Breaks.refl Fault.noConfusion

/-- What comes after a part that makes no objects. -/
theorem and (first : Spending 0 part post)
    (rest : ∀ value, post value → Spending made (next value) later) :
    Spending made (part >>= next) later :=
  (first.bind rest).imp (Nat.le_of_eq (Nat.zero_add made)) fun _ holds => holds

/-- What comes before a part that makes no objects. -/
theorem before (first : Spending made part post)
    (rest : ∀ value, post value → Spending 0 (next value) later) :
    Spending made (part >>= next) later :=
  first.bind rest

end Spending

theorem Spec.get_bind {next : Heap → Run β} {post : β → Heap → Prop} {onFault : Fault → Heap → Prop}
    (rest : Spec (next heap) heap post onFault) : Spec (get >>= next) heap post onFault :=
  rest

theorem spending_ofThrowing {result : Except Throwable α} :
    Spending 0 (ofThrowing result) fun value => result = .ok value := by
  cases result with
  | ok value => exact .pure rfl
  | error throwable => exact .fail

/-- The part at most takes gas. -/
abbrev Frugal (part : Run α) : Prop :=
  Spending 0 part fun _ => True

theorem spec_charge (purpose : GasUse) (amount : UInt64) :
    Spec (charge purpose amount) heap
      (fun _ after => ∃ charger, heap.charger.charge purpose amount = .ok charger ∧
        after = { heap with charger })
      fun fault after => ∃ refusal, heap.charger.charge purpose amount = .error refusal ∧
        fault = .thrown (.outOfGas refusal) ∧ after = heap := by
  unfold charge
  refine Spec.get_bind ?_
  cases heap.charger.charge purpose amount with
  | ok charger => exact ⟨charger, rfl, rfl⟩
  | error refusal => exact ⟨refusal, rfl, rfl, rfl⟩

theorem frugal_charge (purpose : GasUse) (amount : UInt64) : Frugal (charge purpose amount) := by
  refine ⟨fun heap => (spec_charge purpose amount).imp (fun _ after paid => ⟨?_, trivial⟩)
    fun _ _ refused => ?_⟩
  · obtain ⟨charger, paid, rfl⟩ := paid
    cases metered : heap.charger.metered with
    | false =>
      have unchanged : heap.charger = charger := by simpa [Charger.charge, metered] using paid
      exact unchanged ▸ .refl
    | true =>
      obtain ⟨enough, rfl⟩ := Charger.charge_eq_ok metered paid
      have taken : (heap.charger.remaining - amount).toNat =
          heap.charger.remaining.toNat - amount.toNat := UInt64.toNat_sub_of_le _ _ enough
      have less : amount.toNat ≤ heap.charger.remaining.toNat := UInt64.le_iff_toNat_le.mp enough
      have added := GasConsumed.sum_add_le heap.charger.consumed purpose amount
      refine ⟨rfl, rfl, ?_, ?_, Nat.le_refl _⟩
      · show (heap.charger.remaining - amount).toNat ≤ _
        omega
      · show (heap.charger.consumed.add purpose amount).sum +
          (heap.charger.remaining - amount).toNat ≤ _
        omega
  · obtain ⟨_, _, rfl, rfl⟩ := refused
    exact .refl Fault.noConfusion

/-- What comes after operands were taken. -/
theorem Spending.take {result : Except Throwable α} {next : α → Run β} {later : β → Prop}
    {made : Nat} (rest : ∀ value, result = .ok value → Spending made (next value) later) :
    Spending made (ofThrowing result >>= next) later :=
  spending_ofThrowing.and rest

/-- What comes after a charge. -/
theorem Spending.pay {purpose : GasUse} {amount : UInt64} {next : Unit → Run β} {later : β → Prop}
    {made : Nat} (rest : ∀ value, Spending made (next value) later) :
    Spending made (charge purpose amount >>= next) later :=
  (frugal_charge purpose amount).and fun value _ => rest value

/-- **Parts that are made of charges and accesses to objects at most take gas.** -/
theorem frugal_composes : Composes Frugal where
  pure _ := .pure trivial
  fail _ := .fail
  internal _ := ⟨fun _ => Breaks.refl Fault.noConfusion⟩
  bind first rest := first.and fun value _ => rest value
  charge purpose amount _ := frugal_charge purpose amount
  look rest _ := ⟨fun heap => (rest heap).spec heap⟩
  alter _ := ⟨fun _ => ⟨⟨rfl, rfl, Nat.le_refl _, Nat.le_refl _, Nat.le_refl _⟩, trivial⟩⟩
  emit _ := ⟨fun _ => ⟨⟨rfl, rfl, Nat.le_refl _, Nat.le_refl _, Nat.le_refl _⟩, trivial⟩⟩

end Run

open Run

theorem Heap.spending_allocate (className : String) :
    Spending 1 (allocate context className) fun _ => True := by
  unfold allocate
  cases context.classes.jarOf? className with
  | none => exact .fail
  | some jar =>
    refine .pay fun _ => .pay fun _ => ⟨fun heap => ?_⟩
    refine Spec.get_bind ?_
    simp only []
    split
    · rename_i full
      exact ⟨.refl, fun _ => full ▸ Nat.lt_succ_self _⟩
    · refine ⟨⟨rfl, rfl, Nat.le_refl _, Nat.le_refl _, ?_⟩, trivial⟩
      show (heap.nextProgressive + 1).toNat ≤ heap.nextProgressive.toNat + 1
      rw [UInt64.toNat_add, UInt64.toNat_one]
      exact Nat.mod_le _ _

namespace Machine

/-! ### Calls -/

theorem spending_enter (depth : Nat) (code : List Instruction) (locals : List Value)
    (extraLocals : UInt16) (this caller : Option ObjectRef) (yields : Yield) (bounded : Bool) :
    Spending 0 (enter context depth code locals extraLocals this caller yields bounded)
      fun frame => frame.bounded = bounded ∧ depth < context.maxCallDepth.toNat := by
  unfold enter
  simp only []
  split
  · exact .fail_bind
  · rename_i room
    exact .pay fun _ => .pay fun _ => .pure ⟨rfl, Nat.not_le.mp room⟩

theorem spending_callConstructor (depth : Nat) (className : String)
    (definition : ConstructorDefinition) (actuals : List Value) (caller : Option ObjectRef) :
    Spending 1 (callConstructor context depth className definition actuals caller)
      fun made => made.2.bounded = false ∧ depth < context.maxCallDepth.toNat := by
  unfold callConstructor
  refine (frugal_composes.checkActuals _ _).and fun _ _ => .take fun visible _ => ?_
  refine (Heap.spending_allocate className).before fun object _ => ?_
  have entered : Spending 0 (do
      let frame ← enter context depth definition.code (.reference object :: actuals)
        definition.locals (some object) visible (.object object) false
      return (object, frame))
      fun made => made.2.bounded = false ∧ depth < context.maxCallDepth.toNat :=
    (spending_enter ..).and fun frame known => .pure known
  split
  · exact (frugal_composes.receivePayment _ _ _).and fun _ _ => entered
  · exact entered

theorem spending_callMethod (depth : Nat) (definition : MethodDefinition) (this : Option ObjectRef)
    (actuals : List Value) (caller : Option ObjectRef) (bounded : Bool) :
    Spending 0 (callMethod context depth definition this actuals caller bounded)
      fun frame => frame.bounded = bounded ∧ depth < context.maxCallDepth.toNat := by
  unfold callMethod
  refine (frugal_composes.checkActuals _ _).and fun _ _ => .take fun visible _ => ?_
  simp only []
  split
  · exact (frugal_composes.receivePayment _ _ _).and fun _ _ => spending_enter ..
  · exact spending_enter ..

theorem spending_invokeFrom (depth : Nat) (this : Option ObjectRef) (method : MethodSignature)
    (receiver : Option ObjectRef) (actuals : List Value) (bounded : Bool) :
    Spending 0 (invokeFrom context depth this method receiver actuals bounded)
      fun frame => frame.bounded = bounded ∧ depth < context.maxCallDepth.toNat :=
  (frugal_composes.findCalled method receiver).and fun _ _ =>
    (frugal_composes.callerFrom _ this).and fun _ _ => spending_callMethod ..

end Machine

end ObjectLedger
