/-
**What code does with its gas.**

* **`Action.perform_withGas`**: more gas never changes what a transaction does, unless it lacked gas.
* `Action.spending_entry`: the first activation of an action is not restricted, so its code stops
  within the gas at hand (`Action.halts_entered`).
  **`Action.halts_within_gas`**: where instructions cost CPU, every transaction stops within the gas
  at hand, under no more activations at once than are allowed.
-/
import ObjectLedger.Proofs.Machine.Halting
import ObjectLedger.Proofs.Machine.Richer
import ObjectLedger.Proofs.Transaction.Custody

namespace ObjectLedger

open Run Heap

variable {context : Context} {account : ObjectRef} {action : Action} {entry : Run Frame}
  {heap : Heap}

namespace Heap

/-- The heap with another amount of gas at hand. -/
def withGas (heap : Heap) (amount : UInt64) : Heap :=
  { heap with charger := { heap.charger with remaining := amount } }

/-- Two runs left the same objects and the same events, and consumed the same gas. -/
structure SameWork (first second : Heap) : Prop where
  objects_eq : second.objects = first.objects
  nextProgressive_eq : second.nextProgressive = first.nextProgressive
  events_eq : second.events = first.events
  consumed_eq : second.charger.consumed = first.charger.consumed

theorem poorer_withGas {more : UInt64} (le : heap.charger.remaining ≤ more) :
    heap.Poorer (heap.withGas more) :=
  ⟨⟨rfl, rfl, rfl, le, List.forall₂_refl _⟩, rfl, rfl, rfl⟩

theorem Poorer.sameWork {richer : Heap} (poorer : heap.Poorer richer) : heap.SameWork richer :=
  ⟨poorer.objects_eq, poorer.nextProgressive_eq, poorer.events_eq, poorer.charger.consumed_eq⟩

end Heap

namespace Action

/-! ### More gas -/

/-- **More gas never changes an execution.** If performing an action ends in anything but an error
for a lack of gas (a result, something else that is thrown, or a fault from inside), then with more
gas at hand it ends in the same way, with the same objects and events, and consumes the same gas. -/
theorem perform_withGas {more : UInt64} (le : heap.charger.remaining ≤ more)
    (settles : StopsOnly Fault.Settled (action.perform context account) heap) :
    SameEnd Heap.SameWork (action.perform context account heap)
      (action.perform context account (heap.withGas more)) :=
  ((steady_executes.perform context account action).alongside heap _ (poorer_withGas le) settles).imp
    fun _ _ poorer => poorer.sameWork

/-! ### Enough gas -/

/-- Making an object makes one, and the activation of its constructor is not restricted. -/
theorem spending_making (constructor : ConstructorSignature) (actuals : List Value) :
    Spending 1 (Machine.making context account constructor actuals) fun made =>
      made.2.bounded = false ∧ 0 < context.maxCallDepth.toNat :=
  spending_ofThrowing.and fun _ _ => Machine.spending_callConstructor ..

/-- The first activation of an action is not restricted, and one activation is allowed. -/
theorem spending_entry (entered : action.entry? context account = some entry) :
    Spending 1 entry fun frame =>
      frame.bounded = false ∧ 0 < context.maxCallDepth.toNat := by
  have calls : ∀ definition this actuals, Spending 1
      (Machine.callMethod context 0 definition this actuals (some account) false)
      fun frame => frame.bounded = false ∧ 0 < context.maxCallDepth.toNat :=
    fun _ _ _ => (Machine.spending_callMethod ..).imp (Nat.zero_le 1) fun _ known => known
  cases action with
  | installJar => cases entered
  | construct constructor actuals =>
    cases entered
    exact (spending_making constructor actuals).before fun made known => .pure known
  | invoke method receiver actuals =>
    cases entered
    refine (frugal_composes.isInstance _ _).and fun answer _ => ?_
    split
    · exact .fail_bind
    · exact (frugal_composes.classOf receiver).and fun className _ =>
        spending_ofThrowing.and fun definition _ => calls _ _ _
  | invokeStatic method actuals =>
    cases entered
    exact spending_ofThrowing.and fun definition _ => calls _ _ _

/-- Performing an action stops where its first activation does, or comes to no end. -/
theorem stopsOnly_perform {allowed : Fault → Prop}
    (entered : action.entry? context account = some entry)
    (stops : StopsOnly allowed (entry >>= Machine.runFrame context) heap) :
    StopsOnly allowed (action.perform context account) heap := by
  cases action with
  | installJar => cases entered
  | invoke method receiver actuals =>
    have calls : (invoke method receiver actuals).activation? context account = some entry :=
      entered
    rw [perform_eq_of_activation? calls]
    exact stops
  | invokeStatic method actuals =>
    have calls : (invokeStatic method actuals).activation? context account = some entry := entered
    rw [perform_eq_of_activation? calls]
    exact stops
  | construct constructor actuals =>
    cases entered
    rw [perform_construct]
    simp only [bind_assoc, pure_bind] at stops
    refine StopsOnly.bind stops.first fun made begun ran => ?_
    refine StopsOnly.bind ?_ fun _ _ _ => stopsOnly_pure _ _
    exact StopsOnly.bind (stops.rest ran) fun _ _ _ => stopsOnly_pure _ _

/-- Once its first activation is entered, the code of an action stops within the gas at hand. -/
theorem halts_entered {first : Frame} {begun : Heap} (costly : context.costs.instructionCpu ≠ 0)
    (metered : heap.charger.metered = true)
    (entered : action.entry? context account = some entry) (ran : entry heap = .ok first begun) :
    ∃ count, Machine.Halts context (.running first []) begun count
        (Machine.runFrame context first begun) ∧
      count ≤ heap.charger.remaining.toNat ∧
      ∀ after, Machine.runFrame context first begun = .error .unfinished after →
        maxWord < begun.nextProgressive.toNat + count := by
  obtain ⟨spends, unbounded, -⟩ := ((spending_entry entered).spec heap).ends ran
  obtain ⟨count, halts, paid, full⟩ :=
    Machine.halts_runFrame costly (spends.metered_eq.trans metered) unbounded
  have positive : 0 < context.costs.instructionCpu.toNat :=
    Nat.pos_of_ne_zero fun zero => costly (UInt64.toNat_inj.mp zero)
  have fits : count ≤ heap.charger.remaining.toNat :=
    ((Nat.le_mul_of_pos_right count positive).trans paid).trans spends.remaining_le
  exact ⟨count, halts, fits, full⟩

/-- **Every transaction stops within its gas.** Where an instruction costs CPU, the code of an
action over a metered heap stops after at most as many instructions as there is gas at hand; no more
activations than are allowed run at once; and the action comes to an end, unless more objects are
made than can be numbered. -/
theorem halts_within_gas (costly : context.costs.instructionCpu ≠ 0)
    (metered : heap.charger.metered = true)
    (entered : action.entry? context account = some entry) :
    (∀ first begun, entry heap = .ok first begun → ∃ count,
      Machine.Halts context (.running first []) begun count
        (Machine.runFrame context first begun) ∧
      count ≤ heap.charger.remaining.toNat) ∧
    (∀ frame callers now, action.Runs context account heap frame callers now →
      (frame :: callers).length ≤ context.maxCallDepth.toNat) ∧
    (heap.nextProgressive.toNat + heap.charger.remaining.toNat < maxWord →
      StopsOnly (· ≠ .unfinished) (action.perform context account) heap) := by
  have enters := (spending_entry entered).spec heap
  refine ⟨fun first begun ran => ?_, ?_, fun numbers => stopsOnly_perform entered ?_⟩
  · obtain ⟨count, halts, fits, -⟩ := halts_entered costly metered entered ran
    exact ⟨count, halts, fits⟩
  · rintro frame callers now ⟨other, first, begun, enteredToo, ran, reaches⟩
    cases entered.symm.trans enteredToo
    exact Machine.length_le_of_reaches reaches (enters.ends ran).2.2
  · -- the gas at hand bounds the objects that are made, by the instructions that make them
    rintro fault after stopped rfl
    rcases error_of_bind stopped with stopped | ⟨first, begun, ran, stopped⟩
    · have full := (enters.faults stopped).full rfl
      omega
    · obtain ⟨count, -, fits, full⟩ := halts_entered costly metered entered ran
      have full := full after stopped
      have numbered := (enters.ends ran).1.numbered
      omega

end Action

/-! ### A job that is given a part of the gas, and one that never ends -/

namespace Jobs

/-- Some work, code that gives 200 units of gas to that work, and code that jumps on the spot. -/
def unit : CodeUnit :=
  ⟨[⟨"Job", none, [], [],
    [⟨"work", [], none, true, .none, 0, [.push (.int 1), .pop, .ret]⟩,
      ⟨"delegate", [], none, true, .none, 0,
        [.push (.int 200), .invokeWithGas ⟨"Job", "work", [], none⟩ .static, .ret]⟩,
      ⟨"spin", [], none, true, .none, 0, [.jump 0]⟩]⟩]⟩

def clerk : ObjectRef := ⟨⟨1⟩, 0⟩

def office : Context where
  view := {
    response _ := .ok none
    history _ := .ok []
    manifest := .ok none
    now := 0 }
  classes := { classes := unit.classes.map fun definition => ⟨definition, some ⟨0⟩⟩ }
  costs := {}
  transaction := ⟨2⟩
  maxCallDepth := 16

def delegating : Action := .invokeStatic ⟨"Job", "delegate", [], none⟩ []

def spinning : Action := .invokeStatic ⟨"Job", "spin", [], none⟩ []

def begun : Heap := { charger := .withLimit 1000 }

/-- The work that is done with 1000 units of gas is done with 5000 as well. -/
theorem perform_withGas_delegating : begun.charger.remaining ≤ 5000 ∧
    StopsOnly Fault.Settled (delegating.perform office clerk) begun ∧
    SameEnd Heap.SameWork (delegating.perform office clerk begun)
      (delegating.perform office clerk (begun.withGas 5000)) := by
  have ended : (resultOf? (delegating.perform office clerk) begun).isSome = true := by
    decide +kernel
  obtain ⟨result, ended⟩ := Option.isSome_iff_exists.mp ended
  obtain ⟨after, ran⟩ := ok_of_resultOf? ended
  have settles : StopsOnly Fault.Settled (delegating.perform office clerk) begun :=
    fun cause after stopped => nomatch ran.symm.trans stopped
  have le : begun.charger.remaining ≤ 5000 := by decide
  exact ⟨le, settles, Action.perform_withGas le settles⟩

/-- Code that jumps on the spot comes to an end after at most 1000 jumps. -/
theorem halts_within_gas_spinning : office.costs.instructionCpu ≠ 0 ∧ begun.charger.metered = true ∧
    ∃ entry first after count, spinning.entry? office clerk = some entry ∧
      entry begun = .ok first after ∧
      Machine.Halts office (.running first []) after count
        (Machine.runFrame office first after) ∧
      count ≤ 1000 ∧ StopsOnly (· ≠ .unfinished) (spinning.perform office clerk) begun := by
  have costly : office.costs.instructionCpu ≠ 0 := by decide
  have metered : begun.charger.metered = true := rfl
  have enters : (spinning.entry? office clerk).any
      (fun entry => (resultOf? entry begun).isSome) = true := by decide +kernel
  obtain ⟨entry, entered, enters⟩ := (Option.any_eq_true ..).mp enters
  obtain ⟨first, enters⟩ := Option.isSome_iff_exists.mp enters
  obtain ⟨after, ran⟩ := ok_of_resultOf? enters
  obtain ⟨halts, -, ends⟩ := Action.halts_within_gas costly metered entered
  obtain ⟨count, halts, fits⟩ := halts first after ran
  exact ⟨costly, metered, entry, first, after, count, entered, ran, halts, fits, ends (by decide)⟩

end Jobs

end ObjectLedger
