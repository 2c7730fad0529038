/-
**Calls are balanced.**

* `Machine.Calling`: what comes of a part that starts a call. `Machine.Balanced`: wherever the call
  ended, with a result or with a fault, the activations that waited for it are the top ones again and
  the gas that is set aside is that before the call.
* `Machine.Grants`: a call with restricted gas, whose amount the gas account accepts.
  `Machine.consumed_le_of_grants`: at no time has it consumed more.
* `Machine.balanced_execute`, `Action.balanced_entry`, `Action.restores_perform`: the calls that
  instructions make, and those that a transaction makes.
* `Paid.Whole`: no gas is set aside when a transaction settles its gas.
* **`calls_balanced`**: all calls on a metered heap are balanced and keep to their gas.
-/
import ObjectLedger.Proofs.Machine.Course
import ObjectLedger.Proofs.Transaction.Budget

namespace ObjectLedger

open Run

variable {context : Context} {heap after : Heap}

/-- The part leaves the gas set aside as it was, when it ends and when it stops. -/
structure Run.Restores {α : Type} (part : Run α) (heap : Heap) : Prop where
  spec : Spec part heap (fun _ after => after.charger.setAside = heap.charger.setAside)
    fun fault after => fault ≠ .unfinished → after.charger.setAside = heap.charger.setAside

/-- What comes after a part that leaves the gas set aside as it was. -/
theorem Run.Restores.then_pure {α β : Type} {part : Run α} {value : α → β}
    (restores : Restores part heap) : Restores (do return value (← part)) heap :=
  ⟨restores.spec.bind fun _ _ same => same⟩

/-- What comes after a part that at most takes gas. -/
theorem Run.Restores.after_spending {α β : Type} {made : Nat} {part : Run α} {post : α → Prop}
    {next : α → Run β} (spending : Spending made part post)
    (rest : ∀ value after, post value → heap.Spends made after → Restores (next value) after) :
    Restores (part >>= next) heap := by
  have begins : Spec part heap (fun value after => heap.Spends made after ∧ post value)
      fun fault after => fault ≠ .unfinished → after.charger.setAside = heap.charger.setAside :=
    (spending.spec heap).imp (fun _ _ both => both) fun _ _ breaks _ => breaks.spends.setAside_eq
  refine ⟨begins.bind fun value after both => ?_⟩
  exact (rest value after both.2 both.1).spec.imp (fun _ _ same => same.trans both.1.setAside_eq)
    fun _ _ same finished => (same finished).trans both.1.setAside_eq

theorem Run.restores_of_spending {α : Type} {made : Nat} {part : Run α} {post : α → Prop}
    (spending : Spending made part post) : Restores part heap :=
  ⟨(spending.spec heap).imp (fun _ _ both => both.1.setAside_eq)
    fun _ _ breaks _ => breaks.spends.setAside_eq⟩

namespace Machine

variable {frame : Frame} {callers waiting : List Frame} {state : CallState}

/-! ### Calls -/

/-- What comes of a part that starts a call above waiting activations: it fails, or a call begins and
takes its course. -/
inductive Calling (context : Context) (waiting : List Frame) (starts : Run Status) (heap : Heap) :
    CallState → Heap → Prop
  | refused {fault : Fault} {after : Heap} (ran : starts heap = .error fault after) :
      Calling context waiting starts heap (.broken fault waiting) after
  | runs {status : Status} {state : CallState} {begun after : Heap}
      (ran : starts heap = .ok status begun)
      (course : Course context waiting.length status begun state after) :
      Calling context waiting starts heap state after

/-- The activations are those that waited for a call; the top one may have other operands. -/
inductive Resumes : List Frame → List Frame → Prop
  | ends : Resumes [] []
  | goesOn {frame next : Frame} {callers : List Frame} (same : frame.Continues next) :
      Resumes (frame :: callers) (next :: callers)

/-- Wherever a call ended, the activations are those that waited for it, and the gas that is set
aside is that before the call. -/
def Balanced (context : Context) (waiting : List Frame) (starts : Run Status) (heap : Heap) : Prop :=
  ∀ state after, Calling context waiting starts heap state after →
    state.frames.length ≤ waiting.length →
    Resumes waiting state.frames ∧ after.charger.setAside = heap.charger.setAside

/-- An activation has the operands of a call with restricted gas, which name an amount that the gas
account accepts. -/
structure Grants (frame : Frame) (method : MethodSignature) (dispatch : Dispatch) (amount : UInt64)
    (heap : Heap) : Prop where
  exists_operands : ∃ operands receiver next,
    frame.popMany method.formals.length = .ok operands ∧
    operands.2.popReceiver dispatch = .ok receiver ∧ receiver.2.popGas = .ok (amount, next)
  accepted : ∃ charger, heap.charger.pushGas amount = .ok charger

theorem Resumes.refl (waiting : List Frame) : Resumes waiting waiting := by
  cases waiting with
  | nil => exact .ends
  | cons frame callers => exact .goesOn (.refl frame)

theorem Resumes.of_continues {next : Frame} {frames : List Frame} (same : frame.Continues next)
    (resumes : Resumes (next :: callers) frames) : Resumes (frame :: callers) frames := by
  cases resumes with
  | goesOn goesOn => exact .goesOn (same.trans goesOn)

variable {limit : Nat} {below : List UInt64} {aside : Option UInt64}

theorem Stands.consumed_le (stands : Stands waiting aside below limit state after) :
    after.charger.consumed.sum ≤ limit := by
  cases stands with
  | inside inside => exact inside.consumed_le
  | returned _ restored | broken _ restored => exact restored.consumed_le

/-- What holds where a call ended. -/
theorem Stands.resumes (stands : Stands waiting aside below limit state after)
    (ended : state.frames.length ≤ waiting.length) :
    Resumes waiting state.frames ∧ after.charger.setAside = below := by
  cases stands with
  | inside inside => exact absurd inside.length_lt (Nat.not_lt.mpr ended)
  | returned result restored =>
    refine ⟨?_, restored.setAside_eq⟩
    cases waiting with
    | nil => exact .ends
    | cons caller rest => exact .goesOn ((Frame.Continues.refl caller).withStack _)
  | broken fault restored => exact ⟨.refl waiting, restored.setAside_eq⟩

/-- How a call with restricted gas starts. -/
theorem spec_invokeWithGas {method : MethodSignature} {dispatch : Dispatch} {amount : UInt64}
    (metered : heap.charger.metered = true) (grants : Grants frame method dispatch amount heap) :
    Spec (execute context frame callers (.invokeWithGas method dispatch)) heap
      (fun status begun => ∃ next, Inside (next :: callers) (some (heap.charger.remaining - amount))
        heap.charger.setAside (heap.charger.consumed.sum + amount.toNat) status begun)
      fun _ after => after.charger.consumed.sum ≤ heap.charger.consumed.sum + amount.toNat := by
  obtain ⟨⟨operands, receiver, next, taken, aimed, given⟩, charger, pushed⟩ := grants
  refine .bind_of_eq (congrArg (fun result => ofThrowing result heap) taken) ?_
  refine .bind_of_eq (congrArg (fun result => ofThrowing result heap) aimed) ?_
  refine .bind_of_eq (congrArg (fun result => ofThrowing result heap) given) ?_
  refine (spec_restricted pushed (spending_invokeFrom ..)).imp (fun status begun called => ?_)
    fun fault after stopped => ?_
  · obtain ⟨called, rfl, bounded, -, spends⟩ := called
    exact ⟨next, inside_of_restricted metered pushed bounded spends⟩
  · obtain ⟨broken, breaks, rfl⟩ := stopped
    have used := breaks.spends.used_le
    obtain ⟨-, rfl⟩ := Charger.pushGas_eq_ok metered pushed
    show broken.charger.popGas.consumed.sum ≤ _
    rw [Charger.consumed_popGas]
    exact Nat.le_trans (Nat.le_add_right _ _) used

/-- **A call with restricted gas never consumes more.** -/
theorem consumed_le_of_grants {method : MethodSignature} {dispatch : Dispatch} {amount : UInt64}
    (metered : heap.charger.metered = true) (grants : Grants frame method dispatch amount heap)
    (calling : Calling context (frame :: callers)
      (execute context frame callers (.invokeWithGas method dispatch)) heap state after) :
    after.charger.consumed.sum ≤ heap.charger.consumed.sum + amount.toNat := by
  cases calling with
  | refused ran => exact (spec_invokeWithGas metered grants).faults ran
  | runs ran course =>
    obtain ⟨next, inside⟩ := (spec_invokeWithGas metered grants).ends ran
    exact (inside.stands course).consumed_le

/-- **The calls of instructions are balanced.** -/
theorem balanced_execute {instruction : Instruction} (metered : heap.charger.metered = true)
    (calls : isCall instruction = true) :
    Balanced context (frame :: callers) (execute context frame callers instruction) heap := by
  intro state after calling ended
  cases calling with
  | refused ran =>
    exact ⟨.refl _, ((begins_execute calls).faults ran metered).spends.setAside_eq⟩
  | runs ran course =>
    obtain ⟨next, aside, same, inside⟩ := ((begins_execute calls).ends ran).inside metered
    obtain ⟨resumes, restored⟩ := (inside.stands course).resumes ended
    exact ⟨resumes.of_continues same, restored⟩

/-- An activation that is not restricted begins inside the gas at hand. -/
theorem inside_of_unbounded (metered : heap.charger.metered = true)
    (unbounded : frame.bounded = false) :
    Inside [] none heap.charger.setAside
      (heap.charger.consumed.sum + heap.charger.remaining.toNat) (.running frame []) heap :=
  ⟨[], frame, rfl, unbounded, metered, Nat.zero_le _, rfl, Nat.le_refl _⟩

/-- Running an activation that is not restricted leaves the gas set aside as it was. -/
theorem restores_runFrame (metered : heap.charger.metered = true)
    (unbounded : frame.bounded = false) : Restores (runFrame context frame) heap := by
  have stands : ∀ {state after}, Course context 0 (.running frame []) heap state after →
      Stands [] none heap.charger.setAside
        (heap.charger.consumed.sum + heap.charger.remaining.toNat) state after :=
    fun course => (inside_of_unbounded metered unbounded).stands course
  refine ⟨(course_run (stepBound heap) .starts).imp (fun result after course => ?_)
    fun fault after stopped finished => ?_⟩
  · exact ((stands course).resumes (Nat.le_refl 0)).2
  · rcases stopped with same | course
    · exact absurd same finished
    · exact ((stands course).resumes (Nat.le_refl 0)).2

end Machine

/-! ### Transactions -/

namespace Action

open Machine

variable {account : ObjectRef} {action : Action} {entry : Run Frame}

/-- **The call of a transaction is balanced.** -/
theorem balanced_entry (metered : heap.charger.metered = true)
    (entered : action.entry? context account = some entry) :
    Balanced context [] (do return .running (← entry) []) heap := by
  intro state after calling ended
  have enters : Spec (do return Status.running (← entry) []) heap
      (fun status begun => ∃ first, status = .running first [] ∧ first.bounded = false ∧
        heap.Spends 1 begun) (Breaks 1 heap) :=
    ((spending_entry entered).spec heap).bind fun first begun both =>
      ⟨first, rfl, both.2.1, both.1⟩
  cases calling with
  | refused ran => exact ⟨.refl _, (enters.faults ran).spends.setAside_eq⟩
  | runs ran course =>
    obtain ⟨first, rfl, unbounded, spends⟩ := enters.ends ran
    have inside := inside_of_unbounded (spends.metered_eq.trans metered) unbounded
    obtain ⟨resumes, restored⟩ := (inside.stands course).resumes ended
    exact ⟨resumes, restored.trans spends.setAside_eq⟩

/-- **Performing an action leaves the gas set aside as it was.** -/
theorem restores_perform (metered : heap.charger.metered = true) :
    Restores (action.perform context account) heap := by
  have runs : ∀ {entry : Run Frame}, action.activation? context account = some entry →
      action.entry? context account = some entry →
      Restores (action.perform context account) heap := by
    intro entry calls entered
    rw [perform_eq_of_activation? calls]
    exact .after_spending (spending_entry entered) fun first after known spends =>
      restores_runFrame (spends.metered_eq.trans metered) known.1
  cases action with
  | installJar jar dependencies =>
    have spends : Frugal ((installJar jar dependencies).perform context account) := by
      refine .pay fun _ => .pay fun _ => ?_
      cases context.classes.extended jar with
      | error cause => exact .fail
      | ok classes => exact .pure trivial
    exact restores_of_spending spends
  | construct constructor actuals =>
    rw [perform_construct]
    refine .after_spending (spending_making constructor actuals) fun made after known spends => ?_
    have runs : Restores (runFrame context made.2) after :=
      restores_runFrame (spends.metered_eq.trans metered) known.1
    have discards : Restores (discard (runFrame context made.2)) after := runs.then_pure
    exact discards.then_pure
  | invoke method receiver actuals => exact runs rfl rfl
  | invokeStatic method actuals => exact runs rfl rfl

end Action

namespace Paid

open Heap

variable {config : NodeConfig} {view : LedgerView} {reference : TransactionRef} {header : Header}
  {action : Action} {classes : LinkedClasspath} {extra : UInt64} {isView : Bool} {paid : Paid}

/-- All unused gas is at hand when a transaction settles its gas, before and after the storage of its
response is paid for. -/
structure Whole (paid : Paid) (heap : Heap) : Prop where
  unused_eq : heap.charger.unused = heap.charger.remaining
  paid_eq : ∀ roots updates collected amount charger,
    paid.collectUpdates roots heap = .ok updates collected →
    collected.charger.charge .storage amount = .ok charger → charger.unused = charger.remaining

theorem frugal_loadAccount (caller : ObjectRef) : Frugal (loadAccount context caller) :=
  (frugal_composes.getAmount caller .balance).and fun _ _ =>
    (frugal_composes.getAmount caller .nonce).and fun _ _ => .pure trivial

theorem unused_of_setAside {charger : Charger} (none : charger.setAside = []) :
    charger.unused = charger.remaining := by
  unfold Charger.unused
  rw [none]
  rfl

theorem setAside_of_charge {charger later : Charger} {purpose : GasUse} {amount : UInt64}
    (paid : charger.charge purpose amount = .ok later) : later.setAside = charger.setAside := by
  unfold Charger.charge at paid
  split at paid
  · cases paid
    rfl
  · split at paid
    · cases paid
    · cases paid
      rfl

/-- Where no gas is set aside, all unused gas is at hand. -/
theorem whole_of_setAside (none : heap.charger.setAside = []) : paid.Whole heap := by
  refine ⟨unused_of_setAside none, fun roots updates collected amount charger ran charged => ?_⟩
  obtain ⟨account, last, loaded, rest⟩ := ok_of_bind ran
  cases rest
  have spends := (((frugal_loadAccount paid.caller).spec heap).ends loaded).1
  exact unused_of_setAside ((setAside_of_charge charged).trans (spends.setAside_eq.trans none))

/-- A transaction starts with metered gas, of which nothing is set aside. -/
theorem setAside_of_start
    (started : start config view reference header action classes extra isView = .ok paid) :
    paid.heap.charger.metered = true ∧ paid.heap.charger.setAside = [] := by
  obtain ⟨-, context, charger, price, balance, nonce, next, ready, bought, heap, rfl, rfl, charged,
    loaded, -, -, paying, -, ends, rfl⟩ := start_eq_ok_iff.mp started
  have metered := (balanced_of_chargeStart charged).metered
  have none : charger.setAside = [] := by
    obtain ⟨first, cpu, rest⟩ := bind_eq_ok.mp charged
    obtain ⟨second, ram, storage⟩ := bind_eq_ok.mp rest
    rw [setAside_of_charge storage, setAside_of_charge ram, setAside_of_charge cpu]
    rfl
  have reads := (((frugal_loadAccount header.caller).spec { charger }).ends loaded).1
  have writes := (((frugal_composes.setField header.caller .balance _).spec ready).ends paying).1
  have begun := reads.trans writes
  rcases ends with ⟨-, rfl⟩ | ⟨-, counting⟩
  · exact ⟨begun.metered_eq.trans metered, begun.setAside_eq.trans none⟩
  · have counts := (((frugal_composes.setField header.caller .nonce _).spec bought).ends counting).1
    exact ⟨(begun.trans counts).metered_eq.trans metered,
      (begun.trans counts).setAside_eq.trans none⟩

/-- **At the end of a transaction all unused gas is at hand.** -/
theorem whole_of_start
    (started : start config view reference header action classes extra isView = .ok paid) :
    Spec (paid.action.perform paid.context paid.caller) paid.heap (fun _ after => paid.Whole after)
      fun fault after => fault ≠ .unfinished → paid.Whole after := by
  obtain ⟨metered, none⟩ := setAside_of_start started
  exact (Action.restores_perform metered).spec.imp
    (fun _ _ same => whole_of_setAside (same.trans none))
    fun _ _ same finished => whole_of_setAside ((same finished).trans none)

end Paid

/-- **Calls are balanced and keep to their gas.** On a metered heap, a call with restricted gas never
consumes more than the amount that the gas account accepted, whatever its code does, until it returned
or a fault ended it; every call that an instruction or a transaction makes leaves the waiting
activations and the gas set aside as they were; and so all unused gas is at hand where a transaction
settles its gas. -/
theorem calls_balanced (metered : heap.charger.metered = true) :
    (∀ context frame callers method dispatch amount state after,
      Machine.Grants frame method dispatch amount heap →
      Machine.Calling context (frame :: callers)
        (Machine.execute context frame callers (.invokeWithGas method dispatch)) heap state after →
      after.charger.consumed.sum ≤ heap.charger.consumed.sum + amount.toNat) ∧
    (∀ context frame callers instruction, Machine.isCall instruction = true →
      Machine.Balanced context (frame :: callers)
        (Machine.execute context frame callers instruction) heap) ∧
    (∀ context account action entry, Action.entry? context account action = some entry →
      Machine.Balanced context [] (do return .running (← entry) []) heap) ∧
    (∀ context account action, Restores (Action.perform context account action) heap) ∧
    (∀ config view reference header action classes extra isView paid,
      Paid.start config view reference header action classes extra isView = .ok paid →
      Spec (paid.action.perform paid.context paid.caller) paid.heap (fun _ after => paid.Whole after)
        fun fault after => fault ≠ .unfinished → paid.Whole after) :=
  ⟨fun _ _ _ _ _ _ _ _ grants calling => Machine.consumed_le_of_grants metered grants calling,
    fun _ _ _ _ calls => Machine.balanced_execute metered calls,
    fun _ _ _ _ entered => Action.balanced_entry metered entered,
    fun _ _ _ => Action.restores_perform metered,
    fun _ _ _ _ _ _ _ _ _ started => Paid.whole_of_start started⟩

/-! ### A job that is given a part of the gas -/

namespace Jobs

def work : MethodSignature := ⟨"Job", "work", [], none⟩

/-- An activation that is about to give 200 units of gas to the work. -/
def asking : Frame where
  code := [.push (.int 200), .invokeWithGas work .static, .ret]
  position := 2
  locals := []
  stack := [.int 200]
  this := none
  caller := none
  yields := .nothing
  bounded := false

theorem grants_asking : Machine.Grants asking work .static 200 begun where
  exists_operands := ⟨([], asking), (none, asking), { asking with stack := [] }, rfl, rfl, rfl⟩
  accepted := ⟨{ begun.charger with remaining := 200, setAside := [800] }, rfl⟩

/-- The work begins, consumes no more than 200 units of gas, and leaves none set aside. -/
theorem calls_balanced_asking : begun.charger.metered = true ∧
    (resultOf? (Machine.execute office asking [] (.invokeWithGas work .static)) begun).isSome = true ∧
    (∀ state after, Machine.Calling office [asking]
      (Machine.execute office asking [] (.invokeWithGas work .static)) begun state after →
      after.charger.consumed.sum ≤ 200 ∧
      (state.frames.length ≤ 1 → after.charger.setAside = [])) ∧
    Restores (delegating.perform office clerk) begun := by
  have metered : begun.charger.metered = true := rfl
  have balances := calls_balanced metered
  have restores := balances.2.2.2.1 office clerk delegating
  have limit : begun.charger.consumed.sum + (200 : UInt64).toNat = 200 := by decide
  have aside : begun.charger.setAside = [] := rfl
  have begins : (resultOf? (Machine.execute office asking [] (.invokeWithGas work .static))
      begun).isSome = true := by decide +kernel
  refine ⟨metered, begins, fun state after calling => ⟨?_, fun ended => ?_⟩, restores⟩
  · rw [← limit]
    exact balances.1 office asking [] work .static 200 state after grants_asking calling
  · rw [← aside]
    exact (balances.2.1 office asking [] (.invokeWithGas work .static) rfl state after calling
      ended).2

end Jobs

end ObjectLedger
