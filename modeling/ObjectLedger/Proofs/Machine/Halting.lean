/-
**Code stops within the gas that it has.**

* `Machine.Turns`: all that an instruction can do to the activations and the gas, by
  **`Machine.turning_execute`**, and so all that a step can do, by `Machine.turning_step`.
  `Machine.Begins` is the part of it about calls, by `Machine.begins_execute`.
* `Machine.Status.gas`: the gas that the activations can use. **`Machine.advances_step`**: a step
  takes the gas for the instruction that it executes, if it executes one, and ends an activation
  if not.
* `Machine.Halts`: the machine stops after a number of instructions. **`Machine.halts_run`**: where
  instructions cost CPU, it does so within the gas that the activations can use.
* **`Machine.length_le_of_reaches`**: no more activations than are allowed run at once.
-/
import ObjectLedger.Proofs.Machine.Calling
import ObjectLedger.Proofs.Machine.Spending

namespace ObjectLedger.Machine

open Run

variable {α : Type} {context : Context} {heap middle after : Heap}

/-! ### Instructions -/

/-- What the activations below come to when the top one ended with a result. -/
def Status.returned : List Frame → Option Value → Status
  | [], result => .finished result
  | caller :: rest, result => .running (caller.pushResult result) rest

/-- The top activation ended, and the gas that was set aside for it, if it was restricted, was given
back. -/
structure Leaves (frame : Frame) (callers : List Frame) (heap : Heap) (status : Status)
    (after : Heap) : Prop where
  exists_result : ∃ result, status = .returned callers result
  released : ∃ middle, heap.Spends 0 middle ∧
    after = if frame.bounded then releaseHeap middle else middle

/-- An activation calls another one, with all gas at hand or with a part of it. -/
inductive Begins (context : Context) (frame : Frame) (callers : List Frame) (heap : Heap) :
    Status → Heap → Prop
  | calls {next called : Frame} {after : Heap} (same : frame.Continues next)
      (unbounded : called.bounded = false)
      (room : callers.length + 1 < context.maxCallDepth.toNat) (spends : heap.Spends 1 after) :
      Begins context frame callers heap (.running called (next :: callers)) after
  | restricts {next called : Frame} {middle after : Heap} {amount : UInt64} {charger : Charger}
      (same : frame.Continues next) (bounded : called.bounded = true)
      (room : callers.length + 1 < context.maxCallDepth.toNat) (before : heap.Spends 0 middle)
      (pushed : middle.charger.pushGas amount = .ok charger)
      (spends : Heap.Spends 0 { middle with charger } after) :
      Begins context frame callers heap (.running called (next :: callers)) after

/-- All that an instruction of an activation can do to the activations and the gas: the activation
goes on, it calls another one, or it ends. -/
inductive Turns (context : Context) (frame : Frame) (callers : List Frame) (heap : Heap) :
    Status → Heap → Prop
  | goes {next : Frame} {after : Heap} (same : frame.Continues next)
      (spends : heap.Spends 0 after) :
      Turns context frame callers heap (.running next callers) after
  | begins {status : Status} {after : Heap}
      (begins : Begins context frame callers heap status after) :
      Turns context frame callers heap status after
  | leaves {status : Status} {after : Heap} (leaves : Leaves frame callers heap status after) :
      Turns context frame callers heap status after

/-- The part leads to what is said, and takes nothing but gas before it stops; a restriction that it
made is lifted then. Only a metered account knows which restriction that is. -/
def Turning (part : Run Status) (heap : Heap) (ends : Status → Heap → Prop) : Prop :=
  Spec part heap ends fun fault after => heap.charger.metered = true → Breaks 1 heap fault after

variable {frame : Frame} {callers : List Frame} {part : Run Status} {status : Status}

/-- The gas that a restriction set aside is given back, whatever was taken under it. -/
theorem spends_releaseHeap {amount : UInt64} {charger : Charger} {made : Nat}
    (metered : heap.charger.metered = true) (pushed : heap.charger.pushGas amount = .ok charger)
    (spends : Heap.Spends made { heap with charger } after) :
    heap.Spends made (releaseHeap after) := by
  obtain ⟨enough, rfl⟩ := Charger.pushGas_eq_ok metered pushed
  have aside : after.charger.setAside =
      (heap.charger.remaining - amount) :: heap.charger.setAside := spends.setAside_eq
  have back : (releaseHeap after).charger = { after.charger with
      setAside := heap.charger.setAside
      remaining :=
        saturatingAdd after.charger.remaining (heap.charger.remaining - amount) } := by
    unfold releaseHeap Charger.popGas
    rw [aside]
  have kept : (heap.charger.remaining - amount).toNat =
      heap.charger.remaining.toNat - amount.toNat := UInt64.toNat_sub_of_le _ _ enough
  have less : amount.toNat ≤ heap.charger.remaining.toNat := UInt64.le_iff_toNat_le.mp enough
  have remaining : after.charger.remaining.toNat ≤ amount.toNat := spends.remaining_le
  have used : after.charger.consumed.sum + after.charger.remaining.toNat ≤
      heap.charger.consumed.sum + amount.toNat := spends.used_le
  have added := toNat_saturatingAdd after.charger.remaining (heap.charger.remaining - amount)
  refine ⟨?_, ?_, ?_, ?_, spends.numbered⟩
  · rw [back]
    exact spends.metered_eq
  · rw [back]
  · rw [back]
    show (saturatingAdd _ _).toNat ≤ _
    omega
  · rw [back]
    show after.charger.consumed.sum + (saturatingAdd _ _).toNat ≤ _
    omega

/-- Gas that was taken earlier. -/
theorem Begins.of_spends (spends : heap.Spends 0 middle)
    (begins : Begins context frame callers middle status after) :
    Begins context frame callers heap status after := by
  cases begins with
  | calls same unbounded room later =>
    exact .calls same unbounded room ((spends.trans later).mono (Nat.le_of_eq (Nat.zero_add 1)))
  | restricts same bounded room before pushed later =>
    exact .restricts same bounded room (spends.trans before) pushed later

/-- Gas that was taken earlier. -/
theorem Turns.of_spends (spends : heap.Spends 0 middle)
    (turns : Turns context frame callers middle status after) :
    Turns context frame callers heap status after := by
  cases turns with
  | goes same later => exact .goes same (spends.trans later)
  | begins begins => exact .begins (begins.of_spends spends)
  | leaves leaves =>
    obtain ⟨last, later, same⟩ := leaves.released
    exact .leaves ⟨leaves.exists_result, last, spends.trans later, same⟩

/-- What an activation at a later point calls. -/
theorem Begins.before {earlier : Frame} (same : earlier.Continues frame)
    (begins : Begins context frame callers heap status after) :
    Begins context earlier callers heap status after := by
  cases begins with
  | calls goes unbounded room spends => exact .calls (same.trans goes) unbounded room spends
  | restricts goes bounded room before pushed spends =>
    exact .restricts (same.trans goes) bounded room before pushed spends

/-- What an activation at a later point turns to. -/
theorem Turns.before {earlier : Frame} (same : earlier.Continues frame)
    (turns : Turns context frame callers heap status after) :
    Turns context earlier callers heap status after := by
  cases turns with
  | goes goes spends => exact .goes (same.trans goes) spends
  | begins begins => exact .begins (begins.before same)
  | leaves leaves =>
    obtain ⟨last, spends, released⟩ := leaves.released
    exact .leaves ⟨leaves.exists_result, last, spends, same.bounded_eq ▸ released⟩

theorem Turning.bind {first : Run α} {post : α → Prop} {next : α → Run Status}
    (spending : Spending 0 first post)
    (rest : ∀ value after, post value →
      Turning (next value) after (Turns context frame callers after)) :
    Turning (first >>= next) heap (Turns context frame callers heap) := by
  have begins : Spec first heap (fun value after => heap.Spends 0 after ∧ post value)
      fun fault after => heap.charger.metered = true → Breaks 1 heap fault after :=
    (spending.spec heap).imp (fun _ _ both => both) fun _ _ breaks _ =>
      breaks.mono (Nat.zero_le 1)
  refine begins.bind fun value after ends => ?_
  refine (rest value after ends.2).imp (fun _ _ turns => turns.of_spends ends.1)
    fun _ _ breaks metered => ?_
  exact ((breaks (ends.1.metered_eq.trans metered)).of_spends ends.1).mono
    (Nat.le_of_eq (Nat.zero_add 1))

theorem turning_of_goes (spending : Spending 0 part fun status =>
    ∃ next, status = .running next callers ∧ frame.Continues next) :
    Turning part heap (Turns context frame callers heap) := by
  refine (spending.spec heap).imp (fun status after both => ?_) fun _ _ breaks _ =>
    breaks.mono (Nat.zero_le 1)
  obtain ⟨spends, next, rfl, same⟩ := both
  exact .goes same spends

theorem turning_of_calls (spending : Spending 1 part fun status => ∃ called next,
    status = .running called (next :: callers) ∧ frame.Continues next ∧ called.bounded = false ∧
      callers.length + 1 < context.maxCallDepth.toNat) :
    Turning part heap (Begins context frame callers heap) := by
  refine (spending.spec heap).imp (fun status after both => ?_) fun _ _ breaks _ => breaks
  obtain ⟨spends, called, next, rfl, same, unbounded, room⟩ := both
  exact .calls same unbounded room spends

/-- What is done under a restriction: the call takes gas, and when it fails, the restriction is
lifted. -/
theorem spec_releasingOnFault {made : Nat} {part : Run α} {post : α → Prop}
    (spending : Spending made part post) (heap : Heap) :
    Spec (releasingOnFault part) heap (fun value after => heap.Spends made after ∧ post value)
      fun fault after => ∃ broken, Breaks made heap fault broken ∧ after = releaseHeap broken := by
  have spends := spending.spec heap
  unfold Spec releasingOnFault at *
  cases ran : part heap with
  | ok value after =>
    rw [ran] at spends
    exact spends
  | error fault after =>
    rw [ran] at spends
    exact ⟨after, spends, rfl⟩

/-- A call with restricted gas, where the account accepts the amount. -/
theorem spec_restricted {amount : UInt64} {charger : Charger} {call : Run Frame} {next : Frame}
    (pushed : heap.charger.pushGas amount = .ok charger)
    (spending : Spending 0 call fun called =>
      called.bounded = true ∧ callers.length + 1 < context.maxCallDepth.toNat) :
    Spec (do
      restrictGas amount
      let called ← releasingOnFault call
      return Status.running called (next :: callers)) heap
      (fun status after => ∃ called, status = .running called (next :: callers) ∧
        called.bounded = true ∧ callers.length + 1 < context.maxCallDepth.toNat ∧
        Heap.Spends 0 { heap with charger } after)
      fun fault after => ∃ broken, Breaks 0 { heap with charger } fault broken ∧
        after = releaseHeap broken := by
  have restricts : restrictGas amount heap = .ok () { heap with charger } := by
    unfold restrictGas
    rw [get_bind_apply, pushed]
    rfl
  refine Spec.bind_of_eq restricts ?_
  refine (spec_releasingOnFault spending _).bind fun called after both => ?_
  exact ⟨called, rfl, both.2.1, both.2.2, both.1⟩

theorem turning_of_restricts {amount : UInt64} {call : Run Frame} {next : Frame}
    (same : frame.Continues next) (spending : Spending 0 call fun called =>
      called.bounded = true ∧ callers.length + 1 < context.maxCallDepth.toNat) :
    Turning (do
      restrictGas amount
      let called ← releasingOnFault call
      return .running called (next :: callers)) heap (Begins context frame callers heap) := by
  cases pushed : heap.charger.pushGas amount with
  | ok charger =>
    refine (spec_restricted pushed spending).imp (fun status after called => ?_)
      fun fault after stopped metered => ?_
    · obtain ⟨called, rfl, bounded, room, spends⟩ := called
      exact .restricts same bounded room .refl pushed spends
    · obtain ⟨broken, breaks, rfl⟩ := stopped
      exact ⟨(spends_releaseHeap metered pushed breaks.spends).mono (Nat.zero_le 1),
        (breaks.mono (Nat.zero_le 1)).full⟩
  | error refusal =>
    have refused : Spec (restrictGas amount) heap (fun _ _ => False)
        fun fault after => heap.charger.metered = true → Breaks 1 heap fault after := by
      unfold restrictGas
      refine Spec.get_bind ?_
      rw [pushed]
      exact fun _ => .refl Fault.noConfusion
    exact refused.bind fun _ _ impossible => impossible.elim

theorem spec_leave (frame : Frame) (callers : List Frame) (result : Option Value) :
    Spec (leave frame callers result) heap (Leaves frame callers heap) fun _ _ => False := by
  unfold leave
  cases callers with
  | nil | cons =>
    simp only []
    split
    · rename_i bounded
      exact ⟨⟨result, rfl⟩, heap, .refl, (if_pos bounded).symm⟩
    · rename_i unbounded
      exact ⟨⟨result, rfl⟩, heap, .refl, (if_neg unbounded).symm⟩

theorem turning_leave (frame : Frame) (callers : List Frame) (result : Option Value) :
    Turning (leave frame callers result) heap (Turns context frame callers heap) :=
  (spec_leave frame callers result).imp (fun _ _ leaves => .leaves leaves)
    fun _ _ impossible => impossible.elim

/-- What comes after operands were taken. -/
theorem Turning.take {result : Except Throwable α} {next : α → Run Status}
    {ends : Status → Heap → Prop} (rest : ∀ value, result = .ok value → Turning (next value) heap ends) :
    Turning (ofThrowing result >>= next) heap ends := by
  cases result with
  | ok value => exact rest value rfl
  | error throwable => exact fun _ => .refl Fault.noConfusion

/-- The instruction calls other code. -/
def isCall : Instruction → Bool
  | .new _ => true
  | .invoke _ _ => true
  | .invokeWithGas _ _ => true
  | _ => false

/-- **An instruction that calls other code begins a call.** -/
theorem begins_execute {instruction : Instruction} (calls : isCall instruction = true) :
    Turning (execute context frame callers instruction) heap (Begins context frame callers heap) := by
  cases instruction with
  | new constructor =>
    exact turning_of_calls (.take fun _ taken => .take fun _ _ =>
      (frugal_composes.callerFrom _ _).and fun _ _ => (spending_callConstructor ..).before
        fun _ known => .pure ⟨_, _, rfl, Frame.popMany_continues taken, known⟩)
  | invoke method dispatch =>
    refine turning_of_calls (.take fun _ taken => .take fun _ aimed => ?_)
    have continues := (Frame.popMany_continues taken).trans (Frame.popReceiver_continues aimed)
    exact ((spending_invokeFrom ..).imp (Nat.zero_le 1) fun _ known => known).before
      fun _ known => .pure ⟨_, _, rfl, continues, known⟩
  | invokeWithGas method dispatch =>
    refine .take fun _ taken => .take fun _ aimed => .take fun _ given => ?_
    exact turning_of_restricts (((Frame.popMany_continues taken).trans
      (Frame.popReceiver_continues aimed)).trans (Frame.popGas_continues given))
      (spending_invokeFrom ..)
  | _ => cases calls

/-- **An instruction turns the activations and the gas as is said.** -/
theorem turning_execute (instruction : Instruction) :
    Turning (execute context frame callers instruction) heap (Turns context frame callers heap) := by
  have goes : ∀ {next : Frame}, frame.Continues next →
      Spending 0 (pure (.running next callers) : Run Status) fun status =>
        ∃ next, status = .running next callers ∧ frame.Continues next :=
    fun same => .pure ⟨_, rfl, same⟩
  cases alone : frame.alone? instruction with
  | some result =>
    rw [execute_of_alone? alone]
    exact turning_of_goes (.take fun _ same => goes (Frame.continues_of_alone? (same ▸ alone)))
  | none =>
    cases instruction with
    | new | invoke | invokeWithGas =>
      exact (begins_execute rfl).imp (fun _ _ begins => .begins begins) fun _ _ breaks => breaks
    | getField field =>
      exact turning_of_goes (.pay fun _ => .take fun _ popped =>
        (frugal_composes.getField _ _).and fun _ _ =>
          goes ((Frame.popReference_continues popped).withStack _))
    | putField field =>
      exact turning_of_goes (.pay fun _ => .take fun _ popped => .take fun _ referred =>
        (frugal_composes.setField _ _ _).and fun _ _ =>
          goes ((Frame.pop_continues popped).trans (Frame.popReference_continues referred)))
    | native name arity =>
      exact turning_of_goes (.take fun _ _ => .pay fun _ => .take fun _ popped =>
        (frugal_composes.callPrimitive ..).and fun _ _ =>
          goes ((Frame.popMany_continues popped).withStack _))
    | ret => exact .take fun result _ => turning_leave frame callers result
    | throw className checked => exact turning_of_goes (.take fun _ _ => .fail)
    | _ => cases alone

/-! ### Steps -/

/-- The gas that the activations can use: what is at hand, and what is set aside for those of them
that were restricted. -/
def Status.gas (status : Status) (heap : Heap) : Nat :=
  heap.charger.within (status.frames.countP Frame.bounded)

/-- The number of instructions that a step executes: the next one, if there is one and the gas at
hand pays for it. -/
def performed (context : Context) (frame : Frame) (heap : Heap) : Nat :=
  match frame.code[frame.position]?, heap.charger.charge .cpu context.costs.instructionCpu with
  | some _, .ok _ => 1
  | _, _ => 0

theorem performed_of_end (ended : frame.code[frame.position]? = none) :
    performed context frame heap = 0 := by
  unfold performed
  rw [ended]

theorem performed_of_refused {instruction : Instruction} {refusal : OutOfGas}
    (found : frame.code[frame.position]? = some instruction)
    (refused : heap.charger.charge .cpu context.costs.instructionCpu = .error refusal) :
    performed context frame heap = 0 := by
  unfold performed
  rw [found, refused]

theorem performed_of_paid {instruction : Instruction} {charger : Charger}
    (found : frame.code[frame.position]? = some instruction)
    (paid : heap.charger.charge .cpu context.costs.instructionCpu = .ok charger) :
    performed context frame heap = 1 := by
  unfold performed
  rw [found, paid]

theorem countP_of_continues {next : Frame} (same : frame.Continues next) (callers : List Frame) :
    (next :: callers).countP Frame.bounded = (frame :: callers).countP Frame.bounded := by
  rw [List.countP_cons, List.countP_cons, same.bounded_eq]

theorem countP_returned (callers : List Frame) (result : Option Value) :
    (Status.returned callers result).frames.countP Frame.bounded =
      callers.countP Frame.bounded := by
  cases callers with
  | nil => rfl
  | cons caller rest => exact countP_of_continues ((Frame.Continues.refl caller).withStack _) rest

theorem Leaves.gas_le (metered : heap.charger.metered = true)
    (leaves : Leaves frame callers heap status after) :
    after.charger.metered = true ∧ status.gas after ≤ Status.gas (.running frame callers) heap := by
  obtain ⟨middle, spends, rfl⟩ := leaves.released
  obtain ⟨result, rfl⟩ := leaves.exists_result
  unfold Status.gas
  rw [countP_returned]
  split
  · rename_i bounded
    refine ⟨(Charger.metered_popGas _).trans (spends.metered_eq.trans metered), ?_⟩
    show middle.charger.popGas.within _ ≤ heap.charger.within ((frame :: callers).countP _)
    rw [List.countP_cons_of_pos bounded]
    exact (Charger.within_popGas_le _ _).trans (spends.within_le _)
  · rename_i unbounded
    refine ⟨spends.metered_eq.trans metered, ?_⟩
    show _ ≤ heap.charger.within ((frame :: callers).countP _)
    rw [List.countP_cons_of_neg unbounded]
    exact spends.within_le _

theorem Begins.gas_le (metered : heap.charger.metered = true)
    (begins : Begins context frame callers heap status after) :
    after.charger.metered = true ∧ status.gas after ≤ Status.gas (.running frame callers) heap := by
  cases begins with
  | @calls next called _ same unbounded room spends =>
    refine ⟨spends.metered_eq.trans metered, ?_⟩
    show after.charger.within ((called :: next :: callers).countP _) ≤ _
    rw [List.countP_cons_of_neg (by simp [unbounded]), countP_of_continues same]
    exact spends.within_le _
  | @restricts next called middle _ amount charger same bounded room before pushed spends =>
    obtain ⟨meteredToo, kept⟩ :=
      Charger.within_pushGas (before.metered_eq.trans metered) pushed
        ((frame :: callers).countP Frame.bounded)
    refine ⟨spends.metered_eq.trans meteredToo, ?_⟩
    show after.charger.within ((called :: next :: callers).countP _) ≤ _
    rw [List.countP_cons_of_pos bounded, countP_of_continues same]
    exact ((spends.within_le _).trans (Nat.le_of_eq kept)).trans (before.within_le _)

/-- The activations can use no more gas after an instruction than before it. -/
theorem Turns.gas_le (metered : heap.charger.metered = true)
    (turns : Turns context frame callers heap status after) :
    after.charger.metered = true ∧ status.gas after ≤ Status.gas (.running frame callers) heap := by
  cases turns with
  | goes same spends =>
    refine ⟨spends.metered_eq.trans metered, ?_⟩
    show after.charger.within ((_ :: callers).countP _) ≤ _
    rw [countP_of_continues same]
    exact spends.within_le _
  | begins begins => exact begins.gas_le metered
  | leaves leaves => exact leaves.gas_le metered

theorem Leaves.length_eq (leaves : Leaves frame callers heap status after) :
    status.frames.length = callers.length := by
  obtain ⟨result, rfl⟩ := leaves.exists_result
  cases callers with
  | nil | cons => rfl

theorem Leaves.numbered (leaves : Leaves frame callers heap status after) :
    after.nextProgressive.toNat ≤ heap.nextProgressive.toNat := by
  obtain ⟨middle, spends, rfl⟩ := leaves.released
  split
  · exact spends.numbered
  · exact spends.numbered

/-- An instruction adds at most one activation, and only where another one is allowed. -/
theorem Turns.length_le (turns : Turns context frame callers heap status after) :
    status.frames.length ≤ callers.length + 2 ∧
      (status.frames.length ≤ callers.length + 1 ∨
        status.frames.length ≤ context.maxCallDepth.toNat) := by
  cases turns with
  | goes => exact ⟨Nat.le_succ _, Or.inl (Nat.le_refl _)⟩
  | begins begins =>
    cases begins with
    | calls same unbounded room spends => exact ⟨Nat.le_refl _, Or.inr room⟩
    | restricts same bounded room before pushed spends => exact ⟨Nat.le_refl _, Or.inr room⟩
  | leaves leaves =>
    rw [leaves.length_eq]
    exact ⟨Nat.le_add_right _ _, Or.inl (Nat.le_succ _)⟩

theorem Turns.numbered (turns : Turns context frame callers heap status after) :
    after.nextProgressive.toNat ≤ heap.nextProgressive.toNat + 1 := by
  cases turns with
  | goes same spends => exact (spends.mono (Nat.zero_le 1)).numbered
  | begins begins =>
    cases begins with
    | calls same unbounded room spends => exact spends.numbered
    | restricts same bounded room before pushed spends =>
      exact Nat.le_succ_of_le (spends.numbered.trans before.numbered)
  | leaves leaves => exact Nat.le_succ_of_le leaves.numbered

/-- What a step leaves: it takes the gas for the instruction that it executes, and adds at most one
activation and one object with it. Without an instruction, it ends an activation. -/
structure Advances (context : Context) (frame : Frame) (callers : List Frame) (heap : Heap)
    (status : Status) (after : Heap) : Prop where
  metered : after.charger.metered = true
  gas_le : status.gas after + performed context frame heap * context.costs.instructionCpu.toNat ≤
    Status.gas (.running frame callers) heap
  length_le : status.frames.length ≤ callers.length + 2 * performed context frame heap
  numbered : after.nextProgressive.toNat ≤
    heap.nextProgressive.toNat + performed context frame heap

/-- The end of an activation that has no instruction left. -/
theorem spec_end (frame : Frame) (callers : List Frame) :
    Spec (ofThrowing (resultAtEnd frame) >>= leave frame callers) heap
      (Leaves frame callers heap) fun fault _ => fault ≠ .unfinished := by
  cases resultAtEnd frame with
  | error throwable => exact fun same => nomatch same
  | ok result =>
    exact (spec_leave frame callers result).imp (fun _ _ leaves => leaves)
      fun _ _ impossible => impossible.elim

/-- **A step takes the gas for the instruction that it executes.** -/
theorem advances_step (metered : heap.charger.metered = true) (frame : Frame)
    (callers : List Frame) :
    Spec (step context frame callers) heap (Advances context frame callers heap) fun fault _ =>
      performed context frame heap * context.costs.instructionCpu.toNat ≤
        Status.gas (.running frame callers) heap ∧
      (fault = .unfinished →
        maxWord < heap.nextProgressive.toNat + performed context frame heap) := by
  unfold step
  cases found : frame.code[frame.position]? with
  | none =>
    have nothing : performed context frame heap = 0 := performed_of_end found
    refine (spec_end frame callers).imp (fun status after leaves => ?_) fun fault _ ended => ?_
    · obtain ⟨meteredToo, less⟩ := leaves.gas_le metered
      refine ⟨meteredToo, ?_, ?_, ?_⟩
      · rw [nothing, Nat.zero_mul]
        exact less
      · exact (Nat.le_of_eq leaves.length_eq).trans (Nat.le_add_right _ _)
      · exact leaves.numbered.trans (Nat.le_add_right _ _)
    · rw [nothing, Nat.zero_mul]
      exact ⟨Nat.zero_le _, fun same => absurd same ended⟩
  | some instruction =>
    have pays : Spec (Run.charge .cpu context.costs.instructionCpu) heap
        (fun _ after => ∃ charger, heap.charger.charge .cpu context.costs.instructionCpu =
          .ok charger ∧ after = { heap with charger })
        fun fault _ => performed context frame heap * context.costs.instructionCpu.toNat ≤
            Status.gas (.running frame callers) heap ∧
          (fault = .unfinished →
            maxWord < heap.nextProgressive.toNat + performed context frame heap) := by
      refine (spec_charge _ _).imp (fun _ _ paid => paid) fun _ _ refused => ?_
      obtain ⟨refusal, refused, rfl, -⟩ := refused
      rw [performed_of_refused found refused, Nat.zero_mul]
      exact ⟨Nat.zero_le _, fun same => nomatch same⟩
    refine pays.bind fun _ _ paid => ?_
    obtain ⟨charger, paid, rfl⟩ := paid
    have one : performed context frame heap = 1 := performed_of_paid found paid
    have gas : Status.gas (.running frame callers) { heap with charger } +
        context.costs.instructionCpu.toNat = Status.gas (.running frame callers) heap :=
      Charger.within_charge metered paid _
    have meteredToo : charger.metered = true := by
      obtain ⟨-, rfl⟩ := Charger.charge_eq_ok metered paid
      exact metered
    refine (turning_execute instruction).imp (fun status after turns => ?_) fun fault _ breaks => ?_
    · obtain ⟨still, less⟩ := Turns.gas_le meteredToo (turns.before (.at frame _))
      refine ⟨still, ?_, ?_, ?_⟩
      · rw [one, Nat.one_mul, ← gas]
        exact Nat.add_le_add_right less _
      · rw [one]
        exact turns.length_le.1
      · rw [one]
        exact turns.numbered
    · rw [one, Nat.one_mul, ← gas]
      exact ⟨Nat.le_add_left _ _, (breaks meteredToo).full⟩

/-- **A step turns the activations and the gas as its instruction does.** -/
theorem turning_step (frame : Frame) (callers : List Frame) :
    Turning (step context frame callers) heap (Turns context frame callers heap) := by
  unfold step
  cases frame.code[frame.position]? with
  | none => exact .take fun result _ => turning_leave frame callers result
  | some instruction =>
    exact .bind (frugal_charge _ _) fun _ _ _ =>
      (turning_execute instruction).imp (fun _ _ turns => turns.before (.at frame _))
        fun _ _ breaks => breaks

/-- No step adds an activation where none is allowed. -/
theorem length_le_step (frame : Frame) (callers : List Frame) :
    Spec (step context frame callers) heap (fun status _ =>
      status.frames.length ≤ callers.length + 1 ∨
        status.frames.length ≤ context.maxCallDepth.toNat) fun _ _ => True :=
  (turning_step frame callers).imp (fun _ _ turns => turns.length_le.2) fun _ _ _ => trivial

/-! ### Runs -/

/-- The machine stops after a number of instructions, at the end of the first activation or with a
fault. -/
inductive Halts (context : Context) :
    Status → Heap → Nat → EStateM.Result Fault Heap (Option Value) → Prop
  | finished (result : Option Value) (heap : Heap) :
      Halts context (.finished result) heap 0 (.ok result heap)
  | step {frame : Frame} {callers : List Frame} {heap after : Heap} {status : Status} {count : Nat}
      {last : EStateM.Result Fault Heap (Option Value)}
      (ran : Machine.step context frame callers heap = .ok status after)
      (rest : Halts context status after count last) :
      Halts context (.running frame callers) heap (performed context frame heap + count) last
  | fault {frame : Frame} {callers : List Frame} {heap after : Heap} {fault : Fault}
      (ran : Machine.step context frame callers heap = .error fault after) :
      Halts context (.running frame callers) heap (performed context frame heap)
        (.error fault (unwind (frame :: callers) after))

/-- **Where instructions cost CPU, the machine stops**, and the activations can pay for all
instructions until then: by induction on the number of activations plus twice the gas that they can
use. It stays unfinished only if there is no number for another object. -/
theorem halts_run (costly : context.costs.instructionCpu ≠ 0) (fuel : Nat) (status : Status)
    (metered : heap.charger.metered = true)
    (enough : status.frames.length + 2 * status.gas heap ≤ fuel) :
    ∃ count, Halts context status heap count (run context fuel status heap) ∧
      count * context.costs.instructionCpu.toNat ≤ status.gas heap ∧
      ∀ after, run context fuel status heap = .error .unfinished after →
        maxWord < heap.nextProgressive.toNat + count := by
  induction fuel generalizing status heap with
  | zero =>
    cases status with
    | finished result => exact ⟨0, .finished result heap, by simp, fun after same => nomatch same⟩
    | running frame callers =>
      have length : (Status.running frame callers).frames.length = callers.length + 1 := rfl
      omega
  | succ fuel ih =>
    cases status with
    | finished result => exact ⟨0, .finished result heap, by simp, fun after same => nomatch same⟩
    | running frame callers =>
      unfold run
      cases ran : step context frame callers heap with
      | ok status middle =>
        obtain ⟨meteredToo, less, length, numbered⟩ :=
          (advances_step metered frame callers).ends ran
        have enough : callers.length + 1 + 2 * Status.gas (.running frame callers) heap ≤
          fuel + 1 := enough
        have paid : performed context frame heap ≤
            performed context frame heap * context.costs.instructionCpu.toNat :=
          Nat.le_mul_of_pos_right _ (Nat.pos_of_ne_zero fun zero =>
            costly (UInt64.toNat_inj.mp zero))
        obtain ⟨count, halts, paidToo, full⟩ := ih status meteredToo (by omega)
        refine ⟨performed context frame heap + count, .step ran halts, ?_, fun after same => ?_⟩
        · rw [Nat.add_mul]
          omega
        · have full := full after same
          omega
      | error fault middle =>
        obtain ⟨paid, full⟩ := (advances_step metered frame callers).faults ran
        exact ⟨_, .fault ran, paid, fun after same => full (by cases same; rfl)⟩

/-- **An activation that is not restricted stops within the gas at hand.** -/
theorem halts_runFrame (costly : context.costs.instructionCpu ≠ 0)
    (metered : heap.charger.metered = true) (unbounded : frame.bounded = false) :
    ∃ count, Halts context (.running frame []) heap count (runFrame context frame heap) ∧
      count * context.costs.instructionCpu.toNat ≤ heap.charger.remaining.toNat ∧
      ∀ after, runFrame context frame heap = .error .unfinished after →
        maxWord < heap.nextProgressive.toNat + count := by
  have gas : Status.gas (.running frame []) heap = heap.charger.remaining.toNat := by
    show heap.charger.within ([frame].countP Frame.bounded) = _
    rw [List.countP_cons_of_neg (by simp [unbounded])]
    exact heap.charger.within_zero
  rw [← gas]
  refine halts_run costly (stepBound heap) (.running frame []) metered ?_
  have unused := heap.charger.remaining_le_unused
  rw [gas]
  show 1 + 2 * heap.charger.remaining.toNat ≤ stepBound heap
  unfold stepBound
  omega

/-- **No more activations than are allowed run at once**; by induction on the steps. -/
theorem length_le_of_reaches {last : Status} (reaches : Reaches context status heap last after)
    (allowed : status.frames.length ≤ context.maxCallDepth.toNat) :
    last.frames.length ≤ context.maxCallDepth.toNat := by
  induction reaches with
  | refl => exact allowed
  | @step frame callers status last heap middle after ran rest ih =>
    have allowed : callers.length + 1 ≤ context.maxCallDepth.toNat := allowed
    rcases (length_le_step frame callers).ends ran with fewer | fits
    · exact ih (fewer.trans allowed)
    · exact ih fits

end ObjectLedger.Machine
