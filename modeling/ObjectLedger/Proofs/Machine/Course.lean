/-
**The course of a call, and the gas that it is given.**

* `Charger.Holds`: a number of restrictions above amounts that were set aside before, under which no
  more than a limit is consumed and can be used. Kept by each operation.
* `Machine.Course`: what a call comes to, step by step, until the activations that wait for it go
  on or a fault ends it. `Machine.course_run`: a run is the course of its first activation.
* `Machine.Inside`: while a call runs, its activations and their restrictions are above those that
  were there before. **`Machine.Inside.turns`**: kept by every step, until the call returned.
* **`Machine.Inside.stands`**: so it is all along the course of a call, and where the call ended, the
  waiting activations and the amounts that were set aside are as before.
* `Machine.Begins.inside`, `Machine.inside_of_restricted`: calls begin so, those with restricted gas
  within the amount that the gas account accepted.
-/
import ObjectLedger.Proofs.Machine.Halting

namespace ObjectLedger

/-! ### Restrictions of a gas account -/

namespace Charger

variable {charger after : Charger} {amount : UInt64} {count limit : Nat} {base : List UInt64}

/-- So many restrictions are above the amounts that were set aside before, and what was consumed,
with what can be used under these restrictions, is within a limit. -/
structure Holds (count : Nat) (base : List UInt64) (limit : Nat) (charger : Charger) : Prop where
  metered : charger.metered = true
  count_le : count ≤ charger.setAside.length
  drop_eq : charger.setAside.drop count = base
  used_le : charger.consumed.sum + charger.within count ≤ limit

namespace Holds

theorem setAside_eq (holds : charger.Holds 0 base limit) : charger.setAside = base :=
  holds.drop_eq

theorem consumed_le (holds : charger.Holds count base limit) : charger.consumed.sum ≤ limit :=
  Nat.le_trans (Nat.le_add_right _ _) holds.used_le

theorem mono {wider : Nat} (holds : charger.Holds count base limit) (le : limit ≤ wider) :
    charger.Holds count base wider :=
  ⟨holds.metered, holds.count_le, holds.drop_eq, holds.used_le.trans le⟩

theorem pushGas (holds : charger.Holds count base limit)
    (pushed : charger.pushGas amount = .ok after) : after.Holds (count + 1) base limit := by
  obtain ⟨metered, within⟩ := within_pushGas holds.metered pushed count
  have used := holds.used_le
  obtain ⟨-, rfl⟩ := pushGas_eq_ok holds.metered pushed
  refine ⟨metered, Nat.succ_le_succ holds.count_le, holds.drop_eq, ?_⟩
  rw [within]
  exact used

theorem popGas (holds : charger.Holds (count + 1) base limit) :
    charger.popGas.Holds count base limit := by
  have used := holds.used_le
  have within := within_popGas_le charger count
  have drops := holds.drop_eq
  have fits := holds.count_le
  obtain ⟨amount, rest, aside⟩ := List.exists_cons_of_length_pos (Nat.lt_of_lt_of_le
    (Nat.succ_pos count) fits)
  have popped : charger.popGas.setAside = rest := by
    unfold Charger.popGas
    rw [aside]
  rw [aside] at drops fits
  refine ⟨(metered_popGas charger).trans holds.metered, ?_, ?_, ?_⟩
  · rw [popped]
    exact Nat.le_of_succ_le_succ fits
  · rw [popped]
    exact drops
  · rw [consumed_popGas]
    omega

end Holds

end Charger

theorem Heap.Spends.holds {heap after : Heap} {made count limit : Nat} {base : List UInt64}
    (spends : heap.Spends made after) (holds : heap.charger.Holds count base limit) :
    after.charger.Holds count base limit := by
  have used := holds.used_le
  have more := spends.used_le
  refine ⟨spends.metered_eq.trans holds.metered, ?_, ?_, ?_⟩
  · rw [spends.setAside_eq]
    exact holds.count_le
  · rw [spends.setAside_eq]
    exact holds.drop_eq
  · unfold Charger.within at *
    rw [spends.setAside_eq]
    omega

namespace Machine

open Run

variable {context : Context} {frame : Frame} {callers waiting : List Frame} {status : Status}
  {heap after : Heap}

/-! ### The course of a call -/

/-- What a call has come to. -/
inductive CallState where
  /-- The activations between two steps, those that wait for the call below those that it made. -/
  | at (status : Status)
  /-- A fault ended the call, and these activations are left. -/
  | broken (fault : Fault) (left : List Frame)

/-- The activations that are there, the top one first. -/
def CallState.frames : CallState → List Frame
  | .at status => status.frames
  | .broken _ left => left

/-- What a call comes to that began with a status, above so many activations that wait for it: the
machine takes steps as long as there are activations of the call. A fault ends these activations,
each of which gives back the gas it was restricted from. -/
inductive Course (context : Context) (depth : Nat) (status : Status) (heap : Heap) :
    CallState → Heap → Prop
  | starts : Course context depth status heap (.at status) heap
  | goes {frame : Frame} {callers : List Frame} {next : Status} {middle after : Heap}
      (before : Course context depth status heap (.at (.running frame callers)) middle)
      (above : depth ≤ callers.length)
      (ran : step context frame callers middle = .ok next after) :
      Course context depth status heap (.at next) after
  | breaks {frame : Frame} {callers : List Frame} {fault : Fault} {middle broken : Heap}
      (before : Course context depth status heap (.at (.running frame callers)) middle)
      (above : depth ≤ callers.length)
      (ran : step context frame callers middle = .error fault broken) :
      Course context depth status heap
        (.broken fault ((frame :: callers).drop (callers.length + 1 - depth)))
        (unwind ((frame :: callers).take (callers.length + 1 - depth)) broken)

/-- A run that stops is the course of the first activation, unless its steps did not suffice. -/
theorem course_run {begun : Heap} {first : Status} (fuel : Nat)
    (course : Course context 0 first begun (.at status) heap) :
    Spec (run context fuel status) heap
      (fun result after => Course context 0 first begun (.at (.finished result)) after)
      fun fault after =>
        fault = .unfinished ∨ Course context 0 first begun (.broken fault []) after := by
  refine spec_run (fun _ status now => Course context 0 first begun (.at status) now)
    (fun _ _ _ course => course) (fun _ _ _ _ => Or.inl rfl) ?_ course
  intro fuel frame callers now course
  unfold Spec
  cases ran : step context frame callers now with
  | ok next middle => exact course.goes (Nat.zero_le _) ran
  | error fault broken =>
    have ends := course.breaks (Nat.zero_le _) ran
    rw [Nat.sub_zero, ← List.length_cons (a := frame), List.drop_length, List.take_length] at ends
    exact Or.inr ends

/-! ### Giving up activations -/

theorem unwind_append (upper lower : List Frame) (heap : Heap) :
    unwind (upper ++ lower) heap = unwind lower (unwind upper heap) := by
  unfold unwind
  rw [List.filter_append, List.foldl_append]

theorem unwind_cons (frame : Frame) (lower : List Frame) (heap : Heap) :
    unwind (frame :: lower) heap =
      unwind lower (if frame.bounded then releaseHeap heap else heap) := by
  unfold unwind
  rw [List.filter_cons]
  split
  · rfl
  · rfl

variable {limit : Nat} {base below : List UInt64} {aside : Option UInt64}

/-- The top activation ends, and with it its restriction. -/
theorem holds_released (holds : heap.charger.Holds ((frame :: callers).countP Frame.bounded) base
    limit) : (if frame.bounded then releaseHeap heap else heap).charger.Holds
      (callers.countP Frame.bounded) base limit := by
  split
  · rename_i bounded
    rw [List.countP_cons_of_pos bounded] at holds
    exact holds.popGas
  · rename_i unbounded
    rwa [List.countP_cons_of_neg unbounded] at holds

/-- Activations are given up with their restrictions; by induction on them. -/
theorem holds_unwind {upper : List Frame}
    (holds : heap.charger.Holds (upper.countP Frame.bounded) base limit) :
    (unwind upper heap).charger.Holds 0 base limit := by
  induction upper generalizing heap with
  | nil => exact holds
  | cons frame rest ih =>
    rw [unwind_cons]
    exact ih (holds_released holds)

/-! ### Inside a call -/

/-- While a call runs: its activations are above the waiting ones, and the restrictions of all of
them but the first are above the amount that is set aside for the first one, if it is restricted.
What is consumed and can be used by the call is within a limit. -/
structure Inside (waiting : List Frame) (aside : Option UInt64) (below : List UInt64) (limit : Nat)
    (status : Status) (heap : Heap) : Prop where
  exists_upper : ∃ upper first, status.frames = upper ++ first :: waiting ∧
    first.bounded = aside.isSome ∧
    heap.charger.Holds (upper.countP Frame.bounded) (aside.toList ++ below) limit

/-- When a call ended: the amounts set aside are as before it, and it kept to its limit. -/
structure Restored (below : List UInt64) (limit : Nat) (heap : Heap) : Prop where
  setAside_eq : heap.charger.setAside = below
  consumed_le : heap.charger.consumed.sum ≤ limit

namespace Inside

theorem mono {wider : Nat} (inside : Inside waiting aside below limit status heap)
    (le : limit ≤ wider) : Inside waiting aside below wider status heap := by
  obtain ⟨upper, first, frames, bounded, holds⟩ := inside
  exact ⟨upper, first, frames, bounded, holds.mono le⟩

theorem length_lt (inside : Inside waiting aside below limit status heap) :
    waiting.length < status.frames.length := by
  obtain ⟨upper, first, frames, -, -⟩ := inside
  rw [frames, List.length_append, List.length_cons]
  omega

theorem metered (inside : Inside waiting aside below limit status heap) :
    heap.charger.metered = true := by
  obtain ⟨_, _, _, _, holds⟩ := inside
  exact holds.metered

theorem consumed_le (inside : Inside waiting aside below limit status heap) :
    heap.charger.consumed.sum ≤ limit := by
  obtain ⟨_, _, _, _, holds⟩ := inside
  exact holds.consumed_le

theorem spends {made : Nat} (inside : Inside waiting aside below limit status heap)
    (spends : heap.Spends made after) : Inside waiting aside below limit status after := by
  obtain ⟨upper, first, frames, bounded, holds⟩ := inside
  exact ⟨upper, first, frames, bounded, spends.holds holds⟩

theorem continues {next : Frame}
    (inside : Inside waiting aside below limit (.running frame callers) heap)
    (same : frame.Continues next) :
    Inside waiting aside below limit (.running next callers) heap := by
  obtain ⟨upper, first, frames, bounded, holds⟩ := inside
  cases upper with
  | nil =>
    cases frames
    exact ⟨[], next, rfl, same.bounded_eq.trans bounded, holds⟩
  | cons top upper =>
    cases frames
    refine ⟨next :: upper, first, rfl, bounded, ?_⟩
    rw [countP_of_continues same]
    exact holds

theorem calls {called : Frame}
    (inside : Inside waiting aside below limit (.running frame callers) heap)
    (unbounded : called.bounded = false) :
    Inside waiting aside below limit (.running called (frame :: callers)) heap := by
  obtain ⟨upper, first, frames, bounded, holds⟩ := inside
  refine ⟨called :: upper, first, congrArg (called :: ·) frames, bounded, ?_⟩
  rw [List.countP_cons_of_neg (by simp [unbounded])]
  exact holds

theorem restricts {called : Frame} {amount : UInt64} {charger : Charger}
    (inside : Inside waiting aside below limit (.running frame callers) heap)
    (restricted : called.bounded = true) (pushed : heap.charger.pushGas amount = .ok charger) :
    Inside waiting aside below limit (.running called (frame :: callers)) { heap with charger } := by
  obtain ⟨upper, first, frames, bounded, holds⟩ := inside
  refine ⟨called :: upper, first, congrArg (called :: ·) frames, bounded, ?_⟩
  rw [List.countP_cons_of_pos restricted]
  exact holds.pushGas pushed

/-- The amount that was set aside for the first activation is given back at the end of the call. -/
theorem restored_of_holds {first : Frame} (bounded : first.bounded = aside.isSome)
    (holds : heap.charger.Holds 0 (aside.toList ++ below) limit) :
    Restored below limit (if first.bounded then releaseHeap heap else heap) := by
  rw [bounded]
  cases aside with
  | none => exact ⟨holds.setAside_eq, holds.consumed_le⟩
  | some amount =>
    refine ⟨?_, ?_⟩
    · show heap.charger.popGas.setAside = below
      unfold Charger.popGas
      rw [holds.setAside_eq]
      rfl
    · show heap.charger.popGas.consumed.sum ≤ limit
      rw [Charger.consumed_popGas]
      exact holds.consumed_le

/-- The top activation ends: the call goes on, or it ended with its first activation. -/
theorem returns (inside : Inside waiting aside below limit (.running frame callers) heap)
    (result : Option Value) :
    Inside waiting aside below limit (.returned callers result)
        (if frame.bounded then releaseHeap heap else heap) ∨
      callers = waiting ∧ Restored below limit (if frame.bounded then releaseHeap heap else heap) := by
  obtain ⟨upper, first, frames, bounded, holds⟩ := inside
  cases upper with
  | nil =>
    cases frames
    exact Or.inr ⟨rfl, restored_of_holds bounded holds⟩
  | cons top upper =>
    cases frames
    left
    have holds := holds_released holds
    -- the activation below gets the result, and otherwise stays as it was
    cases upper with
    | nil =>
      have inside : Inside waiting aside below limit (.running first waiting)
          (if frame.bounded then releaseHeap heap else heap) := ⟨[], first, rfl, bounded, holds⟩
      exact inside.continues ((Frame.Continues.refl first).withStack _)
    | cons second upper =>
      have inside : Inside waiting aside below limit
          (.running second (upper ++ first :: waiting))
          (if frame.bounded then releaseHeap heap else heap) :=
        ⟨second :: upper, first, rfl, bounded, holds⟩
      exact inside.continues ((Frame.Continues.refl second).withStack _)

/-- **A step stays inside the call, or the call returns.** -/
theorem turns {next : Status}
    (inside : Inside waiting aside below limit (.running frame callers) heap)
    (turns : Turns context frame callers heap next after) :
    Inside waiting aside below limit next after ∨
      (∃ result, next = .returned waiting result) ∧ Restored below limit after := by
  cases turns with
  | goes same spends => exact Or.inl ((inside.continues same).spends spends)
  | begins begins =>
    cases begins with
    | calls same unbounded room spends =>
      exact Or.inl (((inside.continues same).calls unbounded).spends spends)
    | restricts same bounded room before pushed spends =>
      exact Or.inl ((((inside.continues same).spends before).restricts bounded pushed).spends spends)
  | leaves leaves =>
    obtain ⟨result, rfl⟩ := leaves.exists_result
    obtain ⟨middle, spends, rfl⟩ := leaves.released
    rcases (inside.spends spends).returns result with still | ⟨rfl, restored⟩
    · exact Or.inl still
    · exact Or.inr ⟨⟨result, rfl⟩, restored⟩

/-- A fault gives up the activations of the call. -/
theorem breaks {made : Nat} (inside : Inside waiting aside below limit (.running frame callers) heap)
    (spends : heap.Spends made after) : ∃ own, frame :: callers = own ++ waiting ∧
      Restored below limit (unwind own after) := by
  obtain ⟨upper, first, frames, bounded, holds⟩ := inside.spends spends
  have lifted : unwind (upper ++ [first]) after =
      if first.bounded then releaseHeap (unwind upper after) else unwind upper after := by
    rw [unwind_append, unwind_cons]
    rfl
  refine ⟨upper ++ [first], frames.trans (List.append_cons upper first waiting), ?_⟩
  rw [lifted]
  exact restored_of_holds bounded (holds_unwind holds)

end Inside

/-- What holds of a call all along its course. -/
inductive Stands (waiting : List Frame) (aside : Option UInt64) (below : List UInt64)
    (limit : Nat) : CallState → Heap → Prop
  | inside {status : Status} {heap : Heap}
      (inside : Inside waiting aside below limit status heap) :
      Stands waiting aside below limit (.at status) heap
  | returned {heap : Heap} (result : Option Value) (restored : Restored below limit heap) :
      Stands waiting aside below limit (.at (.returned waiting result)) heap
  | broken {heap : Heap} (fault : Fault) (restored : Restored below limit heap) :
      Stands waiting aside below limit (.broken fault waiting) heap

/-- As long as there are activations of the call, they are inside it. -/
theorem Stands.inside_of_running
    (stands : Stands waiting aside below limit (.at (.running frame callers)) heap)
    (above : waiting.length ≤ callers.length) :
    Inside waiting aside below limit (.running frame callers) heap := by
  generalize current : CallState.at (.running frame callers) = state at stands
  cases stands with
  | inside inside =>
    cases current
    exact inside
  | returned result restored =>
    -- the top activation is one that waited for the call
    cases waiting with
    | nil => cases current
    | cons caller rest =>
      cases current
      exact absurd above (Nat.not_succ_le_self _)
  | broken => cases current

/-- **A call that begins inside its limit stands so all along its course**; by induction on the
steps. -/
theorem Inside.stands {state : CallState}
    (inside : Inside waiting aside below limit status heap)
    (course : Course context waiting.length status heap state after) :
    Stands waiting aside below limit state after := by
  induction course with
  | starts => exact .inside inside
  | @goes frame callers next middle after before above ran ih =>
    have inside := ih.inside_of_running above
    rcases inside.turns ((turning_step frame callers).ends ran) with inside | returned
    · exact .inside inside
    · obtain ⟨⟨result, rfl⟩, restored⟩ := returned
      exact .returned result restored
  | @breaks frame callers fault middle broken before above ran ih =>
    have inside := ih.inside_of_running above
    have spends := ((turning_step frame callers).faults ran inside.metered).spends
    obtain ⟨own, frames, restored⟩ := inside.breaks spends
    have length : callers.length + 1 - waiting.length = own.length := by
      have lengths := congrArg List.length frames
      rw [List.length_cons, List.length_append] at lengths
      omega
    rw [length, frames, List.drop_left, List.take_left]
    exact .broken fault restored

/-! ### The beginning of a call -/

/-- A call with restricted gas begins within the amount that the account accepted. -/
theorem inside_of_restricted {next called : Frame} {amount : UInt64} {charger : Charger} {made : Nat}
    (metered : heap.charger.metered = true) (pushed : heap.charger.pushGas amount = .ok charger)
    (bounded : called.bounded = true) (spends : Heap.Spends made { heap with charger } after) :
    Inside (next :: callers) (some (heap.charger.remaining - amount)) heap.charger.setAside
      (heap.charger.consumed.sum + amount.toNat) (.running called (next :: callers)) after := by
  obtain ⟨-, rfl⟩ := Charger.pushGas_eq_ok metered pushed
  refine ⟨[], called, rfl, bounded, spends.holds ⟨metered, Nat.zero_le _, rfl, Nat.le_refl _⟩⟩

/-- A call begins within the gas at hand. -/
theorem Begins.inside (metered : heap.charger.metered = true)
    (begins : Begins context frame callers heap status after) : ∃ next aside,
      frame.Continues next ∧ Inside (next :: callers) aside heap.charger.setAside
        (heap.charger.consumed.sum + heap.charger.remaining.toNat) status after := by
  cases begins with
  | @calls next called _ same unbounded room spends =>
    exact ⟨next, none, same, [], called, rfl, unbounded,
      spends.holds ⟨metered, Nat.zero_le _, rfl, Nat.le_refl _⟩⟩
  | @restricts next called middle _ amount charger same bounded room before pushed spends =>
    have meteredToo := before.metered_eq.trans metered
    have used := before.used_le
    have enough : amount.toNat ≤ middle.charger.remaining.toNat :=
      UInt64.le_iff_toNat_le.mp (Charger.pushGas_eq_ok meteredToo pushed).1
    refine ⟨next, some (middle.charger.remaining - amount), same, ?_⟩
    rw [← before.setAside_eq]
    exact (inside_of_restricted meteredToo pushed bounded spends).mono (by omega)

end Machine

end ObjectLedger
