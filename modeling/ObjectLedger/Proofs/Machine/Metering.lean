/-
**A metered gas account keeps its limit under any calls.**

* `GasCall`: a charge, a restriction or its end. `GasCall.run_eq`: as code makes the call, the
  account does its part, and where it refuses, nothing changes. `GasCall.afterAll`: calls one after
  the other, refused ones included.
* `Charger.Conserved`: the gas consumed, at hand and set aside is the limit. `Charger.Exact`: no sum
  of the account is cut to the range of a word.
* `Charger.Encloses`: what a restriction to an amount keeps of the account around it.
  **`GasCall.holds_afterAll`**: calls that do not end the restriction keep it; by induction on the
  calls.
* **`GasCall.conserved_afterAll`**: all of this after any calls.
-/
import ObjectLedger.Proofs.Machine.Course

namespace ObjectLedger

/-! ### Calls -/

/-- A call that changes a gas account. -/
inductive GasCall where
  | charge (purpose : GasUse) (amount : UInt64)
  | restrict (amount : UInt64)
  | release
  deriving DecidableEq, Repr

namespace GasCall

/-- What the call makes of a gas account. -/
def perform (charger : Charger) : GasCall → Except OutOfGas Charger
  | charge purpose amount => charger.charge purpose amount
  | restrict amount => charger.pushGas amount
  | release => .ok charger.popGas

/-- The call, as running code makes it. -/
def run : GasCall → Run Unit
  | charge purpose amount => Run.charge purpose amount
  | restrict amount => Machine.restrictGas amount
  | release => Machine.releaseGas

/-- **A call that is refused changes nothing**, and one that is not changes the account only. -/
theorem run_eq (call : GasCall) (heap : Heap) :
    call.run heap = match call.perform heap.charger with
      | .ok charger => .ok () { heap with charger }
      | .error refusal => .error (.thrown (.outOfGas refusal)) heap := by
  cases call with
  | charge purpose amount =>
    show Run.charge purpose amount heap = match heap.charger.charge purpose amount with
      | .ok charger => .ok () { heap with charger }
      | .error refusal => .error (.thrown (.outOfGas refusal)) heap
    unfold Run.charge
    rw [Run.get_bind_apply]
    cases heap.charger.charge purpose amount with
    | ok | error => rfl
  | restrict amount =>
    show Machine.restrictGas amount heap = match heap.charger.pushGas amount with
      | .ok charger => .ok () { heap with charger }
      | .error refusal => .error (.thrown (.outOfGas refusal)) heap
    unfold Machine.restrictGas
    rw [Run.get_bind_apply]
    cases heap.charger.pushGas amount with
    | ok | error => rfl
  | release => rfl

/-- The heap after calls, each of which is made also where one before it was refused. -/
def afterAll (heap : Heap) (calls : List GasCall) : Heap :=
  calls.foldl (fun heap call => stateAfter call.run heap) heap

theorem afterAll_concat (heap : Heap) (calls : List GasCall) (call : GasCall) :
    afterAll heap (calls ++ [call]) = stateAfter call.run (afterAll heap calls) :=
  List.foldl_concat ..

theorem stateAfter_run (call : GasCall) (heap : Heap) :
    stateAfter call.run heap = heap ∨ ∃ charger, call.perform heap.charger = .ok charger ∧
      stateAfter call.run heap = { heap with charger } := by
  unfold stateAfter
  rw [run_eq]
  cases call.perform heap.charger with
  | error refusal => exact .inl rfl
  | ok charger => exact .inr ⟨charger, rfl, rfl⟩

end GasCall

/-! ### Sums -/

/-- The counter for a use of gas. -/
def GasConsumed.counter (gas : GasConsumed) : GasUse → UInt64
  | .cpu => gas.cpu
  | .ram => gas.ram
  | .storage => gas.storage

theorem GasConsumed.counter_add (gas : GasConsumed) (purpose : GasUse) (amount : UInt64) :
    (gas.add purpose amount).counter purpose = saturatingAdd (gas.counter purpose) amount := by
  cases purpose with
  | cpu | ram | storage => rfl

theorem GasConsumed.counter_le_sum (gas : GasConsumed) (purpose : GasUse) :
    (gas.counter purpose).toNat ≤ gas.sum := by
  unfold sum
  cases purpose with
  | cpu | ram | storage => simp only [counter]; omega

namespace Charger

variable {charger before after : Charger} {limit amount : UInt64} {call : GasCall}
  {count bound : Nat} {base : List UInt64}

/-- No sum or difference that the account computes, now or at its next call, is out of range. -/
structure Exact (charger : Charger) : Prop where
  twice : charger.consumed.cpu.toNat + charger.consumed.ram.toNat ≤ maxWord
  total : (saturatingAdd charger.consumed.cpu charger.consumed.ram).toNat +
    charger.consumed.storage.toNat ≤ maxWord
  unused : ∀ earlier amount, earlier ++ [amount] <+: charger.setAside →
    (earlier.foldl saturatingAdd charger.remaining).toNat + amount.toNat ≤ maxWord
  charge : ∀ purpose amount, amount ≤ charger.remaining →
    ((charger.consumed.add purpose amount).counter purpose).toNat =
      (charger.consumed.counter purpose).toNat + amount.toNat
  popGas : ∀ amount rest, charger.setAside = amount :: rest →
    charger.remaining.toNat + amount.toNat ≤ maxWord
  penalty : charger.consumed.total ≤ charger.limit

/-- The gas consumed, at hand and set aside is the limit, and what is not consumed is unused and the
penalty of a failure. -/
structure Conserved (charger : Charger) (limit : UInt64) : Prop where
  sum_eq : charger.consumed.cpu.toNat + charger.consumed.ram.toNat +
    charger.consumed.storage.toNat + charger.remaining.toNat +
      (charger.setAside.map UInt64.toNat).sum = limit.toNat
  unused_eq : charger.consumed.total.toNat + charger.unused.toNat = limit.toNat
  penalty_eq : charger.penalty = charger.unused
  sums : charger.Exact

theorem Balanced.exact (balanced : charger.Balanced limit) : charger.Exact := by
  have sum := balanced.sum_eq
  have bound := toNat_le_maxWord limit
  have fits := balanced.consumed_le
  unfold reserve at sum
  have total := GasConsumed.toNat_total (Nat.le_trans fits bound)
  refine ⟨?_, ?_, fun earlier amount start => ?_, fun purpose amount enough => ?_,
    fun amount rest aside => ?_, ?_⟩
  · unfold GasConsumed.sum at fits
    omega
  · unfold GasConsumed.sum at fits
    rw [toNat_saturatingAdd]
    omega
  · obtain ⟨rest, aside⟩ := start
    rw [← aside] at sum
    simp only [List.map_append, List.sum_append, List.map_cons, List.sum_cons, List.map_nil,
      List.sum_nil] at sum
    rw [toNat_foldl_saturatingAdd (by omega)]
    omega
  · have part := charger.consumed.counter_le_sum purpose
    have enough := UInt64.le_iff_toNat_le.mp enough
    rw [GasConsumed.counter_add, toNat_saturatingAdd]
    omega
  · rw [aside, List.map_cons, List.sum_cons] at sum
    omega
  · rw [UInt64.le_iff_toNat_le, total, balanced.limit_eq]
    exact fits

theorem Balanced.conserved (balanced : charger.Balanced limit) : charger.Conserved limit := by
  have total := GasConsumed.toNat_total
    (Nat.le_trans balanced.consumed_le (toNat_le_maxWord limit))
  refine ⟨balanced.sum_eq, ?_, ?_, balanced.exact⟩
  · rw [total]
    exact balanced.unused
  · rw [← UInt64.toNat_inj]
    have unused := balanced.unused
    have penalty := balanced.penalty
    omega

/-- A call that is not refused keeps the account balanced. -/
theorem Balanced.perform (balanced : charger.Balanced limit)
    (performed : call.perform charger = .ok after) : after.Balanced limit := by
  cases call with
  | charge purpose amount => exact (balanced.charge performed).1
  | restrict amount => exact balanced.pushGas performed
  | release =>
    cases performed
    exact balanced.popGas

/-! ### Restrictions -/

theorem Holds.charge {purpose : GasUse} (holds : charger.Holds count base bound)
    (paid : charger.charge purpose amount = .ok after) : after.Holds count base bound := by
  have within := within_charge holds.metered paid count
  have used := holds.used_le
  obtain ⟨-, rfl⟩ := charge_eq_ok holds.metered paid
  have more := charger.consumed.sum_add_le purpose amount
  refine ⟨holds.metered, holds.count_le, holds.drop_eq, ?_⟩
  show (charger.consumed.add purpose amount).sum + _ ≤ bound
  omega

/-- A call that does not end the restriction is made under it. -/
theorem Holds.perform (holds : charger.Holds count base bound)
    (performed : call.perform charger = .ok after) (above : base.length ≤ after.setAside.length) :
    ∃ count, after.Holds count base bound := by
  cases call with
  | charge purpose amount => exact ⟨count, holds.charge performed⟩
  | restrict amount => exact ⟨count + 1, holds.pushGas performed⟩
  | release =>
    cases performed
    cases count with
    | succ count => exact ⟨count, holds.popGas⟩
    | zero =>
      have aside := holds.setAside_eq
      unfold Charger.popGas at above ⊢
      split at above
      · exact ⟨0, holds⟩
      · rename_i amount rest found
        rw [← aside, found] at above
        exact absurd above (Nat.not_succ_le_self _)

/-- Under a restriction to an amount, at most that amount is consumed, and what was set aside before
stays. Where the restriction can end next, its end gives back what was set aside for it. -/
structure Encloses (before : Charger) (amount : UInt64) (after : Charger) : Prop where
  consumed_le : after.consumed.sum ≤ before.consumed.sum + amount.toNat
  outer : (before.remaining - amount) :: before.setAside <:+ after.setAside
  ends : after.setAside.length = before.setAside.length + 1 →
    after.popGas.setAside = before.setAside ∧ after.popGas.consumed = after.consumed ∧
      after.consumed.sum + after.popGas.remaining.toNat =
        before.consumed.sum + before.remaining.toNat

/-- A restriction bounds what is consumed by its amount. -/
theorem holds_of_pushGas (metered : charger.metered = true)
    (pushed : charger.pushGas amount = .ok after) :
    after.Holds 0 ((charger.remaining - amount) :: charger.setAside)
      (charger.consumed.sum + amount.toNat) := by
  obtain ⟨-, rfl⟩ := pushGas_eq_ok metered pushed
  exact ⟨metered, Nat.zero_le _, rfl, Nat.le_refl _⟩

/-- What holds under a restriction, of an account that was balanced before it. -/
theorem Balanced.encloses (balanced : before.Balanced limit) (balancedAfter : after.Balanced limit)
    (holds : after.Holds count ((before.remaining - amount) :: before.setAside)
      (before.consumed.sum + amount.toNat)) : before.Encloses amount after where
  consumed_le := holds.consumed_le
  outer := holds.drop_eq ▸ List.drop_suffix count after.setAside
  ends same := by
    have aside : after.setAside = (before.remaining - amount) :: before.setAside :=
      ((holds.drop_eq ▸ List.drop_suffix count after.setAside).eq_of_length same.symm).symm
    have popped : after.popGas.setAside = before.setAside := by
      unfold Charger.popGas
      rw [aside]
    have sum := balanced.sum_eq
    have sumAfter := balancedAfter.popGas.sum_eq
    unfold reserve at sum sumAfter
    rw [popped, consumed_popGas] at sumAfter
    exact ⟨popped, consumed_popGas after, by omega⟩

end Charger

/-! ### Runs -/

namespace GasCall

variable {heap : Heap} {limit : UInt64} {bound : Nat} {base : List UInt64}

/-- The account stays balanced along calls. -/
theorem balanced_afterAll (balanced : heap.charger.Balanced limit) (calls : List GasCall) :
    (afterAll heap calls).charger.Balanced limit := by
  induction calls using List.reverseRecOn with
  | nil => exact balanced
  | append_singleton calls call ih =>
    rw [afterAll_concat]
    rcases call.stateAfter_run (afterAll heap calls) with same | ⟨charger, performed, same⟩
    · rw [same]
      exact ih
    · rw [same]
      exact ih.perform performed

/-- **Calls that do not end a restriction are made under it**; by induction on the calls. -/
theorem holds_afterAll (holds : heap.charger.Holds 0 base bound) {calls : List GasCall}
    (above : ∀ earlier, earlier <+: calls →
      base.length ≤ (afterAll heap earlier).charger.setAside.length) :
    ∃ count, (afterAll heap calls).charger.Holds count base bound := by
  induction calls using List.reverseRecOn with
  | nil => exact ⟨0, holds⟩
  | append_singleton calls call ih =>
    obtain ⟨count, holds⟩ := ih fun earlier start =>
      above earlier (start.trans (List.prefix_append calls [call]))
    have last := above _ List.prefix_rfl
    rw [afterAll_concat] at last ⊢
    rcases call.stateAfter_run (afterAll heap calls) with same | ⟨charger, performed, same⟩
    · rw [same]
      exact ⟨count, holds⟩
    · rw [same] at last ⊢
      exact holds.perform performed last

/-- **A metered account keeps its limit under any calls**, refused ones and unmatched ends included:
the gas consumed, at hand and set aside is the limit exactly, no sum is cut, and a refused call
changes nothing. A restriction to an amount that is accepted at any point, followed by calls that do
not end it, bounds what they consume by the amount and keeps what was set aside before. -/
theorem conserved_afterAll (heap : Heap) (limit : UInt64) (calls : List GasCall) :
    let last := afterAll { heap with charger := .withLimit limit } calls
    last.charger.Conserved limit ∧
      (∀ call fault left, run call last = .error fault left → left = last) ∧
      ∀ amount begun inner, run (.restrict amount) last = .ok () begun →
        (∀ earlier, earlier <+: inner → begun.charger.setAside.length ≤
          (afterAll begun earlier).charger.setAside.length) →
        last.charger.Encloses amount (afterAll begun inner).charger := by
  intro last
  have balanced : last.charger.Balanced limit :=
    balanced_afterAll (Charger.balanced_withLimit limit) calls
  refine ⟨balanced.conserved, fun call fault left refused => ?_,
    fun amount begun inner accepted above => ?_⟩
  · rw [run_eq] at refused
    split at refused
    · cases refused
    · cases refused
      rfl
  · rw [run_eq] at accepted
    split at accepted
    · rename_i charger pushed
      cases accepted
      have pushed : last.charger.pushGas amount = .ok charger := pushed
      have begins := Charger.holds_of_pushGas balanced.metered pushed
      have aside := begins.setAside_eq
      obtain ⟨count, holds⟩ :=
        @holds_afterAll { last with charger } _ _ begins inner (aside ▸ above)
      have balancedToo : ({ last with charger } : Heap).charger.Balanced limit :=
        balanced.pushGas pushed
      exact balanced.encloses (balanced_afterAll balancedToo inner) holds
    · cases accepted

/-- Of 500 units 200 are given to a part that gives 100 on. While that one takes 60 and is refused
41 more, 300 and 80 units are set aside; its end gives the 80 back. -/
theorem conserved_nested :
    let last := afterAll { charger := .withLimit 500 } [.restrict 200, .charge .cpu 20]
    let begun := afterAll last [.restrict 100]
    let ended := afterAll begun [.charge .ram 60, .restrict 41]
    run (.restrict 100) last = .ok () begun ∧
      (∀ earlier, earlier <+: [.charge .ram 60, .restrict 41] →
        begun.charger.setAside.length ≤ (afterAll begun earlier).charger.setAside.length) ∧
      last.charger.Conserved 500 ∧ last.charger.Encloses 100 ended.charger ∧
      ended.charger.setAside = [80, 300] ∧ ended.charger.popGas.remaining = 120 := by
  intro last begun ended
  obtain ⟨conserved, -, encloses⟩ :=
    conserved_afterAll { charger := .withLimit 500 } 500 [.restrict 200, .charge .cpu 20]
  have accepted : run (.restrict 100) last = .ok () begun := rfl
  have above : ∀ earlier, earlier <+: [.charge .ram 60, .restrict 41] →
      begun.charger.setAside.length ≤ (afterAll begun earlier).charger.setAside.length := by
    intro earlier start
    rcases List.prefix_cons_iff.mp start with rfl | ⟨later, rfl, startsToo⟩
    · decide
    · rcases List.prefix_cons_iff.mp startsToo with rfl | ⟨last, rfl, nothing⟩
      · decide
      · rw [List.prefix_nil.mp nothing]
        decide
  exact ⟨accepted, above, conserved, encloses 100 begun _ accepted above, by decide, by decide⟩

end GasCall

end ObjectLedger
