/-
**How paid transactions end.**

* `Paid.Collected`: what is collected is in order, the balance and the nonce of the caller included.
  `Paid.of_collectUpdates`: and it records the heap.
* `Paid.write_of_refund`: a refund is one write of the balance of the caller.
* `Paid.Settled`: a transaction that completes gives back all gas it did not consume and records the
  heap after that.
* `Paid.steps_of_complete`: the parts of a completion.
* **`Paid.complete_cases`**, `Paid.settleFault_cases`: a transaction fails or is settled.
-/
import ObjectLedger.Proofs.Machine.Recording
import ObjectLedger.Proofs.Transaction.Purchase

namespace ObjectLedger

namespace Paid

open Run Heap

variable {paid : Paid} {heap after : Heap} {roots : List ObjectRef} {updates : List Update}
  {limit : UInt64} {respond : Effects → Response} {outcome : Outcome}

/-- What is collected of a heap: in order, what can be reached from the roots and the caller, and the
balance and the nonce of the caller, which is there. -/
structure Collected (paid : Paid) (roots : List ObjectRef) (heap : Heap) (updates : List Update) :
    Prop where
  account : HasAccount paid.context heap paid.caller
  owned : ∃ balance, heap.value paid.context.view paid.caller .balance = .bigInteger balance
  increasing : Increasing updates
  mem_iff (update : Update) : update ∈ updates ↔
    update ∈ heap.updates (roots ++ [paid.caller]) ∨ ∃ field, (field = .balance ∨ field = .nonce) ∧
      update = .field paid.caller field (heap.value paid.context.view paid.caller field)

theorem Collected.named (collected : paid.Collected roots heap updates) {field : FieldSignature}
    (either : field = .balance ∨ field = .nonce) :
    .field paid.caller field (heap.value paid.context.view paid.caller field) ∈ updates :=
  (collected.mem_iff _).mpr (Or.inr ⟨field, either, rfl⟩)

/-- **What is collected records the heap**, after the caller was looked at. -/
theorem of_collectUpdates (sound : Sound paid.context heap)
    (ran : paid.collectUpdates roots heap = .ok updates after) :
    Reading paid.context heap after ∧ paid.Collected roots after updates ∧
      RecordedBy paid.context after updates := by
  obtain ⟨⟨balance, nonce⟩, middle, loaded, rest⟩ := ok_of_bind ran
  cases rest
  obtain ⟨reading, account, owned, counted⟩ := (reads_loadAccount paid.caller).ends loaded
  have sound := Reading.sound reading sound
  obtain ⟨object, present, fields⟩ := account
  have said : ∀ field, field = .balance ∨ field = .nonce → object.isNew = true →
      .field paid.caller field (after.value paid.context.view paid.caller field) ∈
        after.updates (roots ++ [paid.caller]) := fun field either new =>
    mem_updates_of_new sound present new (List.mem_append_right _ List.mem_cons_self)
      (get?_of_isSome _ present (fields field either).2)
  refine ⟨reading, ⟨⟨object, present, fields⟩, ⟨balance, owned⟩, increasing_normalize _,
    fun update => ?_⟩, RecordedBy.normalize ?_⟩
  · rw [mem_normalize, List.mem_append, List.mem_pair]
    refine or_congr_right ⟨?_, ?_⟩
    · rintro (rfl | rfl)
      · exact ⟨.balance, Or.inl rfl, by rw [owned]⟩
      · exact ⟨.nonce, Or.inr rfl, by rw [counted]⟩
    · rintro ⟨field, rfl | rfl, rfl⟩
      · exact Or.inl (by rw [owned])
      · exact Or.inr (by rw [counted])
  · have both := ((recordedBy_updates sound (roots ++ [paid.caller])).and_field present owned
      fun new => owned ▸ said .balance (Or.inl rfl) new).and_field present counted
      fun new => List.mem_append_left _ (counted ▸ said .nonce (Or.inr rfl) new)
    rw [List.append_assoc] at both
    exact both

/-- A caller that is there is looked at without a trace. -/
theorem eq_of_collectUpdates (account : HasAccount paid.context heap paid.caller)
    (ran : paid.collectUpdates roots heap = .ok updates after) : after = heap := by
  obtain ⟨⟨balance, nonce⟩, middle, loaded, rest⟩ := ok_of_bind ran
  cases rest
  exact (of_loadAccount account loaded).1

/-- **A refund is one write of the balance of the caller.** -/
theorem write_of_refund (account : HasAccount paid.context heap paid.caller)
    (ran : paid.refund heap = .ok () after) :
    ∃ kept, heap.value paid.context.view paid.caller .balance = .bigInteger kept ∧
      Write paid.context paid.caller .balance (.bigInteger (Amount.saturate
        (kept.toNat + heap.charger.unused.toNat * paid.gasPrice.toNat))) heap after := by
  obtain ⟨_, _, seen, ran⟩ := ok_of_bind ran
  cases seen
  obtain ⟨kept, middle, looked, rest⟩ := ok_of_bind ran
  obtain ⟨rfl, owned⟩ := account.of_getAmount (.inl rfl) looked
  obtain ⟨written, same, write⟩ := account.setField (.inl rfl) _
  cases rest.symm.trans same
  exact ⟨kept, owned, write⟩

/-- A transaction that completes: the unused gas was given back for what the code kept, and the
updates record the heap after that. -/
structure Settled (paid : Paid) (limit : UInt64) (kept : Amount) (last : Heap) (effects : Effects) :
    Prop where
  kept_eq : paid.heap.value paid.context.view paid.caller .balance = .bigInteger kept
  gas_le : effects.gas.sum ≤ limit.toNat
  value_eq : ∀ object field, last.value paid.context.view object field =
    if object = paid.caller ∧ field = .balance then
      .bigInteger (Amount.saturate
        (kept.toNat + (limit.toNat - effects.gas.sum) * paid.gasPrice.toNat))
    else paid.heap.value paid.context.view object field
  sound : Sound paid.context last
  records : RecordedBy paid.context last effects.updates
  collected : ∃ roots, paid.Collected roots last effects.updates

/-- The parts of a completion. What is collected first must not be more than the gas of a view, it
must not be too long to be written, and its storage is paid for before the unused gas is given
back. -/
theorem steps_of_complete (ended : paid.complete roots respond = .ok outcome) :
    ∃ candidate first, paid.collectUpdates roots paid.heap = .ok candidate first ∧
      ((∃ cause, outcome = { paid with heap := first }.fail cause) ∨
        (paid.isView = true → ∀ update ∈ candidate, paid.isGasUpdate update = true) ∧
          checkEncodable Codec.response "response"
            (respond ⟨candidate, first.events, first.charger.consumed⟩) = .ok () ∧
          ∃ charger refunded updates last,
            first.charger.charge .storage (paid.context.costs.storageOfBytes
              (respond ⟨candidate, first.events, first.charger.consumed⟩).size) = .ok charger ∧
            paid.refund { first with charger } = .ok () refunded ∧
            paid.collectUpdates roots refunded = .ok updates last ∧
            outcome = .completed (respond ⟨updates, first.events, last.charger.consumed⟩)) := by
  obtain ⟨⟨candidate, first⟩, collected, ended⟩ := bind_eq_ok.mp ended
  refine ⟨candidate, first, expectNoFault_eq_ok.mp collected, ?_⟩
  simp only [] at ended
  split at ended
  · cases ended
    exact Or.inl ⟨_, rfl⟩
  rename_i unchanged
  obtain ⟨_, encodable, ended⟩ := bind_eq_ok.mp ended
  split at ended
  · cases ended
    exact Or.inl ⟨_, rfl⟩
  rename_i charger charged
  obtain ⟨⟨_, refunded⟩, refunding, ended⟩ := bind_eq_ok.mp ended
  obtain ⟨⟨updates, last⟩, collecting, ended⟩ := bind_eq_ok.mp ended
  cases ended
  refine Or.inr ⟨fun viewing update member => ?_, encodable, charger, refunded, updates, last,
    charged, expectNoFault_eq_ok.mp refunding, expectNoFault_eq_ok.mp collecting, rfl⟩
  rw [if_pos viewing] at unchanged
  have gas : ¬ (!paid.isGasUpdate update) = true :=
    List.find?_eq_none.mp unchanged update member
  simpa using gas

/-- **A transaction that is completed fails at its end or is settled.** -/
theorem complete_cases (ended : paid.complete roots respond = .ok outcome)
    (account : HasAccount paid.context paid.heap paid.caller)
    (sound : Sound paid.context paid.heap) (balanced : paid.heap.charger.Balanced limit) :
    (∃ cause heap, heap.charger.Balanced limit ∧ outcome = { paid with heap }.fail cause) ∨
      ∃ kept last effects, paid.Settled limit kept last effects ∧
        outcome = .completed (respond effects) := by
  obtain ⟨candidate, first, collected, ended⟩ := steps_of_complete ended
  obtain rfl := eq_of_collectUpdates account collected
  rcases ended with ⟨cause, rfl⟩ | ⟨-, -, charger, refunded, updates, last, charged, refunding,
    collecting, rfl⟩
  · exact Or.inl ⟨_, _, balanced, rfl⟩
  have balanced := (balanced.charge charged).1
  have account : HasAccount paid.context { paid.heap with charger } paid.caller := account
  have sound : Sound paid.context { paid.heap with charger } := (Read.charge charged).sound sound
  obtain ⟨kept, owned, write⟩ := write_of_refund account refunding
  have sound := write.sound sound
  obtain rfl := eq_of_collectUpdates (account.kept write.keeps) collecting
  obtain ⟨-, collected, records⟩ := of_collectUpdates sound collecting
  refine Or.inr ⟨kept, last, ⟨updates, paid.heap.events, last.charger.consumed⟩, ?_, rfl⟩
  have unused := balanced.unused
  have same : last.charger = charger := write.charger_eq
  exact {
    kept_eq := owned
    gas_le := same ▸ balanced.consumed_le
    value_eq := fun object field => by
      have left : limit.toNat - charger.consumed.sum = charger.unused.toNat := by omega
      rw [write.value_eq, same, left]
      rfl
    sound
    records
    collected := ⟨roots, collected⟩ }

/-- A fault ends a transaction with a failure, or with an exception if it is checked. -/
theorem settleFault_cases {fault : Fault} {throwsExceptions : Bool}
    {exception : Cause → Effects → Response}
    (ended : paid.settleFault fault throwsExceptions roots exception = .ok outcome) :
    (∃ cause, outcome = paid.fail cause) ∨
      fault.isChecked = true ∧ ∃ cause, paid.complete roots (exception cause) = .ok outcome := by
  cases fault with
  | thrown throwable =>
    unfold settleFault at ended
    simp only [] at ended
    split at ended
    · rename_i both
      exact Or.inr ⟨(Bool.and_eq_true _ _ ▸ both).1, _, ended⟩
    · cases ended
      exact Or.inl ⟨_, rfl⟩
  | internal cause => cases ended
  | unfinished => cases ended

end Paid

end ObjectLedger
