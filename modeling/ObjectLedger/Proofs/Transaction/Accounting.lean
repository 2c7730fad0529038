/-
**What a paid transaction does to balances and nonces.**

* `Paid.outcome_cases`: a paid request that is not rejected fails, with all its gas consumed or taken
  as a penalty, or is settled over the heap that its code left.
* `Response.KeepsGas`, `Response.ReturnsGas`: what becomes of the gas, and of the balance of the
  caller.
* **`Paid.nonce_valueAfter`**: where code does not write nonces, exactly that of the caller rises, by
  one.
* **`Paid.coins_after_completed`**: where code does not write balances, the coins that are gone paid
  for gas or belong to new objects that are not recorded.
-/
import Mathlib.Algebra.Order.BigOperators.Group.Finset
import ObjectLedger.Proofs.Transaction.Execution

namespace ObjectLedger

/-- The coins of the new objects of a transaction that its response does not record. -/
def Heap.unrecordedCoins (heap : Heap) (view : LedgerView) (reference : TransactionRef)
    (response : Response) : Nat :=
  ∑ object with object.transaction = reference ∧ response.updatesOf object = [],
    (heap.value view object .balance).coins

/-- A failure keeps all gas of an account that had an amount: it is consumed or a penalty, and what
is recorded as left is the amount less its price. -/
def Response.KeepsGas (response : Response) (header : Header) (owned : Amount) : Prop :=
  ∃ (left : Amount) (gas : GasConsumed) (penalty : UInt64), response.gas? = some gas ∧
    response.penalty? = some penalty ∧
    gas.cpu.toNat + gas.ram.toNat + gas.storage.toNat + penalty.toNat = header.gasLimit.toNat ∧
    left.toNat + header.gasLimit.toNat * header.gasPrice.toNat = owned.toNat ∧
    ∀ value, .field header.caller .balance value ∈ response.updates ↔ value = .bigInteger left

/-- A transaction that completes returns the gas that it did not consume to an account that had an
amount and that the code left another one: what is recorded as left is that one and the price of the
gas returned, or the greatest amount. -/
def Response.ReturnsGas (response : Response) (header : Header) (owned kept : Amount) : Prop :=
  ∃ (left : Amount) (gas : GasConsumed) (consumed : Nat), response.gas? = some gas ∧
    response.penalty? = none ∧
    consumed = gas.cpu.toNat + gas.ram.toNat + gas.storage.toNat ∧
    consumed ≤ header.gasLimit.toNat ∧
    left.toNat = min (kept.toNat + (header.gasLimit.toNat - consumed) * header.gasPrice.toNat)
      Amount.maximum ∧
    (kept.toNat + header.gasLimit.toNat * header.gasPrice.toNat = owned.toNat →
      left.toNat + consumed * header.gasPrice.toNat = owned.toNat) ∧
    ∀ value, .field header.caller .balance value ∈ response.updates ↔ value = .bigInteger left

theorem Action.failed_spec (action : Action) (failure : Failure) :
    (action.failed failure).updates = failure.updates ∧
      (action.failed failure).gas? = some failure.gas ∧
      (action.failed failure).penalty? = some failure.penalty ∧
      (action.failed failure).ending = .failed := by
  cases action <;> exact ⟨rfl, rfl, rfl, rfl⟩

namespace Paid

open Run Heap

variable {config : NodeConfig} {view : LedgerView} {reference : TransactionRef} {header : Header}
  {action : Action} {cache after : ClasspathCache} {outcome : Outcome} {paid : Paid}
  {response : Response} {classes : LinkedClasspath} {balance kept : Amount} {last : Heap}
  {effects : Effects}

/-! ### The two ends -/

/-- **A paid request that is not rejected fails or is settled.** -/
theorem outcome_cases (fresh : ∀ number, view.history ⟨reference, number⟩ = .ok [])
    (built : Outcome.ofRequest config view reference (.paid header action) cache =
      .ok outcome after) :
    ∃ classes paid balance, Build.link config view (action.classpaths header) cache =
        .ok classes after ∧
      started? config view cache reference header action = some paid ∧
      Bought config view reference header action classes balance paid ∧
      ((∃ (cause : Cause) (charger : Charger), charger.Balanced header.gasLimit ∧
        outcome = .failed (action.failed
          { updates := paid.reserved
            gas := charger.consumed
            penalty := charger.penalty
            cause })) ∨
        ∃ kept last effects response, paid.EndsOrThrows ∧
          { paid with heap := paid.left }.Settled header.gasLimit kept last effects ∧
          response.Carries effects ∧ outcome = .completed response) := by
  obtain ⟨classes, paid, balance, link, started, bought, ended⟩ := ended_of_ofRequest built
  refine ⟨classes, paid, balance, link, started, bought, ?_⟩
  have fresh : paid.context.Fresh := by
    intro number
    rw [bought.context_eq]
    exact fresh number
  have balanced := (moves_left paid).balanced bought.balanced
  cases ended with
  | failed cause =>
    refine Or.inl ⟨cause, paid.left.charger, balanced, ?_⟩
    rw [← bought.action_eq]
    rfl
  | completed ends carries completes =>
    have keeps := (moves_left paid).keeps fresh bought.sound
    have sound := (moves_left paid).sound bought.sound
    have account : HasAccount paid.context paid.left paid.caller := by
      rw [bought.caller_eq]
      exact bought.account.kept keeps
    rcases complete_cases completes account sound balanced with
      ⟨cause, heap, balanced, rfl⟩ | ⟨kept, last, effects, settled, rfl⟩
    · refine Or.inl ⟨cause, heap.charger, balanced, ?_⟩
      rw [← bought.action_eq]
      rfl
    · exact Or.inr ⟨kept, last, effects, _, ends, settled, carries effects, rfl⟩

/-- What the updates of a failure say. -/
theorem Bought.valueAfter_of_failed
    (bought : Bought config view reference header action classes balance paid)
    (updates : response.updates = paid.reserved) (object : ObjectRef) (field : FieldSignature) :
    view.valueAfter response object field =
      if object = header.caller ∧ field = .nonce then
        .bigInteger (BitVec.ofNat 128 (header.nonce.toNat + 1))
      else if object = header.caller ∧ field = .balance then
        .bigInteger (balance - priceOf header.gasLimit header.gasPrice)
      else view.value object field := by
  unfold LedgerView.valueAfter Response.updatesOf
  rw [updates, bought.reserved_eq]
  by_cases same : object = header.caller
  · subst same
    by_cases counter : field = .nonce
    · subst counter
      simp [Update.object, LedgerView.valueOf?, FieldSignature.balance, FieldSignature.nonce]
    · by_cases money : field = .balance
      · subst money
        simp [Update.object, LedgerView.valueOf?, FieldSignature.balance, FieldSignature.nonce]
      · have apart : FieldSignature.balance ≠ field := fun same => money same.symm
        have apartToo : FieldSignature.nonce ≠ field := fun same => counter same.symm
        simp [Update.object, LedgerView.valueOf?, money, counter, apart, apartToo]
  · have different : header.caller ≠ object := fun h => same h.symm
    simp [Update.object, same, different]

/-- What the updates of a transaction that completed say. -/
theorem Settled.valueAfter
    (bought : Bought config view reference header action classes balance paid)
    (settled : { paid with heap := paid.left }.Settled header.gasLimit kept last effects)
    (carries : response.Carries effects) (object : ObjectRef) (field : FieldSignature) :
    view.valueAfter response object field =
      if object.transaction = reference ∧ response.updatesOf object = [] then
        view.value object field
      else last.value view object field := by
  have same : paid.context.view = view := by rw [bought.context_eq]
  have creator : paid.context.transaction = reference := by rw [bought.context_eq]
  have told := settled.records.getD_findSome? settled.sound object field
  unfold LedgerView.valueAfter Response.updatesOf
  rw [carries.updates_eq]
  rw [same, creator] at told
  exact told

/-! ### Gas -/

/-- The failure of a transaction keeps all gas. -/
theorem Bought.keepsGas
    (bought : Bought config view reference header action classes balance paid) {charger : Charger}
    (balanced : charger.Balanced header.gasLimit) {cause : Cause}
    (shape : response = action.failed
      { updates := paid.reserved, gas := charger.consumed, penalty := charger.penalty, cause }) :
    response.KeepsGas header balance := by
  subst shape
  obtain ⟨updates, gas, penalty, -⟩ := action.failed_spec
    { updates := paid.reserved, gas := charger.consumed, penalty := charger.penalty, cause }
  refine ⟨balance - priceOf header.gasLimit header.gasPrice, _, _, gas, penalty,
    balanced.penalty, ?_, fun value => ?_⟩
  · have bound := bought.affordable
    rw [BitVec.toNat_sub_of_le, toNat_priceOf]
    · omega
    · rw [BitVec.le_def, toNat_priceOf]
      exact bound
  · rw [updates, bought.reserved_eq]
    simp [FieldSignature.nonce_ne_balance.symm]

/-- What the code of a transaction that completes left its caller. -/
theorem Settled.value_left
    (bought : Bought config view reference header action classes balance paid)
    (settled : { paid with heap := paid.left }.Settled header.gasLimit kept last effects) :
    paid.left.value view header.caller .balance = .bigInteger kept := by
  have same : paid.context.view = view := by rw [bought.context_eq]
  rw [← same, ← bought.caller_eq]
  exact settled.kept_eq

/-- A transaction that completes returns the gas that it did not consume. -/
theorem Settled.returnsGas
    (bought : Bought config view reference header action classes balance paid)
    (settled : { paid with heap := paid.left }.Settled header.gasLimit kept last effects)
    (carries : response.Carries effects) : response.ReturnsGas header balance kept := by
  have same : paid.context.view = view := by rw [bought.context_eq]
  have held := settled.value_eq paid.caller .balance
  rw [if_pos ⟨rfl, rfl⟩, same] at held
  simp only [bought.gasPrice_eq, bought.caller_eq] at held
  refine ⟨_, effects.gas, effects.gas.sum, carries.gas?_eq, carries.penalty?_eq, rfl,
    settled.gas_le, Amount.toNat_saturate _, fun bare => ?_,
    fun value => ⟨fun member => ?_, fun told => ?_⟩⟩
  · have split : (header.gasLimit.toNat - effects.gas.sum) * header.gasPrice.toNat +
        effects.gas.sum * header.gasPrice.toNat =
          header.gasLimit.toNat * header.gasPrice.toNat := by
      rw [← Nat.add_mul, Nat.sub_add_cancel settled.gas_le]
    have bound : balance.toNat ≤ Amount.maximum := Nat.le_of_lt_succ balance.isLt
    rw [Amount.toNat_saturate, Nat.min_eq_left (by omega)]
    omega
  · rw [carries.updates_eq] at member
    exact (settled.records.told _ _ _ member).trans (same ▸ held)
  · obtain ⟨roots, collected⟩ := settled.collected
    have refunded := collected.named (Or.inl rfl)
    rw [same, bought.caller_eq, held] at refunded
    rw [carries.updates_eq, told]
    exact refunded

/-! ### Nonces -/

/-- **Exactly the nonce of the caller rises**, where the code of the classes writes no nonce. -/
theorem nonce_valueAfter (fresh : ∀ number, view.history ⟨reference, number⟩ = .ok [])
    (bought : Bought config view reference header action classes balance paid)
    (closed : classes.WritesOnly (· ≠ .nonce)) (ends : paid.EndsOrThrows)
    (settled : { paid with heap := paid.left }.Settled header.gasLimit kept last effects)
    (carries : response.Carries effects) (account : ObjectRef) :
    view.valueAfter response account .nonce =
      if account = header.caller then .bigInteger (BitVec.ofNat 128 (header.nonce.toNat + 1))
      else view.value account .nonce := by
  have same : paid.context.view = view := by rw [bought.context_eq]
  have restricted : paid.context.classes.WritesOnly (· ≠ .nonce) := by
    rw [bought.context_eq]
    exact closed
  have kept : ∀ object, last.value view object .nonce = paid.heap.value view object .nonce := by
    intro object
    have settles := settled.value_eq object .nonce
    rw [if_neg fun both => FieldSignature.nonce_ne_balance both.2] at settles
    rw [← same]
    refine settles.trans ?_
    refine (moves_left_of_writesOnly restricted ends).value_eq ?_ bought.sound (by simp)
      FieldSignature.nonce_ne_balance object
    intro number
    rw [bought.context_eq]
    exact fresh number
  have value := settled.valueAfter bought carries account .nonce
  rw [kept, bought.value_eq] at value
  rw [value]
  by_cases caller : account = header.caller
  · subst caller
    obtain ⟨history, known, nonempty⟩ := bought.exists_history
    have old : ¬ (header.caller.transaction = reference ∧
        response.updatesOf header.caller = []) := by
      rintro ⟨creator, -⟩
      have nothing := fresh header.caller.progressive
      rw [← creator] at nothing
      exact nonempty (Except.ok.inj (known.symm.trans nothing))
    simp [old]
  · simp [caller, FieldSignature.nonce_ne_balance]

/-! ### Coins -/

theorem Bought.not_new (bought : Bought config view reference header action classes balance paid)
    (fresh : ∀ number, view.history ⟨reference, number⟩ = .ok []) :
    header.caller.transaction ≠ reference := by
  intro creator
  obtain ⟨history, known, nonempty⟩ := bought.exists_history
  have nothing := fresh header.caller.progressive
  rw [← creator] at nothing
  exact nonempty (Except.ok.inj (known.symm.trans nothing))

/-- The purchase of gas takes its price from all coins. -/
theorem Bought.coins_eq (bought : Bought config view reference header action classes balance paid) :
    paid.heap.coins view + header.gasLimit.toNat * header.gasPrice.toNat = view.coins := by
  have agree : paid.heap.coins view + (view.value header.caller .balance).coins =
      view.coins + (paid.heap.value view header.caller .balance).coins := by
    rw [view.coins_eq_sum]
    exact sum_add_of_agree (fun object => (paid.heap.value view object .balance).coins)
      (fun object => (view.value object .balance).coins) header.caller
      fun other different => by simp [bought.value_eq, different]
  have less : (balance - priceOf header.gasLimit header.gasPrice).toNat =
      balance.toNat - header.gasLimit.toNat * header.gasPrice.toNat := by
    rw [BitVec.toNat_sub_of_le, toNat_priceOf]
    rw [BitVec.le_def, toNat_priceOf]
    exact bought.affordable
  have bound := bought.affordable
  rw [bought.value_eq, bought.owned] at agree
  simp only [FieldSignature.nonce_ne_balance.symm, and_false, if_false, and_self, if_true,
    Value.coins_bigInteger, less] at agree
  omega

/-- All coins after a response that records a heap, and those of the new objects that it does not
record. -/
theorem sum_valueAfter (fresh : ∀ number, view.history ⟨reference, number⟩ = .ok [])
    (value_eq : ∀ object, view.valueAfter response object .balance =
      if object.transaction = reference ∧ response.updatesOf object = [] then
        view.value object .balance
      else last.value view object .balance) :
    ∑ object, (view.valueAfter response object .balance).coins +
      last.unrecordedCoins view reference response = last.coins view := by
  unfold unrecordedCoins Heap.coins
  rw [Finset.sum_filter, ← Finset.sum_add_distrib]
  refine Finset.sum_congr rfl fun object _ => ?_
  rw [value_eq]
  split
  · rename_i unrecorded
    have nothing : view.history object = .ok [] := by
      rw [← fresh object.progressive, ← unrecorded.1]
    rw [LedgerView.value_of_no_history nothing]
    exact Nat.zero_add _
  · exact Nat.add_zero _

/-- **The coins that are gone paid for gas or belong to new objects that are not recorded**, where
the code of the classes writes no balance. -/
theorem coins_after_completed (fresh : ∀ number, view.history ⟨reference, number⟩ = .ok [])
    (bought : Bought config view reference header action classes balance paid)
    (closed : classes.WritesOnly (· ≠ .balance)) (ends : paid.EndsOrThrows)
    (settled : { paid with heap := paid.left }.Settled header.gasLimit kept last effects)
    (carries : response.Carries effects) (small : view.coins ≤ Amount.maximum) :
    ∑ object, (view.valueAfter response object .balance).coins +
        effects.gas.sum * header.gasPrice.toNat +
        paid.left.unrecordedCoins view reference response = view.coins := by
  have same : paid.context.view = view := by rw [bought.context_eq]
  have restricted : paid.context.classes.WritesOnly (· ≠ .balance) := by
    rw [bought.context_eq]
    exact closed
  have freshContext : paid.context.Fresh := by
    intro number
    rw [bought.context_eq]
    exact fresh number
  have left : paid.left.coins view = paid.heap.coins view := by
    rw [← same]
    exact (moves_left_of_writesOnly restricted ends).coins_eq freshContext bought.sound (by simp)
  have settles : ∀ object field, last.value view object field =
      if object = header.caller ∧ field = .balance then
        .bigInteger (Amount.saturate
          (kept.toNat + (header.gasLimit.toNat - effects.gas.sum) * header.gasPrice.toNat))
      else paid.left.value view object field := by
    rw [← same, ← bought.caller_eq, ← bought.gasPrice_eq]
    exact settled.value_eq
  have kept_eq := settled.value_left bought
  have refund : last.coins view + kept.toNat = paid.left.coins view + (Amount.saturate
      (kept.toNat + (header.gasLimit.toNat - effects.gas.sum) * header.gasPrice.toNat)).toNat := by
    have agree : last.coins view + (paid.left.value view header.caller .balance).coins =
        paid.left.coins view + (last.value view header.caller .balance).coins :=
      sum_add_of_agree (fun object => (last.value view object .balance).coins)
        (fun object => (paid.left.value view object .balance).coins) header.caller
        fun other different => by simp [settles, different]
    rw [settles, if_pos ⟨rfl, rfl⟩, kept_eq] at agree
    exact agree
  have unrecorded : last.unrecordedCoins view reference response =
      paid.left.unrecordedCoins view reference response := by
    refine Finset.sum_congr rfl fun object member => ?_
    have new := (Finset.mem_filter.mp member).2.1
    have other : object ≠ header.caller := fun same => bought.not_new fresh (same ▸ new)
    simp [settles, other]
  have total := sum_valueAfter fresh fun object => settled.valueAfter bought carries object .balance
  have purchase := bought.coins_eq
  have split : (header.gasLimit.toNat - effects.gas.sum) * header.gasPrice.toNat +
      effects.gas.sum * header.gasPrice.toNat =
        header.gasLimit.toNat * header.gasPrice.toNat := by
    rw [← Nat.add_mul, Nat.sub_add_cancel settled.gas_le]
  have share : kept.toNat ≤ paid.left.coins view := by
    have term : (paid.left.value view header.caller .balance).coins ≤ paid.left.coins view :=
      Finset.single_le_sum (f := fun object => (paid.left.value view object .balance).coins)
        (fun _ _ => Nat.zero_le _) (Finset.mem_univ header.caller)
    rw [kept_eq] at term
    exact term
  rw [Amount.toNat_saturate, Nat.min_eq_left (by omega)] at refund
  omega

/-- A failure takes the price of all gas from the caller, and nothing else. -/
theorem coins_after_failed
    (bought : Bought config view reference header action classes balance paid)
    (updates : response.updates = paid.reserved) :
    ∑ object, (view.valueAfter response object .balance).coins +
        header.gasLimit.toNat * header.gasPrice.toNat = view.coins := by
  have same : ∑ object, (view.valueAfter response object .balance).coins = paid.heap.coins view := by
    refine Finset.sum_congr rfl fun object _ => ?_
    rw [bought.valueAfter_of_failed updates, bought.value_eq]
  rw [same]
  exact bought.coins_eq

end Paid

end ObjectLedger
