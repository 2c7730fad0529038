/-
**The account that pays, in the heap of its transaction.**

* `Heap.HasAccount`: the account is there with its balance and its nonce; it stays there.
* `Paid.reads_loadAccount`: looking at the account brings it there.
* **`Paid.of_loadAccount`**, `Heap.HasAccount.setField`: from then on looking at it leaves no trace,
  and setting one of its fields is a single write.
-/
import ObjectLedger.Proofs.Machine.Kept
import ObjectLedger.Proofs.Machine.Reading
import ObjectLedger.Transaction.Paid

namespace ObjectLedger

variable {context : Context} {heap after : Heap} {object caller : ObjectRef} {loaded : HeapObject}
  {field : FieldSignature} {value : Value} {amount balance nonce : Amount}

theorem FieldSignature.nonce_ne_balance : FieldSignature.nonce ≠ .balance := by decide

namespace Heap

/-! ### Fields that are known -/

theorem value_of_known (view : LedgerView) (present : heap.objects.get? object = some loaded)
    (known : loaded.fields.get? field = some value) : heap.value view object field = value := by
  rw [value_of_present present, known]
  rfl

theorem get?_of_isSome (view : LedgerView) (present : heap.objects.get? object = some loaded)
    (known : (loaded.fields.get? field).isSome) :
    loaded.fields.get? field = some (heap.value view object field) := by
  obtain ⟨value, found⟩ := Option.isSome_iff_exists.mp known
  rw [value_of_known view present found, found]

theorem getAmount_eq (present : heap.objects.get? object = some loaded)
    (has : context.classes.hasField loaded.className field = true)
    (known : loaded.fields.get? field = some (.bigInteger amount)) :
    getAmount context object field heap = .ok amount heap := by
  show EStateM.bind (getField context object field) _ heap = _
  unfold EStateM.bind
  rw [getField_eq present has known]
  rfl

/-! ### The account -/

/-- The account is there, and its balance and its nonce are known. -/
def HasAccount (context : Context) (heap : Heap) (caller : ObjectRef) : Prop :=
  ∃ loaded, heap.objects.get? caller = some loaded ∧
    ∀ field, field = .balance ∨ field = .nonce →
      context.classes.hasField loaded.className field = true ∧ (loaded.fields.get? field).isSome

theorem HasAccount.kept (account : HasAccount context heap caller) (keeps : heap.Keeps after) :
    HasAccount context after caller := by
  obtain ⟨loaded, present, fields⟩ := account
  obtain ⟨later, there, sameClass, kept⟩ := keeps caller loaded present
  exact ⟨later, there, fun field named =>
    ⟨sameClass ▸ (fields field named).1, kept field (fields field named).2⟩⟩

theorem HasAccount.getAmount_eq (account : HasAccount context heap caller)
    (named : field = .balance ∨ field = .nonce)
    (held : heap.value context.view caller field = .bigInteger amount) :
    getAmount context caller field heap = .ok amount heap := by
  obtain ⟨loaded, present, fields⟩ := account
  refine Heap.getAmount_eq present (fields field named).1 ?_
  rw [get?_of_isSome context.view present (fields field named).2, held]

/-- An amount of the account that was read was there, and nothing happened. -/
theorem HasAccount.of_getAmount (account : HasAccount context heap caller)
    (named : field = .balance ∨ field = .nonce)
    (ran : getAmount context caller field heap = .ok amount after) :
    after = heap ∧ heap.value context.view caller field = .bigInteger amount := by
  have reading := (reads_getAmount context caller field).ends ran
  obtain ⟨steps, later, there, -, known⟩ := reading
  have held : heap.value context.view caller field = .bigInteger amount := by
    rw [← Reading.value_eq steps, value_of_known context.view there known]
  rw [account.getAmount_eq named held] at ran
  cases ran
  exact ⟨rfl, held⟩

/-- Setting an amount of the account is a single write. -/
theorem HasAccount.setField (account : HasAccount context heap caller)
    (named : field = .balance ∨ field = .nonce) (amount : Amount) :
    ∃ after, setField context caller field (.bigInteger amount) heap = .ok () after ∧
      Write context caller field (.bigInteger amount) heap after := by
  obtain ⟨loaded, present, fields⟩ := account
  have fits : (Value.bigInteger amount).fits field.type = true := by
    rcases named with rfl | rfl <;> rfl
  have eager : field.type.isEager = true := by rcases named with rfl | rfl <;> rfl
  have has := (fields field named).1
  refine ⟨_, setField_eq context present has fits eager, .intro present has fits (fun lazy => ?_)
    fun _ same => by cases same⟩
  rw [eager] at lazy
  cases lazy

end Heap

namespace Paid

open Run Heap

theorem reads_loadAccount (caller : ObjectRef) :
    Reads context (loadAccount context caller) heap fun account after =>
      HasAccount context after caller ∧
        after.value context.view caller .balance = .bigInteger account.1 ∧
        after.value context.view caller .nonce = .bigInteger account.2 := by
  unfold loadAccount
  refine (reads_getAmount context caller .balance).bind fun balance first owned => ?_
  refine (reads_getAmount context caller .nonce).also.bind fun nonce second counted => ?_
  obtain ⟨loaded, present, has, held⟩ := owned
  obtain ⟨reading, later, there, hasToo, known⟩ := counted
  obtain ⟨still, here, sameClass, kept⟩ := Reading.keeps reading caller loaded present
  cases there.symm.trans here
  refine Reads.pure ⟨⟨later, there, ?_⟩, ?_, value_of_known _ there known⟩
  · rintro field (rfl | rfl)
    · exact ⟨sameClass ▸ has, kept _ (by simp [held])⟩
    · exact ⟨hasToo, by simp [known]⟩
  · rw [Reading.value_eq reading, value_of_known _ present held]

theorem loadAccount_eq (account : HasAccount context heap caller)
    (owned : heap.value context.view caller .balance = .bigInteger balance)
    (counted : heap.value context.view caller .nonce = .bigInteger nonce) :
    loadAccount context caller heap = .ok (balance, nonce) heap := by
  show EStateM.bind (getAmount context caller .balance) _ heap = _
  unfold EStateM.bind
  rw [account.getAmount_eq (.inl rfl) owned]
  show EStateM.bind (getAmount context caller .nonce) _ heap = _
  unfold EStateM.bind
  rw [account.getAmount_eq (.inr rfl) counted]
  rfl

/-- **An account that is there is looked at without a trace.** -/
theorem of_loadAccount (account : HasAccount context heap caller)
    (ran : loadAccount context caller heap = .ok (balance, nonce) after) :
    after = heap ∧ heap.value context.view caller .balance = .bigInteger balance ∧
      heap.value context.view caller .nonce = .bigInteger nonce := by
  obtain ⟨reading, -, owned, counted⟩ := (reads_loadAccount caller).ends ran
  rw [Reading.value_eq reading] at owned counted
  rw [loadAccount_eq account owned counted] at ran
  cases ran
  exact ⟨rfl, owned, counted⟩

end Paid

end ObjectLedger
