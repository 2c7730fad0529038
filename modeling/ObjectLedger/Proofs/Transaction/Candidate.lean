/-
**The response that is paid for is the one that is given.**

* `Update.replace`: the update with another value, if it is about a field of an object.
  `Increasing.map_replace`: replacing a value leaves updates in order.
* **`Paid.Collected.eq_map_replace`**: what is collected after the refund is what was collected before
  it, but for the balance of the caller. `Paid.Collected.sameSize`: so it takes the same room.
* **`Paid.billed_of_complete`**: a transaction fails without a charge for storage, or completes and
  pays for the storage of the response that it gives.
* `Paid.storage_of_start`: until its code starts it has paid for the storage of its request.
* **`Paid.billed_of_built`**: so a request pays for both, or for the request if it fails.
-/
import ObjectLedger.Proofs.Codec.Length
import ObjectLedger.Proofs.Machine.Hidden
import ObjectLedger.Proofs.Machine.Storage
import ObjectLedger.Proofs.Transaction.Faults

namespace ObjectLedger

open Run Heap

variable {object : ObjectRef} {field : FieldSignature} {value : Value} {update : Update}
  {updates : List Update}

/-! ### Another value of a field -/

/-- The update with a value for a field of an object, if it is about that, and as it is otherwise. -/
def Update.replace (object : ObjectRef) (field : FieldSignature) (value : Value) (update : Update) :
    Update :=
  if update.object = object ∧ update.key = .field field then .field object field value else update

namespace Update

theorem replace_field (old : Value) :
    (Update.field object field old).replace object field value = .field object field value :=
  if_pos ⟨rfl, rfl⟩

theorem replace_of_ne (different : ¬ (update.object = object ∧ update.key = .field field)) :
    update.replace object field value = update :=
  if_neg different

@[simp] theorem object_replace : (update.replace object field value).object = update.object := by
  unfold replace
  split
  · rename_i both
    exact both.1.symm
  · rfl

@[simp] theorem key_replace : (update.replace object field value).key = update.key := by
  unfold replace
  split
  · rename_i both
    exact both.2.symm
  · rfl

/-- An update about a field of an object tells a value of it. -/
theorem eq_field_of_key_eq (about : update.object = object) (key : update.key = .field field) :
    ∃ value, update = .field object field value := by
  cases update with
  | classTag => cases key
  | field target other value =>
    cases about
    cases key
    exact ⟨value, rfl⟩

end Update

/-- Updates about different things stay in order when a value is replaced. -/
theorem Increasing.map_replace (increasing : Increasing updates)
    (distinct : ∀ first ∈ updates, ∀ second ∈ updates,
      first.object = second.object → first.key = second.key → first = second) :
    Increasing (updates.map (Update.replace object field value)) := by
  refine List.pairwise_map.mpr (increasing.imp_of_mem fun {first second} member also below => ?_)
  rw [Update.compare_congr Update.object_replace Update.key_replace Update.object_replace
    Update.key_replace fun about key => ?_]
  · exact below
  · obtain rfl := distinct first member second also about key
    rw [Std.compare_self] at below
    cases below

namespace Paid

variable {paid : Paid} {heap after : Heap} {roots : List ObjectRef} {candidate : List Update}
  {amount : Amount}

/-! ### What is collected -/

/-- The balance of the account. -/
def balanceOf (account object : ObjectRef) (field : FieldSignature) : Prop :=
  object = account ∧ field = .balance

/-- What is not about the balance of the caller is collected whatever the balance is. -/
theorem Collected.mem_of_alike (collected : paid.Collected roots heap candidate)
    (collectedToo : paid.Collected roots after updates)
    (alike : heap.Alike (balanceOf paid.caller) after) (sound : Sound paid.context heap)
    (soundToo : Sound paid.context after)
    (counted : heap.value paid.context.view paid.caller .nonce =
      after.value paid.context.view paid.caller .nonce)
    (elsewhere : ¬ (update.object = paid.caller ∧ update.key = .field .balance))
    (member : update ∈ candidate) : update ∈ updates := by
  rcases (collected.mem_iff update).mp member with told | ⟨field, rfl | rfl, rfl⟩
  · rcases alike.mem_updates sound soundToo told with also | ⟨object, field, amount, rfl, rfl, rfl⟩
    · exact (collectedToo.mem_iff _).mpr (Or.inl also)
    · exact absurd ⟨rfl, rfl⟩ elsewhere
  · exact absurd ⟨rfl, rfl⟩ elsewhere
  · exact counted ▸ collectedToo.named (Or.inr rfl)

section

variable (collected : paid.Collected roots heap candidate)
  (records : RecordedBy paid.context heap candidate) (sound : Sound paid.context heap)

include collected records sound

/-- **What is collected after the balance of the caller was set is what was collected before it, but
for that balance.** -/
theorem Collected.eq_map_replace (collectedToo : paid.Collected roots after updates)
    (recordsToo : RecordedBy paid.context after updates)
    (write : Write paid.context paid.caller .balance (.bigInteger amount) heap after) :
    updates = candidate.map (Update.replace paid.caller .balance (.bigInteger amount)) := by
  obtain ⟨balance, owned⟩ := collected.owned
  have soundToo := write.sound sound
  have alike : heap.Alike (balanceOf paid.caller) after := by
    refine write.alike ⟨rfl, rfl⟩ fun loaded present => ⟨balance, ?_⟩
    obtain ⟨object, there, fields⟩ := collected.account
    cases present.symm.trans there
    rw [get?_of_isSome paid.context.view present (fields .balance (Or.inl rfl)).2, owned]
  have given : after.value paid.context.view paid.caller .balance = .bigInteger amount := by
    rw [write.value_eq, if_pos ⟨rfl, rfl⟩]
  have counted : heap.value paid.context.view paid.caller .nonce =
      after.value paid.context.view paid.caller .nonce := by
    rw [write.value_eq, if_neg fun both => FieldSignature.nonce_ne_balance both.2]
  refine collectedToo.increasing.eq_of_mem_iff (collected.increasing.map_replace
    fun first member second also => records.eq_of_key_eq member also) fun update => ?_
  rw [List.mem_map]
  by_cases about : update.object = paid.caller ∧ update.key = .field .balance
  · -- the balance is said once on both sides, and the same
    constructor
    · intro member
      obtain ⟨value, rfl⟩ := Update.eq_field_of_key_eq about.1 about.2
      refine ⟨_, collected.named (Or.inl rfl), (Update.replace_field _).trans ?_⟩
      rw [recordsToo.told _ _ _ member, given]
    · rintro ⟨old, -, rfl⟩
      rw [Update.object_replace, Update.key_replace] at about
      obtain ⟨value, rfl⟩ := Update.eq_field_of_key_eq about.1 about.2
      rw [Update.replace_field, ← given]
      exact collectedToo.named (Or.inl rfl)
  · constructor
    · intro member
      exact ⟨update, collectedToo.mem_of_alike collected alike.symm soundToo sound counted.symm about
        member, Update.replace_of_ne about⟩
    · rintro ⟨old, member, rfl⟩
      rw [Update.object_replace, Update.key_replace] at about
      rw [Update.replace_of_ne about]
      exact collected.mem_of_alike collectedToo alike sound soundToo counted about member

/-- **So it takes the same room.** -/
theorem Collected.sameSize (collectedToo : paid.Collected roots after updates)
    (recordsToo : RecordedBy paid.context after updates)
    (write : Write paid.context paid.caller .balance (.bigInteger amount) heap after) :
    List.Forall₂ Codec.update.SameSize candidate updates := by
  rw [collected.eq_map_replace records sound collectedToo recordsToo write,
    List.forall₂_map_right_iff, List.forall₂_same]
  intro update member
  by_cases about : update.object = paid.caller ∧ update.key = .field .balance
  · obtain ⟨balance, owned⟩ := collected.owned
    obtain ⟨value, rfl⟩ := Update.eq_field_of_key_eq about.1 about.2
    rw [Update.replace_field, records.told _ _ _ member, owned]
    exact Codec.update_sameSize paid.caller .balance balance amount
  · rw [Update.replace_of_ne about]
    exact .refl _ _

end

/-! ### Responses -/

/-- Responses take the same room if their updates do, whatever gas they tell. -/
def Sized (respond : Effects → Response) : Prop :=
  ∀ (updates others : List Update) (events : List ObjectRef) (gas other : GasConsumed),
    List.Forall₂ Codec.update.SameSize updates others →
      Codec.response.SameSize (respond ⟨updates, events, gas⟩) (respond ⟨others, events, other⟩)

variable {action : Action} {result : Option Value} {cause : Cause} {respond : Effects → Response}
  {outcome : Outcome} {limit : UInt64} {config : NodeConfig} {view : LedgerView}
  {reference : TransactionRef} {header : Header} {classes : LinkedClasspath} {extra : UInt64}
  {isView : Bool} {cache last : ClasspathCache}

theorem sized_of_succeeds (succeeds : action.Succeeds result respond) : Sized respond := by
  intro updates others events gas other same
  have effects := Codec.effects_sameSize same events gas other
  cases succeeds with
  | installed => exact Codec.jar_sameSize same _ _ gas other
  | constructed => exact Codec.constructorCall_sameSize effects _
  | invoked | invokedStatic => exact Codec.methodCall_sameSize effects _

theorem sized_of_throws (throws : action.Throws cause respond) : Sized respond := by
  intro updates others events gas other same
  have effects := Codec.effects_sameSize same events gas other
  cases throws with
  | constructed => exact (Codec.exception_sameSize effects cause).1
  | invoked | invokedStatic => exact (Codec.exception_sameSize effects cause).2

/-- A transaction whose code ended fails, or completes with a response whose room is that of its
updates. -/
theorem Finished.sized (finished : paid.Finished outcome) :
    (∃ cause, outcome = { paid with heap := paid.left }.fail cause) ∨
      ∃ roots respond, (∀ effects, (respond effects).Carries effects) ∧ Sized respond ∧
        { paid with heap := paid.left }.complete roots respond = .ok outcome := by
  cases finished with
  | failed cause => exact Or.inl ⟨cause, rfl⟩
  | succeeded ran succeeds rooted completes =>
    exact Or.inr ⟨_, _, succeeds.carries, sized_of_succeeds succeeds,
      stateAfter_ok ran ▸ completes⟩
  | threw ran checked throws completes =>
    exact Or.inr ⟨_, _, throws.carries, sized_of_throws throws, stateAfter_error ran ▸ completes⟩

/-! ### Gas for storage -/

theorem sparesStorage_loadAccount (context : Context) (caller : ObjectRef) :
    SparesStorage (loadAccount context caller) :=
  (sparesStorage_composes.getAmount caller .balance).bind fun _ =>
    (sparesStorage_composes.getAmount caller .nonce).bind fun _ => sparesStorage_pure _

theorem sparesStorage_collectUpdates (paid : Paid) (roots : List ObjectRef) :
    SparesStorage (paid.collectUpdates roots) :=
  (sparesStorage_loadAccount _ _).bind fun _ => .look fun _ => sparesStorage_pure _

/-- **Until its code starts, a paid transaction or a view has paid for the storage of its request.** -/
theorem storage_of_start
    (started : start config view reference header action classes extra isView = .ok paid) :
    paid.heap.storage = config.gas.storageOfBytes (Request.paid header action).size := by
  obtain ⟨-, context, charger, price, balance, nonce, next, ready, bought, heap, -, -, charged,
    loaded, -, -, paying, -, counting, rfl⟩ := start_eq_ok_iff.mp started
  have spares : ∀ field value, SparesStorage (setField context header.caller field value) :=
    fun field value => sparesStorage_composes.setField header.caller field value
  have request : charger.consumed.storage =
      config.gas.storageOfBytes (Request.paid header action).size := by
    obtain ⟨first, cpu, charged⟩ := bind_eq_ok.mp charged
    obtain ⟨second, ram, storage⟩ := bind_eq_ok.mp charged
    have balanced := ((Charger.balanced_withLimit _).charge cpu).1
    have none : second.consumed.storage = 0 :=
      (Charger.storage_of_charge (by decide) ram).trans
        (Charger.storage_of_charge (by decide) cpu)
    have added := (balanced.charge ram).1.storage_charge storage
    rw [none, UInt64.toNat_zero, Nat.zero_add] at added
    exact UInt64.toNat_inj.mp added
  have took : bought.storage = config.gas.storageOfBytes (Request.paid header action).size := calc
    bought.storage = ready.storage := (spares _ _).ends paying
    _ = charger.consumed.storage := (sparesStorage_loadAccount _ _).ends loaded
    _ = _ := request
  rcases counting with ⟨-, rfl⟩ | ⟨-, counting⟩
  · exact took
  · exact ((spares _ _).ends counting).trans took

/-- What a transaction would respond before it pays for the storage of its response and gets the
unused gas back. -/
def candidate? (paid : Paid) (roots : List ObjectRef) (respond : Effects → Response) :
    Option Response :=
  match paid.collectUpdates roots paid.heap with
  | .ok updates heap => some (respond ⟨updates, heap.events, heap.charger.consumed⟩)
  | .error _ _ => none

/-- How a paid transaction ends over a heap, by what it pays for storage: it fails and pays nothing
more, or it completes and pays for the response that it gives, which takes as much room as the one
that it would give before. -/
inductive Billed (paid : Paid) : Outcome → Prop
  | failed (cause : Cause) {heap : Heap} (spared : heap.storage = paid.heap.storage) :
      Billed paid ({ paid with heap }.fail cause)
  | completed {roots : List ObjectRef} {respond : Effects → Response} {candidate : Response}
      {effects : Effects} (completes : paid.complete roots respond = .ok (.completed (respond effects)))
      (found : paid.candidate? roots respond = some candidate)
      (carries : (respond effects).Carries effects)
      (same : Codec.response.SameSize candidate (respond effects))
      (charged : effects.gas.storage.toNat = paid.heap.storage.toNat +
        (paid.context.costs.storageOfBytes (respond effects).size).toNat) :
      Billed paid (.completed (respond effects))

/-- **A transaction fails without a charge for storage, or completes and pays for the storage of the
response that it gives.** -/
theorem billed_of_complete (completes : paid.complete roots respond = .ok outcome)
    (sound : Sound paid.context paid.heap) (balanced : paid.heap.charger.Balanced limit)
    (carries : ∀ effects, (respond effects).Carries effects) (sized : Sized respond) :
    paid.Billed outcome := by
  obtain ⟨updates, first, collecting, ended⟩ := steps_of_complete completes
  obtain ⟨reading, collected, records⟩ := of_collectUpdates sound collecting
  have spared : first.storage = paid.heap.storage :=
    (sparesStorage_collectUpdates paid roots).ends collecting
  rcases ended with ⟨cause, rfl⟩ | ⟨-, -, charger, refunded, others, last, charged, refunding,
    collectingToo, rfl⟩
  · exact .failed cause spared
  have sound : Sound paid.context { first with charger } :=
    (Read.charge charged).sound (Reading.sound reading sound)
  have collected : paid.Collected roots { first with charger } updates :=
    ⟨collected.account, collected.owned, collected.increasing, collected.mem_iff⟩
  have records : RecordedBy paid.context { first with charger } updates :=
    ⟨records.told, records.used, records.changed, records.tags, records.made, records.had⟩
  obtain ⟨kept, -, write⟩ := write_of_refund collected.account refunding
  obtain rfl := eq_of_collectUpdates (collected.account.kept write.keeps) collectingToo
  obtain ⟨-, collectedToo, recordsToo⟩ := of_collectUpdates (write.sound sound) collectingToo
  have same := sized _ _ first.events first.charger.consumed last.charger.consumed
    (collected.sameSize records sound collectedToo recordsToo write)
  have added := (Reading.balanced reading balanced).storage_charge charged
  have size : (respond ⟨others, first.events, last.charger.consumed⟩).size =
      (respond ⟨updates, first.events, first.charger.consumed⟩).size :=
    congrArg saturate same.length_eq
  have consumed : last.storage = charger.consumed.storage :=
    congrArg (·.consumed.storage) write.charger_eq
  refine .completed completes ?_ (carries _) same ?_
  · rw [candidate?, collecting]
  · calc last.storage.toNat = charger.consumed.storage.toNat := congrArg UInt64.toNat consumed
      _ = first.storage.toNat + _ := added
      _ = _ := by rw [spared, size]

/-! ### Requests -/

/-- **A request that comes to an end, as a transaction or as a view, has paid for its own storage when
its code is done**, and for no other than that of its response after it. -/
theorem billed_of_built
    (built : Outcome.ofRequest config view reference (.paid header action) cache =
        .ok outcome last ∨
      Outcome.ofView config view reference (.paid header action) cache = .ok outcome last) :
    ∃ classes paid isView, Build.link config view (action.classpaths header) cache =
        .ok classes last ∧
      start config view reference header action classes (action.extra config.gas) isView =
        .ok paid ∧
      paid.left.storage = config.gas.storageOfBytes (Request.paid header action).size ∧
      paid.context.costs = config.gas ∧ { paid with heap := paid.left }.Billed outcome := by
  obtain ⟨classes, paid, isView, link, started, ended⟩ := finished_of_built built
  have ready := ready_of_start started
  obtain ⟨limit, afforded⟩ := ready.afforded
  have spared : paid.left.storage = paid.heap.storage :=
    (sparesStorage_executes.perform ..).storage_eq paid.heap
  refine ⟨classes, paid, isView, link, started, spared.trans (storage_of_start started),
    by rw [ready.context_eq], ?_⟩
  rcases ended with finished | ⟨cause, rfl⟩
  · rcases finished.sized with ⟨cause, rfl⟩ | ⟨roots, respond, carries, sized, completes⟩
    · exact .failed cause rfl
    · exact billed_of_complete completes ((moves_left paid).sound ready.sound)
        ((moves_left paid).balanced afforded.balanced) carries sized
  · exact .failed cause spared.symm

end Paid

end ObjectLedger
