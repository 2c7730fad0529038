/-
**The purchase of gas.**

* `Paid.Bought`: what a paid transaction is when its code starts. The caller has paid for all gas
  and used up its nonce, and nothing else changed.
* `Paid.start_eq_ok_iff`: the parts of a start. `Paid.begun_of_start`: what a transaction or a view
  keeps of its request. **`Paid.bought_of_start`**: a transaction that starts has bought its gas.
-/
import ObjectLedger.Proofs.Except
import ObjectLedger.Proofs.Transaction.Account

namespace ObjectLedger

namespace Paid

open Run Heap

variable {config : NodeConfig} {view : LedgerView} {reference : TransactionRef} {header : Header}
  {action : Action} {classes : LinkedClasspath} {extra : UInt64} {paid : Paid}

theorem toNat_priceOf (gasLimit gasPrice : UInt64) :
    (priceOf gasLimit gasPrice).toNat = gasLimit.toNat * gasPrice.toNat := by
  have bound : gasLimit.toNat * gasPrice.toNat < 2 ^ 64 * 2 ^ 64 :=
    Nat.mul_lt_mul'' gasLimit.toNat_lt gasPrice.toNat_lt
  exact Amount.toNat_ofNat (by unfold Amount.maximum; omega)

/-- What a paid transaction is when its code starts. -/
structure Bought (config : NodeConfig) (view : LedgerView) (reference : TransactionRef)
    (header : Header) (action : Action) (classes : LinkedClasspath) (balance : Amount)
    (paid : Paid) : Prop where
  context_eq : paid.context = ⟨view, classes, config.gas, reference, config.maxCallDepth⟩
  caller_eq : paid.caller = header.caller
  action_eq : paid.action = action
  gasPrice_eq : paid.gasPrice = header.gasPrice
  isView_eq : paid.isView = false
  exists_history : ∃ history, view.history header.caller = .ok history ∧ history ≠ []
  owned : view.value header.caller .balance = .bigInteger balance
  counted : view.value header.caller .nonce = .bigInteger header.nonce
  affordable : header.gasLimit.toNat * header.gasPrice.toNat ≤ balance.toNat
  room : header.nonce.toNat + 1 ≤ Amount.maximum
  reserved_eq : paid.reserved =
    [.field header.caller .balance (.bigInteger (balance - priceOf header.gasLimit header.gasPrice)),
      .field header.caller .nonce (.bigInteger (BitVec.ofNat 128 (header.nonce.toNat + 1)))]
  account : HasAccount paid.context paid.heap header.caller
  balanced : paid.heap.charger.Balanced header.gasLimit
  sound : Sound paid.context paid.heap
  value_eq : ∀ object field, paid.heap.value view object field =
    if object = header.caller ∧ field = .nonce then
      .bigInteger (BitVec.ofNat 128 (header.nonce.toNat + 1))
    else if object = header.caller ∧ field = .balance then
      .bigInteger (balance - priceOf header.gasLimit header.gasPrice)
    else view.value object field

/-- The first charges leave an account in balance. -/
theorem balanced_of_chargeStart {costs : CostModel} {request : Request} {gasLimit : UInt64}
    {charger : Charger} (charged : chargeStart costs request classes gasLimit = .ok charger) :
    charger.Balanced gasLimit := by
  obtain ⟨first, cpu, rest⟩ := bind_eq_ok.mp charged
  obtain ⟨second, ram, storage⟩ := bind_eq_ok.mp rest
  exact (((Charger.balanced_withLimit gasLimit).charge cpu).1.charge ram).1.charge storage |>.1

/-- A caller that is an account has a history. -/
theorem exists_history_of_checkCaller {caller : ObjectRef}
    (checked : checkCaller view classes caller = .ok ()) :
    ∃ history, view.history caller = .ok history ∧ history ≠ [] := by
  obtain ⟨tag, known, rest⟩ := bind_eq_ok.mp checked
  cases found : view.classTag? caller with
  | error cause =>
    rw [found] at known
    cases known
  | ok held =>
    rw [found] at known
    cases known
    obtain ⟨history, recorded, oldest⟩ := bind_eq_ok.mp found
    refine ⟨history, recorded, fun empty => ?_⟩
    rw [empty] at oldest
    cases oldest
    cases rest

theorem callerAccount_eq_ok {context : Context} {caller : ObjectRef} {heap after : Heap}
    {account : Amount × Amount} : callerAccount context caller heap = .ok (account, after) ↔
      loadAccount context caller heap = .ok account after := by
  unfold callerAccount
  constructor
  · intro loaded
    split at loaded
    · cases loaded
      assumption
    · cases loaded
    · cases loaded
  · intro loaded
    rw [loaded]

/-- A run without a fault is what was expected. -/
theorem expectNoFault_eq_ok {α : Type} {run : Run α} {heap after : Heap} {value : α} :
    expectNoFault run heap = .ok (value, after) ↔ run heap = .ok value after := by
  unfold expectNoFault
  constructor
  · intro ran
    split at ran
    · cases ran
      assumption
    · cases ran
  · intro ran
    rw [ran]

theorem checkNonce_eq_ok {isView : Bool} {nonce : Amount} :
    checkNonce isView header nonce = .ok () ↔ isView = true ∨ nonce = header.nonce := by
  unfold checkNonce
  split
  · rename_i passes
    exact iff_of_true rfl (by simpa using passes)
  · rename_i stops
    exact iff_of_false (fun same => by cases same) (by simpa using stops)

theorem nextNonce_eq_ok {nonce next : Amount} :
    nextNonce false nonce = .ok next ↔
      nonce.toNat + 1 ≤ Amount.maximum ∧ next = BitVec.ofNat 128 (nonce.toNat + 1) := by
  rw [← Amount.ofNat?_eq_some]
  unfold nextNonce
  rw [if_neg Bool.false_ne_true]
  cases Amount.ofNat? (nonce.toNat + 1) with
  | none => exact iff_of_false (fun same => by cases same) fun same => by cases same
  | some fits => exact ⟨fun same => (by cases same; rfl), fun same => (by cases same; rfl)⟩

/-- A transaction has the gas limit of its request. -/
theorem gasLimitOf_false : gasLimitOf config false header = header.gasLimit := rfl

/-- What a request is checked for before its gas is bought. -/
structure Admits (config : NodeConfig) (view : LedgerView) (header : Header) (action : Action)
    (classes : LinkedClasspath) (extra gasLimit : UInt64) : Prop where
  chain : checkChain config header = .ok ()
  caller : checkCaller view classes header.caller = .ok ()
  signature : checkSignature config.signature view (.paid header action) header = .ok ()
  encodable : checkEncodable Codec.request "request" (.paid header action) = .ok ()
  covered : ¬ gasLimit < minimalGas config.gas (.paid header action) action gasLimit classes extra

/-- The parts of a start that succeeds. -/
theorem start_eq_ok_iff {isView : Bool} :
    start config view reference header action classes extra isView = .ok paid ↔
      Admits config view header action classes extra (gasLimitOf config isView header) ∧
      ∃ context charger price balance nonce next ready bought heap,
        context = ⟨view, classes, config.gas, reference, config.maxCallDepth⟩ ∧
        price = priceOf (gasLimitOf config isView header) header.gasPrice ∧
        chargeStart config.gas (.paid header action) classes (gasLimitOf config isView header) =
          .ok charger ∧
        loadAccount context header.caller { charger } = .ok (balance, nonce) ready ∧
        checkNonce isView header nonce = .ok () ∧
        price.toNat ≤ balance.toNat ∧
        setBalance context header.caller (balance - price) ready = .ok () bought ∧
        nextNonce isView nonce = .ok next ∧
        (isView = true ∧ heap = bought ∨
          isView = false ∧ setNonce context header.caller next bought = .ok () heap) ∧
        paid = {
          context, heap, action, isView
          caller := header.caller
          gasPrice := header.gasPrice
          reserved := [.field header.caller .balance (.bigInteger (balance - price)),
            .field header.caller .nonce (.bigInteger next)] } := by
  constructor
  · intro started
    unfold start at started
    simp only [] at started
    obtain ⟨_, chain, started⟩ := bind_eq_ok.mp started
    obtain ⟨_, caller, started⟩ := bind_eq_ok.mp started
    obtain ⟨_, signature, started⟩ := bind_eq_ok.mp started
    obtain ⟨_, encodable, started⟩ := bind_eq_ok.mp started
    split at started
    · cases started
    rename_i covered
    obtain ⟨charger, charged, started⟩ := bind_eq_ok.mp started
    obtain ⟨⟨⟨balance, nonce⟩, ready⟩, loaded, started⟩ := bind_eq_ok.mp started
    obtain ⟨_, current, started⟩ := bind_eq_ok.mp started
    simp only [] at started
    split at started
    · cases started
    rename_i enough
    obtain ⟨⟨_, bought⟩, paying, started⟩ := bind_eq_ok.mp started
    obtain ⟨next, numbered, started⟩ := bind_eq_ok.mp started
    have charged := mapError_eq_ok.mp charged
    have paying := expectNoFault_eq_ok.mp paying
    have loaded := callerAccount_eq_ok.mp loaded
    have enough := Nat.not_lt.mp enough
    refine ⟨⟨chain, caller, signature, encodable, covered⟩, ?_⟩
    split at started
    · rename_i viewing
      cases started
      exact ⟨_, charger, _, balance, nonce, next, ready, bought, bought, rfl, rfl, charged, loaded,
        current, enough, paying, numbered, Or.inl ⟨viewing, rfl⟩, rfl⟩
    · rename_i viewing
      obtain ⟨⟨_, last⟩, counting, started⟩ := bind_eq_ok.mp started
      cases started
      exact ⟨_, charger, _, balance, nonce, next, ready, bought, last, rfl, rfl, charged, loaded,
        current, enough, paying, numbered,
        Or.inr ⟨Bool.eq_false_iff.mpr viewing, expectNoFault_eq_ok.mp counting⟩, rfl⟩
  · rintro ⟨admits, context, charger, price, balance, nonce, next, ready, bought, heap, rfl, rfl,
      charged, loaded, current, enough, paying, numbered, ends, rfl⟩
    have loaded := callerAccount_eq_ok.mpr loaded
    have enough := Nat.not_lt.mpr enough
    unfold start
    simp only [admits.chain, admits.caller, admits.signature, admits.encodable,
      if_neg admits.covered, charged, loaded, current, if_neg enough, expectNoFault_eq_ok.mpr paying,
      numbered, bind, Except.bind, Except.mapError]
    rcases ends with ⟨rfl, rfl⟩ | ⟨rfl, counting⟩
    · rfl
    · simp only [expectNoFault_eq_ok.mpr counting]
      rfl

/-- What a paid transaction, or a view, keeps of its request when its code starts, and the balance and
the nonce that it goes back to if it fails. -/
structure Begun (config : NodeConfig) (view : LedgerView) (reference : TransactionRef)
    (header : Header) (action : Action) (classes : LinkedClasspath) (isView : Bool)
    (paid : Paid) : Prop where
  context_eq : paid.context = ⟨view, classes, config.gas, reference, config.maxCallDepth⟩
  caller_eq : paid.caller = header.caller
  action_eq : paid.action = action
  isView_eq : paid.isView = isView
  exists_history : ∃ history, view.history header.caller = .ok history ∧ history ≠ []
  exists_reserved : ∃ balance nonce, paid.reserved =
    [.field header.caller .balance (.bigInteger balance),
      .field header.caller .nonce (.bigInteger nonce)]

theorem begun_of_start {isView : Bool}
    (started : start config view reference header action classes extra isView = .ok paid) :
    Begun config view reference header action classes isView paid := by
  obtain ⟨admits, _, _, _, _, _, _, _, _, _, shape, -, -, -, -, -, -, -, -, rfl⟩ :=
    start_eq_ok_iff.mp started
  exact ⟨shape, rfl, rfl, rfl, exists_history_of_checkCaller admits.caller, _, _, rfl⟩

/-- **A transaction that starts has bought its gas.** -/
theorem bought_of_start
    (started : start config view reference header action classes extra false = .ok paid) :
    ∃ balance, Bought config view reference header action classes balance paid := by
  obtain ⟨admits, context, charger, price, balance, nonce, next, ready, bought, heap, shape, priced,
    charged, loaded, current, enough, paying, numbered, ⟨impossible, -⟩ | ⟨-, counting⟩, rfl⟩ :=
    start_eq_ok_iff.mp started
  · cases impossible
  subst priced
  rw [gasLimitOf_false] at *
  obtain ⟨reading, account, owned, counted⟩ := (reads_loadAccount header.caller).ends loaded
  obtain ⟨afterBalance, same, taken⟩ := account.setField (.inl rfl) _
  cases paying.symm.trans same
  have account := account.kept taken.keeps
  obtain ⟨afterNonce, same, raised⟩ := account.setField (.inr rfl) _
  cases counting.symm.trans same
  have account := account.kept raised.keeps
  have untouched : ready.value context.view = view.value := by
    rw [Reading.value_eq reading, shape]
    rfl
  have current : nonce = header.nonce :=
    (checkNonce_eq_ok.mp current).resolve_left Bool.false_ne_true
  rw [current] at numbered
  obtain ⟨room, rfl⟩ := nextNonce_eq_ok.mp numbered
  refine ⟨balance, ?_⟩
  exact {
    context_eq := shape
    caller_eq := rfl
    action_eq := rfl
    gasPrice_eq := rfl
    isView_eq := rfl
    exists_history := exists_history_of_checkCaller admits.caller
    owned := by rw [← untouched]; exact owned
    counted := by rw [← untouched, ← current]; exact counted
    affordable := toNat_priceOf .. ▸ enough
    room
    reserved_eq := rfl
    account
    balanced := by
      rw [raised.charger_eq, taken.charger_eq]
      exact Reading.balanced reading (balanced_of_chargeStart charged)
    sound := raised.sound (taken.sound (Reading.sound reading (sound_start context charger)))
    value_eq := fun object field => by
      have same : view = context.view := by rw [shape]
      rw [same, raised.value_eq, taken.value_eq, untouched, ← same] }

end Paid

end ObjectLedger
