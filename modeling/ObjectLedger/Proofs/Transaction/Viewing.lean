/-
**A call agrees with the view of it.**

* `Action.activation?`: the activation that a method call starts with. `Paid.LooksAt`: the code of a
  paid call comes to a look at a field of an object.
* `Paid.Matches`: a view and a call by the same account, whose heaps differ at most in its nonce.
  **`Paid.matches_of_start`**: they start so. `Paid.Matches.perform`: code that does not look at the
  nonce keeps them so.
* `Paid.OnlyGas.collectUpdates_eq`: a view collects the balance and the nonce of its caller, and so
  does the call. **`Paid.Matches.complete`**: if the view is completed, so is the call.
* **`Outcome.agrees`**: a view that gives a result without a look at the nonce of its caller gives it
  as a call, too.
-/
import ObjectLedger.Proofs.Machine.Hidden
import ObjectLedger.Proofs.Transaction.Answers
import ObjectLedger.Proofs.Transaction.Faults

namespace ObjectLedger

open Run Heap

variable {context : Context} {hidden : ObjectRef → FieldSignature → Prop} {caller : ObjectRef}
  {action : Action}

/-! ### The code of a call -/

/-- The activation that a method call starts with, none for an action that is no such call. -/
def Action.activation? (context : Context) (caller : ObjectRef) : Action → Option (Run Frame)
  | invoke method receiver actuals => some do
    if !(← isInstance context receiver method.definingClass) then
      Run.fail (.illegalArgument (receiver.toText ++ " is not a " ++ method.definingClass))
    let className ← classOf context receiver
    let definition ← Run.ofThrowing (Machine.findInstanceMethod context className method)
    Machine.callMethod context 0 definition (some receiver) actuals (some caller) false
  | invokeStatic method actuals => some do
    let definition ← Run.ofThrowing (Machine.findStaticMethod context method)
    Machine.callMethod context 0 definition none actuals (some caller) false
  | installJar _ _ | construct _ _ => none

/-- A method call runs its activation to the end. -/
theorem Action.perform_eq_of_activation? {activation : Run Frame}
    (calls : action.activation? context caller = some activation) :
    action.perform context caller = activation >>= Machine.runFrame context := by
  cases action with
  | installJar | construct => cases calls
  | invoke method receiver actuals =>
    cases calls
    show Machine.invoke context caller method receiver actuals = _
    unfold Machine.invoke
    simp only [bind_assoc]
    congr 1
    funext answer
    split
    · rfl
    · simp only [bind_assoc]
  | invokeStatic method actuals =>
    cases calls
    show Machine.invokeStatic context caller method actuals = _
    unfold Machine.invokeStatic
    simp only [bind_assoc]

theorem Action.blind_activation? (balances : ∀ object, ¬ hidden object .balance)
    {activation : Run Frame} (calls : action.activation? context caller = some activation) :
    Blind hidden activation := by
  cases action with
  | installJar | construct => cases calls
  | invoke method receiver actuals =>
    cases calls
    refine (blind_isInstance _ _).bind fun answer => ?_
    split
    · exact Blind.fail_bind
    · exact (blind_classOf _).bind fun _ => (blind_ofThrowing _).bind fun _ =>
        Machine.blind_callMethod balances _ _ _ _ _ _
  | invokeStatic method actuals =>
    cases calls
    exact (blind_ofThrowing _).bind fun _ => Machine.blind_callMethod balances _ _ _ _ _ _

/-- The code of a paid call comes to a look at a field of an object. -/
def Paid.LooksAt (paid : Paid) (object : ObjectRef) (field : FieldSignature) : Prop :=
  ∃ activation frame heap running callers last,
    paid.action.activation? paid.context paid.caller = some activation ∧
    activation paid.heap = .ok frame heap ∧
    Machine.Reaches paid.context (.running frame []) heap (.running running callers) last ∧
    running.LooksAt object field

/-- The code of a paid call ends within a number of steps and does not come to a look at the
field. -/
def Paid.overlooks (paid : Paid) (object : ObjectRef) (field : FieldSignature) (fuel : Nat) : Bool :=
  (paid.action.activation? paid.context paid.caller).all fun activation =>
    match activation paid.heap with
    | .ok frame heap =>
      Machine.overlooks paid.context object field fuel (.running frame []) heap
    | .error _ _ => true

theorem Paid.not_looksAt_of_overlooks {paid : Paid} {object : ObjectRef} {field : FieldSignature}
    {fuel : Nat} (overlooked : paid.overlooks object field fuel = true) :
    ¬ paid.LooksAt object field := by
  rintro ⟨activation, frame, heap, running, callers, last, calls, opened, reaches, looks⟩
  unfold overlooks at overlooked
  simp only [calls, Option.all_some, opened] at overlooked
  exact Machine.not_looksAt_of_overlooks overlooked reaches looks

/-- The nonce of an account, and nothing else. -/
def nonceOf (account object : ObjectRef) (field : FieldSignature) : Prop :=
  object = account ∧ field = .nonce

theorem not_nonceOf_balance (account object : ObjectRef) : ¬ nonceOf account object .balance :=
  fun both => FieldSignature.nonce_ne_balance both.2.symm

namespace Paid

/-- **Code that does not look at the nonce of its caller gives the same result whatever the nonce
is.** -/
theorem mirrors_perform {paid : Paid} {activation : Run Frame} {other after : Heap}
    {result : Option Value}
    (calls : paid.action.activation? paid.context paid.caller = some activation)
    (unseen : ¬ paid.LooksAt caller .nonce) (alike : paid.heap.Alike (nonceOf caller) other)
    (ran : paid.action.perform paid.context paid.caller paid.heap = .ok result after) :
    ∃ last, paid.action.perform paid.context paid.caller other = .ok result last ∧
      after.Alike (nonceOf caller) last := by
  have performs := Action.perform_eq_of_activation? calls
  rw [performs] at ran ⊢
  obtain ⟨frame, middle, opened, runs⟩ := ok_of_bind ran
  obtain ⟨_, between, openedToo, rfl, alike⟩ :=
    Action.blind_activation? (not_nonceOf_balance caller) calls _ _ _ _ alike opened
  obtain ⟨last, runsToo, alike⟩ := Machine.mirrors_runFrame (not_nonceOf_balance caller) alike
    (fun running callers _ reaches object field hides looks => by
      obtain ⟨rfl, rfl⟩ := hides
      exact unseen ⟨activation, frame, middle, running, callers, _, calls, opened, reaches,
        looks⟩) runs
  exact ⟨last, (bind_of_ok openedToo).trans runsToo, alike⟩

/-! ### Starts -/

variable {config : NodeConfig} {view : LedgerView} {cache after : ClasspathCache}
  {reference : TransactionRef} {header : Header} {classes : LinkedClasspath} {paid viewed call : Paid}
  {roots : List ObjectRef} {updates : List Update} {respond : Effects → Response}

/-- The view of a call when its code starts, if it does. -/
def viewed? (config : NodeConfig) (view : LedgerView) (cache : ClasspathCache)
    (reference : TransactionRef) (header : Header) (action : Action) : Option Paid :=
  match Build.link config view [header.classpath] cache with
  | .ok classes _ => (start config view reference header action classes 0 true).toOption
  | .error _ _ => none

/-- A paid transaction over a sound heap, where its caller is with amounts for its balance and its
nonce. -/
structure Steady (paid : Paid) : Prop where
  solvent : Solvent paid.context paid.heap paid.caller
  sound : Sound paid.context paid.heap

theorem steady_of_start {isView : Bool}
    (started : start config view reference header action classes 0 isView = .ok paid) :
    paid.Steady :=
  ⟨(ready_of_start started).solvent, (ready_of_start started).sound⟩

/-- Code keeps a paid transaction steady. -/
theorem Steady.perform {heap : Heap} {result : Option Value} (steady : paid.Steady)
    (fresh : paid.context.Fresh)
    (ran : paid.action.perform paid.context paid.caller paid.heap = .ok result heap) :
    Steady { paid with heap } := by
  have leads : Leads paid.context anything (paid.action.perform paid.context paid.caller) paid.heap
      fun _ _ => True := paid.action.leads_perform (Machine.writesOnly_anything _) paid.caller
  have moves := (leads.ends ran).1
  exact ⟨steady.solvent.moves moves fresh steady.sound, moves.sound steady.sound⟩

/-- A view and a call by the same account, whose heaps differ at most in its nonce. -/
structure Matches (viewed call : Paid) : Prop where
  context_eq : call.context = viewed.context
  caller_eq : call.caller = viewed.caller
  action_eq : call.action = viewed.action
  viewing : viewed.isView = true
  calling : call.isView = false
  alike : viewed.heap.Alike (nonceOf viewed.caller) call.heap
  steady : viewed.Steady
  steadyToo : call.Steady

/-- A view has the gas limit of its request, if a view may have so much. -/
theorem gasLimitOf_eq (isView : Bool) (allowed : header.gasLimit ≤ config.maxGasPerView) :
    gasLimitOf config isView header = header.gasLimit := by
  unfold gasLimitOf
  split
  · exact if_pos allowed
  · rfl

/-- **A view and a call start alike**, but that the call checks the nonce and raises it. -/
theorem matches_of_start
    (started : start config view reference header action classes 0 true = .ok viewed)
    (allowed : header.gasLimit ≤ config.maxGasPerView)
    (current : view.value header.caller .nonce = .bigInteger header.nonce)
    (room : header.nonce.toNat < Amount.maximum) :
    ∃ call, start config view reference header action classes 0 false = .ok call ∧
      viewed.Matches call := by
  have steady := steady_of_start started
  obtain ⟨admits, context, charger, price, balance, nonce, _, funded, _, bought, shape, priced,
    charged, loaded, -, enough, paying, -, ⟨-, rfl⟩ | ⟨impossible, -⟩, rfl⟩ :=
    start_eq_ok_iff.mp started
  swap
  · cases impossible
  rw [gasLimitOf_eq _ allowed] at admits priced charged
  -- the nonce of the caller is that of the request
  obtain ⟨reading, -, -, counted⟩ := (reads_loadAccount header.caller).ends loaded
  have same : nonce = header.nonce := by
    have before : funded.value context.view header.caller .nonce =
        view.value header.caller .nonce := by
      rw [Reading.value_eq reading, shape]
      rfl
    exact Value.bigInteger.inj (counted.symm.trans (before.trans current))
  subst same
  have numbered : nextNonce false header.nonce =
      .ok (BitVec.ofNat 128 (header.nonce.toNat + 1)) :=
    nextNonce_eq_ok.mpr ⟨room, rfl⟩
  obtain ⟨raised, counting, write⟩ := steady.solvent.account.setField (.inr rfl)
    (BitVec.ofNat 128 (header.nonce.toNat + 1))
  have allows : Admits config view header action classes 0 (gasLimitOf config false header) := admits
  have calls := start_eq_ok_iff.mpr ⟨allows, context, charger, price, balance, header.nonce, _,
    funded, bought, raised, shape, priced, charged, loaded, if_pos (by simp), enough, paying,
    numbered, Or.inr ⟨rfl, counting⟩, rfl⟩
  refine ⟨_, calls, {
    context_eq := rfl
    caller_eq := rfl
    action_eq := rfl
    viewing := rfl
    calling := rfl
    alike := write.alike ⟨rfl, rfl⟩ fun loaded present => ?_
    steady
    steadyToo := steady_of_start calls }⟩
  obtain ⟨old, held⟩ := steady.solvent.counted
  obtain ⟨object, there, fields⟩ := steady.solvent.account
  cases present.symm.trans there
  refine ⟨old, ?_⟩
  rw [get?_of_isSome context.view there (fields .nonce (.inr rfl)).2]
  exact congrArg some held

/-- What code does keeps a view and a call alike, as long as it does not look at the nonce. -/
theorem Matches.perform {activation : Run Frame} {heap : Heap} {result : Option Value}
    (alike : viewed.Matches call) (fresh : viewed.context.Fresh)
    (calls : viewed.action.activation? viewed.context viewed.caller = some activation)
    (unseen : ¬ viewed.LooksAt viewed.caller .nonce)
    (ran : viewed.action.perform viewed.context viewed.caller viewed.heap = .ok result heap) :
    ∃ last, call.action.perform call.context call.caller call.heap = .ok result last ∧
      Matches { viewed with heap } { call with heap := last } := by
  obtain ⟨last, runs, alikeToo⟩ := mirrors_perform calls unseen alike.alike ran
  have runsToo : call.action.perform call.context call.caller call.heap = .ok result last := by
    rw [alike.action_eq, alike.context_eq, alike.caller_eq]
    exact runs
  have freshToo : call.context.Fresh := by
    rw [alike.context_eq]
    exact fresh
  exact ⟨last, runsToo, { alike with
    alike := alikeToo
    steady := alike.steady.perform fresh ran
    steadyToo := alike.steadyToo.perform freshToo runsToo }⟩

/-! ### Ends -/

/-- All updates of the heap are about the balance and the nonce of the caller. -/
def OnlyGas (paid : Paid) (roots : List ObjectRef) : Prop :=
  ∀ update ∈ paid.heap.updates (roots ++ [paid.caller]), paid.isGasUpdate update = true

theorem onlyGas_of_collectUpdates {heap : Heap} (steady : paid.Steady)
    (collected : paid.collectUpdates roots paid.heap = .ok updates heap)
    (gas : ∀ update ∈ updates, paid.isGasUpdate update = true) : paid.OnlyGas roots := by
  obtain ⟨⟨balance, nonce⟩, middle, loaded, rest⟩ := ok_of_bind collected
  obtain ⟨rfl, -⟩ := of_loadAccount steady.solvent.account loaded
  cases rest
  exact fun update member => gas update (mem_normalize.mpr (List.mem_append_left _ member))

/-- If all updates are about the balance and the nonce of the caller, just these two are
collected. -/
theorem OnlyGas.collectUpdates_eq {balance nonce : Amount} (only : paid.OnlyGas roots)
    (steady : paid.Steady)
    (owned : paid.heap.value paid.context.view paid.caller .balance = .bigInteger balance)
    (counted : paid.heap.value paid.context.view paid.caller .nonce = .bigInteger nonce) :
    paid.collectUpdates roots paid.heap = .ok [.field paid.caller .balance (.bigInteger balance),
      .field paid.caller .nonce (.bigInteger nonce)] paid.heap := by
  refine (bind_of_ok (loadAccount_eq steady.solvent.account owned counted)).trans ?_
  refine congrArg (EStateM.Result.ok · paid.heap) (normalize_eq_pair
    (Update.compare_field (by decide)) (fun update member => ?_) (by simp) (by simp))
  rcases List.mem_append.mp member with told | named
  · have gas := only update told
    cases update with
    | classTag => cases gas
    | field object field value =>
      have holds := (recordedBy_updates steady.sound _).told object field value told
      simp only [isGasUpdate, Bool.and_eq_true, decide_eq_true_eq, Bool.or_eq_true] at gas
      obtain ⟨rfl, rfl | rfl⟩ := gas
      · exact Or.inl (by rw [holds, owned])
      · exact Or.inr (by rw [holds, counted])
  · simpa using named

/-- A call completes, if what it collects first can be written and paid for. -/
theorem exists_completed (steady : paid.Steady) (transacts : paid.isView = false)
    (collected : paid.collectUpdates roots paid.heap = .ok updates paid.heap)
    (encodable : checkEncodable Codec.response "response"
      (respond ⟨updates, paid.heap.events, paid.heap.charger.consumed⟩) = .ok ())
    (charged : ∃ charger, paid.heap.charger.charge .storage (paid.context.costs.storageOfBytes
      (respond ⟨updates, paid.heap.events, paid.heap.charger.consumed⟩).size) = .ok charger) :
    ∃ effects, paid.complete roots respond = .ok (.completed (respond effects)) := by
  obtain ⟨charger, charged⟩ := charged
  have charging : Solvent paid.context { paid.heap with charger } paid.caller :=
    ⟨steady.solvent.account, steady.solvent.owned, steady.solvent.counted⟩
  obtain ⟨last, refunded, still⟩ := exists_refund charging
  obtain ⟨others, collectedToo⟩ := exists_collectUpdates still roots
  refine ⟨⟨others, paid.heap.events, last.charger.consumed⟩,
    bind_eq_ok.mpr ⟨_, expectNoFault_eq_ok.mpr collected, ?_⟩⟩
  simp only [transacts]
  refine bind_eq_ok.mpr ⟨(), encodable, ?_⟩
  simp only [charged]
  exact bind_eq_ok.mpr ⟨_, refunded, bind_eq_ok.mpr ⟨_, collectedToo, rfl⟩⟩

/-- If a view has updates of the balance and the nonce of its caller only, so has the call. -/
theorem Matches.onlyGas (alike : viewed.Matches call) (only : viewed.OnlyGas roots) :
    call.OnlyGas roots := by
  intro update member
  have soundToo : Sound viewed.context call.heap := alike.context_eq ▸ alike.steadyToo.sound
  rw [alike.caller_eq] at member
  rcases alike.alike.symm.mem_updates soundToo alike.steady.sound member with told |
    ⟨object, field, amount, rfl, rfl, rfl⟩
  · have gas := only update told
    unfold isGasUpdate at gas ⊢
    rw [alike.caller_eq]
    exact gas
  · simp [isGasUpdate, alike.caller_eq]

/-- **If a view is completed, so is the call.** -/
theorem Matches.complete {result : Option Value} {outcome : Outcome} (alike : viewed.Matches call)
    (ended : viewed.complete roots (fun effects => .methodCall (.successful result effects)) =
      .ok outcome)
    (succeeds : ∀ failure, outcome.response? ≠ some (viewed.action.failed failure)) :
    ∃ effects, call.complete roots (fun effects => .methodCall (.successful result effects)) =
      .ok (.completed (.methodCall (.successful result effects))) := by
  obtain ⟨candidate, first, collected, ended⟩ := steps_of_complete ended
  obtain ⟨balance, owned⟩ := alike.steady.solvent.owned
  obtain ⟨nonce, counted⟩ := alike.steady.solvent.counted
  obtain ⟨balanceToo, ownedToo⟩ := alike.steadyToo.solvent.owned
  obtain ⟨nonceToo, countedToo⟩ := alike.steadyToo.solvent.counted
  rcases ended with ⟨cause, rfl⟩ | ⟨gas, encodable, charger, _, _, _, charged, -⟩
  · exact absurd rfl (succeeds _)
  have only := onlyGas_of_collectUpdates alike.steady collected (gas alike.viewing)
  have collects := only.collectUpdates_eq alike.steady owned counted
  have collectsToo := (alike.onlyGas only).collectUpdates_eq alike.steadyToo ownedToo countedToo
  cases collected.symm.trans collects
  have updates : List.Forall₂ Codec.update.SameSize _ _ :=
    .cons (Codec.update_sameSize viewed.caller .balance balance balanceToo)
      (.cons (Codec.update_sameSize viewed.caller .nonce nonce nonceToo) .nil)
  have same : Codec.response.SameSize _ _ := Codec.methodCall_sameSize
    (Codec.effects_sameSize updates viewed.heap.events viewed.heap.charger.consumed
      viewed.heap.charger.consumed) result
  rw [alike.caller_eq] at collectsToo
  refine exists_completed alike.steadyToo alike.calling collectsToo ?_ ?_
  · unfold checkEncodable
    rw [alike.alike.events_eq, alike.alike.charger_eq, same.oversize_eq]
    exact encodable
  · refine ⟨charger, ?_⟩
    unfold Response.size Codec.size
    rw [alike.alike.events_eq, alike.alike.charger_eq, alike.context_eq, same.length_eq]
    exact charged

/-! ### Results -/

variable {method : MethodSignature} {run : Context → ObjectRef → Run (Option Value)}
  {outcome : Outcome} {value : Option Value} {effects : Effects}

theorem viewed?_of_start (link : Build.link config view [header.classpath] cache = .ok classes after)
    (started : start config view reference header action classes 0 true = .ok viewed) :
    viewed? config view cache reference header action = some viewed := by
  unfold viewed?
  rw [link]
  simp only [started]
  rfl

/-- A method that gives a result ran to its end and was completed. -/
theorem performed_of_callMethod {isView : Bool}
    (fails : ∀ failure, action.failed failure = .methodCall (.failed failure))
    (built : callMethod config view reference header action method roots isView run cache =
      .ok outcome after)
    (returned : outcome.response? = some (.methodCall (.successful value effects))) :
    ∃ classes paid heap, Build.link config view [header.classpath] cache = .ok classes after ∧
      start config view reference header action classes 0 isView = .ok paid ∧
      (∀ failure, outcome.response? ≠ some (paid.action.failed failure)) ∧
      run paid.context paid.caller paid.heap = .ok value heap ∧
      { paid with heap }.complete (roots ++ (value.bind Value.reference?).toList)
        (fun effects => .methodCall (.successful value effects)) = .ok outcome := by
  obtain ⟨classes, paid, link, started, ending⟩ := steps_of_callMethod built
  have succeeds : ∀ failure, outcome.response? ≠ some (paid.action.failed failure) := by
    intro failure failed
    rw [(ready_of_start started).action_eq, fails] at failed
    cases returned.symm.trans failed
  rcases ending with ⟨-, -, rfl⟩ | ⟨-, ⟨result, heap, ran, completes⟩ | ⟨fault, heap, -, settles⟩⟩
  · exact absurd rfl (succeeds _)
  · rcases response_of_complete completes with ⟨failure, failed⟩ | ⟨_, gave⟩
    · exact absurd failed (succeeds failure)
    · cases returned.symm.trans gave
      exact ⟨classes, paid, heap, link, started, succeeds, ran, completes⟩
  · rcases settleFault_cases settles with ⟨cause, rfl⟩ | ⟨-, cause, completes⟩
    · exact absurd rfl (succeeds _)
    · rcases response_of_complete completes with ⟨failure, failed⟩ | ⟨_, threw⟩
      · exact absurd failed (succeeds failure)
      · cases returned.symm.trans threw

/-- A method that runs to its end and is completed, as a call. -/
theorem callMethod_of_complete {heap : Heap}
    (link : Build.link config view [header.classpath] cache = .ok classes after)
    (started : start config view reference header action classes 0 false = .ok paid)
    (ran : run paid.context paid.caller paid.heap = .ok value heap)
    (completes : { paid with heap }.complete (roots ++ (value.bind Value.reference?).toList)
      (fun effects => .methodCall (.successful value effects)) = .ok outcome) :
    callMethod config view reference header action method roots false run cache =
      .ok outcome after := by
  have opens : Build.ofExcept (start config view reference header action classes 0 false) after =
      .ok paid after := by
    rw [started]
    rfl
  refine (bind_of_ok link).trans ((bind_of_ok opens).trans ?_)
  simp only [Bool.false_and, Bool.false_eq_true, if_false, ran, completes]
  rfl

/-- **A method that gives a result as a view gives it as a call**, if it does not look at the nonce of
its caller. -/
theorem callMethod_agrees
    (performs : ∀ context caller, action.perform context caller = run context caller)
    (activates : ∀ context caller, ∃ activation,
      action.activation? context caller = some activation)
    (fails : ∀ failure, action.failed failure = .methodCall (.failed failure))
    (fresh : ∀ number, view.history ⟨reference, number⟩ = .ok [])
    (built : callMethod config view reference header action method roots true run cache =
      .ok outcome after)
    (returned : outcome.response? = some (.methodCall (.successful value effects)))
    (allowed : header.gasLimit ≤ config.maxGasPerView)
    (current : view.value header.caller .nonce = .bigInteger header.nonce)
    (room : header.nonce.toNat < Amount.maximum)
    (unseen : ∀ viewed, viewed? config view cache reference header action = some viewed →
      ¬ viewed.LooksAt header.caller .nonce) :
    ∃ effects, callMethod config view reference header action method roots false run cache =
      .ok (.completed (.methodCall (.successful value effects))) after := by
  obtain ⟨classes, viewed, heap, link, started, succeeds, ran, completes⟩ :=
    performed_of_callMethod fails built returned
  obtain ⟨call, calls, alike⟩ := matches_of_start started allowed current room
  have ready := ready_of_start started
  have unseen := unseen viewed (viewed?_of_start link started)
  rw [← (begun_of_start started).caller_eq] at unseen
  rw [← performs, ← ready.action_eq] at ran
  rw [← ready.action_eq] at activates
  obtain ⟨activation, activated⟩ := activates viewed.context viewed.caller
  have fresh : viewed.context.Fresh := by
    rw [ready.context_eq]
    exact fresh
  obtain ⟨last, ranToo, alike⟩ := alike.perform fresh activated unseen ran
  obtain ⟨effects, completesToo⟩ := alike.complete completes succeeds
  rw [(ready_of_start calls).action_eq, performs] at ranToo
  exact ⟨effects, callMethod_of_complete link calls ranToo completesToo⟩

end Paid

/-- **A view that gives a result without a look at the nonce of its caller gives it as a call,
too.** -/
theorem Outcome.agrees {config : NodeConfig} {view : LedgerView} {cache after : ClasspathCache}
    {reference : TransactionRef} {header : Header} {outcome : Outcome} {value : Option Value}
    {effects : Effects} (fresh : ∀ number, view.history ⟨reference, number⟩ = .ok [])
    (built : ofView config view reference (.paid header action) cache = .ok outcome after)
    (returned : outcome.response? = some (.methodCall (.successful value effects)))
    (allowed : header.gasLimit ≤ config.maxGasPerView)
    (current : view.value header.caller .nonce = .bigInteger header.nonce)
    (room : header.nonce.toNat < Amount.maximum)
    (unseen : ∀ viewed, Paid.viewed? config view cache reference header action = some viewed →
      ¬ viewed.LooksAt header.caller .nonce) :
    ∃ effects, ofRequest config view reference (.paid header action) cache =
      .ok (.completed (.methodCall (.successful value effects))) after := by
  cases action with
  | installJar | construct => cases built
  | invoke method receiver actuals =>
    exact Paid.callMethod_agrees (fun _ _ => rfl) (fun _ _ => ⟨_, rfl⟩) (fun _ => rfl) fresh built
      returned allowed current room unseen
  | invokeStatic method actuals =>
    exact Paid.callMethod_agrees (fun _ _ => rfl) (fun _ _ => ⟨_, rfl⟩) (fun _ => rfl) fresh built
      returned allowed current room unseen

end ObjectLedger
