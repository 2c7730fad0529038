/-
**No transaction fails from inside.**

* `InternalError.Excused`: something is too long to be written, or code does not end and pays
  nothing for that.
* `LedgerView.Serves`: a view over which a transaction can run under a reference.
* **`Paid.failsOnly_start`**: the start of a paid transaction, or of a view, fails with nothing
  else.
* `Heap.Solvent`: the caller is there and has amounts for its balance and its nonce;
  **`Heap.Solvent.moves`**: it stays so whatever its code does. **`Paid.failsOnly_complete`**: so the
  refund and the collection of updates cannot fail.
* **`Outcome.stopsOnly_ofRequest`**, `Outcome.stopsOnly_ofView`: every request, by kind.
-/
import ObjectLedger.Proofs.Codec.Length
import ObjectLedger.Proofs.Machine.Ending
import ObjectLedger.Proofs.Transaction.Grounding
import ObjectLedger.Proofs.Transaction.Rejection

namespace ObjectLedger

/-! ### What is excused -/

/-- A fault that neither the node nor its store is to blame for: something is too long to be written,
or there is no answer at all, because code does not end and pays nothing for that. -/
inductive InternalError.Excused (costs : CostModel) : InternalError → Prop
  | tooLong {what : String} {length : Nat} (long : Codec.maxLength < length) :
      Excused costs (.unencodable what (.sequenceTooLong length))
  | endless (free : costs.Endless) : Excused costs .unfinished

/-- A rejection, or a fault that is excused. -/
def Stop.Excused (costs : CostModel) : Stop → Prop
  | .rejected _ => True
  | .internal cause => cause.Excused costs

/-- A view of a store over which a transaction can run under a reference. -/
structure LedgerView.Serves (view : LedgerView) (reference : TransactionRef) : Prop where
  readable : view.Readable
  responses : ∀ other, ∃ found, view.response other = .ok found
  manifest : ∃ found, view.manifest = .ok found
  fresh : ∀ number, view.history ⟨reference, number⟩ = .ok []

open Run Heap

variable {context : Context} {costs : CostModel} {heap after : Heap} {object caller : ObjectRef}
  {field : FieldSignature} {value : Value} {writable : FieldSignature → Prop} {limit : UInt64}
  {config : NodeConfig} {view : LedgerView} {reference : TransactionRef}

/-! ### The caller -/

theorem Value.exists_bigInteger (fits : value.fits .bigInteger = true) :
    ∃ amount, value = .bigInteger amount := by
  cases value with
  | bigInteger amount => exact ⟨amount, rfl⟩
  | _ => cases fits

namespace Heap

/-- The field of the object holds an amount. -/
def HoldsAmount (view : LedgerView) (heap : Heap) (object : ObjectRef) (field : FieldSignature) :
    Prop :=
  ∃ amount, heap.value view object field = .bigInteger amount

/-- A write suits the type of its field. -/
theorem Write.holdsAmount {written : ObjectRef} {other : FieldSignature}
    (write : Write context written other value heap after) (typed : field.type = .bigInteger)
    (held : heap.HoldsAmount context.view object field) :
    after.HoldsAmount context.view object field := by
  unfold HoldsAmount
  rw [write.value_eq]
  split
  · rename_i both
    cases write with
    | intro _ _ fits =>
      rw [← both.2, typed] at fits
      exact Value.exists_bigInteger fits
  · exact held

/-- Whatever running code does, a field for amounts holds an amount. -/
theorem Move.holdsAmount (move : Move context writable heap after) (fresh : context.Fresh)
    (sound : Sound context heap) (typed : field.type = .bigInteger)
    (held : heap.HoldsAmount context.view object field) :
    after.HoldsAmount context.view object field := by
  cases move with
  | read read =>
    unfold HoldsAmount
    rw [read.value_eq]
    exact held
  | restrict | release | emit => exact held
  | allocate =>
    unfold HoldsAmount
    rw [sound.value_withNew fresh]
    exact held
  | write _ write => exact write.holdsAmount typed held
  | pay transfer =>
    cases transfer with
    | intro _ _ _ taken between _ _ _ given =>
      refine given.holdsAmount typed ?_
      unfold HoldsAmount
      rw [Reading.value_eq between]
      exact taken.holdsAmount typed held

/-- The caller of a transaction is there, with amounts for its balance and its nonce. -/
structure Solvent (context : Context) (heap : Heap) (caller : ObjectRef) : Prop where
  account : HasAccount context heap caller
  owned : heap.HoldsAmount context.view caller .balance
  counted : heap.HoldsAmount context.view caller .nonce

theorem Solvent.write {written : ObjectRef} {other : FieldSignature}
    (solvent : Solvent context heap caller) (write : Write context written other value heap after) :
    Solvent context after caller :=
  ⟨solvent.account.kept write.keeps, write.holdsAmount rfl solvent.owned,
    write.holdsAmount rfl solvent.counted⟩

/-- **The caller stays, with amounts for its balance and its nonce, whatever code does.** -/
theorem Solvent.moves (solvent : Solvent context heap caller)
    (moves : Moves context writable heap after) (fresh : context.Fresh)
    (sound : Sound context heap) : Solvent context after caller := by
  induction moves with
  | refl => exact solvent
  | tail before move ih =>
    have soundToo := Moves.sound before sound
    exact ⟨ih.account.kept (move.keeps fresh soundToo), move.holdsAmount fresh soundToo rfl ih.owned,
      move.holdsAmount fresh soundToo rfl ih.counted⟩

end Heap

namespace Paid

variable {α : Type} {header : Header} {action : Action} {classes : LinkedClasspath}
  {extra : UInt64} {isView : Bool} {paid : Paid} {roots : List ObjectRef}
  {respond : Effects → Response} {cache middle : ClasspathCache} {outcome : Outcome}

/-! ### Starting -/

theorem EndsOrRejects.failsOnly {part : Except Stop α} (ends : EndsOrRejects part) :
    FailsOnly (Stop.Excused costs) part := by
  rcases ends with ⟨value, rfl⟩ | ⟨reason, rfl⟩
  · exact failsOnly_ok value
  · exact failsOnly_error trivial

/-- What cannot be written is too long. -/
theorem failsOnly_checkEncodable {codec : Codec α} (measures : codec.Measures) (what : String)
    (value : α) : FailsOnly (Stop.Excused costs) (checkEncodable codec what value) := by
  unfold checkEncodable
  cases found : codec.oversize? value with
  | none => exact failsOnly_ok ()
  | some length => exact failsOnly_error (.tooLong (measures value length found))

theorem failsOnly_checkSignature (readable : view.Readable) (request : Request) :
    FailsOnly (Stop.Excused costs) (checkSignature config.signature view request header) := by
  rcases checkSignature_cases readable request with rejects | ⟨verdict, ends, same⟩
  · exact EndsOrRejects.failsOnly (Or.inr rejects)
  · rw [same]
    exact (failsOnly_checkEncodable Codec.request_measures _ _).bind fun _ _ => ends.failsOnly

theorem endsOrRejects_checkNonce (nonce : Amount) :
    EndsOrRejects (checkNonce isView header nonce) := by
  unfold checkNonce
  split
  · exact Or.inl ⟨(), rfl⟩
  · exact Or.inr ⟨_, rfl⟩

theorem endsOrRejects_nextNonce (nonce : Amount) : EndsOrRejects (nextNonce isView nonce) := by
  unfold nextNonce
  split
  · exact Or.inl ⟨_, rfl⟩
  · split
    · exact Or.inl ⟨_, rfl⟩
    · exact Or.inr ⟨_, rfl⟩

/-- An account that is there gets its fields set. -/
theorem expectNoFault_setField (account : HasAccount context heap caller)
    (named : field = .balance ∨ field = .nonce) (amount : Amount) :
    ∃ after, expectNoFault (setField context caller field (.bigInteger amount)) heap =
      .ok ((), after) ∧ Write context caller field (.bigInteger amount) heap after := by
  obtain ⟨after, ran, write⟩ := account.setField named amount
  exact ⟨after, expectNoFault_eq_ok.mpr ran, write⟩

/-- **A paid transaction, or a view, that does not start is rejected**, or too long to be written. -/
theorem failsOnly_start (readable : view.Readable) :
    FailsOnly (Stop.Excused costs)
      (start config view reference header action classes extra isView) := by
  unfold start
  simp only []
  refine endsOrRejects_checkChain.failsOnly.bind fun _ _ => ?_
  refine (endsOrRejects_checkCaller readable _).failsOnly.bind fun _ _ => ?_
  refine (failsOnly_checkSignature readable _).bind fun _ _ => ?_
  refine (failsOnly_checkEncodable Codec.request_measures _ _).bind fun _ _ => ?_
  split
  · exact failsOnly_error trivial
  refine (endsOrRejects_mapError _).failsOnly.bind fun charger _ => ?_
  refine (endsOrRejects_callerAccount readable _ _).failsOnly.bind fun loaded ran => ?_
  obtain ⟨⟨balance, nonce⟩, ready⟩ := loaded
  obtain ⟨-, account, -, -⟩ := (reads_loadAccount header.caller).ends (callerAccount_eq_ok.mp ran)
  refine (endsOrRejects_checkNonce nonce).failsOnly.bind fun _ _ => ?_
  simp only []
  split
  · exact failsOnly_error trivial
  obtain ⟨paying, took, taken⟩ := expectNoFault_setField account (.inl rfl)
    (balance - priceOf (gasLimitOf config isView header) header.gasPrice)
  unfold setBalance
  rw [took]
  refine (endsOrRejects_nextNonce nonce).failsOnly.bind fun next _ => ?_
  split
  · exact failsOnly_ok _
  · obtain ⟨counting, counted, -⟩ :=
      expectNoFault_setField (account.kept taken.keeps) (.inr rfl) next
    unfold setNonce
    simp only [counted]
    exact failsOnly_ok _

/-- A paid transaction, or a view, whose code can start. -/
structure Ready (config : NodeConfig) (view : LedgerView) (reference : TransactionRef)
    (action : Action) (classes : LinkedClasspath) (paid : Paid) : Prop where
  context_eq : paid.context = ⟨view, classes, config.gas, reference, config.maxCallDepth⟩
  action_eq : paid.action = action
  solvent : Solvent paid.context paid.heap paid.caller
  sound : Sound paid.context paid.heap
  afforded : ∃ limit, paid.heap.Afforded paid.context limit

theorem ready_of_start
    (started : start config view reference header action classes extra isView = .ok paid) :
    Ready config view reference action classes paid := by
  obtain ⟨-, context, charger, price, balance, nonce, next, ready, bought, heap, shape, -, charged,
    loaded, -, -, paying, -, counting, rfl⟩ := start_eq_ok_iff.mp started
  obtain ⟨reading, account, owned, counted⟩ := (reads_loadAccount header.caller).ends loaded
  have opened : Afforded context (gasLimitOf config isView header) { charger } :=
    ⟨balanced_of_chargeStart charged, fun _ => Nat.zero_le _⟩
  have afforded := (Reading.afforded reading opened).1
  have sound := Reading.sound reading (sound_start context charger)
  have solvent : Solvent context ready header.caller := ⟨account, ⟨_, owned⟩, ⟨_, counted⟩⟩
  obtain ⟨_, same, taken⟩ := account.setField (.inl rfl) _
  cases paying.symm.trans same
  rcases counting with ⟨-, rfl⟩ | ⟨-, counting⟩
  · exact ⟨shape, rfl, solvent.write taken, taken.sound sound, _, (taken.afforded afforded).1⟩
  · obtain ⟨_, same, raised⟩ := (account.kept taken.keeps).setField (.inr rfl) _
    cases counting.symm.trans same
    exact ⟨shape, rfl, (solvent.write taken).write raised, raised.sound (taken.sound sound), _,
      (raised.afforded (taken.afforded afforded).1).1⟩

/-! ### Ending -/

theorem exists_collectUpdates (solvent : Solvent paid.context heap paid.caller)
    (roots : List ObjectRef) :
    ∃ updates, expectNoFault (paid.collectUpdates roots) heap = .ok (updates, heap) := by
  obtain ⟨balance, owned⟩ := solvent.owned
  obtain ⟨nonce, counted⟩ := solvent.counted
  exact ⟨_, expectNoFault_eq_ok.mpr (bind_of_ok (loadAccount_eq solvent.account owned counted))⟩

theorem exists_refund (solvent : Solvent paid.context heap paid.caller) :
    ∃ after, expectNoFault paid.refund heap = .ok ((), after) ∧
      Solvent paid.context after paid.caller := by
  obtain ⟨balance, owned⟩ := solvent.owned
  obtain ⟨after, ran, write⟩ := solvent.account.setField (.inl rfl) (Amount.saturate
    (balance.toNat + heap.charger.unused.toNat * paid.gasPrice.toNat))
  refine ⟨after, expectNoFault_eq_ok.mpr ?_, solvent.write write⟩
  exact (bind_of_ok (solvent.account.getAmount_eq (.inl rfl) owned)).trans ran

/-- **A transaction with a solvent caller completes**, unless its response is too long. -/
theorem failsOnly_complete (solvent : Solvent paid.context paid.heap paid.caller) :
    FailsOnly (Stop.Excused costs) (paid.complete roots respond) := by
  obtain ⟨updates, collected⟩ := exists_collectUpdates solvent roots
  unfold complete
  rw [collected]
  refine (failsOnly_ok _).bind fun pair same => ?_
  cases same
  simp only []
  split
  · exact failsOnly_ok _
  · refine (failsOnly_checkEncodable Codec.response_measures _ _).bind fun _ _ => ?_
    split
    · exact failsOnly_ok _
    · rename_i charger charged
      have charging : Solvent paid.context { paid.heap with charger } paid.caller :=
        ⟨solvent.account, solvent.owned, solvent.counted⟩
      obtain ⟨last, refunded, still⟩ := exists_refund charging
      obtain ⟨others, collectedToo⟩ := exists_collectUpdates still roots
      show FailsOnly _ (expectNoFault paid.refund { paid.heap with charger } >>= _)
      rw [refunded]
      show FailsOnly _ (expectNoFault (paid.collectUpdates roots) last >>= _)
      rw [collectedToo]
      exact failsOnly_ok _

theorem failsOnly_settleFault {fault : Fault} {throwsExceptions : Bool}
    {exception : Cause → Effects → Response} (excused : fault.Excused costs)
    (solvent : Solvent paid.context paid.heap paid.caller) :
    FailsOnly (Stop.Excused costs) (paid.settleFault fault throwsExceptions roots exception) := by
  cases fault with
  | thrown throwable =>
    unfold settleFault
    simp only []
    split
    · exact failsOnly_complete solvent
    · exact failsOnly_ok _
  | internal cause => cases excused
  | unfinished => exact failsOnly_error (.endless excused)

theorem Ready.readable (ready : Ready config view reference action classes paid)
    (serves : view.Serves reference) : paid.context.view.Readable := by
  rw [ready.context_eq]
  exact serves.readable

/-- Code of a transaction that only moves the heap and proceeds leaves its caller solvent, at its end
or with a fault that is excused. -/
theorem Ready.runs {run : Run α} (ready : Ready config view reference action classes paid)
    (serves : view.Serves reference)
    (leads : Leads paid.context anything run paid.heap fun _ _ => True)
    (proceeds : ∀ limit, Proceeds paid.context limit run paid.heap fun _ _ => True) :
    Spec run paid.heap (fun _ heap => Solvent paid.context heap paid.caller)
      (fun fault heap => Solvent paid.context heap paid.caller ∧ fault.Excused config.gas) := by
  have fresh : paid.context.Fresh := by
    rw [ready.context_eq]
    exact serves.fresh
  obtain ⟨limit, afforded⟩ := ready.afforded
  have excused := (proceeds limit).spec afforded
  rw [ready.context_eq] at excused
  unfold Spec
  cases ran : run paid.heap with
  | ok value heap => exact ready.solvent.moves (leads.ends ran).1 fresh ready.sound
  | error fault heap =>
    exact ⟨ready.solvent.moves (leads.faults ran).1 fresh ready.sound, excused.faults ran⟩

/-- Taking the gas for a jar leaves the caller solvent, or throws. -/
theorem Ready.charges (ready : Ready config view reference action classes paid)
    (serves : view.Serves reference) (cpu ram : UInt64) :
    Spec (do charge .cpu cpu; charge .ram ram) paid.heap
      (fun _ heap => Solvent paid.context heap paid.caller)
      (fun fault _ => ∃ throwable, fault = .thrown throwable) := by
  have throws : StopsByThrowing (do charge .cpu cpu; charge .ram ram) paid.heap :=
    (stopsByThrowing_charge _ _).bind fun _ _ _ => stopsByThrowing_charge _ _
  have leads : Leads paid.context anything (do charge .cpu cpu; charge .ram ram) paid.heap
      fun _ _ => True :=
    (reads_charge ..).leads.bind fun _ _ _ => (reads_charge ..).leads.imp fun _ _ _ => trivial
  have runs := ready.runs serves leads fun _ =>
    (proceeds_charge ..).bind fun _ _ _ => (proceeds_charge ..).imp fun _ _ _ => trivial
  unfold Spec
  split
  · rename_i ran
    exact runs.ends ran
  · rename_i ran
    exact throws _ _ ran

end Paid

/-! ### Parts of requests -/

namespace Build

variable {α : Type} {cache : ClasspathCache}

theorem stopsOnly_reject (reason : String) :
    StopsOnly (Stop.Excused costs) (reject reason : Build α) cache :=
  stopsOnly_throw trivial cache

theorem stopsOnly_ofExcept {look : Except Stop α} (fails : FailsOnly (Stop.Excused costs) look) :
    StopsOnly (Stop.Excused costs) (ofExcept look) cache := by
  cases look with
  | ok value => exact stopsOnly_pure value cache
  | error stop => exact stopsOnly_throw (fails stop rfl) cache

theorem stopsOnly_ofStore {look : Except StoreError α} (found : ∃ value, look = .ok value) :
    StopsOnly (Stop.Excused costs) (ofStore look) cache := by
  obtain ⟨value, rfl⟩ := found
  exact stopsOnly_pure value cache

theorem stopsOnly_ofClasspath (look : Except ClasspathError α) :
    StopsOnly (Stop.Excused costs) (ofClasspath look) cache := by
  cases look with
  | ok value => exact stopsOnly_pure value cache
  | error cause => exact stopsOnly_reject _

theorem stopsOnly_link (serves : view.Serves reference) (source : ClasspathCache.From view cache)
    (classpaths : List Classpath) :
    StopsOnly (Stop.Excused costs) (link config view classpaths) cache := by
  intro stop after stopped
  rcases link_cases serves.responses source with ⟨_, _, ran, -⟩ | ⟨reason, ran⟩
  · cases stopped.symm.trans ran
  · cases stopped.symm.trans ran
    trivial

/-- An outcome that is not built for a reason that is excused. -/
theorem failsOnly_settle {build : Build Outcome}
    (stops : StopsOnly (Stop.Excused costs) build cache) :
    FailsOnly (InternalError.Excused costs) (build.settle cache).1 := by
  unfold settle
  split
  · exact failsOnly_ok _
  · exact failsOnly_ok _
  · rename_i ran
    exact failsOnly_error (stops _ _ ran)

end Build

/-! ### Requests -/

namespace Initial

open Build

variable {cache : ClasspathCache}

theorem stopsOnly_rejectIfSetUp (serves : view.Serves reference) :
    StopsOnly (Stop.Excused costs) (rejectIfSetUp view) cache := by
  unfold rejectIfSetUp
  refine (stopsOnly_ofStore serves.manifest).bind fun manifest _ _ => ?_
  cases manifest with
  | none => exact stopsOnly_pure () _
  | some manifest => exact stopsOnly_reject _

/-- The creation of the gamete numbers one object and looks at no gas. -/
theorem stopsByThrowing_allocateGamete (readable : context.view.Readable) (amount : Amount)
    (publicKey : String) (charger : Charger) :
    StopsByThrowing (allocateGamete context amount publicKey) { charger } := by
  unfold allocateGamete
  have room : ({ charger } : Heap).nextProgressive.toNat ≠ maxWord := by
    show (0 : UInt64).toNat ≠ maxWord
    decide
  refine (stopsByThrowing_allocate _ room).bind fun gamete _ _ => ?_
  refine (stopsByThrowing_setField readable _).bind fun _ _ _ => ?_
  refine (stopsByThrowing_setField readable _).bind fun _ _ _ => ?_
  exact (stopsByThrowing_setField readable _).bind fun _ _ _ => stopsByThrowing_pure _

variable (serves : view.Serves reference) (source : ClasspathCache.From view cache)

include serves source

theorem stopsOnly_installJar (jar : List UInt8) (dependencies : List Classpath) :
    StopsOnly (Stop.Excused costs) (installJar config view jar dependencies) cache := by
  unfold installJar
  refine (stopsOnly_rejectIfSetUp serves).bind fun _ middle free => ?_
  rw [eq_of_rejectIfSetUp free]
  refine (stopsOnly_link serves source _).bind fun classes _ _ => ?_
  refine (stopsOnly_ofClasspath _).bind fun _ _ _ => ?_
  exact ((stopsOnly_ofClasspath _).bind fun _ _ _ => stopsOnly_pure _ _).bind
    fun _ _ _ => stopsOnly_pure _ _

theorem stopsOnly_createGamete (classpath : Classpath) (amount : Amount) (publicKey : String) :
    StopsOnly (Stop.Excused costs)
      (createGamete config view reference classpath amount publicKey) cache := by
  unfold createGamete
  refine (stopsOnly_rejectIfSetUp serves).bind fun _ middle free => ?_
  rw [eq_of_rejectIfSetUp free]
  refine (stopsOnly_link serves source _).bind fun classes last _ => ?_
  simp only []
  split
  · exact (stopsOnly_reject _).bind fun _ _ ran => by cases ran
  · cases made : allocateGamete ⟨view, classes, config.gas, reference, config.maxCallDepth⟩ amount
        publicKey { charger := .unmetered } with
    | ok gamete heap => exact stopsOnly_pure _ _
    | error fault heap =>
      obtain ⟨throwable, rfl⟩ :=
        stopsByThrowing_allocateGamete serves.readable amount publicKey _ fault heap made
      exact stopsOnly_reject _

theorem stopsOnly_nameManifest (classpath : Classpath) (manifest : ObjectRef) :
    StopsOnly (Stop.Excused costs) (nameManifest config view classpath manifest) cache := by
  unfold nameManifest
  refine (stopsOnly_rejectIfSetUp serves).bind fun _ middle free => ?_
  rw [eq_of_rejectIfSetUp free]
  refine (stopsOnly_link serves source _).bind fun classes _ _ => ?_
  refine (stopsOnly_ofStore (serves.readable.exists_classTag manifest)).bind fun tag _ _ => ?_
  cases tag with
  | none => exact stopsOnly_reject _
  | some tag =>
    cases tag with
    | field => exact stopsOnly_reject _
    | classTag object className jar =>
      simp only []
      split
      · exact stopsOnly_pure _ _
      · exact stopsOnly_reject _

end Initial

namespace Paid

open Build

variable {cache : ClasspathCache} {header : Header} {action : Action}
  (serves : view.Serves reference) (source : ClasspathCache.From view cache)

include serves source

theorem stopsOnly_installJar (jar : List UInt8) (dependencies : List Classpath) :
    StopsOnly (Stop.Excused config.gas)
      (installJar config view reference header jar dependencies) cache := by
  unfold installJar
  refine (stopsOnly_link serves source _).bind fun classes _ _ => ?_
  refine (stopsOnly_ofClasspath _).bind fun _ _ _ => ?_
  refine (stopsOnly_ofExcept (failsOnly_start serves.readable)).bind fun paid _ starts => ?_
  have ready := ready_of_start (eq_ok_of_ofExcept starts).1
  have charges := ready.charges serves (config.gas.cpuOfInstalling (saturate jar.length))
    (config.gas.ramOfInstalling (saturate jar.length))
  simp only []
  cases charged : (do
      Run.charge .cpu (config.gas.cpuOfInstalling (saturate jar.length))
      Run.charge .ram (config.gas.ramOfInstalling (saturate jar.length)) : Run Unit) paid.heap with
  | error fault heap =>
    obtain ⟨throwable, rfl⟩ := charges.faults charged
    exact stopsOnly_pure _ _
  | ok _ heap =>
    have solvent := charges.ends charged
    simp only []
    cases classes.extended jar with
    | error cause => exact stopsOnly_pure _ _
    | ok others => exact stopsOnly_ofExcept (failsOnly_complete solvent)

theorem stopsOnly_construct (constructor : ConstructorSignature) (actuals : List Value) :
    StopsOnly (Stop.Excused config.gas)
      (construct config view reference header constructor actuals) cache := by
  unfold construct
  refine (stopsOnly_link serves source _).bind fun classes _ _ => ?_
  refine (stopsOnly_ofExcept (failsOnly_start serves.readable)).bind fun paid _ starts => ?_
  have ready := ready_of_start (eq_ok_of_ofExcept starts).1
  have readable := ready.readable serves
  have runs := ready.runs serves
    (Machine.leads_construct (Machine.writesOnly_anything _) paid.caller constructor actuals)
    fun _ => Machine.proceeds_construct readable paid.caller constructor actuals
  simp only []
  cases ran : Machine.construct paid.context paid.caller constructor actuals paid.heap with
  | ok object heap => exact stopsOnly_ofExcept (failsOnly_complete (runs.ends ran))
  | error fault heap =>
    obtain ⟨solvent, excused⟩ := runs.faults ran
    exact stopsOnly_ofExcept (failsOnly_settleFault excused solvent)

theorem stopsOnly_callMethod (method : MethodSignature) (roots : List ObjectRef) (isView : Bool)
    {run : Context → ObjectRef → Run (Option Value)}
    (leads : ∀ context caller heap,
      Leads context anything (run context caller) heap fun _ _ => True)
    (proceeds : ∀ (context : Context) limit caller heap, context.view.Readable →
      Proceeds context limit (run context caller) heap fun _ _ => True) :
    StopsOnly (Stop.Excused config.gas)
      (callMethod config view reference header action method roots isView run) cache := by
  unfold callMethod
  refine (stopsOnly_link serves source _).bind fun classes _ _ => ?_
  refine (stopsOnly_ofExcept (failsOnly_start serves.readable)).bind fun paid _ starts => ?_
  have ready := ready_of_start (eq_ok_of_ofExcept starts).1
  have readable := ready.readable serves
  have runs := ready.runs serves (leads paid.context paid.caller paid.heap)
    fun limit => proceeds paid.context limit paid.caller paid.heap readable
  simp only []
  split
  · exact stopsOnly_pure _ _
  · cases ran : run paid.context paid.caller paid.heap with
    | ok result heap => exact stopsOnly_ofExcept (failsOnly_complete (runs.ends ran))
    | error fault heap =>
      obtain ⟨solvent, excused⟩ := runs.faults ran
      exact stopsOnly_ofExcept (failsOnly_settleFault excused solvent)

theorem stopsOnly_invoke (method : MethodSignature) (receiver : ObjectRef) (actuals : List Value)
    (isView : Bool) :
    StopsOnly (Stop.Excused config.gas)
      (invoke config view reference header method receiver actuals isView) cache := by
  unfold invoke
  apply stopsOnly_callMethod serves source
  · intro context caller heap
    exact Machine.leads_invoke (Machine.writesOnly_anything _) caller method receiver actuals
  · intro context limit caller heap readable
    exact Machine.proceeds_invoke readable caller method receiver actuals

theorem stopsOnly_invokeStatic (method : MethodSignature) (actuals : List Value) (isView : Bool) :
    StopsOnly (Stop.Excused config.gas)
      (invokeStatic config view reference header method actuals isView) cache := by
  unfold invokeStatic
  apply stopsOnly_callMethod serves source
  · intro context caller heap
    exact Machine.leads_invokeStatic (Machine.writesOnly_anything _) caller method actuals
  · intro context limit caller heap readable
    exact Machine.proceeds_invokeStatic readable caller method actuals

end Paid

namespace Outcome

variable {cache after : ClasspathCache} {request : Request} {outcome : Outcome} {response : Response}

/-- **A request that no outcome can be built of is excused.** -/
theorem stopsOnly_ofRequest (serves : view.Serves reference)
    (source : ClasspathCache.From view cache) (request : Request) :
    StopsOnly (Stop.Excused config.gas) (ofRequest config view reference request) cache := by
  cases request with
  | installInitialJar jar dependencies => exact Initial.stopsOnly_installJar serves source _ _
  | createGamete classpath amount publicKey =>
    exact Initial.stopsOnly_createGamete serves source _ _ _
  | nameManifest classpath manifest => exact Initial.stopsOnly_nameManifest serves source _ _
  | paid header action =>
    cases action with
    | installJar jar dependencies => exact Paid.stopsOnly_installJar serves source _ _
    | construct constructor actuals => exact Paid.stopsOnly_construct serves source _ _
    | invoke method receiver actuals => exact Paid.stopsOnly_invoke serves source _ _ _ _
    | invokeStatic method actuals => exact Paid.stopsOnly_invokeStatic serves source _ _ _

/-- The same of a view. -/
theorem stopsOnly_ofView (serves : view.Serves reference)
    (source : ClasspathCache.From view cache) (request : Request) :
    StopsOnly (Stop.Excused config.gas) (ofView config view reference request) cache := by
  have refused : StopsOnly (Stop.Excused config.gas)
      (Build.reject ("a " ++ request.kind ++ " request cannot be run as a view") : Build Outcome)
      cache := Build.stopsOnly_reject _
  cases request with
  | paid header action =>
    cases action with
    | invoke method receiver actuals => exact Paid.stopsOnly_invoke serves source _ _ _ _
    | invokeStatic method actuals => exact Paid.stopsOnly_invokeStatic serves source _ _ _
    | _ => exact refused
  | _ => exact refused

end Outcome

end ObjectLedger
