/-
**What a transaction records is known, or new and told the class of.**

* `Heap.RecordedBy.grounded`: so are updates that record a heap.
* `Initial.of_createGamete`: what the creation of the gamete makes;
  **`Initial.nonce_valueAfter`**: it changes no nonce.
* **`Outcome.told_cases`**: what the responses of all requests say; `Outcome.grounded`: they are so.
-/
import ObjectLedger.Proofs.Store.Live
import ObjectLedger.Proofs.Transaction.Accounting
import ObjectLedger.Proofs.Transaction.Caching

namespace ObjectLedger

open Run Heap

variable {contents : Contents} {view : LedgerView} {context : Context} {heap : Heap}
  {updates : List Update} {response : Response} {reference : TransactionRef}
  {config : NodeConfig} {cache after : ClasspathCache} {outcome : Outcome}

/-- The response that an outcome gives to record. -/
def Outcome.response? : Outcome → Option Response
  | completed response | failed response => some response
  | rejected _ => none

/-! ### Updates that record a heap -/

/-- **What records a heap is grounded.** -/
theorem Heap.RecordedBy.grounded (records : RecordedBy context heap response.updates)
    (sound : Sound context heap) (shown : context.view.Shows contents) :
    contents.Grounded context.transaction response := by
  intro object updated unknown
  obtain ⟨update, inside⟩ := List.exists_mem_of_ne_nil _ updated
  obtain ⟨member, about⟩ := List.mem_filter.mp inside
  have about : update.object = object := by simpa using about
  subst about
  obtain ⟨loaded, present⟩ := records.used update member
  have new : loaded.isNew = true := by
    by_contra stored
    obtain ⟨history, known, nonempty⟩ := sound.recorded _ loaded present (by simpa using stored)
    rw [shown.history_eq, unknown] at known
    exact nonempty (Except.ok.inj known).symm
  obtain ⟨tag, -⟩ := records.made update member loaded present new
  have inside : Update.classTag update.object loaded.className loaded.jar ∈
      response.updatesOf update.object := List.mem_filter.mpr ⟨tag, by simp [Update.object]⟩
  exact ⟨(sound.numbered _ loaded present new).1, List.find?_isSome.mpr ⟨_, inside, rfl⟩⟩

/-! ### The gamete -/

namespace Initial

variable {amount : Amount} {publicKey : String} {gamete : ObjectRef} {classpath : Classpath}

/-- What the creation of the gamete makes: a sound heap in which no nonce is other than it was. -/
theorem of_allocateGamete {charger : Charger} (fresh : context.Fresh)
    (ran : allocateGamete context amount publicKey { charger } = .ok gamete heap) :
    Sound context heap ∧ ∀ object,
      heap.value context.view object .nonce = context.view.value object .nonce := by
  obtain ⟨made, first, allocated, ran⟩ := ok_of_bind ran
  obtain ⟨_, second, funding, ran⟩ := ok_of_bind ran
  obtain ⟨_, third, counting, ran⟩ := ok_of_bind ran
  obtain ⟨_, fourth, naming, ran⟩ := ok_of_bind ran
  cases ran
  have start := sound_start context charger
  have leads : Leads context (fun _ => False) (Heap.allocate context ClassName.gamete) { charger }
      fun object _ => object.transaction = context.transaction :=
    (Machine.leads_allocate _).imp fun _ _ made => made.1
  obtain ⟨moves, creator⟩ := leads.ends allocated
  obtain ⟨ready, reading, funded⟩ := (writes_setField context gamete .balance _).ends funding
  obtain ⟨steady, readingOn, counted⟩ := (writes_setField context gamete .nonce _).ends counting
  obtain ⟨last, readingMore, named⟩ := (writes_setField context gamete .publicKey _).ends naming
  have sound := funded.sound (Reading.sound reading (Moves.sound moves start))
  refine ⟨named.sound (Reading.sound readingMore
    (counted.sound (Reading.sound readingOn sound))), fun object => ?_⟩
  have kept : second.value context.view object .nonce = context.view.value object .nonce := by
    rw [funded.value_eq, if_neg fun both => FieldSignature.nonce_ne_balance both.2,
      Reading.value_eq reading]
    exact Moves.value_eq moves fresh start id FieldSignature.nonce_ne_balance object
  rw [named.value_eq, if_neg (fun both => absurd both.2 (by decide)), Reading.value_eq readingMore,
    counted.value_eq, Reading.value_eq readingOn, kept]
  split
  · rename_i both
    have new : object = ⟨context.transaction, gamete.progressive⟩ := by rw [both.1, ← creator]
    rw [new, LedgerView.value_of_no_history (fresh _)]
    rfl
  · rfl

/-- A look at the manifest leaves the kept classpaths as they are. -/
theorem eq_of_rejectIfSetUp (free : rejectIfSetUp view cache = .ok () after) : after = cache := by
  obtain ⟨found, middle, looked, free⟩ := ok_of_bind free
  have same : middle = cache := by
    cases manifest : view.manifest <;> rw [manifest] at looked <;> cases looked
    rfl
  cases found with
  | none =>
    cases free
    exact same
  | some manifest => cases free

/-- The creation of a gamete that is completed. -/
theorem of_createGamete
    (built : createGamete config view reference classpath amount publicKey cache =
      .ok outcome after) :
    ∃ classes middle gamete heap, Build.link config view [classpath] cache = .ok classes middle ∧
      allocateGamete ⟨view, classes, config.gas, reference, config.maxCallDepth⟩ amount publicKey
        { charger := .unmetered } = .ok gamete heap ∧
      outcome = .completed (.gameteCreation (heap.updates [gamete]) gamete) := by
  obtain ⟨_, _, free, built⟩ := ok_of_bind built
  rw [eq_of_rejectIfSetUp free] at built
  obtain ⟨classes, middle, link, built⟩ := ok_of_bind built
  simp only [] at built
  split at built
  · obtain ⟨_, _, rejected, -⟩ := ok_of_bind built
    cases rejected
  · cases made : allocateGamete ⟨view, classes, config.gas, reference, config.maxCallDepth⟩ amount
        publicKey { charger := .unmetered } with
    | ok gamete heap =>
      rw [made] at built
      cases built
      exact ⟨classes, _, gamete, heap, link, made, rfl⟩
    | error fault heap =>
      rw [made] at built
      cases fault <;> cases built

/-- A jar that is installed for free updates no object. -/
theorem of_installJar {jar : List UInt8} {dependencies : List Classpath}
    (built : installJar config view jar dependencies cache = .ok outcome after) :
    outcome = .completed (.initialJar jar dependencies) := by
  obtain ⟨_, _, -, built⟩ := ok_of_bind built
  obtain ⟨_, _, -, built⟩ := ok_of_bind built
  obtain ⟨_, _, -, built⟩ := ok_of_bind built
  obtain ⟨_, _, -, built⟩ := ok_of_bind built
  cases built
  rfl

/-- Naming the manifest updates no object. -/
theorem of_nameManifest {manifest : ObjectRef}
    (built : nameManifest config view classpath manifest cache = .ok outcome after) :
    outcome = .completed .initialization := by
  obtain ⟨_, _, -, built⟩ := ok_of_bind built
  obtain ⟨classes, _, -, built⟩ := ok_of_bind built
  obtain ⟨tag, _, -, built⟩ := ok_of_bind built
  cases tag with
  | none => cases built
  | some tag =>
    cases tag with
    | field => cases built
    | classTag object className jar =>
      simp only [] at built
      split at built
      · cases built
        rfl
      · cases built

/-- **What an initial request leads to** updates nothing, or creates a gamete. -/
theorem recorded_cases {request : Request} (initial : request.isInitial = true)
    (built : Outcome.ofRequest config view reference request cache = .ok outcome after) :
    ∃ response, outcome = .completed response ∧ (response.updates = [] ∨
      ∃ (classpath : Classpath) (classes : LinkedClasspath) (middle : ClasspathCache)
        (amount : Amount) (publicKey : String) (gamete : ObjectRef) (heap : Heap),
        Build.link config view [classpath] cache = .ok classes middle ∧
        allocateGamete ⟨view, classes, config.gas, reference, config.maxCallDepth⟩ amount publicKey
          { charger := .unmetered } = .ok gamete heap ∧
        response.updates = heap.updates [gamete]) := by
  cases request with
  | installInitialJar jar dependencies => exact ⟨_, of_installJar built, Or.inl rfl⟩
  | createGamete classpath amount publicKey =>
    obtain ⟨classes, middle, gamete, heap, link, made, same⟩ := of_createGamete built
    exact ⟨_, same,
      Or.inr ⟨classpath, classes, middle, amount, publicKey, gamete, heap, link, made, rfl⟩⟩
  | nameManifest classpath manifest => exact ⟨_, of_nameManifest built, Or.inl rfl⟩
  | paid header action => cases initial

/-- **An initial request changes no nonce.** -/
theorem nonce_valueAfter {request : Request} (initial : request.isInitial = true)
    (fresh : ∀ number, view.history ⟨reference, number⟩ = .ok [])
    (built : Outcome.ofRequest config view reference request cache = .ok outcome after)
    (given : outcome.response? = some response) (account : ObjectRef) :
    view.valueAfter response account .nonce = view.value account .nonce := by
  obtain ⟨other, rfl, nothing | ⟨-, classes, -, amount, publicKey, gamete, heap, -, made,
    updates⟩⟩ := recorded_cases initial built
  all_goals
    cases given
    unfold LedgerView.valueAfter Response.updatesOf
  · rw [nothing]
    rfl
  · have fresh : Context.Fresh ⟨view, classes, config.gas, reference, config.maxCallDepth⟩ := fresh
    obtain ⟨sound, kept⟩ := of_allocateGamete fresh made
    rw [updates]
    refine ((recordedBy_updates sound [gamete]).getD_findSome? sound account .nonce).trans ?_
    rw [kept]
    exact ite_self _

end Initial

/-! ### Every response -/

/-- **What the response to a request says**: nothing, two fields of a known account, or what records
a heap of its transaction over classes that were linked for it. -/
theorem Outcome.told_cases {request : Request}
    (fresh : ∀ number, view.history ⟨reference, number⟩ = .ok [])
    (built : Outcome.ofRequest config view reference request cache = .ok outcome after)
    (given : outcome.response? = some response) :
    response.updates = [] ∨
      (∃ account balance nonce history, view.history account = .ok history ∧ history ≠ [] ∧
        response.updates = [.field account .balance balance, .field account .nonce nonce]) ∨
      ∃ context heap classpaths middle, context.view = view ∧ context.transaction = reference ∧
        Build.link config view classpaths cache = .ok context.classes middle ∧
        Sound context heap ∧ RecordedBy context heap response.updates := by
  cases kind : request.isInitial with
  | true =>
    obtain ⟨other, rfl, nothing | ⟨classpath, classes, middle, amount, publicKey, gamete, heap, link,
      made, updates⟩⟩ := Initial.recorded_cases kind built
    all_goals cases given
    · exact Or.inl nothing
    · have fresh : Context.Fresh ⟨view, classes, config.gas, reference, config.maxCallDepth⟩ :=
        fresh
      obtain ⟨sound, -⟩ := Initial.of_allocateGamete fresh made
      have records := recordedBy_updates sound [gamete]
      rw [← updates] at records
      exact Or.inr (Or.inr ⟨_, heap, [classpath], middle, rfl, rfl, link, sound, records⟩)
  | false =>
    cases request with
    | paid header action =>
      obtain ⟨classes, paid, balance, link, -, bought, ended⟩ := Paid.outcome_cases fresh built
      rcases ended with
        ⟨cause, charger, -, rfl⟩ | ⟨kept, last, effects, other, -, settled, carries, rfl⟩
      all_goals cases given
      · obtain ⟨history, known, nonempty⟩ := bought.exists_history
        exact Or.inr (Or.inl ⟨header.caller, _, _, history, known, nonempty,
          (action.failed_spec _).1.trans bought.reserved_eq⟩)
      · have records := settled.records
        have sound := settled.sound
        rw [← carries.updates_eq, bought.context_eq] at records
        rw [bought.context_eq] at sound
        exact Or.inr (Or.inr ⟨_, last, _, _, rfl, rfl, link, sound, records⟩)
    | _ => cases kind

/-- **What a transaction records is grounded.** -/
theorem Outcome.grounded {request : Request} (shown : view.Shows contents)
    (fresh : ∀ number, view.history ⟨reference, number⟩ = .ok [])
    (built : Outcome.ofRequest config view reference request cache = .ok outcome after)
    (given : outcome.response? = some response) : contents.Grounded reference response := by
  rcases told_cases fresh built given with nothing | ⟨account, balance, nonce, history, known,
    nonempty, updates⟩ | ⟨context, heap, classpaths, middle, rfl, rfl, -, sound, records⟩
  · exact Contents.grounded_of_updates_eq_nil nothing
  · intro object updated unknown
    obtain ⟨update, inside⟩ := List.exists_mem_of_ne_nil _ updated
    obtain ⟨member, about⟩ := List.mem_filter.mp inside
    rw [updates] at member
    have same : object = account := by
      rw [← of_decide_eq_true about]
      rcases List.mem_pair.mp member with rfl | rfl <;> rfl
    subst same
    rw [shown.history_eq, unknown] at known
    exact absurd (Except.ok.inj known).symm nonempty
  · exact records.grounded sound shown

end ObjectLedger
