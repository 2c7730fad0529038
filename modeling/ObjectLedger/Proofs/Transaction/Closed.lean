/-
**What a response says leads to objects that are known.**

* `Response.Closed`: the values that a response records suit the types of their fields, and all
  objects that it names are known.
* `Paid.closed_of_start`: a paid transaction starts over a closed heap.
* `Paid.closed_of_complete`: it completes with effects that are closed.
* **`Outcome.closed`**: over a closed store every response is closed; an object that it names is in
  the store, or the response tells its class.
-/
import ObjectLedger.Proofs.Machine.Closed
import ObjectLedger.Proofs.Transaction.Grounding

namespace ObjectLedger

open Run Heap

/-! ### Closed responses -/

/-- The object that a transaction made: the gamete, or that of a constructor. -/
def Response.newObject? : Response → Option ObjectRef
  | gameteCreation _ gamete => some gamete
  | constructorCall (.successful object _) => some object
  | _ => none

/-- Every value that the response records suits the type of its field, and the objects that values
point to, the events and the object that was made are known. -/
structure Response.Closed (known : ObjectRef → Prop) (response : Response) : Prop where
  fields : ∀ object field value, .field object field value ∈ response.updates →
    value.Suits known field.type
  events : ∀ event ∈ response.events, known event
  made : ∀ object, response.newObject? = some object → known object

theorem Response.Closed.imp {known later : ObjectRef → Prop} {response : Response}
    (closed : response.Closed known) (more : ∀ object, known object → later object) :
    response.Closed later where
  fields object field value member :=
    (closed.fields object field value member).imp fun target _ => more target
  events event member := more event (closed.events event member)
  made object same := more object (closed.made object same)

/-- A response that only records amounts names no object. -/
theorem Response.closed_of_amounts {known : ObjectRef → Prop} {response : Response}
    (amounts : ∀ update ∈ response.updates, ∃ object field amount,
      update = .field object field (.bigInteger amount) ∧ field.type = .bigInteger)
    (silent : response.events = []) (nothing : response.newObject? = none) :
    response.Closed known where
  fields object field value member := by
    obtain ⟨_, _, amount, same, typed⟩ := amounts _ member
    cases same
    rw [typed]
    exact Value.suits_bigInteger known amount
  events event member := by
    rw [silent] at member
    cases member
  made object same := by
    rw [nothing] at same
    cases same

variable {view : LedgerView} {reference : TransactionRef} {config : NodeConfig}
  {cache after : ClasspathCache} {outcome : Outcome} {response : Response}

/-! ### Paid transactions -/

/-- The response of an action tells the events of its effects. -/
theorem Action.Succeeds.events {action : Action} {result : Option Value}
    {respond : Effects → Response} (succeeds : action.Succeeds result respond) (effects : Effects) :
    ∀ event ∈ (respond effects).events, event ∈ effects.events := by
  intro event member
  cases succeeds with
  | installed => cases member
  | constructed | invoked | invokedStatic => exact member

theorem Action.Throws.events {action : Action} {cause : Cause} {respond : Effects → Response}
    (throws : action.Throws cause respond) (effects : Effects) :
    ∀ event ∈ (respond effects).events, event ∈ effects.events := by
  intro event member
  cases throws <;> exact member

/-- Only a constructor makes an object, which it gives back and which is there. -/
theorem Action.Succeeds.present {context : Context} {caller object : ObjectRef}
    {heap last : Heap} {action : Action} {result : Option Value} {respond : Effects → Response}
    {effects : Effects} (succeeds : action.Succeeds result respond)
    (ran : action.perform context caller heap = .ok result last) (fresh : context.Fresh)
    (sound : Sound context heap) (made : (respond effects).newObject? = some object) :
    result = some (.reference object) ∧ (last.objects.get? object).isSome := by
  cases succeeds with
  | constructed =>
    cases made
    obtain ⟨other, _, constructed, same⟩ := ok_of_bind ran
    cases same
    exact ⟨rfl, Machine.present_of_construct fresh sound constructed⟩
  | installed | invoked | invokedStatic => cases made

theorem Action.Throws.newObject? {action : Action} {cause : Cause} {respond : Effects → Response}
    (throws : action.Throws cause respond) (effects : Effects) :
    (respond effects).newObject? = none := by
  cases throws <;> rfl

namespace Paid

variable {header : Header} {action : Action} {classes : LinkedClasspath} {extra : UInt64}
  {isView : Bool} {paid : Paid} {heap last : Heap} {roots : List ObjectRef}
  {respond : Effects → Response} {updates : List Update} {balance : Amount}

/-- **A paid transaction starts over a closed heap.** -/
theorem closed_of_start
    (started : start config view reference header action classes extra isView = .ok paid)
    (store : view.Closed) : paid.heap.Closed view := by
  obtain ⟨-, context, charger, price, balance, nonce, next, ready, bought, heap, shape, -, -, loaded,
    -, -, paying, -, ends, rfl⟩ := start_eq_ok_iff.mp started
  subst shape
  have closed : ready.Closed view :=
    Reading.closed ((reads_loadAccount header.caller).ends loaded).1 (closed_start store charger)
  have closed : bought.Closed view := closed_of_setField paying closed
  rcases ends with ⟨-, rfl⟩ | ⟨-, counting⟩
  · exact closed
  · exact closed_of_setField counting closed

/-- What is collected is about what can be reached, and tells the class of each new object that can
be. -/
theorem covers_of_collectUpdates (sound : Sound paid.context heap)
    (ran : paid.collectUpdates roots heap = .ok updates last) :
    last.Covers (roots ++ [paid.caller]) updates := by
  obtain ⟨⟨balance, nonce⟩, middle, loaded, rest⟩ := ok_of_bind ran
  cases rest
  have sound := Reading.sound ((reads_loadAccount paid.caller).ends loaded).1 sound
  have reachable : last.Reachable (roots ++ [paid.caller]) paid.caller :=
    .root (List.mem_append_right _ List.mem_cons_self)
  have both := ((covers_updates sound (roots ++ [paid.caller])).and_field reachable .balance
    (.bigInteger balance)).and_field reachable .nonce (.bigInteger nonce)
  rw [List.append_assoc] at both
  exact both.normalize

/-- A failure names no object. -/
theorem Bought.closed_of_failed {known : ObjectRef → Prop} {cause : Cause}
    (bought : Bought config view reference header action classes balance paid)
    (given : ({ paid with heap }.fail cause).response? = some response) :
    response.Closed known := by
  cases given
  refine Response.closed_of_amounts (fun update member => ?_) ?_ ?_
  · rw [(paid.action.failed_spec _).1, bought.reserved_eq] at member
    rcases List.mem_pair.mp member with rfl | rfl
    · exact ⟨_, _, _, rfl, rfl⟩
    · exact ⟨_, _, _, rfl, rfl⟩
  all_goals cases paid.action <;> rfl

/-- **A transaction over a closed heap fails or completes with effects that are closed**: the objects
that values point to, the events and the roots that are known are in the store or told the class of. -/
theorem closed_of_complete (ended : paid.complete roots respond = .ok outcome)
    (store : paid.context.view.Closed) (closed : paid.heap.Closed paid.context.view)
    (account : HasAccount paid.context paid.heap paid.caller)
    (sound : Sound paid.context paid.heap) :
    (∃ cause, outcome = paid.fail cause) ∨
      ∃ effects, outcome = .completed (respond effects) ∧
        (∀ object field value, .field object field value ∈ effects.updates →
          value.Suits (paid.context.view.Tells effects.updates) field.type) ∧
        (∀ event ∈ effects.events, paid.context.view.Tells effects.updates event) ∧
        ∀ root ∈ roots, paid.heap.Knows paid.context.view root →
          paid.context.view.Tells effects.updates root := by
  obtain ⟨candidate, first, collected, ended⟩ := steps_of_complete ended
  obtain rfl := eq_of_collectUpdates account collected
  rcases ended with ⟨cause, rfl⟩ | ⟨-, -, charger, refunded, updates, last, charged, refunding,
    collecting, rfl⟩
  · exact Or.inl ⟨cause, rfl⟩
  have account : HasAccount paid.context { paid.heap with charger } paid.caller := account
  have sound : Sound paid.context { paid.heap with charger } := (Read.charge charged).sound sound
  have closed : Heap.Closed { paid.heap with charger } paid.context.view :=
    ⟨closed.fields, closed.events⟩
  obtain ⟨kept, -, write⟩ := write_of_refund account refunding
  have sound := write.sound sound
  have account := account.kept write.keeps
  obtain rfl := eq_of_collectUpdates account collecting
  obtain ⟨-, -, records⟩ := of_collectUpdates sound collecting
  have covers := covers_of_collectUpdates sound collecting
  have sameEvents : last.events = paid.heap.events := by
    cases write
    rfl
  have tells : ∀ object, last.Reachable (roots ++ [paid.caller]) object →
      paid.heap.Knows paid.context.view object → paid.context.view.Tells updates object :=
    fun object reachable known => covers.tells sound (Knows.kept known write.keeps) reachable
  refine Or.inr ⟨_, rfl, fun object field value member =>
    (write.closed closed).suits_of_told store sound records covers member,
    fun event member => tells event (.event (sameEvents ▸ member)) (closed.events event member),
    fun root member known => tells root (.root (List.mem_append_left _ member)) known⟩

/-- What a transaction that completes over the heap that its code left records is closed. -/
theorem Bought.closed_of_left
    (bought : Bought config view reference header action classes balance paid)
    (fresh : ∀ number, view.history ⟨reference, number⟩ = .ok []) (store : view.Closed)
    (begins : paid.heap.Closed view) (carries : ∀ effects, (respond effects).Carries effects)
    (events : ∀ effects, ∀ event ∈ (respond effects).events, event ∈ effects.events)
    (made : ∀ effects object, (respond effects).newObject? = some object →
      object ∈ roots ∧ (paid.left.objects.get? object).isSome)
    (completes : { paid with heap := paid.left }.complete roots respond = .ok outcome)
    (given : outcome.response? = some response) : response.Closed (view.Tells response.updates) := by
  have same : paid.context.view = view := by rw [bought.context_eq]
  have fresh : paid.context.Fresh := by
    intro number
    rw [bought.context_eq]
    exact fresh number
  have moves := moves_left paid
  have account : HasAccount paid.context paid.left paid.caller := by
    rw [bought.caller_eq]
    exact bought.account.kept (moves.keeps fresh bought.sound)
  have closed : paid.left.Closed paid.context.view :=
    moves.closed fresh bought.sound (same.symm ▸ begins)
  rcases closed_of_complete completes (same.symm ▸ store) closed account
      (moves.sound bought.sound) with
    ⟨cause, rfl⟩ | ⟨effects, rfl, fields, told, known⟩
  · exact bought.closed_of_failed given
  · cases given
    rw [← (carries effects).updates_eq, same] at fields told known
    refine ⟨fields, fun event member => told event (events effects event member),
      fun object makes => ?_⟩
    obtain ⟨root, present⟩ := made effects object makes
    exact known object root (Or.inr present)

/-- **The response to a paid request is closed.** -/
theorem closed_of_ofRequest (fresh : ∀ number, view.history ⟨reference, number⟩ = .ok [])
    (store : view.Closed)
    (built : Outcome.ofRequest config view reference (.paid header action) cache =
      .ok outcome after)
    (given : outcome.response? = some response) : response.Closed (view.Tells response.updates) := by
  obtain ⟨classes, paid, -, started, finished⟩ := finished_of_ofRequest built
  obtain ⟨balance, bought⟩ := bought_of_start started
  have begins := closed_of_start started store
  cases finished with
  | failed cause => exact bought.closed_of_failed given
  | succeeded ran succeeds rooted completes =>
    have same : paid.left = _ := stateAfter_ok ran
    rw [← same] at ran completes
    refine bought.closed_of_left fresh store begins succeeds.carries succeeds.events
      (fun effects object makes => ?_) completes given
    have fresh : paid.context.Fresh := by
      intro number
      rw [bought.context_eq]
      exact fresh number
    obtain ⟨result, present⟩ := succeeds.present ran fresh bought.sound makes
    exact ⟨rooted object result, present⟩
  | threw ran checked throws completes =>
    rw [← show paid.left = _ from stateAfter_error ran] at completes
    refine bought.closed_of_left fresh store begins throws.carries throws.events
      (fun effects object makes => ?_) completes given
    rw [throws.newObject? effects] at makes
    cases makes

end Paid

/-! ### Initial transactions -/

namespace Initial

variable {context : Context} {amount : Amount} {publicKey : String} {gamete : ObjectRef}
  {heap : Heap}

/-- The heap of the gamete is closed, and the gamete is there. -/
theorem closed_of_allocateGamete {charger : Charger} (fresh : context.Fresh)
    (store : context.view.Closed)
    (ran : allocateGamete context amount publicKey { charger } = .ok gamete heap) :
    heap.Closed context.view ∧ (heap.objects.get? gamete).isSome := by
  obtain ⟨made, first, allocated, ran⟩ := ok_of_bind ran
  obtain ⟨_, second, funding, ran⟩ := ok_of_bind ran
  obtain ⟨_, third, counting, ran⟩ := ok_of_bind ran
  obtain ⟨_, last, naming, same⟩ := ok_of_bind ran
  cases same
  have begins := sound_start context charger
  have allocates : Leads context anything (allocate context ClassName.gamete) { charger } _ :=
    Machine.leads_allocate ClassName.gamete
  obtain ⟨moves, -, there⟩ := allocates.ends allocated
  have sets : ∀ {heap later : Heap} {field : FieldSignature} {value : Value},
      setField context gamete field value heap = .ok () later → Sound context heap →
        heap.Closed context.view → (heap.objects.get? gamete).isSome →
          Sound context later ∧ later.Closed context.view ∧ (later.objects.get? gamete).isSome := by
    intro heap later field value ran sound closed there
    have leads : Leads context anything (setField context gamete field value) heap _ :=
      (writes_setField ..).leads trivial
    exact ⟨Machine.sound_of_leads leads ran sound, closed_of_setField ran closed,
      Machine.isSome_of_leads leads ran fresh sound there⟩
  obtain ⟨sound, closed, there⟩ := sets funding (Moves.sound moves begins)
    (Moves.closed moves fresh begins (closed_start store charger)) there
  obtain ⟨sound, closed, there⟩ := sets counting sound closed there
  exact (sets naming sound closed there).2

end Initial

/-! ### Every response -/

/-- **Over a closed store every response is closed**: an object that it names is in the store, or the
response tells its class. -/
theorem Outcome.closed {request : Request}
    (fresh : ∀ number, view.history ⟨reference, number⟩ = .ok []) (store : view.Closed)
    (built : ofRequest config view reference request cache = .ok outcome after)
    (given : outcome.response? = some response) : response.Closed (view.Tells response.updates) := by
  cases request with
  | installInitialJar jar dependencies =>
    rw [Initial.of_installJar built] at given
    cases given
    exact Response.closed_of_amounts (fun _ member => by cases member) rfl rfl
  | nameManifest classpath manifest =>
    rw [Initial.of_nameManifest built] at given
    cases given
    exact Response.closed_of_amounts (fun _ member => by cases member) rfl rfl
  | createGamete classpath amount publicKey =>
    obtain ⟨classes, _, gamete, heap, -, made, rfl⟩ := Initial.of_createGamete built
    cases given
    have fresh : Context.Fresh ⟨view, classes, config.gas, reference, config.maxCallDepth⟩ := fresh
    obtain ⟨sound, -⟩ := Initial.of_allocateGamete fresh made
    obtain ⟨closed, there⟩ := Initial.closed_of_allocateGamete fresh store made
    have covers := covers_updates sound [gamete]
    refine ⟨fun object field value member =>
      closed.suits_of_told store sound (recordedBy_updates sound [gamete]) covers member,
      fun event member => (by cases member), fun object same => ?_⟩
    cases same
    exact covers.tells sound (Or.inr there) (.root List.mem_cons_self)
  | paid header action => exact Paid.closed_of_ofRequest fresh store built given

end ObjectLedger
