/-
**The normal form of responses.**

* `Response.Normal`: updates in order, nothing said twice, a new object told whole, and of all other
  objects fields only.
* `Heap.RecordedBy.whole`: the new objects of a heap are told whole. **`Heap.RecordedBy.normal`**:
  updates in order that record a heap are in normal form. `Response.normal_of_fields`: so are the
  balance and the nonce of a known object.
* `Paid.closing_of_built`: a request that comes to an end, as a transaction or as a view, fails or is
  settled.
* **`Outcome.normal`**: the response to every request is in normal form, and tells the balance and
  the nonce of a caller that pays.
-/
import ObjectLedger.Proofs.Transaction.Faults

namespace ObjectLedger

open Run Heap

variable {view : LedgerView} {classes : LinkedClasspath} {reference : TransactionRef}
  {context : Context} {heap : Heap} {response : Response} {config : NodeConfig} {header : Header}
  {action : Action} {cache after : ClasspathCache} {outcome : Outcome} {request : Request}

/-- The updates of the transaction of a reference, in normal form: in order, and no key of an object
twice. Class tags are those of the objects that it creates, one for each that has updates, with one
update for every field of the class and no others; and all other updates are of fields of objects
that have a history. -/
structure Response.Normal (response : Response) (view : LedgerView) (classes : LinkedClasspath)
    (reference : TransactionRef) : Prop where
  increasing : Increasing response.updates
  distinct : response.updates.Pairwise fun first second =>
    first.object = second.object → first.key ≠ second.key
  own : ∀ object className jar, .classTag object className jar ∈ response.updates →
    object.transaction = reference
  whole : ∀ update ∈ response.updates, update.object.transaction = reference →
    ∃ className jar, classes.jarOf? className = some jar ∧
      (∀ tag, tag ∈ response.updates ∧ tag.object = update.object ∧ tag.isClassTag = true ↔
        tag = .classTag update.object className jar) ∧
      ∀ field, field ∈ classes.fieldsOf className ↔
        ∃! value, .field update.object field value ∈ response.updates
  older : ∀ update ∈ response.updates, update.object.transaction ≠ reference →
    update.isClassTag = false ∧
      ∃ history, view.history update.object = .ok history ∧ history ≠ []

namespace Heap

variable {object : ObjectRef} {loaded : HeapObject} {updates : List Update}

/-- An object under a new reference is new. -/
theorem Sound.isNew_of_created (sound : Sound context heap) (fresh : context.Fresh)
    (present : heap.objects.get? object = some loaded)
    (created : object.transaction = context.transaction) : loaded.isNew = true := by
  by_contra stored
  obtain ⟨history, known, nonempty⟩ := sound.recorded _ loaded present (by simpa using stored)
  have nothing := fresh object.progressive
  rw [← created] at nothing
  exact nonempty (Except.ok.inj (known.symm.trans nothing))

/-- A new object is told whole, if anything is told of it: its class once, and each of its fields
once. -/
theorem RecordedBy.whole {update : Update} (records : RecordedBy context heap updates)
    (sound : Sound context heap) (member : update ∈ updates)
    (present : heap.objects.get? update.object = some loaded) (new : loaded.isNew = true) :
    context.classes.jarOf? loaded.className = some loaded.jar ∧
      (∀ tag, tag ∈ updates ∧ tag.object = update.object ∧ tag.isClassTag = true ↔
        tag = .classTag update.object loaded.className loaded.jar) ∧
      ∀ field, field ∈ context.classes.fieldsOf loaded.className ↔
        ∃! value, .field update.object field value ∈ updates := by
  obtain ⟨told, all⟩ := records.made update member loaded present new
  obtain ⟨made, fields⟩ := (sound.typed _ loaded present).made (Option.isNone_iff_eq_none.mp new)
  refine ⟨made, fun tag => ⟨?_, ?_⟩, fun field => ?_⟩
  · rintro ⟨also, about, isTag⟩
    refine records.eq_of_key_eq also told about ?_
    cases tag with
    | classTag => rfl
    | field => cases isTag
  · rintro rfl
    exact ⟨told, rfl, rfl⟩
  · rw [← fields field]
    constructor
    · intro known
      obtain ⟨value, held⟩ := Option.isSome_iff_exists.mp known
      refine ⟨value, all field value held, fun other told => ?_⟩
      cases records.eq_of_key_eq told (all field value held) rfl rfl
      rfl
    · rintro ⟨value, told, -⟩
      exact records.had _ field value told loaded present new

/-- **Updates in order that record a heap are in normal form.** -/
theorem RecordedBy.normal (records : RecordedBy context heap response.updates)
    (sound : Sound context heap) (fresh : context.Fresh)
    (increasing : Increasing response.updates) :
    response.Normal context.view context.classes context.transaction where
  increasing := increasing
  distinct := increasing.nodup.imp_of_mem fun member also different object key =>
    different (records.eq_of_key_eq member also object key)
  own object className jar told := by
    obtain ⟨loaded, present, new, -, -⟩ := records.tags object className jar told
    exact (sound.numbered object loaded present new).1
  whole update member created := by
    obtain ⟨loaded, present⟩ := records.used update member
    exact ⟨loaded.className, loaded.jar, records.whole sound member present
      (sound.isNew_of_created fresh present created)⟩
  older update member elsewhere := by
    obtain ⟨loaded, present⟩ := records.used update member
    have stored : loaded.isNew = false := by
      by_contra new
      exact elsewhere (sound.numbered _ loaded present (by simpa using new)).1
    refine ⟨?_, sound.recorded _ loaded present stored⟩
    cases update with
    | field => rfl
    | classTag object className jar =>
      obtain ⟨seen, there, new, -⟩ := records.tags object className jar member
      cases present.symm.trans there
      rw [stored] at new
      cases new

end Heap

/-- The response tells the balance and the nonce of the account. -/
def Response.TellsAccount (response : Response) (account : ObjectRef) : Prop :=
  ∃ balance nonce : Amount, .field account .balance (.bigInteger balance) ∈ response.updates ∧
    .field account .nonce (.bigInteger nonce) ∈ response.updates

/-- A response that tells nothing is in normal form. -/
theorem Response.normal_of_nil (nothing : response.updates = []) :
    response.Normal view classes reference := by
  constructor <;> simp [nothing, Increasing]

/-- The balance and the nonce of an object with a history are in normal form. -/
theorem Response.normal_of_fields {object : ObjectRef} {balance nonce : Value}
    {history : List TransactionRef} (fresh : ∀ number, view.history ⟨reference, number⟩ = .ok [])
    (known : view.history object = .ok history) (nonempty : history ≠ [])
    (updates : response.updates = [.field object .balance balance, .field object .nonce nonce]) :
    response.Normal view classes reference := by
  have elsewhere : object.transaction ≠ reference := by
    rintro rfl
    exact nonempty (Except.ok.inj (known.symm.trans (fresh object.progressive)))
  have about : ∀ update ∈ response.updates, update.object = object ∧ update.isClassTag = false := by
    intro update member
    rw [updates] at member
    rcases List.mem_pair.mp member with rfl | rfl <;> exact ⟨rfl, rfl⟩
  constructor
  case increasing =>
    rw [updates]
    exact List.pairwise_pair.mpr (Update.compare_field (by decide))
  case distinct =>
    rw [updates]
    exact List.pairwise_pair.mpr fun _ same =>
      FieldSignature.nonce_ne_balance (UpdateKey.field.inj same).symm
  case own =>
    intro other className jar member
    cases (about _ member).2
  case whole =>
    intro update member created
    exact absurd ((about update member).1 ▸ created) elsewhere
  case older =>
    intro update member _
    obtain ⟨same, isField⟩ := about update member
    exact ⟨isField, history, same ▸ known, nonempty⟩

/-! ### Paid transactions and views -/

namespace Paid

variable {paid : Paid} {isView : Bool} {limit : UInt64} {kept : Amount} {last : Heap}
  {effects : Effects} {cause : Cause}

/-- **A request that comes to an end, as a transaction or as a view, fails or is settled over the heap
that its code left**, where its caller still has amounts for its balance and its nonce. -/
theorem closing_of_built (fresh : ∀ number, view.history ⟨reference, number⟩ = .ok [])
    (built : Outcome.ofRequest config view reference (.paid header action) cache =
        .ok outcome after ∨
      Outcome.ofView config view reference (.paid header action) cache = .ok outcome after) :
    ∃ classes paid isView, Build.link config view (action.classpaths header) cache =
        .ok classes after ∧
      Begun config view reference header action classes isView paid ∧
      ((∃ cause heap, outcome = { paid with heap }.fail cause) ∨
        ∃ limit kept last effects response, Solvent paid.context paid.left paid.caller ∧
          { paid with heap := paid.left }.Settled limit kept last effects ∧
          response.Carries effects ∧ outcome = .completed response) := by
  obtain ⟨classes, paid, isView, link, started, ended⟩ := finished_of_built built
  have begun := begun_of_start started
  have ready := ready_of_start started
  refine ⟨classes, paid, isView, link, begun, ?_⟩
  rcases ended with finished | ⟨cause, rfl⟩
  swap
  · exact Or.inl ⟨cause, paid.heap, rfl⟩
  cases finished.ended with
  | failed cause => exact Or.inl ⟨cause, paid.left, rfl⟩
  | completed ends carries completes =>
    have fresh : paid.context.Fresh := by
      intro number
      rw [begun.context_eq]
      exact fresh number
    have solvent := ready.solvent.moves (moves_left paid) fresh ready.sound
    obtain ⟨limit, afforded⟩ := ready.afforded
    rcases complete_cases completes solvent.account ((moves_left paid).sound ready.sound)
      ((moves_left paid).balanced afforded.1) with
      ⟨cause, heap, -, rfl⟩ | ⟨kept, last, effects, settled, rfl⟩
    · exact Or.inl ⟨cause, heap, rfl⟩
    · exact Or.inr ⟨limit, kept, last, effects, _, solvent, settled, carries effects, rfl⟩

/-- The response to a failure is in normal form. -/
theorem Begun.normal_of_failed
    (begun : Begun config view reference header action classes isView paid)
    (fresh : ∀ number, view.history ⟨reference, number⟩ = .ok [])
    (given : ({ paid with heap }.fail cause).response? = some response) :
    response.Normal view classes reference ∧ response.TellsAccount header.caller := by
  cases given
  obtain ⟨balance, nonce, reserved⟩ := begun.exists_reserved
  obtain ⟨history, known, nonempty⟩ := begun.exists_history
  have updates := (paid.action.failed_spec ⟨paid.reserved, heap.charger.consumed,
    heap.charger.penalty, cause⟩).1.trans reserved
  refine ⟨Response.normal_of_fields fresh known nonempty updates, balance, nonce, ?_, ?_⟩
  · exact updates ▸ List.mem_cons_self
  · exact updates ▸ List.mem_cons_of_mem _ List.mem_cons_self

/-- The response of a transaction that completes is in normal form. -/
theorem Settled.normal (settled : paid.Settled limit kept last effects)
    (solvent : Solvent paid.context paid.heap paid.caller) (fresh : paid.context.Fresh)
    (carries : response.Carries effects) :
    response.Normal paid.context.view paid.context.classes paid.context.transaction ∧
      response.TellsAccount paid.caller := by
  have records := settled.records
  obtain ⟨roots, collected⟩ := settled.collected
  rw [← carries.updates_eq] at records
  refine ⟨records.normal settled.sound fresh (carries.updates_eq ▸ collected.increasing), ?_⟩
  obtain ⟨nonce, counted⟩ := solvent.counted
  have held := settled.value_eq paid.caller .nonce
  rw [if_neg fun both => FieldSignature.nonce_ne_balance both.2, counted] at held
  have given := settled.value_eq paid.caller .balance
  rw [if_pos ⟨rfl, rfl⟩] at given
  rw [Response.TellsAccount, carries.updates_eq]
  exact ⟨_, nonce, given ▸ collected.named (Or.inl rfl),
    held ▸ collected.named (Or.inr rfl)⟩

/-- **The response to a paid request, or to a view, is in normal form.** -/
theorem normal_of_built (fresh : ∀ number, view.history ⟨reference, number⟩ = .ok [])
    (built : Outcome.ofRequest config view reference (.paid header action) cache =
        .ok outcome after ∨
      Outcome.ofView config view reference (.paid header action) cache = .ok outcome after)
    (given : outcome.response? = some response) :
    ∃ classes, Build.link config view (action.classpaths header) cache = .ok classes after ∧
      response.Normal view classes reference ∧ response.TellsAccount header.caller := by
  obtain ⟨classes, paid, isView, link, begun, ended⟩ := closing_of_built fresh built
  refine ⟨classes, link, ?_⟩
  rcases ended with
    ⟨cause, heap, rfl⟩ | ⟨limit, kept, last, effects, other, solvent, settled, carries, rfl⟩
  · exact begun.normal_of_failed fresh given
  · cases given
    have fresh : paid.context.Fresh := by
      intro number
      rw [begun.context_eq]
      exact fresh number
    have normal := settled.normal solvent fresh carries
    simpa only [begun.context_eq, begun.caller_eq] using normal

end Paid

/-! ### Every response -/

/-- The classpaths that a request needs. -/
def Request.classpaths : Request → List Classpath
  | installInitialJar _ dependencies => dependencies
  | createGamete classpath _ _ | nameManifest classpath _ => [classpath]
  | paid header action => action.classpaths header

/-- **The response to an initial request is in normal form.** -/
theorem Initial.normal_of_built (initial : request.isInitial = true)
    (fresh : ∀ number, view.history ⟨reference, number⟩ = .ok [])
    (built : Outcome.ofRequest config view reference request cache = .ok outcome after)
    (given : outcome.response? = some response) :
    ∃ classes middle, Build.link config view request.classpaths cache = .ok classes middle ∧
      response.Normal view classes reference := by
  cases request with
  | installInitialJar jar dependencies =>
    rw [of_installJar built] at given
    cases given
    obtain ⟨_, _, free, built⟩ := ok_of_bind built
    obtain ⟨classes, middle, link, -⟩ := ok_of_bind built
    exact ⟨classes, middle, eq_of_rejectIfSetUp free ▸ link, Response.normal_of_nil rfl⟩
  | createGamete classpath amount publicKey =>
    obtain ⟨classes, middle, gamete, heap, link, made, rfl⟩ := of_createGamete built
    cases given
    have fresh : Context.Fresh ⟨view, classes, config.gas, reference, config.maxCallDepth⟩ := fresh
    obtain ⟨sound, -⟩ := of_allocateGamete fresh made
    exact ⟨classes, middle, link, (recordedBy_updates sound [gamete]).normal sound fresh
      (increasing_normalize _)⟩
  | nameManifest classpath manifest =>
    rw [of_nameManifest built] at given
    cases given
    obtain ⟨_, _, free, built⟩ := ok_of_bind built
    obtain ⟨classes, middle, link, -⟩ := ok_of_bind built
    exact ⟨classes, middle, eq_of_rejectIfSetUp free ▸ link, Response.normal_of_nil rfl⟩
  | paid header action => cases initial

/-- **The response to a request, as a transaction or as a view, is in normal form** for the classes
that were linked for it, and tells the balance and the nonce of a caller that pays. -/
theorem Outcome.normal (fresh : ∀ number, view.history ⟨reference, number⟩ = .ok [])
    (built : ofRequest config view reference request cache = .ok outcome after ∨
      ofView config view reference request cache = .ok outcome after)
    (given : outcome.response? = some response) :
    ∃ classes middle, Build.link config view request.classpaths cache = .ok classes middle ∧
      response.Normal view classes reference ∧
      ∀ header action, request = .paid header action → response.TellsAccount header.caller := by
  cases kind : request.isInitial with
  | true =>
    rcases built with built | built
    · obtain ⟨classes, middle, link, normal⟩ := Initial.normal_of_built kind fresh built given
      refine ⟨classes, middle, link, normal, ?_⟩
      rintro header action rfl
      cases kind
    · cases request with
      | paid => cases kind
      | _ => cases built
  | false =>
    cases request with
    | paid header action =>
      obtain ⟨classes, link, normal, tells⟩ := Paid.normal_of_built fresh built given
      refine ⟨classes, after, link, normal, ?_⟩
      rintro _ _ same
      cases same
      exact tells
    | _ => cases kind

end ObjectLedger
