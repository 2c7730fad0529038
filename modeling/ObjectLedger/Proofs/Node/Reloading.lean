/-
**What a transaction saves is what the next one loads.**

* `Heap.Operation`: making objects, reading and writing fields, and events. `Heap.performed`: a heap
  after any operations, also such that fault; `Heap.sound_performed`: it is sound.
* `Heap.SavedBy`: updates say what changed and what is new, and nothing else.
* `Heap.SeesAlike`: another heap sees the same class and the same fields of an object.
* **`Heap.RecordedBy.seesAlike`**: so does a fresh heap over the store in which the updates were
  recorded.
* **`Node.Submitted.saved_and_reloaded`**: both hold over every store that submissions lead to.
-/
import ObjectLedger.Proofs.Machine.Saving
import ObjectLedger.Proofs.Node.Memory
import ObjectLedger.Proofs.Store.Acceptance

namespace ObjectLedger

/-- A part that makes only moves keeps a heap sound, also if it ends with a fault. -/
theorem Run.Leads.sound {α : Type} {writable : FieldSignature → Prop}
    {context : Context} {heap : Heap}
    {part : Run α} {post : α → Heap → Prop} (leads : Run.Leads context writable part heap post)
    (sound : heap.Sound context) : Heap.Sound context (stateAfter part heap) := by
  cases ran : part heap with
  | ok value after =>
    rw [stateAfter_ok ran]
    exact Heap.Moves.sound (Run.Spec.ends leads ran).1 sound
  | error fault after =>
    rw [stateAfter_error ran]
    exact Heap.Moves.sound (Run.Spec.faults leads ran).1 sound

namespace Heap

open Run

variable {context later : Context} {heap : Heap} {roots : List ObjectRef} {object : ObjectRef}
  {contents after : Contents} {response : Response}

/-! ### Operations -/

/-- What running code can do to a heap, apart from payments. -/
inductive Operation where
  | allocate (className : String)
  | getField (object : ObjectRef) (field : FieldSignature)
  | setField (object : ObjectRef) (field : FieldSignature) (value : Value)
  | emit (event : ObjectRef)
  deriving DecidableEq, Repr

/-- The operation as a part of a running transaction. -/
def Operation.perform (context : Context) : Operation → Run Unit
  | allocate className => discard (Heap.allocate context className)
  | getField object field => discard (Heap.getField context object field)
  | setField object field value => Heap.setField context object field value
  | emit event => Heap.emit event

/-- The heap after operations, one after the other, also such that end with a fault. -/
def performed (context : Context) (heap : Heap) (operations : List Operation) : Heap :=
  operations.foldl (fun heap operation => stateAfter (operation.perform context) heap) heap

/-- **An operation keeps a heap sound**, also one that ends with a fault. -/
theorem Operation.sound_perform (operation : Operation) (sound : Sound context heap) :
    Sound context (stateAfter (operation.perform context) heap) := by
  cases operation with
  | allocate className =>
    have leads : Leads context anything (Heap.allocate context className) heap _ :=
      Machine.leads_allocate className
    exact leads.discard.sound sound
  | getField object field =>
    have leads : Leads context anything (Heap.getField context object field) heap _ :=
      (reads_getField context object field).leads
    exact leads.discard.sound sound
  | setField object field value =>
    have leads : Leads context anything (Heap.setField context object field value) heap _ :=
      (writes_setField context object field value).leads trivial
    exact leads.sound sound
  | emit event =>
    exact ⟨sound.objects, sound.fields, sound.recorded, sound.found, sound.numbered, sound.typed⟩

/-- **A heap is sound after any operations.** -/
theorem sound_performed (sound : Sound context heap) (operations : List Operation) :
    Sound context (heap.performed context operations) := by
  induction operations generalizing heap with
  | nil => exact sound
  | cons operation rest ih => exact ih (operation.sound_perform sound)

/-! ### Saving -/

/-- Updates that say which fields of stored objects changed, and all of the new objects that can be
reached, and nothing else. -/
structure SavedBy (context : Context) (heap : Heap) (roots : List ObjectRef)
    (updates : List Update) : Prop where
  changed : ∀ object history, context.view.history object = .ok history → history ≠ [] →
    ∀ field value, heap.fieldSeen context object field = some value →
      ((∃ told, .field object field told ∈ updates) ↔ value ≠ context.view.value object field)
  made : ∀ object loaded, heap.objects.get? object = some loaded → loaded.isNew = true →
    (RecordsAll context updates object loaded ↔ heap.Reachable roots object)
  unmade : ∀ object loaded, heap.objects.get? object = some loaded → loaded.isNew = true →
    ¬ heap.Reachable roots object → ∀ update ∈ updates, update.object ≠ object

/-- **The updates of a sound heap say what changed and what is new.** -/
theorem savedBy_updates (sound : Sound context heap) (fresh : context.Fresh)
    (readable : context.view.Readable) (roots : List ObjectRef) :
    SavedBy context heap roots (heap.updates roots) where
  changed _ _ known nonempty _ _ seen :=
    exists_mem_updates_iff sound readable
      (fun _ present => sound.isNew_eq_false fresh known nonempty present) seen
  made _ _ present new :=
    ⟨fun records => reachable_of_mem_updates sound records.1,
      recordsAll_of_reachable sound present new⟩
  unmade _ _ _ _ beyond _ member same :=
    beyond (same ▸ reachable_of_mem_updates sound member)

/-! ### Reloading -/

/-- Another heap sees the same class and the same fields of an object. -/
def SeesAlike (context : Context) (heap : Heap) (later : Context) (other : Heap)
    (object : ObjectRef) : Prop :=
  other.classSeen later object = heap.classSeen context object ∧
    ∀ field, other.fieldSeen later object field = heap.fieldSeen context object field

/-- The object has a history, or its class is told by updates. -/
def IsKept (context : Context) (updates : List Update) (object : ObjectRef) : Prop :=
  (∃ history, context.view.history object = .ok history ∧ history ≠ []) ∨
    ∃ className jar, .classTag object className jar ∈ updates

variable (sound : Sound context heap) (fresh : context.Fresh)
  (records : RecordedBy context heap response.updates)

include sound fresh records

/-- A response that records a heap tells no class of a stored object. -/
theorem RecordedBy.findSome?_of_stored {history : List TransactionRef}
    (known : context.view.history object = .ok history) (nonempty : history ≠ []) :
    (response.updatesOf object).findSome? classTagOf? = none := by
  refine List.findSome?_eq_none_iff.mpr fun update inside => ?_
  obtain ⟨member, about⟩ := List.mem_filter.mp inside
  cases update with
  | field => rfl
  | classTag other className jar =>
    obtain rfl : other = object := of_decide_eq_true about
    obtain ⟨loaded, present, new, -⟩ := records.tags other className jar member
    rw [sound.isNew_eq_false fresh known nonempty present] at new
    cases new

omit sound fresh in
/-- A response that records a heap tells the class that a new object has. -/
theorem RecordedBy.findSome?_of_new {className : String} {jar : TransactionRef}
    (member : .classTag object className jar ∈ response.updates) :
    (response.updatesOf object).findSome? classTagOf? = some (className, jar) := by
  obtain ⟨loaded, present, -, rfl, rfl⟩ := records.tags object className jar member
  have inside : Update.classTag object loaded.className loaded.jar ∈ response.updatesOf object :=
    List.mem_filter.mpr ⟨member, by simp [Update.object]⟩
  cases told : (response.updatesOf object).findSome? classTagOf? with
  | none => cases List.findSome?_eq_none_iff.mp told _ inside
  | some tag =>
    obtain ⟨update, among, gives⟩ := List.exists_of_findSome?_eq_some told
    obtain ⟨also, about⟩ := List.mem_filter.mp among
    cases update with
    | field => cases gives
    | classTag other otherName otherJar =>
      obtain rfl : other = object := of_decide_eq_true about
      obtain ⟨seen, here, -, rfl, rfl⟩ := records.tags other otherName otherJar also
      cases present.symm.trans here
      exact gives.symm

/-- **A fresh heap over the store in which the updates of a heap were recorded sees what that heap
saw**, of stored objects and of the new ones that were recorded. -/
theorem RecordedBy.seesAlike (shown : context.view.Shows contents) (intact : contents.Sound)
    (pushed : contents.Pushed context.transaction response after)
    (shownAfter : later.view.Shows after) (readable : later.view.Readable)
    (classes : later.classes = context.classes) (kept : IsKept context response.updates object)
    (charger : Charger) : SeesAlike context heap later { charger } object := by
  have absent : ({ charger } : Heap).objects.get? object = none := rfl
  have readableBefore := intact.readable shown
  -- the class
  have class_eq : ({ charger } : Heap).classSeen later object = heap.classSeen context object := by
    rw [classSeen_of_absent readable absent, classes,
      pushed.tag?_eq intact.intact shown shownAfter]
    rcases kept with ⟨history, known, nonempty⟩ | ⟨className, jar, member⟩
    · rw [records.findSome?_of_stored sound fresh known nonempty, Option.none_or]
      cases present : heap.objects.get? object with
      | none => rw [classSeen_of_absent readableBefore present]
      | some loaded =>
        have typed := sound.typed object loaded present
        have old := sound.isNew_eq_false fresh known nonempty present
        rw [classSeen_of_present present, typed.tag?_eq old]
        exact Option.filter_some_pos typed.linked
    · rw [records.findSome?_of_new member, Option.some_or]
      obtain ⟨loaded, present, -, rfl, rfl⟩ := records.tags object className jar member
      rw [classSeen_of_present present]
      exact Option.filter_some_pos (sound.typed object loaded present).linked
  refine ⟨class_eq, fun field => ?_⟩
  rw [fieldSeen_eq readable, fieldSeen_eq readableBefore, class_eq, classes]
  have value_eq : ({ charger } : Heap).value later.view object field =
      heap.value context.view object field := by
    rw [value_of_absent absent, pushed.value_eq intact.intact shown shownAfter]
    refine (records.getD_findSome? sound object field).trans (if_neg ?_)
    rintro ⟨new, nothing⟩
    rcases kept with ⟨history, known, nonempty⟩ | ⟨className, jar, member⟩
    · have named : object = ⟨context.transaction, object.progressive⟩ := by rw [← new]
      rw [named, fresh object.progressive] at known
      exact nonempty (Except.ok.inj known).symm
    · have inside : Update.classTag object className jar ∈ response.updatesOf object :=
        List.mem_filter.mpr ⟨member, by simp [Update.object]⟩
      rw [Response.updatesOf, nothing] at inside
      cases inside
  rw [value_eq]

end Heap

namespace Node

/-- **What a transaction saves is what the next one loads**, over every store that submissions lead
to, with any classes, after any operations of a transaction that is not recorded. The updates say
what changed and what is new; a response with them is accepted, and once it is recorded a fresh heap
sees all that the heap of the transaction saw. -/
theorem Submitted.saved_and_reloaded {settings : NodeConfig} {root : Option String}
    {node : Node Medium} {requests : List Request} {context : Context}
    (run : Submitted (Node.start settings { backend := Medium.blank root }) node requests)
    (looks : context.view = node.ledger.view)
    (unrecorded : node.response context.transaction = .ok none) (charger : Charger)
    (operations : List Heap.Operation) (roots : List ObjectRef) :
    let heap := Heap.performed context { charger } operations
    heap.SavedBy context roots (heap.updates roots) ∧
      ∀ (request : Request) (response : Response), response.updates = heap.updates roots →
        (response.isInitialization = false →
          ∃ ledger, node.ledger.push context.transaction request response = (.ok (), ledger)) ∧
        ∀ (ledger : Ledger Medium) (later : Context),
          node.ledger.push context.transaction request response = (.ok (), ledger) →
          later.view = ledger.view → later.classes = context.classes →
          ∀ object, Heap.IsKept context (heap.updates roots) object →
            heap.SeesAlike context later { charger := .unmetered } object := by
  intro heap
  obtain ⟨contents, sound⟩ := run.sound (sound_start settings root)
  have shown : context.view.Shows contents := looks ▸ sound.holds.shows
  have fresh : context.Fresh := fun number => by
    rw [looks]
    exact sound.fresh unrecorded number
  have held : heap.Sound context :=
    Heap.sound_performed (Heap.sound_start context charger) operations
  refine ⟨Heap.savedBy_updates held fresh (sound.sound.readable shown) roots,
    fun request response updates => ⟨fun kind => ?_, ?_⟩⟩
  · have absent : contents.responses context.transaction = none :=
      Except.ok.inj ((LawfulBackend.response_eq sound.holds _).symm.trans unrecorded)
    have unnamed : Ledger.newManifest node.ledger.backend context.transaction request response =
        .ok none := by
      unfold Ledger.newManifest
      rw [if_neg (by rw [kind]; decide)]
    exact Ledger.exists_push sound.holds sound.sound.intact absent unnamed
  · intro ledger later pushed view classes object kept
    have records := Heap.recordedBy_updates held roots
    have push := Ledger.holds_push sound.holds context.transaction request response
    rw [pushed] at push
    obtain ⟨after, holds, push⟩ := push
    rw [← updates] at records kept
    have grounded := records.grounded held shown
    have shownAfter : later.view.Shows after := view ▸ holds.shows
    exact records.seesAlike held fresh shown sound.sound push shownAfter
      ((push.sound sound.sound grounded).readable shownAfter) classes kept .unmetered

end Node

/-! ### A purse that is kept -/

namespace Savings

open Node Purses Heap

/-- The classes of the accounts and the purses. -/
def classes : LinkedClasspath :=
  match LinkedClasspath.link funded.ledger.view [⟨⟨0⟩, false⟩] (Build.limits funded.config) with
  | .ok linked => linked
  | .error _ => {}

/-- The next transaction over the node with the gamete. -/
def next : Context where
  view := funded.ledger.view
  classes
  costs := {}
  transaction := funded.next
  maxCallDepth := 10

def purse : ObjectRef := ⟨⟨2⟩, 0⟩

/-- Two purses are made, one of which gets coins. The gamete loses coins and gets the nonce that it
has; no text can be its balance. -/
def operations : List Operation :=
  [.allocate "Purse", .allocate "Purse", .setField purse .balance (.bigInteger 5),
    .setField gamete .balance (.bigInteger 999995), .setField gamete .nonce (.bigInteger 0),
    .setField gamete .balance (.string "nothing"), .getField gamete .publicKey]

/-- The heap after the operations. -/
def used : Heap := performed next { charger := .withLimit 1000 } operations

/-- The gamete and one purse are saved. -/
def saved : List Update :=
  [.field gamete .balance (.bigInteger 999995), .classTag purse "Purse" ⟨0⟩,
    .field purse .balance (.bigInteger 5)]

/-- What is saved of a purse and the gamete is what a later heap reads. -/
theorem saved_and_reloaded_purse :
    funded.response next.transaction = .ok none ∧ used.updates [purse] = saved ∧
      used.SavedBy next [purse] saved ∧
      ∃ ledger, funded.ledger.push next.transaction creation (.gameteCreation saved purse) =
          (.ok (), ledger) ∧
        ∀ object ∈ [gamete, purse], used.SeesAlike next { next with view := ledger.view }
          { charger := .unmetered } object := by
  have unrecorded : funded.response next.transaction = .ok none := by decide +kernel
  have same : used.updates [purse] = saved := by decide +kernel
  have looks : next.view = funded.ledger.view := rfl
  obtain ⟨saves, reloads⟩ := Submitted.saved_and_reloaded submitted_funded looks unrecorded
    (.withLimit 1000) operations [purse]
  obtain ⟨accepts, sees⟩ := reloads creation (.gameteCreation saved purse) same.symm
  obtain ⟨ledger, pushed⟩ := accepts rfl
  have alike := sees ledger { next with view := ledger.view } pushed rfl rfl
  have stored : next.view.history gamete = .ok [⟨1⟩] := by decide +kernel
  refine ⟨unrecorded, same, same ▸ saves, ledger, pushed, fun object member => ?_⟩
  rcases List.mem_pair.mp member with rfl | rfl
  · exact alike gamete (Or.inl ⟨_, stored, List.cons_ne_nil _ _⟩)
  · refine alike purse (Or.inr ⟨"Purse", ⟨0⟩, ?_⟩)
    show _ ∈ used.updates [purse]
    rw [same]
    decide

end Savings

end ObjectLedger
