/-
**What running code can do to the heap, one part at a time.**

* `Heap.Read`: charges, loaded objects, late reads. `Heap.Write`: a field gets a value.
* `Heap.Transfer`: a payment is two writes with nothing but reads in between.
* `Heap.Move`: all that running code is made of: reads, restrictions of gas, new objects, writes of
  some fields, events and payments.
* **`Heap.Moves.balanced`**: whatever code does, no gas is made or lost.
* `Heap.Sound`: what holds of every heap: no object and no field twice, what a stored object found
  in the store is there, new objects are numbered, and every object is `HeapObject.Typed`: of the
  class that was linked for it or that the store tells. **`Heap.Moves.sound`**: it stays so.
-/
import Mathlib.Logic.Relation
import ObjectLedger.Proofs.Code.Fields
import ObjectLedger.Proofs.Gas.Accounts
import ObjectLedger.Proofs.Machine.Value

namespace ObjectLedger

/-- No object of the store has the transaction that runs as its creator. -/
def Context.Fresh (context : Context) : Prop :=
  ∀ progressive, context.view.history ⟨context.transaction, progressive⟩ = .ok []

namespace Heap

variable {context : Context} {writable : FieldSignature → Prop} {heap after : Heap}
  {object : ObjectRef} {loaded : HeapObject} {field : FieldSignature} {value : Value}

/-! ### Steps -/

/-- Every field can be written. -/
def anything : FieldSignature → Prop := fun _ => True

/-- The heap with a new object. -/
def withNew (context : Context) (className : String) (jar : TransactionRef) (heap : Heap) : Heap :=
  { heap.put ⟨context.transaction, heap.nextProgressive⟩
      ⟨className, jar, defaults (context.classes.fieldsOf className), none⟩ with
    nextProgressive := heap.nextProgressive + 1 }

/-- A stored object of a class, as the updates along its history tell. -/
def ofUpdates (context : Context) (updates : List Update) (className : String)
    (jar : TransactionRef) : HeapObject :=
  let fields := eagerFields updates (context.classes.fieldsOf className)
  ⟨className, jar, fields, some fields⟩

/-- The object with a field as it is in the store. -/
def fetched (loaded : HeapObject) (field : FieldSignature) (value : Value) : HeapObject :=
  { loaded with
    fields := loaded.fields.insert field value
    stored := loaded.stored.map (·.insert field value) }

/-- The object with another value of a field. -/
def written (loaded : HeapObject) (field : FieldSignature) (value : Value) : HeapObject :=
  { loaded with fields := loaded.fields.insert field value }

/-- One part of what reading does. -/
inductive Read (context : Context) : Heap → Heap → Prop
  | charge {heap : Heap} {purpose : GasUse} {amount : UInt64} {charger : Charger}
      (paid : heap.charger.charge purpose amount = .ok charger) :
      Read context heap { heap with charger }
  | load {heap : Heap} {object : ObjectRef} {history : List TransactionRef}
      {updates : List Update} {className : String} {jar : TransactionRef}
      (absent : heap.objects.get? object = none)
      (known : context.view.history object = .ok history) (nonempty : history ≠ [])
      (read : context.view.updatesAlong object history = .ok updates)
      (tag : updates.findSome? classTagOf? = some (className, jar))
      (linked : context.classes.contains className = true) :
      Read context heap (heap.put object (ofUpdates context updates className jar))
  | fetch {heap : Heap} {object : ObjectRef} {loaded : HeapObject} {field : FieldSignature}
      {found : Option Value} (present : heap.objects.get? object = some loaded)
      (has : context.classes.hasField loaded.className field = true)
      (missing : loaded.fields.get? field = none)
      (read : context.view.field? object field = .ok found) :
      Read context heap
        (heap.put object (fetched loaded field (found.getD field.type.default)))

/-- A field of an object gets a value that suits it. -/
inductive Write (context : Context) (object : ObjectRef) (field : FieldSignature)
    (value : Value) : Heap → Heap → Prop
  | intro {heap : Heap} {loaded : HeapObject} (present : heap.objects.get? object = some loaded)
      (has : context.classes.hasField loaded.className field = true)
      (fits : value.fits field.type = true)
      (known : field.type.isEager = false → (loaded.fields.get? field).isSome)
      (target : ∀ other, value = .reference other → (heap.objects.get? other).isSome) :
      Write context object field value heap (heap.put object (written loaded field value))

/-- Any number of reads. -/
abbrev Reading (context : Context) : Heap → Heap → Prop :=
  Relation.ReflTransGen (Read context)

/-- Coins move from one object to another; between the two writes there are only reads. -/
inductive Transfer (context : Context) (payer payee : ObjectRef) (amount : Amount) :
    Heap → Heap → Prop
  | intro {heap paid read after : Heap} {loaded receiver : HeapObject} {balance received : Amount}
      (present : heap.objects.get? payer = some loaded)
      (owned : loaded.fields.get? .balance = some (.bigInteger balance))
      (enough : amount.toNat ≤ balance.toNat)
      (taken : Write context payer .balance (.bigInteger (balance - amount)) heap paid)
      (between : Reading context paid read)
      (found : read.objects.get? payee = some receiver)
      (held : receiver.fields.get? .balance = some (.bigInteger received))
      (room : received.toNat + amount.toNat ≤ Amount.maximum)
      (given : Write context payee .balance
        (.bigInteger (BitVec.ofNat 128 (received.toNat + amount.toNat))) read after) :
      Transfer context payer payee amount heap after

/-- One part of what running code does, which can write only some fields apart from payments. -/
inductive Move (context : Context) (writable : FieldSignature → Prop) : Heap → Heap → Prop
  | read {heap after : Heap} (read : Read context heap after) : Move context writable heap after
  | restrict {heap : Heap} {amount : UInt64} {charger : Charger}
      (pushed : heap.charger.pushGas amount = .ok charger) :
      Move context writable heap { heap with charger }
  | release {heap : Heap} :
      Move context writable heap { heap with charger := heap.charger.popGas }
  | allocate {heap : Heap} {className : String} {jar : TransactionRef}
      (found : context.classes.jarOf? className = some jar)
      (room : heap.nextProgressive.toNat ≠ maxWord) :
      Move context writable heap (heap.withNew context className jar)
  | write {heap after : Heap} {object : ObjectRef} {field : FieldSignature} {value : Value}
      (may : writable field) (write : Write context object field value heap after) :
      Move context writable heap after
  | emit {heap : Heap} {event : ObjectRef} {loaded : HeapObject}
      (present : heap.objects.get? event = some loaded)
      (kind : context.classes.isSubclass loaded.className ClassName.event = true) :
      Move context writable heap { heap with events := heap.events ++ [event] }
  | pay {heap after : Heap} {payer payee : ObjectRef} {amount : Amount}
      (transfer : Transfer context payer payee amount heap after) :
      Move context writable heap after

/-- Any number of moves. -/
abbrev Moves (context : Context) (writable : FieldSignature → Prop) : Heap → Heap → Prop :=
  Relation.ReflTransGen (Move context writable)

theorem Reading.moves (reading : Reading context heap after) :
    Moves context writable heap after := by
  induction reading with
  | refl => exact .refl
  | tail _ read ih => exact ih.tail (.read read)

theorem Move.loose (move : Move context writable heap after) :
    Move context anything heap after := by
  cases move with
  | read read => exact .read read
  | restrict pushed => exact .restrict pushed
  | release => exact .release
  | allocate found room => exact .allocate found room
  | write _ write => exact .write trivial write
  | emit present kind => exact .emit present kind
  | pay transfer => exact .pay transfer

theorem Moves.loose (moves : Moves context writable heap after) :
    Moves context anything heap after := by
  induction moves with
  | refl => exact .refl
  | tail _ move ih => exact ih.tail move.loose

/-! ### Gas -/

theorem Read.balanced {limit : UInt64} (read : Read context heap after)
    (balanced : heap.charger.Balanced limit) : after.charger.Balanced limit := by
  cases read with
  | charge paid => exact (balanced.charge paid).1
  | load | fetch => exact balanced

theorem Reading.balanced {limit : UInt64} (reading : Reading context heap after)
    (balanced : heap.charger.Balanced limit) : after.charger.Balanced limit := by
  induction reading with
  | refl => exact balanced
  | tail _ read ih => exact read.balanced ih

theorem Write.charger_eq (write : Write context object field value heap after) :
    after.charger = heap.charger := by
  cases write
  rfl

theorem Move.balanced {limit : UInt64} (move : Move context writable heap after)
    (balanced : heap.charger.Balanced limit) : after.charger.Balanced limit := by
  cases move with
  | read read => exact read.balanced balanced
  | restrict pushed => exact balanced.pushGas pushed
  | release => exact balanced.popGas
  | allocate | emit => exact balanced
  | write _ write => exact write.charger_eq ▸ balanced
  | pay transfer =>
    cases transfer with
    | intro _ _ _ taken between _ _ _ given =>
      rw [given.charger_eq]
      refine Reading.balanced between ?_
      rw [taken.charger_eq]
      exact balanced

/-- **Whatever code does, no gas is made or lost.** -/
theorem Moves.balanced {limit : UInt64} (moves : Moves context writable heap after)
    (balanced : heap.charger.Balanced limit) : after.charger.Balanced limit := by
  induction moves with
  | refl => exact balanced
  | tail _ move ih => exact move.balanced ih

/-! ### Reading keeps objects -/

/-- The objects of the earlier heap are still there, with their class and the fields they had. -/
def Keeps (heap after : Heap) : Prop :=
  ∀ object loaded, heap.objects.get? object = some loaded → ∃ later,
    after.objects.get? object = some later ∧ later.className = loaded.className ∧
      ∀ field, (loaded.fields.get? field).isSome → (later.fields.get? field).isSome

theorem Read.keeps (read : Read context heap after) : heap.Keeps after := by
  intro object loaded present
  cases read with
  | charge => exact ⟨loaded, present, rfl, fun _ known => known⟩
  | @load other _ _ _ _ absent =>
    have different : object ≠ other := by
      rintro rfl
      rw [absent] at present
      cases present
    exact ⟨loaded, (get?_put_of_ne _ _ different).trans present, rfl, fun _ known => known⟩
  | @fetch other seen fetchedField found there =>
    by_cases same : object = other
    · subst same
      cases there.symm.trans present
      refine ⟨_, get?_put_self .., rfl, fun field known => ?_⟩
      show ((loaded.fields.insert fetchedField _).get? field).isSome = true
      rw [Table.get?_insert]
      split
      · rfl
      · exact known
    · exact ⟨loaded, (get?_put_of_ne _ _ same).trans present, rfl, fun _ known => known⟩

theorem Keeps.trans {middle : Heap} (first : heap.Keeps middle) (second : middle.Keeps after) :
    heap.Keeps after := by
  intro object loaded present
  obtain ⟨later, there, sameClass, kept⟩ := first object loaded present
  obtain ⟨latest, here, again, keptToo⟩ := second object later there
  exact ⟨latest, here, again.trans sameClass, fun field known => keptToo field (kept field known)⟩

theorem Reading.keeps (reading : Reading context heap after) : heap.Keeps after := by
  induction reading with
  | refl => exact fun _ loaded present => ⟨loaded, present, rfl, fun _ known => known⟩
  | tail _ read ih => exact ih.trans read.keeps

/-! ### Classes of objects -/

end Heap

/-- An object is of a linked class. A new one has the fields of its class; a stored one is of the
class that its history tells, and whatever it has was found in the store first. -/
structure HeapObject.Typed (context : Context) (object : ObjectRef) (loaded : HeapObject) : Prop where
  linked : context.classes.contains loaded.className = true
  made : loaded.stored = none → context.classes.jarOf? loaded.className = some loaded.jar ∧
    ∀ field, (loaded.fields.get? field).isSome ↔
      field ∈ context.classes.fieldsOf loaded.className
  told : loaded.stored ≠ none → ∃ history updates, context.view.history object = .ok history ∧
    context.view.updatesAlong object history = .ok updates ∧
    updates.findSome? Heap.classTagOf? = some (loaded.className, loaded.jar)
  compared : ∀ found, loaded.stored = some found → ∀ field,
    context.classes.hasField loaded.className field = true →
      field.type.isEager = true ∨ (loaded.fields.get? field).isSome → (found.get? field).isSome

namespace HeapObject.Typed

open Heap

variable {context : Context} {object : ObjectRef} {loaded : HeapObject} {field : FieldSignature}
  {value : Value} {className : String} {jar : TransactionRef}

/-- A new object. -/
theorem ofClass (made : context.classes.jarOf? className = some jar) :
    Typed context object ⟨className, jar, defaults (context.classes.fieldsOf className), none⟩ where
  linked := LinkedClasspath.contains_of_jarOf? made
  made _ := ⟨made, fun field => by simp [get?_defaults]⟩
  told stored := absurd rfl stored
  compared _ same := by cases same

/-- An object that comes to life. -/
theorem ofUpdates {history : List TransactionRef} {updates : List Update}
    (known : context.view.history object = .ok history)
    (read : context.view.updatesAlong object history = .ok updates)
    (tag : updates.findSome? classTagOf? = some (className, jar))
    (linked : context.classes.contains className = true) :
    Typed context object (ofUpdates context updates className jar) where
  linked := linked
  made new := by cases new
  told _ := ⟨history, updates, known, read, tag⟩
  compared found same field has shown := by
    cases same
    rcases shown with eager | held
    · have member : field ∈ context.classes.fieldsOf className :=
        LinkedClasspath.mem_fieldsOf_of_hasField has
      rw [get?_eagerFields, if_pos eager, if_pos member]
      cases updates.findSome? (LedgerView.valueOf? field) <;> rfl
    · exact held

/-- A field of a new object got a value. -/
theorem isSome_insert (typed : loaded.Typed context object)
    (has : context.classes.hasField loaded.className field = true) (new : loaded.stored = none)
    (value : Value) (other : FieldSignature) :
    ((loaded.fields.insert field value).get? other).isSome ↔
      other ∈ context.classes.fieldsOf loaded.className := by
  rw [Table.get?_insert]
  split
  · rename_i same
    subst same
    exact iff_of_true rfl (LinkedClasspath.mem_fieldsOf_of_hasField has)
  · exact (typed.made new).2 other

/-- A field was read. -/
theorem fetched (typed : loaded.Typed context object)
    (has : context.classes.hasField loaded.className field = true) :
    Typed context object (fetched loaded field value) where
  linked := typed.linked
  made new := by
    have new : loaded.stored = none := Option.map_eq_none_iff.mp new
    exact ⟨(typed.made new).1, typed.isSome_insert has new value⟩
  told stored := typed.told fun none => stored (by rw [Heap.fetched, none]; rfl)
  compared found same other hasOther shown := by
    obtain ⟨older, stored, rfl⟩ := Option.map_eq_some_iff.mp same
    rw [Table.get?_insert]
    split
    · rfl
    · rename_i different
      refine typed.compared older stored other hasOther (shown.imp id fun held => ?_)
      rwa [Heap.fetched, Table.get?_insert_of_ne _ _ different] at held

/-- A field was written. -/
theorem written (typed : loaded.Typed context object)
    (has : context.classes.hasField loaded.className field = true)
    (known : field.type.isEager = false → (loaded.fields.get? field).isSome) :
    Typed context object (written loaded field value) where
  linked := typed.linked
  made new := ⟨(typed.made new).1, typed.isSome_insert has new value⟩
  told := typed.told
  compared found same other hasOther shown := by
    refine typed.compared found same other hasOther ?_
    by_cases here : other = field
    · subst here
      cases eager : other.type.isEager with
      | true => exact Or.inl rfl
      | false => exact Or.inr (known eager)
    · refine shown.imp id fun held => ?_
      rwa [Heap.written, Table.get?_insert_of_ne _ _ here] at held

end HeapObject.Typed

namespace Heap

variable {context : Context} {writable : FieldSignature → Prop} {heap after : Heap}
  {object : ObjectRef} {loaded : HeapObject} {field : FieldSignature} {value : Value}

/-! ### Soundness -/

/-- No object and no field twice; what a stored object found in the store is there; new objects are
numbered. -/
structure Sound (context : Context) (heap : Heap) : Prop where
  objects : heap.objects.Proper
  fields : ∀ object loaded, heap.objects.get? object = some loaded → loaded.fields.Proper
  recorded : ∀ object loaded, heap.objects.get? object = some loaded → loaded.isNew = false →
    ∃ history, context.view.history object = .ok history ∧ history ≠ []
  found : ∀ object loaded found, heap.objects.get? object = some loaded →
    loaded.stored = some found → ∀ field value, found.get? field = some value →
      value = context.view.value object field
  numbered : ∀ object loaded, heap.objects.get? object = some loaded → loaded.isNew = true →
    object.transaction = context.transaction ∧ object.progressive < heap.nextProgressive
  typed : ∀ object loaded, heap.objects.get? object = some loaded → loaded.Typed context object

theorem sound_start (context : Context) (charger : Charger) : Sound context { charger } where
  objects := Table.proper_empty
  fields _ _ present := by cases present
  recorded _ _ present := by cases present
  found _ _ _ present := by cases present
  numbered _ _ present := by cases present
  typed _ _ present := by cases present

/-- An object of the later heap is the one that was put, or one of the earlier heap. -/
theorem cases_put {other : ObjectRef} {seen : HeapObject}
    (present : (heap.put object loaded).objects.get? other = some seen) :
    (other = object ∧ seen = loaded) ∨ (other ≠ object ∧ heap.objects.get? other = some seen) := by
  by_cases same : other = object
  · subst same
    rw [get?_put_self] at present
    exact Or.inl ⟨rfl, (Option.some.inj present).symm⟩
  · rw [get?_put_of_ne _ _ same] at present
    exact Or.inr ⟨same, present⟩

/-- An object is put into a sound heap. -/
theorem Sound.put (sound : Sound context heap) (fields : loaded.fields.Proper)
    (recorded : loaded.isNew = false →
      ∃ history, context.view.history object = .ok history ∧ history ≠ [])
    (found : ∀ found, loaded.stored = some found → ∀ field value,
      found.get? field = some value → value = context.view.value object field)
    (numbered : loaded.isNew = true →
      object.transaction = context.transaction ∧ object.progressive < heap.nextProgressive)
    (typed : loaded.Typed context object) : Sound context (heap.put object loaded) where
  objects := sound.objects.insert object loaded
  fields other seen present := by
    rcases cases_put present with ⟨rfl, rfl⟩ | ⟨_, older⟩
    · exact fields
    · exact sound.fields other seen older
  recorded other seen present := by
    rcases cases_put present with ⟨rfl, rfl⟩ | ⟨_, older⟩
    · exact recorded
    · exact sound.recorded other seen older
  found other seen table present := by
    rcases cases_put present with ⟨rfl, rfl⟩ | ⟨_, older⟩
    · exact found table
    · exact sound.found other seen table older
  numbered other seen present := by
    rcases cases_put present with ⟨rfl, rfl⟩ | ⟨_, older⟩
    · exact numbered
    · exact sound.numbered other seen older
  typed other seen present := by
    rcases cases_put present with ⟨rfl, rfl⟩ | ⟨_, older⟩
    · exact typed
    · exact sound.typed other seen older

theorem Write.sound (write : Write context object field value heap after)
    (sound : Sound context heap) : Sound context after := by
  cases write with
  | intro present has _ known =>
    exact sound.put ((sound.fields _ _ present).insert field value)
      (fun old => sound.recorded _ _ present old)
      (fun table same => sound.found _ _ table present same)
      (fun new => sound.numbered _ _ present new)
      ((sound.typed _ _ present).written has known)

/-- The number of the next new object is not taken. -/
theorem Sound.next_absent (sound : Sound context heap) (fresh : context.Fresh) :
    heap.objects.get? ⟨context.transaction, heap.nextProgressive⟩ = none := by
  cases present : heap.objects.get? ⟨context.transaction, heap.nextProgressive⟩ with
  | none => rfl
  | some loaded =>
    cases new : loaded.isNew with
    | true => exact absurd (sound.numbered _ _ present new).2 (UInt64.lt_irrefl _)
    | false =>
      obtain ⟨history, known, nonempty⟩ := sound.recorded _ _ present new
      rw [fresh heap.nextProgressive] at known
      exact absurd (Except.ok.inj known).symm nonempty

theorem Read.sound (read : Read context heap after) (sound : Sound context heap) :
    Sound context after := by
  cases read with
  | charge => exact ⟨sound.objects, sound.fields, sound.recorded, sound.found, sound.numbered, sound.typed⟩
  | @load object history updates className jar absent known nonempty read tag linked =>
    refine sound.put (proper_eagerFields ..) (fun _ => ⟨history, known, nonempty⟩) ?_ ?_
      (.ofUpdates known read tag linked)
    · intro table same field value present
      cases same
      rw [get?_eagerFields] at present
      rw [LedgerView.value_of_field? (LedgerView.field?_of_updatesAlong known read field)]
      split at present
      · cases first : updates.findSome? (LedgerView.valueOf? field) with
        | some found =>
          rw [first] at present
          exact (Option.some.inj present).symm
        | none =>
          rw [first, Option.none_or] at present
          split at present
          · exact (Option.some.inj present).symm
          · cases present
      · cases present
    · intro new
      cases new
  | @fetch object loaded field found present has missing read =>
    refine sound.put ((sound.fields _ _ present).insert _ _) (fun old => ?_) ?_ (fun new => ?_)
      ((sound.typed _ _ present).fetched has)
    · refine sound.recorded _ _ present ?_
      rw [← old]
      simp [HeapObject.isNew, fetched]
    · intro table same other value known
      obtain ⟨older, stored, rfl⟩ := Option.map_eq_some_iff.mp same
      by_cases here : other = field
      · subst here
        rw [Table.get?_insert_self] at known
        rw [LedgerView.value_of_field? read]
        exact (Option.some.inj known).symm
      · rw [Table.get?_insert_of_ne _ _ here] at known
        exact sound.found _ _ older present stored other value known
    · refine sound.numbered _ _ present ?_
      rw [← new]
      simp [HeapObject.isNew, fetched]

theorem Reading.sound (reading : Reading context heap after) (sound : Sound context heap) :
    Sound context after := by
  induction reading with
  | refl => exact sound
  | tail _ read ih => exact read.sound ih

theorem Sound.withNew {className : String} {jar : TransactionRef} (sound : Sound context heap)
    (made : context.classes.jarOf? className = some jar)
    (room : heap.nextProgressive.toNat ≠ maxWord) :
    Sound context (heap.withNew context className jar) := by
  have next : heap.nextProgressive < heap.nextProgressive + 1 := by
    have bound := heap.nextProgressive.toNat_lt
    unfold maxWord at room
    rw [UInt64.lt_iff_toNat_lt, UInt64.toNat_add, UInt64.toNat_one]
    omega
  refine ⟨sound.objects.insert _ _, ?_, ?_, ?_, ?_, ?_⟩
  all_goals
    intro other seen
  · intro present
    rcases cases_put present with ⟨rfl, rfl⟩ | ⟨_, older⟩
    · exact proper_defaults _
    · exact sound.fields other seen older
  · intro present
    rcases cases_put present with ⟨rfl, rfl⟩ | ⟨_, older⟩
    · intro stored
      cases stored
    · exact sound.recorded other seen older
  · intro table present
    rcases cases_put present with ⟨rfl, rfl⟩ | ⟨_, older⟩
    · intro stored
      cases stored
    · exact sound.found other seen table older
  · intro present new
    rcases cases_put present with ⟨rfl, rfl⟩ | ⟨_, older⟩
    · exact ⟨rfl, next⟩
    · obtain ⟨creator, less⟩ := sound.numbered other seen older new
      exact ⟨creator, UInt64.lt_trans less next⟩
  · intro present
    rcases cases_put present with ⟨rfl, rfl⟩ | ⟨_, older⟩
    · exact .ofClass made
    · exact sound.typed other seen older

theorem Move.sound (move : Move context writable heap after) (sound : Sound context heap) :
    Sound context after := by
  cases move with
  | read read => exact read.sound sound
  | restrict | release | emit =>
    exact ⟨sound.objects, sound.fields, sound.recorded, sound.found, sound.numbered, sound.typed⟩
  | allocate found room => exact sound.withNew found room
  | write _ write => exact write.sound sound
  | pay transfer =>
    cases transfer with
    | intro _ _ _ taken between _ _ _ given =>
      exact given.sound (Reading.sound between (taken.sound sound))

theorem Moves.sound (moves : Moves context writable heap after) (sound : Sound context heap) :
    Sound context after := by
  induction moves with
  | refl => exact sound
  | tail _ move ih => exact move.sound ih

/-! ### Objects stay -/

theorem Write.keeps (write : Write context object field value heap after) : heap.Keeps after := by
  intro other seen present
  cases write with
  | intro there =>
    by_cases same : other = object
    · subst same
      cases there.symm.trans present
      refine ⟨_, get?_put_self .., rfl, fun another known => ?_⟩
      show ((seen.fields.insert field value).get? another).isSome = true
      rw [Table.get?_insert]
      split
      · rfl
      · exact known
    · exact ⟨seen, (get?_put_of_ne _ _ same).trans present, rfl, fun _ known => known⟩

theorem Move.keeps (move : Move context writable heap after) (fresh : context.Fresh)
    (sound : Sound context heap) : heap.Keeps after := by
  cases move with
  | read read => exact read.keeps
  | restrict | release | emit => exact fun _ loaded present => ⟨loaded, present, rfl, fun _ known => known⟩
  | allocate =>
    intro object loaded present
    have different : object ≠ ⟨context.transaction, heap.nextProgressive⟩ := by
      rintro rfl
      rw [sound.next_absent fresh] at present
      cases present
    exact ⟨loaded, (get?_put_of_ne heap _ different).trans present, rfl, fun _ known => known⟩
  | write _ write => exact write.keeps
  | pay transfer =>
    cases transfer with
    | intro _ _ _ taken between _ _ _ given =>
      exact taken.keeps.trans ((Reading.keeps between).trans given.keeps)

/-- **Objects that are there stay, and so do the fields that are known.** -/
theorem Moves.keeps (moves : Moves context writable heap after) (fresh : context.Fresh)
    (sound : Sound context heap) : heap.Keeps after := by
  induction moves with
  | refl => exact fun _ loaded present => ⟨loaded, present, rfl, fun _ known => known⟩
  | tail before move ih => exact ih.trans (move.keeps fresh (Moves.sound before sound))

/-- An object with a history is not one of the new ones. -/
theorem Sound.isNew_eq_false (sound : Sound context heap) (fresh : context.Fresh)
    {history : List TransactionRef} (known : context.view.history object = .ok history)
    (nonempty : history ≠ []) (present : heap.objects.get? object = some loaded) :
    loaded.isNew = false := by
  by_contra new
  obtain ⟨creator, -⟩ := sound.numbered object loaded present (by simpa using new)
  have none : context.view.history object = .ok [] := by
    have named : object = ⟨context.transaction, object.progressive⟩ := by rw [← creator]
    rw [named]
    exact fresh object.progressive
  exact nonempty (Except.ok.inj (known.symm.trans none))

end Heap

end ObjectLedger
