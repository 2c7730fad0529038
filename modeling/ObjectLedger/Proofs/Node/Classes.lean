/-
**The class of an object in a ledger, and the class that runs on it.**

* `LedgerView.Tagged`: the transaction that creates an object tells its class, once, and the jar
  that it names defines the class. **`Node.Submitted.tagged`**: so it is wherever submissions lead
  to.
* **`Node.Submitted.class_of_loaded`**: what comes to life has the name of the class that the ledger
  tells, and is of the class that its classpath has under that name. It is the one that the ledger
  tells if the jar of that one is loaded.
* **`Strangers.class_of_another_jar`**: otherwise it can be the class of another jar.
-/
import ObjectLedger.Proofs.Node.Memory

namespace ObjectLedger

variable {view later : LedgerView} {jar : TransactionRef} {name : String} {contents : Contents}
  {object : ObjectRef} {context : Context} {heap : Heap} {updates : List Update}

/-! ### Jars that define classes -/

theorem LedgerView.Defines.extends (defines : view.Defines jar name) (newer : later.Extends view) :
    later.Defines jar name := by
  obtain ⟨unit, definition, installs, defined, named⟩ := defines
  exact ⟨unit, definition, installs.extends newer, defined, named⟩

/-- A name leads to a class of the jar that it leads to. -/
theorem LinkedClasspath.From.class_of_jarOf? {linked : LinkedClasspath} (source : linked.From view)
    (found : linked.contains name = true) :
    ∃ definition jar unit, linked.class? name = some definition ∧ linked.jarOf? name = some jar ∧
      definition.name = name ∧ view.Installs jar unit ∧ definition ∈ unit.classes := by
  obtain ⟨definition, known⟩ := Option.isSome_iff_exists.mp found
  obtain ⟨member, looked, rfl⟩ := Option.map_eq_some_iff.mp known
  obtain ⟨jar, unit, installed, installs, defined⟩ :=
    source member (List.mem_of_find?_eq_some looked)
  refine ⟨_, jar, unit, known, ?_, name_of_class? known, installs, defined⟩
  rw [jarOf?, looked, Option.bind_some, installed]

/-! ### Class tags -/

/-- What the response of a transaction says about classes: those of objects that it creates, once
for each, and the jar that it names defines the class. -/
structure Response.TagsNew (response : Response) (view : LedgerView) (reference : TransactionRef) :
    Prop where
  own : ∀ object className jar, .classTag object className jar ∈ response.updates →
    object.transaction = reference
  once : ∀ object className jar otherName otherJar,
    .classTag object className jar ∈ response.updates →
      .classTag object otherName otherJar ∈ response.updates →
        otherName = className ∧ otherJar = jar
  defined : ∀ object className jar, .classTag object className jar ∈ response.updates →
    view.Defines jar className

/-- All responses say so about classes. -/
def LedgerView.Tagged (view : LedgerView) : Prop :=
  ∀ reference response, view.response reference = .ok (some response) →
    response.TagsNew view reference

variable {reference : TransactionRef} {response : Response}

theorem Response.TagsNew.extends (tags : response.TagsNew view reference)
    (newer : later.Extends view) : response.TagsNew later reference where
  own := tags.own
  once := tags.once
  defined object className jar told := (tags.defined object className jar told).extends newer

/-- A response without class tags. -/
theorem Response.tagsNew_of_fields
    (fields : ∀ update ∈ response.updates, update.isClassTag = false) :
    response.TagsNew view reference where
  own _ _ _ told := by cases fields _ told
  once _ _ _ _ _ told := by cases fields _ told
  defined _ _ _ told := by cases fields _ told

/-- What records a heap tells the classes of its new objects. -/
theorem Heap.RecordedBy.tagsNew (records : RecordedBy context heap response.updates)
    (sound : Sound context heap) (source : context.classes.From context.view) :
    response.TagsNew context.view context.transaction where
  own object className jar told := by
    obtain ⟨loaded, present, new, -, -⟩ := records.tags object className jar told
    exact (sound.numbered object loaded present new).1
  once object className jar otherName otherJar told also := by
    cases records.eq_of_key_eq told also rfl rfl
    exact ⟨rfl, rfl⟩
  defined object className jar told := by
    obtain ⟨loaded, present, new, rfl, rfl⟩ := records.tags object className jar told
    obtain ⟨made, -⟩ := (sound.typed object loaded present).made
      (Option.isNone_iff_eq_none.mp new)
    obtain ⟨definition, jar, unit, -, same, named, installs, defined⟩ :=
      source.class_of_jarOf? (LinkedClasspath.contains_of_jarOf? made)
    cases made.symm.trans same
    exact ⟨unit, definition, installs, defined, named⟩

/-- A class tag along the history of an object was told by a recorded transaction. -/
theorem LedgerView.Shows.exists_told (shown : view.Shows contents) (intact : contents.Intact)
    (told : (contents.updatesAlong object (contents.histories object)).findSome? Heap.classTagOf? =
      some (name, jar)) :
    ∃ entry response, entry ∈ contents.histories object ∧
      view.response entry = .ok (some response) ∧
      .classTag object name jar ∈ response.updates := by
  obtain ⟨update, along, tag⟩ := List.exists_of_findSome?_eq_some told
  obtain ⟨entry, inside, along⟩ := List.mem_flatMap.mp along
  obtain ⟨response, found, -⟩ := intact object entry inside
  rw [found] at along
  obtain ⟨member, about⟩ := List.mem_filter.mp along
  refine ⟨entry, response, inside, by rw [shown.response_eq, Contents.look, found], ?_⟩
  cases update with
  | field => cases tag
  | classTag target =>
    cases tag
    obtain rfl : target = object := of_decide_eq_true about
    exact member

/-- **The first class tag along the history of an object is the one of its oldest entry.** -/
theorem LedgerView.Shows.classTag?_eq (shown : view.Shows contents) (sound : contents.Sound)
    (tagged : view.Tagged)
    (told : (contents.updatesAlong object (contents.histories object)).findSome? Heap.classTagOf? =
      some (name, jar)) :
    view.classTag? object = .ok (some (.classTag object name jar)) := by
  obtain ⟨entry, response, inside, recorded, member⟩ := shown.exists_told sound.intact told
  obtain rfl := (tagged entry response recorded).own object name jar member
  cases last : (contents.histories object).getLast? with
  | none =>
    rw [List.getLast?_eq_none_iff.mp last] at inside
    cases inside
  | some oldest =>
    obtain ⟨creation, there, known⟩ := sound.tagged object oldest last
    obtain ⟨first, looked⟩ := Option.isSome_iff_exists.mp known
    have isTag := List.find?_some looked
    obtain ⟨also, about⟩ := List.mem_filter.mp (List.mem_of_find?_eq_some looked)
    have created : view.response oldest = .ok (some creation) := by
      rw [shown.response_eq, Contents.look, there]
    cases first with
    | field => cases isTag
    | classTag target otherName otherJar =>
      obtain rfl : target = object := of_decide_eq_true about
      obtain rfl := (tagged oldest creation created).own target otherName otherJar also
      cases recorded.symm.trans created
      obtain ⟨rfl, rfl⟩ :=
        (tagged _ response recorded).once target name jar otherName otherJar member also
      unfold classTag?
      rw [shown.history_eq]
      simp [bind, Except.bind, last, shown.responseOf_eq there, looked, pure, Except.pure]

namespace Node

variable {σ : Type} [Backend σ] [LawfulBackend σ] {node : Node σ} {requests : List Request}
  {request : Request}

/-- The response to a request tells classes of its new objects. -/
theorem Sound.tagsNew (sound : node.Sound contents) {later : Contents}
    (recorded : node.Recorded request response later) :
    response.TagsNew node.ledger.view node.next := by
  obtain ⟨outcome, after, built, given⟩ := recorded.built
  rcases Outcome.told_cases recorded.fresh built given with
    nothing | ⟨account, balance, nonce, history, -, -, updates⟩ |
    ⟨context, heap, classpaths, middle, looks, running, link, held, records⟩
  · refine Response.tagsNew_of_fields fun update member => ?_
    rw [nothing] at member
    cases member
  · refine Response.tagsNew_of_fields fun update member => ?_
    rw [updates] at member
    rcases List.mem_pair.mp member with rfl | rfl <;> rfl
  · rw [← looks, ← running]
    refine records.tagsNew held ?_
    rw [looks]
    exact sound.from_of_link link

/-- **Wherever submissions lead to, transactions tell the classes of the objects that they
create.** -/
theorem Submitted.tagged {first : Node σ} (run : Submitted first node requests)
    (begins : first.Sound Contents.empty) : node.ledger.view.Tagged := by
  induction run with
  | start =>
    intro reference response found
    rw [begins.holds.shows.response_eq] at found
    cases found
  | @accepted node requests request recordedResponse earlier accepts ih =>
    obtain ⟨contents, sound⟩ := earlier.sound begins
    obtain ⟨_, recorded⟩ := sound.recorded accepts
    obtain ⟨later, pushed, holds⟩ := holds_of_accepts sound.holds accepts
    intro reference response found
    rw [holds.shows.response_eq] at found
    have found : later.responses reference = some response := Except.ok.inj found
    rw [pushed.responses] at found
    by_cases here : reference = node.next
    · subst here
      rw [Function.update_self] at found
      cases found
      exact (sound.tagsNew recorded).extends recorded.keeps
    · rw [Function.update_of_ne here] at found
      refine (ih reference response ?_).extends recorded.keeps
      rw [sound.holds.shows.response_eq]
      exact congrArg Except.ok found
  | @refused node requests request earlier refuses ih =>
    obtain ⟨contents, sound⟩ := earlier.sound begins
    have holds := holds_of_refuses sound.holds refuses
    intro reference response found
    have found : node.ledger.view.response reference = .ok (some response) := by
      rw [sound.holds.shows.response_eq, ← holds.shows.response_eq]
      exact found
    exact (ih reference response found).extends (sound.holds.shows.extends holds.shows)

/-! ### The class that runs -/

/-- **A stored object that is loaded, after whatever code did before, has the name of the class
that the ledger tells, and the jar that the ledger tells defines a class of the name. The object is
of the class that the classpath has under that name: of the one that the ledger tells, if its jar is
among the loaded ones.** -/
theorem Submitted.class_of_loaded {settings : NodeConfig} {root : Option String}
    {node : Node Medium} {classpaths : List Classpath} {limits : ClasspathLimits}
    {charger : Charger} {loaded : HeapObject} {after : Heap}
    (run : Submitted (Node.start settings { backend := Medium.blank root }) node requests)
    (looks : context.view = node.ledger.view)
    (links : LinkedClasspath.link context.view classpaths limits = .ok context.classes)
    (moves : Heap.Moves context Heap.anything { charger } heap)
    (loads : Heap.load context object heap = .ok loaded after) (stored : loaded.isNew = false) :
    node.classOf? object = .ok (some (loaded.className, loaded.jar)) ∧
      context.view.Defines loaded.jar loaded.className ∧
      ∃ definition jar unit, context.classes.class? loaded.className = some definition ∧
        context.classes.jarOf? loaded.className = some jar ∧
        context.view.Installs jar unit ∧ definition ∈ unit.classes ∧
        (loaded.jar ∈ context.classes.transactions → jar = loaded.jar) := by
  have begins := sound_start settings root
  obtain ⟨contents, sound⟩ := run.sound begins
  have tagged := run.tagged begins
  rw [looks] at links ⊢
  obtain ⟨reading, present⟩ := (Heap.reads_load context object).ends loads
  have typed := (Heap.Reading.sound reading
    (moves.sound (Heap.sound_start context charger))).typed object loaded present
  obtain ⟨history, updates, known, read, tag⟩ :=
    typed.told fun none => by rw [HeapObject.isNew, none] at stored; cases stored
  rw [looks] at known read
  cases known.symm.trans (sound.holds.shows.history_eq object)
  cases read.symm.trans (sound.holds.shows.updatesAlong_eq
    (sound.sound.intact.isSome_responses object))
  have told := sound.holds.shows.classTag?_eq sound.sound tagged tag
  obtain ⟨entry, response, -, recorded, member⟩ :=
    sound.holds.shows.exists_told sound.sound.intact tag
  have defines := (tagged entry response recorded).defined object _ _ member
  refine ⟨?_, defines, ?_⟩
  · rw [classOf?, told]
    rfl
  · have source := LinkedClasspath.from_of_link sound.readable links
    obtain ⟨definition, linkedJar, unit, found, same, -, installs, defined⟩ :=
      source.class_of_jarOf? typed.linked
    refine ⟨definition, linkedJar, unit, found, same, installs, defined, fun loadedJar => ?_⟩
    have named := (LinkedClasspath.complete_of_link links).jarOf?_eq loadedJar defines
    exact Option.some.inj (same.symm.trans named)

end Node

/-! ### A class of the same name -/

namespace Strangers

open Node Purses

/-- Another class with the name of that of the gamete. -/
def gameteClass : ClassDefinition :=
  ⟨ClassName.gamete, none, [], [],
    [⟨"which", [], some .int, false, .changesNothing, 0, [.push (.int 2), .ret]⟩]⟩

def joining : Request := .installInitialJar (CodeUnit.toBytes ⟨[gameteClass]⟩) []

/-- The node with the accounts and the purses, where a stranger has installed the other class. -/
def joined : Node Medium := funded.submitted joining

/-- The classes of the unit that was installed at a reference. -/
def classesAt (jar : TransactionRef) : LinkedClasspath :=
  match LinkedClasspath.link joined.ledger.view [⟨jar, false⟩] (Build.limits joined.config) with
  | .ok linked => linked
  | .error _ => {}

/-- A look at the node with the classes of the unit at a reference. -/
def looking (jar : TransactionRef) : Context where
  view := joined.ledger.view
  classes := classesAt jar
  costs := {}
  transaction := joined.next
  maxCallDepth := 10

/-- What the gamete comes to life as. -/
def seen (jar : TransactionRef) : Option HeapObject :=
  match Heap.load (looking jar) gamete { charger := .unmetered } with
  | .ok loaded _ => some loaded
  | .error _ _ => none

theorem link_eq_ok {jar : TransactionRef} (found : (classesAt jar).transactions ≠ []) :
    LinkedClasspath.link joined.ledger.view [⟨jar, false⟩] (Build.limits joined.config) =
      .ok (classesAt jar) := by
  unfold classesAt at found ⊢
  split at found
  · assumption
  · exact absurd rfl found

theorem load_eq_ok {jar : TransactionRef} {loaded : HeapObject} (comes : seen jar = some loaded) :
    ∃ after, Heap.load (looking jar) gamete { charger := .unmetered } = .ok loaded after := by
  unfold seen at comes
  split at comes
  · rename_i after ran
    cases comes
    exact ⟨after, ran⟩
  · cases comes

theorem submitted_joined : Submitted begun joined [installing, creation, joining] :=
  submitted_funded.next (by decide +kernel)

/-- The gamete comes to life with the classes of the unit that it was made with. -/
theorem class_of_loaded_gamete :
    ∃ loaded after, Submitted begun joined [installing, creation, joining] ∧
      LinkedClasspath.link joined.ledger.view [⟨⟨0⟩, false⟩] (Build.limits joined.config) =
        .ok (classesAt ⟨0⟩) ∧
      Heap.load (looking ⟨0⟩) gamete { charger := .unmetered } = .ok loaded after ∧
      loaded.jar ∈ (classesAt ⟨0⟩).transactions ∧
      (classesAt ⟨0⟩).jarOf? loaded.className = some loaded.jar := by
  have told : (seen ⟨0⟩).map (fun loaded => (loaded.isNew, loaded.jar)) = some (false, ⟨0⟩) ∧
      (classesAt ⟨0⟩).transactions = [⟨0⟩] := by decide +kernel
  obtain ⟨told, transactions⟩ := told
  obtain ⟨loaded, same, shape⟩ := Option.map_eq_some_iff.mp told
  obtain ⟨stored, jar⟩ := Prod.mk.inj shape
  obtain ⟨after, loads⟩ := load_eq_ok same
  have links := link_eq_ok (transactions ▸ List.cons_ne_nil _ _ : (classesAt ⟨0⟩).transactions ≠ [])
  have inside : loaded.jar ∈ (classesAt ⟨0⟩).transactions := by
    rw [transactions, jar]
    exact List.mem_singleton.mpr rfl
  obtain ⟨-, -, definition, linked, unit, -, found, -, -, only⟩ :=
    Submitted.class_of_loaded submitted_joined rfl links .refl loads stored
  exact ⟨loaded, after, submitted_joined, links, loads, inside,
    found.trans (congrArg some (only inside))⟩

/-- **An object need not come to life with the class that the ledger tells**: the gamete, made with
one unit, runs the class that a stranger has installed under the same name. -/
theorem class_of_another_jar :
    ∃ loaded after, Submitted begun joined [installing, creation, joining] ∧
      LinkedClasspath.link joined.ledger.view [⟨⟨2⟩, false⟩] (Build.limits joined.config) =
        .ok (classesAt ⟨2⟩) ∧
      Heap.load (looking ⟨2⟩) gamete { charger := .unmetered } = .ok loaded after ∧
      joined.classOf? gamete = .ok (some (loaded.className, ⟨0⟩)) ∧
      (classesAt ⟨2⟩).jarOf? loaded.className = some ⟨2⟩ ∧
      (classesAt ⟨2⟩).class? loaded.className = some gameteClass := by
  have told : (seen ⟨2⟩).map HeapObject.className = some ClassName.gamete ∧
      (classesAt ⟨2⟩).transactions ≠ [] ∧
      joined.classOf? gamete = .ok (some (ClassName.gamete, ⟨0⟩)) ∧
      (classesAt ⟨2⟩).jarOf? ClassName.gamete = some ⟨2⟩ ∧
      (classesAt ⟨2⟩).class? ClassName.gamete = some gameteClass := by decide +kernel
  obtain ⟨named, linked, others⟩ := told
  obtain ⟨loaded, same, named⟩ := Option.map_eq_some_iff.mp named
  obtain ⟨after, loads⟩ := load_eq_ok same
  refine ⟨loaded, after, submitted_joined, link_eq_ok linked, loads, ?_⟩
  rw [named]
  exact others

end Strangers

end ObjectLedger
