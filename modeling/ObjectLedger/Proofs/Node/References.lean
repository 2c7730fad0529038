/-
**A ledger is typed, and no reference in it dangles.**

* `LedgerView.Anchored`: an object has a history, and its oldest entry tells the class of the object.
  `Node.Sound.anchored_iff`: in a sound store, just the objects with a history are so.
* `Node.Closed`: the fields of the store and all recorded responses are closed.
  **`Node.Sound.closed_submitted`**: a submission keeps it so.
* **`Node.Submitted.references_anchored`**: wherever submissions lead to, every value of a recorded
  field suits the type of the field, and all objects that a response names are anchored.
-/
import ObjectLedger.Proofs.Node.Memory
import ObjectLedger.Proofs.Transaction.Closed

namespace ObjectLedger

variable {contents before after : Contents} {view later : LedgerView} {object : ObjectRef}
  {reference : TransactionRef} {response : Response}

/-! ### Objects with a history -/

/-- The object has a history, whose oldest entry is a response that tells the class of the object. -/
def LedgerView.Anchored (view : LedgerView) (object : ObjectRef) : Prop :=
  ∃ newer oldest creation className jar, view.history object = .ok (newer ++ [oldest]) ∧
    view.response oldest = .ok (some creation) ∧ .classTag object className jar ∈ creation.updates

theorem LedgerView.Shows.knows_iff (shown : view.Shows contents) :
    view.knows object = true ↔ contents.histories object ≠ [] := by
  constructor
  · intro known nothing
    rw [knows, shown.history_eq, nothing] at known
    cases known
  · exact knows_of_history (shown.history_eq object)

namespace Contents

/-- An object that a pushed response updates has a history from then on. -/
theorem Pushed.histories_ne_nil (pushed : before.Pushed reference response after)
    (intact : before.Intact)
    (named : before.histories object ≠ [] ∨ response.updatesOf object ≠ []) :
    after.histories object ≠ [] := by
  rcases pushed.histories_cases intact object with ⟨silent, same⟩ | ⟨rest, -, shape, -⟩
  · rw [same]
    exact named.resolve_right fun updated => updated silent
  · rw [shape]
    exact List.cons_ne_nil _ _

/-- What the response to a push names is known after it. -/
theorem Pushed.knows_of_tells (pushed : before.Pushed reference response after)
    (intact : before.Intact) (shown : view.Shows before) (shownAfter : later.Shows after)
    (tells : view.Tells response.updates object) : later.knows object = true := by
  refine shownAfter.knows_iff.mpr (pushed.histories_ne_nil intact ?_)
  rcases tells with known | ⟨className, jar, told⟩
  · exact Or.inl (shown.knows_iff.mp known)
  · refine Or.inr (List.ne_nil_of_mem (List.mem_filter.mpr ⟨told, ?_⟩))
    exact decide_eq_true rfl

end Contents

namespace Node

variable {σ : Type} [Backend σ] [LawfulBackend σ] {first node : Node σ} {request : Request}
  {requests : List Request}

/-- **In a sound store just the objects with a history are anchored.** -/
theorem Sound.anchored_iff (sound : node.Sound contents) :
    node.ledger.view.Anchored object ↔ node.ledger.view.knows object = true := by
  have shown := sound.holds.shows
  constructor
  · rintro ⟨newer, oldest, creation, className, jar, recorded, -⟩
    exact LedgerView.knows_of_history recorded (List.append_ne_nil_of_right_ne_nil _ (by simp))
  · intro known
    have nonempty := shown.knows_iff.mp known
    have last := List.getLast?_eq_some_getLast nonempty
    obtain ⟨creation, found, tagged⟩ := sound.sound.tagged object _ last
    obtain ⟨tag, looked⟩ := Option.isSome_iff_exists.mp tagged
    obtain ⟨member, about⟩ := List.mem_filter.mp (List.mem_of_find?_eq_some looked)
    have isTag := List.find?_some looked
    cases tag with
    | field => cases isTag
    | classTag other className jar =>
      obtain rfl : other = object := of_decide_eq_true about
      refine ⟨(contents.histories other).dropLast, (contents.histories other).getLast nonempty,
        creation, className, jar, ?_, ?_, member⟩
      · rw [shown.history_eq, List.dropLast_append_getLast nonempty]
      · rw [shown.response_eq, Contents.look, found]

/-! ### Closed nodes -/

/-- Every field of the store and every recorded response is closed, where the objects with a history
are known. -/
structure Closed (node : Node σ) : Prop where
  store : node.ledger.view.Closed
  responses : ∀ reference response, node.response reference = .ok (some response) →
    response.Closed (node.ledger.view.knows · = true)

theorem closed_start (config : NodeConfig) (root : Option String) :
    (start config { backend := Medium.blank root }).Closed := by
  have shown := (sound_start config root).holds.shows
  refine ⟨fun object field => ?_, fun reference response found => ?_⟩
  · rw [LedgerView.value_of_no_history (shown.history_eq object)]
    exact Value.suits_default _ _
  · have found : (start config { backend := Medium.blank root }).ledger.view.response reference =
      .ok (some response) := found
    rw [shown.response_eq] at found
    cases found

/-- A response that is recorded names objects that are known from then on. -/
theorem Sound.closed_of_accepts (sound : node.Sound contents) (closed : node.Closed)
    (accepts : node.accepted? request = some response) : (node.submitted request).Closed := by
  obtain ⟨_, recorded⟩ := sound.recorded accepts
  obtain ⟨outcome, cache, built, given⟩ := recorded.built
  obtain ⟨after, pushed, holds⟩ := holds_of_accepts sound.holds accepts
  have told := Outcome.closed recorded.fresh closed.store built given
  have tells : ∀ object, node.ledger.view.Tells response.updates object →
      (node.submitted request).ledger.view.knows object = true :=
    fun object => pushed.knows_of_tells sound.sound.intact sound.holds.shows holds.shows
  refine ⟨fun object field => ?_, fun other earlier found => ?_⟩
  · rw [recorded.value_eq]
    unfold LedgerView.valueAfter
    cases named : (response.updatesOf object).findSome? (LedgerView.valueOf? field) with
    | some value =>
      exact (told.fields object field value (Heap.findSome?_valueOf? named)).imp
        fun target _ => tells target
    | none => exact (closed.store object field).imp fun target _ known => tells target (Or.inl known)
  · by_cases same : other = node.next
    · subst same
      rw [(accepted?_eq_some.mp accepts).2] at found
      cases found
      exact told.imp tells
    · have found : (node.submitted request).ledger.view.response other = .ok (some earlier) := found
      have before : node.ledger.view.response other = .ok (some earlier) := by
        rw [holds.shows.response_eq, Contents.look, pushed.responses,
          Function.update_of_ne same] at found
        rw [sound.holds.shows.response_eq, Contents.look, found]
      exact (closed.responses other earlier before).imp fun target known =>
        tells target (Or.inl known)

/-- **A submission keeps a node closed.** -/
theorem Sound.closed_submitted (sound : node.Sound contents) (closed : node.Closed)
    (request : Request) : (node.submitted request).Closed := by
  cases accepts : node.accepted? request with
  | some response => exact sound.closed_of_accepts closed accepts
  | none =>
    have shown := sound.holds.shows
    have shownAfter := (holds_of_refuses sound.holds accepts).shows
    have knows : ∀ object, node.ledger.view.knows object = true →
        (node.submitted request).ledger.view.knows object = true :=
      fun object known => shownAfter.knows_iff.mpr (shown.knows_iff.mp known)
    refine ⟨fun object field => ?_, fun reference response found => ?_⟩
    · rw [shownAfter.value_eq sound.sound.intact, ← shown.value_eq sound.sound.intact]
      exact (closed.store object field).imp fun target _ => knows target
    · have found : (node.submitted request).ledger.view.response reference = .ok (some response) :=
        found
      rw [shownAfter.response_eq, ← shown.response_eq] at found
      exact (closed.responses reference response found).imp knows

/-- **Wherever submissions lead to, the node is closed.** -/
theorem Submitted.closed (reached : Submitted first node requests) (begins : first.Sound contents)
    (closed : first.Closed) : node.Closed := by
  induction reached with
  | start => exact closed
  | accepted earlier accepts ih | refused earlier refuses ih =>
    obtain ⟨_, sound⟩ := earlier.sound begins
    exact sound.closed_submitted ih _

variable {settings : NodeConfig} {root : Option String}

/-- **A ledger is typed, and no reference in it dangles**: wherever submissions to a node over an
empty store lead to, every value of a field in a recorded response fits the type of the field, and
every object that such a value points to, every event, and every object that a transaction made has
a history whose oldest entry tells its class. -/
theorem Submitted.references_anchored {node : Node Medium}
    (reached : Submitted (Node.start settings { backend := Medium.blank root }) node requests)
    (found : node.response reference = .ok (some response)) :
    response.Closed node.ledger.view.Anchored := by
  have begins := sound_start settings root
  obtain ⟨contents, sound⟩ := reached.sound begins
  have closed := reached.closed begins (closed_start settings root)
  exact (closed.responses reference response found).imp fun object => sound.anchored_iff.mpr

end Node

/-! ### An alarm that refers to its caller -/

namespace Alarms

open Node Purses

/-- The contract that raised an alarm. -/
def raisedBy : FieldSignature := ⟨"Alarm", "raisedBy", .object ClassName.contract⟩

/-- Events, and alarms that keep their caller and report themselves. -/
def unit : CodeUnit :=
  ⟨[{ BaseLibrary.event with superclass := none, constructors := [] },
    ⟨"Alarm", some ClassName.event, [⟨"raisedBy", .object ClassName.contract⟩],
      [⟨[], { Annotations.none with fromContract := true }, 0,
        [.load 0, .native "lang.caller" 0, .putField raisedBy, .load 0, .native "lang.emit" 1,
          .ret]⟩], []⟩]⟩

def installing : Request := .installInitialJar unit.toBytes [⟨⟨0⟩, false⟩]

def equipped : Node Medium := funded.submitted installing

def raising : Request :=
  .paid { header 0 with classpath := ⟨⟨2⟩, true⟩ } (.construct ⟨"Alarm", []⟩ [])

def raised : Node Medium := equipped.submitted raising

def alarm : ObjectRef := ⟨⟨3⟩, 0⟩

/-- The response of the alarm. -/
def answered : Response := (equipped.accepted? raising).getD .initialization

theorem submitted_raised :
    Submitted begun raised [Purses.installing, creation, installing, raising] := by
  have code : Submitted begun equipped [Purses.installing, creation, installing] :=
    submitted_funded.next (by decide +kernel)
  exact code.next (by decide +kernel)

/-- The alarm is made, reported and refers to the gamete; both are anchored. -/
theorem references_anchored_alarm :
    Submitted begun raised [Purses.installing, creation, installing, raising] ∧
      raised.response ⟨3⟩ = .ok (some answered) ∧ answered.newObject? = some alarm ∧
      answered.events = [alarm] ∧ .field alarm raisedBy (.reference gamete) ∈ answered.updates ∧
      answered.Closed raised.ledger.view.Anchored := by
  have facts : raised.response ⟨3⟩ = .ok (some answered) ∧ answered.newObject? = some alarm ∧
      answered.events = [alarm] ∧ .field alarm raisedBy (.reference gamete) ∈ answered.updates := by
    decide +kernel
  obtain ⟨found, made, told, refers⟩ := facts
  exact ⟨submitted_raised, found, made, told, refers,
    Submitted.references_anchored submitted_raised found⟩

end Alarms

end ObjectLedger
