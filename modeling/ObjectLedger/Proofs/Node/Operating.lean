/-
**The life of a node.**

* `Ledger.Resembles`: a store with the same uncommitted records.
* `Node.resembles_submitted`: a submission leaves the records that it found, or those that recording
  its outcome leaves. `Node.Ordered.resembles_event`: so it is for whatever is asked of a node, with
  one call to its store.
* `Node.Operated`: what a node goes through: whatever is asked of it, and its directory being opened
  again once nothing is pending there.
* **`Node.Operated.manifest_keeps`**: a manifest that was named stays.
-/
import ObjectLedger.Proofs.Node.Numbering
import ObjectLedger.Proofs.Store.Naming

namespace ObjectLedger

/-! ### Stores with the same records -/

/-- A store has the uncommitted records of another one. -/
structure Ledger.Resembles (after ledger : Ledger Medium) : Prop where
  answers : Backend.answers after.backend .uncommitted =
    Backend.answers ledger.backend .uncommitted
  holds : ∀ contents, ledger.Holds contents → after.Holds contents

namespace Ledger.Resembles

variable {ledger after : Ledger Medium}

theorem of_backend (same : after.backend = ledger.backend) : after.Resembles ledger where
  answers := by rw [same]
  holds contents holds := by
    unfold Holds at holds ⊢
    rwa [same]

variable (resembles : after.Resembles ledger)

include resembles

theorem response : Backend.response after.backend .uncommitted =
    Backend.response ledger.backend .uncommitted :=
  congrArg Answers.response resembles.answers

theorem request : Backend.request after.backend .uncommitted =
    Backend.request ledger.backend .uncommitted :=
  congrArg Answers.request resembles.answers

theorem error : Backend.error after.backend .uncommitted =
    Backend.error ledger.backend .uncommitted :=
  congrArg Answers.error resembles.answers

theorem manifest : Backend.manifest after.backend .uncommitted =
    Backend.manifest ledger.backend .uncommitted :=
  congrArg Answers.manifest resembles.answers

end Ledger.Resembles

/-! ### Stored requests -/

/-- Under the reference of a transaction its request is stored, whatever its outcome, and the requests
under other references stay. -/
theorem Ledger.request_of_noted {outcome : Outcome} {reference : TransactionRef}
    {request : Request} {ledger left : Ledger Medium}
    (ran : ledger.perform (outcome.call reference request) = (.ok (), left))
    (other : TransactionRef) :
    Backend.request left.backend .uncommitted other =
      if other = reference then .ok (some request)
      else Backend.request ledger.backend .uncommitted other := by
  have written : ∀ change : Records → Records,
      (∀ records, (change records).requests = records.requests.insert reference request) →
      Backend.request (Backend.write ledger.backend change) .uncommitted other =
        if other = reference then .ok (some request)
        else Backend.request ledger.backend .uncommitted other := by
    intro change inserts
    cases ledger.backend with
    | memory store =>
      show Except.ok ((change store.pending).requests.get? other <|>
        store.committed.requests.get? other) = _
      rw [inserts, Table.get?_insert]
      split <;> rfl
    | disk store =>
      show Disk.overlay .uncommitted ((change store.pending).requests.get? other) _ = _
      rw [inserts, Table.get?_insert]
      split <;> rfl
  cases outcome with
  | rejected reason =>
    obtain ⟨-, rfl⟩ := Prod.mk.inj ran
    exact written _ fun _ => rfl
  | completed response | failed response =>
    obtain ⟨histories, named, -, store⟩ := Ledger.push_eq_ok ran
    rw [store]
    exact written _ (requests_writeTransaction reference request response histories named)

namespace Node

variable {first node after : Node Medium} {request : Request} {manifest : ObjectRef}

/-! ### Events -/

/-- A commit changes no uncommitted record. -/
theorem resembles_commit (intact : node.ledger.backend.Intact) :
    (stateAfter commit node).ledger.Resembles node.ledger := by
  have left : (stateAfter commit node).ledger = node.ledger.commit.2 := by
    unfold commit stateAfter onLedger
    cases node.ledger.commit with
    | mk result ledger => cases result <;> rfl
  rw [left]
  refine ⟨?_, fun contents holds => Ledger.holds_commit holds⟩
  rw [node.ledger.commit_eq.2]
  exact Medium.answers_commit intact

theorem resembles_autoCommit (intact : node.ledger.backend.Intact) :
    (stateAfter autoCommit node).ledger.Resembles node.ledger := by
  have eq := autoCommit_eq node
  split at eq
  · rw [stateAfter, eq]
    exact resembles_commit intact
  · rw [stateAfter, eq]
    exact .of_backend rfl

/-- What is recorded of a request stays at the end of its submission. -/
theorem resembles_noted {outcome : Outcome} {ledger : Ledger Medium}
    (intact : node.ledger.backend.Intact) (made : node.outcomeOf request = .ok outcome)
    (ran : node.ledger.perform (outcome.call node.next request) = (.ok (), ledger)) :
    (node.submitted request).ledger.Resembles ledger := by
  have kept := Medium.retains.perform node.ledger intact (outcome.call node.next request)
  rw [ran] at kept
  rw [submitted_of_noted made ran]
  exact @resembles_autoCommit (node.noted request ledger) kept

/-- **A submission leaves the records that it found, or those that recording its outcome leaves.** -/
theorem resembles_submitted (intact : node.ledger.backend.Intact) (request : Request) :
    (node.submitted request).ledger.Resembles node.ledger ∨
      ∃ outcome ledger, node.outcomeOf request = .ok outcome ∧
        node.ledger.perform (outcome.call node.next request) = (.ok (), ledger) ∧
        (node.submitted request).ledger.Resembles ledger := by
  rcases node.submit_cases request with
    ⟨cause, cache, metrics, ended⟩ | ⟨outcome, ledger, made, ran⟩
  · rw [submitted, stateAfter_error ended]
    exact Or.inl (.of_backend rfl)
  · exact Or.inr ⟨outcome, ledger, made, ran, resembles_noted intact made ran⟩

/-- The event can bring new records. -/
def Event.records : Event → Bool
  | submit _ | redeliver _ => true
  | setNow _ | view _ | commit => false

theorem stateAfter_submit (node : Node Medium) (request : Request) :
    stateAfter (Event.submit request).perform node = node.submitted request :=
  stateAfter_bind_pure ..

/-- **Whatever is asked of a node leaves the records that it found**, or, if it can bring new ones,
those that one call to the store leaves. -/
theorem Ordered.resembles_event (ordered : node.Ordered) (event : Event) :
    (stateAfter event.perform node).ledger.Resembles node.ledger ∨ event.records = true ∧
      ∃ call, (stateAfter event.perform node).ledger.Resembles (node.ledger.perform call).2 := by
  cases event with
  | submit request =>
    rw [stateAfter_submit]
    rcases resembles_submitted ordered.intact request with
      same | ⟨outcome, ledger, -, ran, recorded⟩
    · exact Or.inl same
    · refine Or.inr ⟨rfl, outcome.call node.next request, ?_⟩
      rw [ran]
      exact recorded
  | redeliver delivery =>
    have left : stateAfter (Event.redeliver delivery).perform node = stateAfter
        (redeliver delivery.reference delivery.request delivery.response) node :=
      stateAfter_bind_pure ..
    rw [left, stateAfter, redeliver_eq]
    cases ran : node.ledger.deliver delivery with
    | mk result ledger =>
      cases result with
      | error cause => exact Or.inl (.of_backend (deliver_of_error ran))
      | ok done =>
        obtain ⟨found, -, rfl⟩ := exists_call_of_deliver ran
        exact Or.inr ⟨rfl, delivery.call found.isSome, @resembles_autoCommit
          { node with
            ledger := (node.ledger.perform (delivery.call found.isSome)).2
            cache := node.cache.clear
            next := node.nextAfter delivery.reference }
          (Medium.retains.perform node.ledger ordered.intact (delivery.call found.isSome))⟩
  | setNow now => exact Or.inl (.of_backend rfl)
  | view request =>
    have left : stateAfter (Event.view request).perform node = stateAfter (runView request) node :=
      stateAfter_bind_pure ..
    rw [left, stateAfter_runView]
    exact Or.inl (.of_backend rfl)
  | commit =>
    have left : stateAfter Event.commit.perform node = stateAfter commit node :=
      stateAfter_bind_pure ..
    rw [left]
    exact Or.inl (resembles_commit ordered.intact)

/-- Whatever is asked, a manifest that was named stays. -/
theorem Ordered.manifest_event (ordered : node.Ordered) (event : Event)
    (named : Backend.manifest node.ledger.backend .uncommitted = .ok (some manifest)) :
    Backend.manifest (stateAfter event.perform node).ledger.backend .uncommitted =
      .ok (some manifest) := by
  rcases ordered.resembles_event event with same | ⟨-, call, called⟩
  · rw [same.manifest, named]
  · rw [called.manifest]
    exact Ledger.manifest_keeps ordered.intact call named

/-! ### Opening again -/

/-- **A directory in which everything is committed gives the same records once it is opened again**,
to a node that goes on after the last of them. -/
theorem Ordered.reopened (ordered : node.Ordered) {disk again : Disk}
    (kept : node.ledger.backend = .disk disk) (settled : disk.pending = {})
    (opened : Disk.«open» disk.root disk.directory = .ok again) (config : NodeConfig) :
    Ordered (start config { backend := .disk again }) ∧
      (start config { backend := Medium.disk again }).ledger.Resembles node.ledger := by
  have intact : disk.Intact := by
    have intact := ordered.intact
    rw [kept] at intact
    exact intact
  refine ⟨ordered_start config (.opened intact.tree opened), ?_⟩
  obtain ⟨shape, -⟩ := intact.tree.absent_of_open opened
  obtain ⟨root, directory, pending, last⟩ := disk
  obtain rfl : pending = {} := settled
  rw [shape]
  refine ⟨?_, fun contents holds => ?_⟩
  · rw [kept]
    rfl
  · unfold Ledger.Holds at holds
    rw [kept] at holds
    have holds : Disk.Holds _ contents := holds
    exact Disk.Holds.mk ⟨holds.sound.tidy, Table.proper_empty, Table.proper_empty⟩
      holds.response_eq holds.history_eq

/-! ### Runs -/

/-- The request that is accepted by an event, and its reference. -/
def accepting? (node : Node Medium) : Event → Option (TransactionRef × Request)
  | .submit request => (node.accepted? request).map fun _ => (node.next, request)
  | _ => none

/-- **What a node goes through**: whatever is asked of it, as far as that is allowed, and its directory
being opened again, with any settings, where nothing is pending, as after a commit; with the requests
that were accepted, the last one first. -/
inductive Operated (allowed : Event → Prop) (first : Node Medium) :
    Node Medium → List (TransactionRef × Request) → Prop
  | start : Operated allowed first first []
  | asked {node : Node Medium} {log : List (TransactionRef × Request)} {event : Event}
      (earlier : Operated allowed first node log) (may : allowed event) :
      Operated allowed first (stateAfter event.perform node) ((node.accepting? event).toList ++ log)
  | reopened {node : Node Medium} {log : List (TransactionRef × Request)} {disk again : Disk}
      (earlier : Operated allowed first node log) (kept : node.ledger.backend = .disk disk)
      (settled : disk.pending = {}) (opened : Disk.«open» disk.root disk.directory = .ok again)
      (config : NodeConfig) :
      Operated allowed first (Node.start config { backend := .disk again }) log

variable {allowed : Event → Prop} {log : List (TransactionRef × Request)}

/-- A request that is submitted leads on. -/
theorem Operated.submitted (earlier : Operated allowed first node log) (request : Request)
    (may : allowed (.submit request)) : Operated allowed first (node.submitted request)
      ((node.accepting? (.submit request)).toList ++ log) := by
  rw [← stateAfter_submit]
  exact .asked earlier may

theorem Operated.ordered (run : Operated allowed first node log) (ordered : first.Ordered) :
    node.Ordered := by
  induction run with
  | start => exact ordered
  | asked earlier may ih => exact (ih.goesOn_event _).ordered
  | reopened earlier kept settled opened config ih => exact (ih.reopened kept settled opened config).1

/-- **A manifest that was named stays**, whatever a node goes through. -/
theorem Operated.manifest_keeps (run : Operated allowed first node log) (ordered : first.Ordered)
    (named : Backend.manifest first.ledger.backend .uncommitted = .ok (some manifest)) :
    Backend.manifest node.ledger.backend .uncommitted = .ok (some manifest) := by
  induction run with
  | start => exact named
  | asked earlier may ih => exact (earlier.ordered ordered).manifest_event _ ih
  | reopened earlier kept settled opened config ih =>
    exact ((earlier.ordered ordered).reopened kept settled opened config).2.manifest.trans ih

end Node

end ObjectLedger
