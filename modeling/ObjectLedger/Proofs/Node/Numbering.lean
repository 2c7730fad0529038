/-
**No reference is assigned twice.**

* `Node.Ordered`: the next reference is not below what follows the last one recorded.
  `Node.Ordered.free_of_le`: then nothing is recorded under it or above it, as long as nothing is
  recorded under the greatest reference there is.
* `Node.GoesOn`: a node is ordered, nothing that was recorded is lost, and the next reference does not
  go back. **`Node.Ordered.goesOn_event`**: so it is after everything that is asked of a node.
* `Node.assigned`: the references that a run assigns to requests.
* **`Node.references_assigned_once`**: the reference that a request gets is free and above all others
  that are recorded, and above those assigned before.
* **`Node.references_assigned_again`**: the greatest reference is assigned again and again.
-/
import ObjectLedger.Proofs.Node.Internal
import ObjectLedger.Proofs.Store.Numbering

namespace ObjectLedger.Node

variable {node middle after : Node Medium} {reference : TransactionRef}

/-! ### Ordered nodes -/

/-- The store is intact, nothing is recorded above its last reference, and the next reference is not
below the one that follows. -/
structure Ordered (node : Node Medium) : Prop where
  intact : node.ledger.backend.Intact
  bounded : node.ledger.backend.Bounded
  next : ∀ last, node.ledger.lastReference = some last → last.next ≤ node.next

/-- Nothing is recorded under the reference. -/
abbrev Free (node : Node Medium) (reference : TransactionRef) : Prop :=
  Backend.Free node.ledger.backend reference

/-- Any node that is started over a store is ordered. -/
theorem ordered_start (config : NodeConfig) {medium : Medium} (found : medium.Found) :
    (start config { backend := medium }).Ordered := by
  obtain ⟨intact, bounded⟩ := found.bounded
  refine ⟨intact, bounded, fun last same => ?_⟩
  have same : Backend.lastReference medium = some last := same
  show last.next ≤ (((Backend.lastReference medium).map TransactionRef.next).getD .first)
  rw [same]
  exact UInt64.le_refl _

/-- **The next reference and those above it are free** as long as the greatest one is. -/
theorem Ordered.free_of_le (ordered : node.Ordered) (room : node.Free .greatest)
    (above : node.next ≤ reference) : node.Free reference := by
  by_cases last : reference = .greatest
  · exact last ▸ room
  · exact ordered.bounded reference fun known same => TransactionRef.lt_of_next_le
      (TransactionRef.le_trans (ordered.next known same) above) last

/-- What is recorded is below the next reference. -/
theorem Ordered.lt_next (ordered : node.Ordered) (room : node.Free .greatest)
    (recorded : ¬ node.Free reference) : reference < node.next :=
  (TransactionRef.lt_or_le reference node.next).resolve_right fun above =>
    recorded (ordered.free_of_le room above)

/-- What is recorded is not above the next reference, and below it but for the greatest one. -/
theorem Ordered.le_next_of_recorded (ordered : node.Ordered) (recorded : ¬ node.Free reference) :
    reference ≤ node.next ∧ (reference ≠ .greatest → reference ≠ node.next) := by
  obtain ⟨last, found, above⟩ : ∃ last, node.ledger.lastReference = some last ∧
      reference ≤ last := by
    by_contra none
    refine recorded (ordered.bounded reference fun last found => ?_)
    exact (TransactionRef.lt_or_le _ _).resolve_right fun above => none ⟨last, found, above⟩
  have follows := TransactionRef.le_trans (TransactionRef.next_le_next above)
    (ordered.next last found)
  refine ⟨TransactionRef.le_trans reference.le_next follows, fun room same => ?_⟩
  subst same
  exact (TransactionRef.not_lt_of_le (UInt64.le_refl _))
    (TransactionRef.lt_of_next_le follows room)

/-! ### Going on -/

/-- A node is ordered after something was done, nothing that was recorded is lost, and the next
reference does not go back. -/
structure GoesOn (node after : Node Medium) : Prop where
  ordered : after.Ordered
  free : ∀ reference, after.Free reference → node.Free reference
  next_le : node.next ≤ after.next

theorem GoesOn.trans (first : GoesOn node middle) (second : GoesOn middle after) :
    GoesOn node after where
  ordered := second.ordered
  free reference free := first.free reference (second.free reference free)
  next_le := TransactionRef.le_trans first.next_le second.next_le

namespace Ordered

variable (ordered : node.Ordered)

include ordered

/-- Only the store and the next reference matter. -/
theorem goesOn_of_eq (store : after.ledger.backend = node.ledger.backend)
    (next : after.next = node.next) : GoesOn node after := by
  refine ⟨⟨store ▸ ordered.intact, store ▸ ordered.bounded, fun last same => ?_⟩,
    fun reference free => ?_, next ▸ UInt64.le_refl _⟩
  · rw [next]
    refine ordered.next last ?_
    unfold Ledger.lastReference at same ⊢
    rw [← store]
    exact same
  · unfold Free at free ⊢
    rw [← store]
    exact free

/-- **A call is recorded under a reference after which the node goes on.** -/
theorem goesOn_perform (call : Ledger.Call)
    (recorded : ∀ reference, call.reference? = some reference → reference.next ≤ after.next)
    (forward : node.next ≤ after.next)
    (store : after.ledger.backend = (node.ledger.perform call).2.backend) : GoesOn node after := by
  have kept : after.ledger.backend.Intact ∧ after.ledger.backend.Bounded ∧
      (∀ last, Backend.lastReference after.ledger.backend = some last → last.next ≤ after.next) ∧
      ∀ reference, Backend.Free after.ledger.backend reference → node.Free reference := by
    rw [store]
    refine (Ledger.perform_related node.ledger node.ledger (fun medium _ => medium.Intact ∧
      medium.Bounded ∧ (∀ last, Backend.lastReference medium = some last → last.next ≤ after.next) ∧
      ∀ reference, Backend.Free medium reference → node.Free reference) call rfl
      ⟨ordered.intact, ordered.bounded, fun last same =>
        TransactionRef.le_trans (ordered.next last same) forward,
        fun _ free => free⟩ (fun change writes => ?_) fun _ => ⟨rfl, ?_⟩).2
    · obtain ⟨puts, rfl, written⟩ := writes.exists_puts
      refine ⟨Medium.retains.write puts ordered.intact, ordered.bounded.write puts,
        fun last same => ?_, fun reference free => ((Medium.free_write _ puts).mp free).1⟩
      have isLatest := Medium.isLatest_write node.ledger.backend puts
      rw [same] at isLatest
      rcases isLatest.1 with before | here
      · exact TransactionRef.le_trans (ordered.next last before) forward
      · exact recorded last ((written last).mp here)
    · refine ⟨Medium.retains.commit ordered.intact, ordered.bounded.commit ordered.intact,
        fun last same => ?_, fun reference free => ?_⟩
      · rw [Medium.lastReference_commit ordered.intact] at same
        exact TransactionRef.le_trans (ordered.next last same) forward
      · exact (Backend.free_congr (Medium.answers_commit ordered.intact)).mp free
  exact ⟨⟨kept.1, kept.2.1, kept.2.2.1⟩, kept.2.2.2, forward⟩

theorem goesOn_commit : GoesOn node (stateAfter commit node) := by
  unfold commit stateAfter onLedger
  cases ran : node.ledger.commit with
  | mk result ledger =>
    have store : ledger.backend = (node.ledger.perform .commit).2.backend := by
      show _ = node.ledger.commit.2.backend
      rw [ran]
    cases result with
    | ok done =>
      exact ordered.goesOn_perform .commit (fun _ none => by cases none) (UInt64.le_refl _) store
    | error cause =>
      exact ordered.goesOn_perform .commit (fun _ none => by cases none) (UInt64.le_refl _) store

theorem goesOn_autoCommit : GoesOn node (stateAfter autoCommit node) := by
  have eq := autoCommit_eq node
  split at eq
  · rw [stateAfter, eq]
    exact ordered.goesOn_commit
  · rw [stateAfter, eq]
    exact ordered.goesOn_of_eq rfl rfl

end Ordered

/-! ### Requests -/

/-- Under the reference of a push or of a rejection something is recorded. -/
theorem not_free_of_perform {ledger left : Ledger Medium} {outcome : Outcome} {request : Request}
    (ran : ledger.perform (outcome.call reference request) = (.ok (), left)) :
    ¬ Backend.Free left.backend reference := by
  have written : ∀ change, (outcome.call reference request).Writes change →
      ¬ Backend.Free (Backend.write ledger.backend change) reference := by
    intro change writes free
    obtain ⟨puts, rfl, told⟩ := writes.exists_puts
    exact ((Medium.free_write _ puts).mp free).2 ((told reference).mpr (by cases outcome <;> rfl))
  cases outcome with
  | rejected reason =>
    obtain ⟨-, rfl⟩ := Prod.mk.inj ran
    exact written _ .pushError
  | completed response | failed response =>
    obtain ⟨histories, manifest, -, store⟩ := Ledger.push_eq_ok ran
    rw [store]
    exact written _ (.push histories manifest)

/-- The reference of a request that is accepted, or that is rejected as the next one. -/
def referenceOf (next : TransactionRef) :
    EStateM.Result NodeError (Node Medium) (TransactionRef × Response) → Option TransactionRef
  | .ok (reference, _) _ => some reference
  | .error (.rejected _) _ => some next
  | .error _ _ => none

/-- The reference that is assigned by an event. -/
def assigned? (node : Node Medium) : Event → Option TransactionRef
  | .submit request => referenceOf node.next (submit request node)
  | _ => none

/-- **A request leaves a node that goes on**, and what it is assigned is the next reference, under
which something is recorded then. -/
theorem Ordered.goesOn_submit (ordered : node.Ordered) (request : Request) :
    GoesOn node (stateAfter (submit request) node) ∧
      ∀ reference, node.assigned? (.submit request) = some reference →
        reference = node.next ∧ ¬ Free (stateAfter (submit request) node) reference := by
  rcases node.submit_cases request with
    ⟨cause, cache, metrics, ended⟩ | ⟨outcome, ledger, made, ran⟩
  · refine ⟨?_, fun reference assigned => ?_⟩
    · rw [stateAfter_error ended]
      exact ordered.goesOn_of_eq rfl rfl
    · rw [assigned?, ended] at assigned
      cases assigned
  · have ended := submit_of_noted made ran
    have left := submitted_of_noted made ran
    have noted : GoesOn node (node.noted request ledger) :=
      ordered.goesOn_perform (outcome.call node.next request)
        (fun reference same => by
          have same : node.next = reference := by
            cases outcome <;> exact Option.some.inj same
          rw [← same]
          exact UInt64.le_refl _)
        node.next.le_next (by rw [ran]; rfl)
    have committed := noted.ordered.goesOn_autoCommit
    rw [submitted] at left
    refine ⟨left ▸ noted.trans committed, fun reference assigned => ?_⟩
    have same : reference = node.next := by
      rw [assigned?, ended] at assigned
      cases stored : autoCommit (node.noted request ledger) with
      | error cause last =>
        obtain ⟨-, problem, backend, -, -, internal⟩ := autoCommit_error stored
        rw [bind_of_error stored, internal] at assigned
        cases assigned
      | ok done last =>
        rw [bind_of_ok stored] at assigned
        cases outcome <;> exact (Option.some.inj assigned).symm
    refine ⟨same, fun free => ?_⟩
    rw [left, same] at free
    exact not_free_of_perform ran (committed.free node.next free)

/-! ### Everything that is asked -/

/-- A delivery that is refused records nothing. -/
theorem deliver_of_error {ledger left : Ledger Medium} {delivery : Delivery} {cause : StoreError}
    (ran : ledger.deliver delivery = (.error cause, left)) : left.backend = ledger.backend := by
  unfold Ledger.deliver at ran
  split at ran
  · cases ran
    rfl
  · rename_i found look
    cases found with
    | none => exact (congrArg Ledger.backend (Ledger.eq_of_refused ran) :)
    | some response =>
      have ran : ledger.replace delivery.reference delivery.request delivery.response =
        (.error cause, left) := ran
      unfold Ledger.replace at ran
      rw [look] at ran
      cases ran

/-- A delivery that is taken is a call, depending on what is recorded under its reference. -/
theorem exists_call_of_deliver {ledger left : Ledger Medium} {delivery : Delivery}
    (ran : ledger.deliver delivery = (.ok (), left)) :
    ∃ found : Option Response,
      Backend.response ledger.backend .uncommitted delivery.reference = .ok found ∧
        left = (ledger.perform (delivery.call found.isSome)).2 := by
  unfold Ledger.deliver at ran
  split at ran
  · cases ran
  · rename_i found look
    exact ⟨found, look, by rw [ran]⟩

theorem le_nextAfter (node : Node Medium) (reference : TransactionRef) :
    node.next ≤ node.nextAfter reference := by
  unfold nextAfter
  split
  · split
    · rename_i ahead
      exact TransactionRef.le_trans ahead reference.le_next
    · exact UInt64.le_refl _
  · exact UInt64.le_refl _

/-- A node goes on after a delivery: a new transaction is passed if it is ahead, and a known one is
not above the last one. -/
theorem Ordered.next_le_nextAfter (ordered : node.Ordered) {found : Option Response}
    (look : node.response reference = .ok found) : reference.next ≤ node.nextAfter reference := by
  unfold nextAfter
  rw [look]
  cases found with
  | none =>
    dsimp only
    split
    · exact UInt64.le_refl _
    · rename_i behind
      exact TransactionRef.next_le_of_lt ((TransactionRef.lt_or_le _ _).resolve_right behind)
  | some response =>
    by_contra above
    have free := ordered.bounded reference fun last same => by
      have follows := ordered.next last same
      refine (TransactionRef.lt_or_le _ _).resolve_right fun below => above ?_
      exact TransactionRef.le_trans (TransactionRef.next_le_next below) follows
    have absent : node.response reference = .ok none := free.response
    rw [look] at absent
    cases absent

theorem Ordered.goesOn_redeliver (ordered : node.Ordered) (delivery : Delivery) :
    GoesOn node (stateAfter
      (redeliver delivery.reference delivery.request delivery.response) node) := by
  rw [stateAfter, redeliver_eq]
  cases ran : node.ledger.deliver delivery with
  | mk result ledger =>
    cases result with
    | error cause => exact ordered.goesOn_of_eq (deliver_of_error ran) rfl
    | ok done =>
      obtain ⟨found, look, rfl⟩ := exists_call_of_deliver ran
      have look : node.response delivery.reference = .ok found := look
      have recorded : ∀ reference, (delivery.call found.isSome).reference? = some reference →
          reference = delivery.reference := by
        intro reference same
        cases found <;> exact (Option.some.inj same).symm
      have delivered : GoesOn node { node with
          ledger := (node.ledger.perform (delivery.call found.isSome)).2
          cache := node.cache.clear
          next := node.nextAfter delivery.reference } :=
        ordered.goesOn_perform _
          (fun reference same => by
            rw [recorded reference same]
            exact ordered.next_le_nextAfter look)
          (node.le_nextAfter _) rfl
      exact delivered.trans delivered.ordered.goesOn_autoCommit

/-- **Whatever is asked of a node, it goes on.** -/
theorem Ordered.goesOn_event (ordered : node.Ordered) (event : Event) :
    GoesOn node (stateAfter event.perform node) := by
  cases event with
  | submit request =>
    show GoesOn node (stateAfter (submit request >>= fun answer =>
      pure (Reply.recorded answer.1 answer.2)) node)
    rw [stateAfter_bind_pure]
    exact (ordered.goesOn_submit request).1
  | redeliver delivery =>
    show GoesOn node (stateAfter (redeliver delivery.reference delivery.request delivery.response >>=
      fun _ => pure Reply.done) node)
    rw [stateAfter_bind_pure]
    exact ordered.goesOn_redeliver delivery
  | setNow now => exact ordered.goesOn_of_eq rfl rfl
  | view request =>
    show GoesOn node (stateAfter (runView request >>= fun result =>
      pure (Reply.returned result)) node)
    rw [stateAfter_bind_pure]
    rw [stateAfter_runView]
    exact ordered.goesOn_of_eq rfl rfl
  | commit =>
    show GoesOn node (stateAfter (commit >>= fun _ => pure Reply.done) node)
    rw [stateAfter_bind_pure]
    exact ordered.goesOn_commit

/-! ### Runs -/

/-- The references that a run assigns to requests, in order. -/
def assigned (node : Node Medium) : List Event → List TransactionRef
  | [] => []
  | event :: rest => (node.assigned? event).toList ++ (stateAfter event.perform node).assigned rest

/-- What an event assigns is the next reference, under which something is recorded then. -/
theorem Ordered.assigned?_eq (ordered : node.Ordered) {event : Event}
    (given : node.assigned? event = some reference) :
    reference = node.next ∧ ¬ Free (stateAfter event.perform node) reference := by
  cases event with
  | submit request =>
    show _ ∧ ¬ Free (stateAfter (submit request >>= fun answer =>
      pure (Reply.recorded answer.1 answer.2)) node) reference
    rw [stateAfter_bind_pure]
    exact (ordered.goesOn_submit request).2 reference given
  | redeliver delivery | setNow now | view request | commit => cases given

/-- **A run goes on**, and what it assigns is recorded, not below the first node's next reference, and
in increasing order. -/
theorem Ordered.run (ordered : node.Ordered) (events : List Event) :
    GoesOn node (node.run events).2 ∧
      (∀ reference ∈ node.assigned events,
        node.next ≤ reference ∧ ¬ Free (node.run events).2 reference) ∧
      (Free (node.run events).2 .greatest → (node.assigned events).Pairwise (· < ·)) := by
  induction events generalizing node with
  | nil =>
    exact ⟨ordered.goesOn_of_eq rfl rfl, fun _ absent => (by cases absent), fun _ => .nil⟩
  | cons event rest ih =>
    have step := ordered.goesOn_event event
    obtain ⟨goesOn, each, increasing⟩ := ih step.ordered
    refine ⟨step.trans goesOn, fun reference member => ?_, fun room => ?_⟩
    · rcases List.mem_append.mp member with here | later
      · obtain ⟨same, recorded⟩ := ordered.assigned?_eq (Option.mem_toList.mp here)
        exact ⟨same ▸ UInt64.le_refl _, fun free => recorded (goesOn.free reference free)⟩
      · obtain ⟨above, recorded⟩ := each reference later
        exact ⟨TransactionRef.le_trans step.next_le above, recorded⟩
    · refine List.pairwise_append.mpr ⟨?_, increasing room, fun first here second later => ?_⟩
      · cases node.assigned? event <;> simp
      · have recorded := (ordered.assigned?_eq (Option.mem_toList.mp here)).2
        have below := step.ordered.lt_next (goesOn.free _ room) recorded
        exact UInt64.lt_of_lt_of_le below (each second later).1

/-- **No reference is assigned twice**, whatever requests, deliveries, views and commits come in
between, as long as nothing is recorded under the greatest reference: the one that a request gets is
free, it is above all under which something is recorded, and the references that were assigned
increase. -/
theorem references_assigned_once {medium : Medium} (found : medium.Found) (config : NodeConfig)
    (events : List Event)
    (room : Free ((start config { backend := medium }).run events).2 .greatest) :
    let first := start config { backend := medium }
    let node := (first.run events).2
    node.Free node.next ∧ (∀ reference, ¬ node.Free reference → reference < node.next) ∧
      (first.assigned events ++ [node.next]).Pairwise (· < ·) ∧
      ∀ request reference, node.assigned? (.submit request) = some reference →
        reference = node.next ∧ ¬ Free (stateAfter (submit request) node) reference := by
  intro first node
  obtain ⟨goesOn, each, increasing⟩ := (ordered_start config found).run events
  have below : ∀ reference, ¬ node.Free reference → reference < node.next := fun _ recorded =>
    goesOn.ordered.lt_next room recorded
  refine ⟨goesOn.ordered.free_of_le room (UInt64.le_refl _), below, ?_, fun request =>
    (goesOn.ordered.goesOn_submit request).2⟩
  refine List.pairwise_append.mpr ⟨increasing room, List.pairwise_singleton _ _, ?_⟩
  intro reference member last here
  rw [List.mem_singleton.mp here]
  exact below reference (each reference member).2

/-! ### The greatest reference -/

/-- A node over memory. -/
def numbering : Node Medium := start {} { backend := .memory {} }

/-- The installation of a code unit without classes, which needs one that is not there. -/
def installingOver (missing : TransactionRef) : Request :=
  .installInitialJar [0] [⟨missing, false⟩]

/-- The delivery of a code unit without classes. -/
def deliveringNothing (reference : TransactionRef) : Event :=
  .redeliver ⟨reference, installingNothing, .initialJar [0] []⟩

/-- Deliveries ahead of the node and behind it, a request that is accepted, and two that are
rejected. -/
def someEvents : List Event :=
  [deliveringNothing ⟨5⟩, .submit installingNothing, deliveringNothing ⟨2⟩,
    .submit (installingOver ⟨9⟩), deliveringNothing ⟨11⟩, .submit (installingOver ⟨9⟩)]

/-- The references of the three requests increase. -/
theorem references_assigned_once_someEvents :
    Medium.Found (.memory {}) ∧ Free (numbering.run someEvents).2 .greatest ∧
      (numbering.run someEvents).2.next = ⟨13⟩ ∧ Free (numbering.run someEvents).2 ⟨13⟩ ∧
      numbering.assigned someEvents = [⟨6⟩, ⟨7⟩, ⟨12⟩] ∧
      (numbering.assigned someEvents ++ [TransactionRef.mk 13]).Pairwise (· < ·) := by
  have room : Free (numbering.run someEvents).2 .greatest := ⟨by decide +kernel, by decide +kernel⟩
  have next : (numbering.run someEvents).2.next = ⟨13⟩ := by decide +kernel
  obtain ⟨free, -, increasing, -⟩ := references_assigned_once (.memory {}) {} someEvents room
  exact ⟨.memory {}, room, next, next ▸ free, by decide +kernel, next ▸ increasing⟩

/-- **The greatest reference is assigned again and again**, also when something is recorded there. -/
theorem references_assigned_again :
    ¬ ∀ (medium : Medium) (config : NodeConfig) (events : List Event), medium.Found →
      let first := start config { backend := medium }
      let node := (first.run events).2
      ∀ request reference, node.assigned? (.submit request) = some reference →
        node.Free reference ∧ (∀ other, ¬ node.Free other → other < reference) ∧
          (first.assigned events ++ [reference]).Pairwise (· < ·) := by
  intro once
  have last : (numbering.run [deliveringNothing .greatest]).2.assigned?
      (.submit (installingOver ⟨9⟩)) = some .greatest := by decide +kernel
  have free := (once (.memory {}) {} [deliveringNothing .greatest] (.memory {}) _ _ last).1.response
  have recorded : Backend.response (numbering.run [deliveringNothing .greatest]).2.ledger.backend
      .uncommitted .greatest = .ok (some (.initialJar [0] [])) := by decide +kernel
  cases free.symm.trans recorded

end ObjectLedger.Node
