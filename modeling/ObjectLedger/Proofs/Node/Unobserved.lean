/-
**Caches, views and commits do not show.**

* `NodeConfig.tuned`: other settings for the cache and for automatic commits. `Build.Oblivious`: they do
  not matter, and neither does what is kept. `Outcome.oblivious_ofRequest`,
  `Outcome.oblivious_ofView`: it holds of all outcomes.
* `Node.Follows`: a node looks like a plain one in memory, which neither keeps classpaths nor commits.
  `Node.Follows.alongside_submit`, `Node.Follows.alongside_redeliver`: transactions and deliveries end
  in the same way on both. `Node.Follows.commit`, `Node.Follows.view`: commits and views of the one
  node do not show.
* `Node.Event`, `Node.run`: what is asked of a node, and the answers.
  **`Node.Follows.run`**: a run follows the plain run of the events that count.
* **`Node.runs_showSame`**: so two runs with the same such events give the same answers.
-/
import ObjectLedger.Proofs.Node.Installation
import ObjectLedger.Proofs.Node.Redelivery
import ObjectLedger.Proofs.Node.Serving
import ObjectLedger.Proofs.Node.Viewing
import ObjectLedger.Proofs.Store.Uncommitted

namespace ObjectLedger

/-! ### Settings that do not matter -/

/-- The settings with others for the cache and for automatic commits. -/
def NodeConfig.tuned (config : NodeConfig) (loaderCacheSize : UInt64) (autoCommit : Bool) :
    NodeConfig :=
  { config with loaderCacheSize, autoCommit }

/-- What is built depends neither on these settings nor on what is kept. -/
structure Build.Oblivious (build : NodeConfig → LedgerView → Build Outcome) : Prop where
  tuned : ∀ config size always view, build (config.tuned size always) view = build config view
  alongside : ∀ config view, Alongside (ClasspathCache.BothCurrent view (Build.limits config))
    (fun _ => True) (build config view)

namespace Outcome

theorem oblivious_ofRequest (reference : TransactionRef) (request : Request) :
    Build.Oblivious fun config view => ofRequest config view reference request where
  tuned config size always view := by
    cases request with
    | paid header action => cases action <;> rfl
    | _ => rfl
  alongside config view := alongside_ofRequest (Build.alongside_link config view _) _ _

theorem oblivious_ofView (reference : TransactionRef) (request : Request) :
    Build.Oblivious fun config view => ofView config view reference request where
  tuned config size always view := by
    cases request with
    | paid header action => cases action <;> rfl
    | _ => rfl
  alongside config view := alongside_ofView (Build.alongside_link config view _) _ _

end Outcome

/-! ### Responses that stay -/

namespace Ledger

variable {ledger after : Ledger Medium} {contents : Contents}

/-- A call that overwrites nothing forgets no response. -/
theorem extends_perform (holds : ledger.Holds contents) {call : Call}
    (adds : call.isReplace = false) : (ledger.perform call).2.view.Extends ledger.view := by
  obtain ⟨later, holdsLater, makes⟩ := holds_perform holds call
  cases makes with
  | unchanged => exact holds.shows.extends holdsLater.shows
  | pushed pushed => exact pushed.extends holds.shows holdsLater.shows
  | replaced => cases adds

/-- A delivery that is refused changes no response. -/
theorem extends_of_refused (holds : ledger.Holds contents) {delivery : Delivery}
    {cause : StoreError} (refused : ledger.deliver delivery = (.error cause, after)) :
    after.view.Extends ledger.view := by
  have same : ∀ reference response, ledger.view.response reference = .ok (some response) →
      ledger.view.response reference = .ok (some response) := fun _ _ found => found
  unfold deliver at refused
  split at refused
  · cases refused
    exact same
  · rename_i found look
    cases found with
    | none =>
      have adds : (delivery.call false).isReplace = false := rfl
      have kept := extends_perform holds adds
      have refused : ledger.perform (delivery.call false) = (.error cause, after) := refused
      rw [refused] at kept
      exact kept
    | some old =>
      have refused : ledger.replace delivery.reference delivery.request delivery.response =
        (.error cause, after) := refused
      unfold replace at refused
      rw [look] at refused
      cases refused

/-- A delivery is the same for a store that looks like another. -/
theorem Follows.deliver {plain : Ledger Medium} (follows : ledger.Follows plain)
    (delivery : Delivery) : (ledger.deliver delivery).1 = (plain.deliver delivery).1 ∧
      (ledger.deliver delivery).2.Follows (plain.deliver delivery).2 := by
  have known : Backend.response ledger.backend .uncommitted =
      Backend.response plain.backend .uncommitted :=
    congrArg Answers.response follows.backend.answers_eq
  unfold Ledger.deliver
  rw [known]
  cases Backend.response plain.backend .uncommitted delivery.reference with
  | error cause => exact ⟨rfl, follows⟩
  | ok found =>
    refine follows.perform ?_
    unfold Delivery.call
    split <;> rfl

end Ledger

theorem Build.settle_of_sameEnd {related : ClasspathCache → ClasspathCache → Prop}
    {build : Build Outcome} {cache other : ClasspathCache}
    (same : SameEnd related (build cache) (build other)) :
    (build.settle cache).1 = (build.settle other).1 ∧
      related (build.settle cache).2 (build.settle other).2 := by
  unfold settle
  generalize build cache = left at same ⊢
  generalize build other = right at same ⊢
  cases same with
  | ok relates => exact ⟨rfl, relates⟩
  | @error cause _ _ relates => cases cause <;> exact ⟨rfl, relates⟩

/-- A record could not be written. -/
def NodeError.isOfWriting : NodeError → Bool
  | .internal (.store cause) => cause.isOfWriting
  | _ => false

/-- All records could be written. -/
def NodeError.NotOfWriting (error : NodeError) : Prop :=
  error.isOfWriting = false

namespace Node

open NodeError

/-! ### Nodes that look alike -/

/-- An answer to a view leaves the node as it is. -/
theorem stateAfter_answerView (reference : TransactionRef) (outcome : Outcome)
    (node : Node Medium) : stateAfter (answerView reference outcome) node = node := by
  cases outcome with
  | rejected reason => rfl
  | completed response | failed response =>
    show stateAfter (NodeAction.ofExcept (response.methodResult reference)) node = node
    cases response.methodResult reference <;> rfl

theorem stateAfter_building (build : Build Outcome) (node : Node Medium) :
    stateAfter (building build.settle) node =
      { node with cache := (build.settle node.cache).2 } := by
  unfold stateAfter building
  generalize build.settle node.cache = settled
  obtain ⟨_ | _, _⟩ := settled <;> rfl

/-- A view changes only which classpaths are kept. -/
theorem stateAfter_runView (node : Node Medium) (request : Request) :
    stateAfter (runView request) node = { node with
      cache := ((Outcome.ofView node.config node.ledger.view node.next request).settle
        node.cache).2 } := by
  have same : stateAfter (runView request) node = stateAfter (building (Outcome.ofView node.config
      node.ledger.view node.next request).settle >>= answerView node.next) node := by
    unfold stateAfter
    rw [runView_eq]
  rw [same, stateAfter_bind_of_still (stateAfter_answerView node.next), stateAfter_building]

/-- A node over an empty store, with the settings but for the cache and automatic commits. -/
def fresh (config : NodeConfig) (size : UInt64) (always : Bool) : Node Medium :=
  start (config.tuned size always) { backend := Medium.blank config.storeDir }

/-- **The node looks like a plain one**, which keeps its records in memory, and neither keeps
classpaths nor commits by itself. -/
structure Follows (node plain : Node Medium) : Prop where
  settings : plain.config = node.config.tuned 0 false
  ledger : node.ledger.Follows plain.ledger
  next : node.next = plain.next
  current : node.Current
  plainCurrent : plain.Current

namespace Follows

variable {node plain : Node Medium}

theorem exists_holds (follows : node.Follows plain) :
    ∃ contents, plain.ledger.Holds contents := by
  obtain ⟨own, memory, -, same, -⟩ := follows.ledger.backend
  refine ⟨memory.contents, ?_⟩
  show LawfulBackend.Holds plain.ledger.backend _
  rw [same]
  rfl

theorem fresh (config : NodeConfig) (size : UInt64) (always : Bool) :
    (Node.fresh config size always).Follows
      (start (config.tuned 0 false) { backend := Medium.blank none }) where
  settings := rfl
  ledger := ⟨.blank config.storeDir, rfl⟩
  next := by
    show ((Backend.lastReference (Medium.blank config.storeDir)).map _).getD _ = _
    cases config.storeDir <;> rfl
  current := current_start _ config.storeDir
  plainCurrent := current_start _ none

/-- The plain node keeps what linking gives if and only if the other one does. -/
theorem current_iff (follows : node.Follows plain) {cache : ClasspathCache} :
    ClasspathCache.Current node.ledger.view (Build.limits node.config) cache ↔
      ClasspathCache.Current plain.ledger.view (Build.limits plain.config) cache := by
  rw [follows.ledger.view_eq, follows.settings]
  rfl

/-- Other caches of what linking gives. -/
theorem withCaches (follows : node.Follows plain) {cache other : ClasspathCache}
    (current : ClasspathCache.Current plain.ledger.view (Build.limits plain.config) cache)
    (plainCurrent : ClasspathCache.Current plain.ledger.view (Build.limits plain.config) other) :
    Follows { node with cache } { plain with cache := other } :=
  ⟨follows.settings, follows.ledger, follows.next, follows.current_iff.mpr current, plainCurrent⟩

/-- Stores that look alike and have forgotten no response. -/
theorem withLedgers (follows : node.Follows plain) {ledger other : Ledger Medium}
    (after : ledger.Follows other) (newer : other.view.Extends plain.ledger.view) :
    Follows { node with ledger } { plain with ledger := other } where
  settings := follows.settings
  ledger := after
  next := follows.next
  current := by
    have kept := follows.current
    unfold Current at kept ⊢
    rw [follows.ledger.view_eq] at kept
    show ClasspathCache.Current ledger.view _ _
    rw [after.view_eq]
    exact kept.extends newer
  plainCurrent := follows.plainCurrent.extends newer

/-! ### Commits -/

/-- **A commit of the one node does not show.** -/
theorem commit (follows : node.Follows plain) (stops : StopsOnly NotOfWriting Node.commit node) :
    ∃ after, Node.commit node = .ok () after ∧ after.Follows plain := by
  cases ran : node.ledger.commit with
  | mk result ledger =>
    cases result with
    | error cause =>
      have failed := stops _ _ (onLedger_of_error Ledger.commit ran)
      obtain ⟨own, memory, tracks, -, -⟩ := follows.ledger.backend
      have written := tracks.mirrors.isOfWriting_of_commit
        (node.ledger.commit_eq.1.symm.trans (congrArg Prod.fst ran))
      cases written.symm.trans failed
    | ok done =>
      have after := follows.ledger.commit (congrArg Prod.fst ran)
      rw [ran] at after
      exact ⟨_, onLedger_of_ok Ledger.commit ran, follows.withLedgers after fun _ _ found => found⟩

theorem alongside_autoCommit :
    Alongside Follows NotOfWriting (autoCommit : NodeAction Medium Unit) := by
  intro node plain follows stops
  have plainly : Node.autoCommit plain = .ok () plain := by
    rw [autoCommit_eq, follows.settings]
    rfl
  rw [plainly, autoCommit_eq]
  unfold StopsOnly at stops
  rw [autoCommit_eq] at stops
  split
  · rename_i always
    rw [if_pos always] at stops
    obtain ⟨after, ran, goesOn⟩ := follows.commit stops
    rw [ran]
    exact .ok goesOn
  · exact .ok follows

/-! ### Transactions -/

theorem alongside_goOnAt (reference : TransactionRef) :
    Alongside Follows NotOfWriting (goOnAt reference : NodeAction Medium Unit) :=
  fun _ _ follows _ =>
    .ok ⟨follows.settings, follows.ledger, rfl, follows.current, follows.plainCurrent⟩

theorem sameEnd_onLedger (step : Ledger Medium → Except StoreError Unit × Ledger Medium)
    (result : (step node.ledger).1 = (step plain.ledger).1)
    (after : Follows { node with ledger := (step node.ledger).2 }
      { plain with ledger := (step plain.ledger).2 }) :
    SameEnd Follows (onLedger step node) (onLedger step plain) := by
  unfold onLedger
  generalize step node.ledger = left at result after
  generalize step plain.ledger = right at result after
  obtain ⟨_ | ⟨⟨⟩⟩, _⟩ := left <;> obtain ⟨_ | ⟨⟨⟩⟩, _⟩ := right <;> cases result
  · exact .error after
  · exact .ok after

/-- A call that overwrites nothing. -/
theorem alongside_perform (call : Ledger.Call) (pending : call.isCommit = false)
    (adds : call.isReplace = false) :
    Alongside Follows NotOfWriting (onLedger fun ledger => ledger.perform call) := by
  intro node plain follows _
  obtain ⟨contents, holds⟩ := follows.exists_holds
  obtain ⟨result, after⟩ := follows.ledger.perform pending
  exact sameEnd_onLedger _ result (follows.withLedgers after (Ledger.extends_perform holds adds))

theorem alongside_recordResponse (reference : TransactionRef) (request : Request)
    (response : Response) :
    Alongside Follows NotOfWriting (recordResponse reference request response) :=
  (alongside_perform (.push reference request response) rfl rfl).bind fun _ =>
    (alongside_goOnAt _).bind fun _ => alongside_autoCommit

theorem alongside_recordRejection (reference : TransactionRef) (request : Request)
    (reason : String) :
    Alongside Follows NotOfWriting (recordRejection reference request reason) := by
  refine Alongside.bind ?_ fun _ => (alongside_goOnAt _).bind fun _ => alongside_autoCommit
  intro node plain follows _
  obtain ⟨contents, holds⟩ := follows.exists_holds
  let call : Ledger.Call := .pushError reference request reason
  have pending : call.isCommit = false := rfl
  have adds : call.isReplace = false := rfl
  exact .ok (follows.withLedgers (follows.ledger.perform pending).2
    (Ledger.extends_perform holds adds))

theorem alongside_record (reference : TransactionRef) (request : Request) (outcome : Outcome) :
    Alongside Follows NotOfWriting (record reference request outcome) := by
  cases outcome with
  | rejected reason =>
    exact (alongside_recordRejection _ _ _).bind fun _ => alongside_throw _
  | completed response | failed response =>
    exact (alongside_recordResponse _ _ _).bind fun _ => alongside_pure _

/-- A node builds what the plain one builds, and both keep what linking gives. -/
theorem settle_eq (follows : node.Follows plain) {build : NodeConfig → LedgerView → Build Outcome}
    (oblivious : Build.Oblivious build) :
    ((build node.config node.ledger.view).settle node.cache).1 =
        ((build plain.config plain.ledger.view).settle plain.cache).1 ∧
      ClasspathCache.BothCurrent plain.ledger.view (Build.limits plain.config)
        ((build node.config node.ledger.view).settle node.cache).2
        ((build plain.config plain.ledger.view).settle plain.cache).2 := by
  have same := Build.settle_of_sameEnd (oblivious.alongside plain.config plain.ledger.view node.cache
    plain.cache ⟨follows.current_iff.mp follows.current, follows.plainCurrent⟩ fun _ _ _ => trivial)
  rw [← oblivious.tuned node.config 0 false, ← follows.settings, follows.ledger.view_eq]
  exact same

/-- **What is built does not depend on what is kept.** -/
theorem sameEnd_building (follows : node.Follows plain)
    {build : NodeConfig → LedgerView → Build Outcome} (oblivious : Build.Oblivious build) :
    SameEnd Follows (building (build node.config node.ledger.view).settle node)
      (building (build plain.config plain.ledger.view).settle plain) := by
  obtain ⟨result, current, plainCurrent⟩ := follows.settle_eq oblivious
  have goesOn := follows.withCaches current plainCurrent
  unfold building
  generalize (build node.config node.ledger.view).settle node.cache = left at result goesOn
  generalize (build plain.config plain.ledger.view).settle plain.cache = right at result goesOn
  obtain ⟨_ | _, _⟩ := left <;> obtain ⟨_ | _, _⟩ := right <;> cases result
  · exact .error goesOn
  · exact .ok goesOn

/-- **A transaction ends as in the plain node.** -/
theorem alongside_submit (request : Request) :
    Alongside Follows NotOfWriting (submit request : NodeAction Medium _) := by
  intro node plain follows stops
  have built := follows.sameEnd_building (Outcome.oblivious_ofRequest plain.next request)
  unfold StopsOnly at stops
  rw [submit_eq, follows.next] at stops
  rw [submit_eq, submit_eq, follows.next]
  exact built.bind fun outcome after last ran goesOn =>
    alongside_record plain.next request outcome after last goesOn (StopsOnly.rest stops ran)

theorem alongside_answerView (reference : TransactionRef) (outcome : Outcome) :
    Alongside Follows (fun _ => True) (answerView reference outcome) := by
  cases outcome with
  | rejected reason => exact alongside_throw _
  | completed response | failed response =>
    show Alongside Follows _ (NodeAction.ofExcept (response.methodResult reference))
    cases response.methodResult reference with
    | ok result => exact alongside_pure _
    | error cause => exact alongside_throw _

/-- **A view gives what it gives in the plain node.** -/
theorem sameEnd_view (follows : node.Follows plain) (request : Request) :
    SameEnd Follows (runView request node) (runView request plain) := by
  have built := follows.sameEnd_building (Outcome.oblivious_ofView plain.next request)
  rw [runView_eq, runView_eq, follows.next]
  exact built.bind fun outcome after last _ goesOn =>
    alongside_answerView plain.next outcome after last goesOn fun _ _ _ => trivial

/-- **A view of the one node does not show.** -/
theorem view (follows : node.Follows plain) (request : Request) :
    (stateAfter (runView request) node).Follows plain := by
  obtain ⟨-, current, -⟩ := follows.settle_eq (Outcome.oblivious_ofView node.next request)
  rw [stateAfter_runView]
  exact follows.withCaches current follows.plainCurrent

theorem nextAfter_eq (follows : node.Follows plain) (reference : TransactionRef) :
    node.nextAfter reference = plain.nextAfter reference := by
  have known : node.response reference = plain.response reference :=
    congrFun (congrArg Answers.response follows.ledger.backend.answers_eq) reference
  unfold nextAfter
  rw [known, follows.next]

/-- **A delivery ends as in the plain node.** -/
theorem alongside_redeliver (delivery : Delivery) :
    Alongside Follows NotOfWriting
      (redeliver delivery.reference delivery.request delivery.response) := by
  intro node plain follows stops
  obtain ⟨contents, holds⟩ := follows.exists_holds
  obtain ⟨result, after⟩ := follows.ledger.deliver delivery
  have next := follows.nextAfter_eq delivery.reference
  unfold StopsOnly at stops
  rw [redeliver_eq] at stops
  rw [redeliver_eq, redeliver_eq]
  cases ran : plain.ledger.deliver delivery with
  | mk plainResult plainLedger =>
    rw [ran] at result after
    generalize node.ledger.deliver delivery = left at result after stops
    obtain ⟨_, ledger⟩ := left
    cases result
    cases plainResult with
    | error cause =>
      exact .error (follows.withLedgers after (Ledger.extends_of_refused holds ran))
    | ok done =>
      refine alongside_autoCommit _ _ ⟨follows.settings, after, next, ?_, ?_⟩ stops
      · exact fun _ _ found => by cases found
      · exact fun _ _ found => by cases found

end Follows

/-! ### Runs -/

/-- What is asked of a node. -/
inductive Event where
  | submit (request : Request)
  | redeliver (delivery : Delivery)
  | setNow (now : UInt64)
  | view (request : Request)
  | commit

/-- What a node answers if it does what it is asked. -/
inductive Reply where
  | recorded (reference : TransactionRef) (response : Response)
  | returned (result : Option Value)
  | done
  deriving DecidableEq, Repr

namespace Event

/-- The action of an event. -/
def perform : Event → NodeAction Medium Reply
  | submit request => do
    let (reference, response) ← Node.submit request
    return .recorded reference response
  | redeliver delivery => do
    Node.redeliver delivery.reference delivery.request delivery.response
    return .done
  | setNow now => do
    modify fun node => { node with ledger := { node.ledger with now } }
    return .done
  | view request => do
    let result ← runView request
    return .returned result
  | commit => do
    Node.commit
    return .done

/-- The event is neither a view nor a commit. -/
def counts : Event → Bool
  | view _ | commit => false
  | _ => true

end Event

/-- The answers to events, one after the other, and the node after all of them. -/
def run (node : Node Medium) : List Event → List (Event × Except NodeError Reply) × Node Medium
  | [] => ([], node)
  | event :: rest =>
    let (answers, last) := (stateAfter event.perform node).run rest
    ((event, resultOf event.perform node) :: answers, last)

theorem run_append (node : Node Medium) (events others : List Event) :
    (node.run (events ++ others)).1 = (node.run events).1 ++ ((node.run events).2.run others).1 := by
  induction events generalizing node with
  | nil => rfl
  | cons event rest ih => exact congrArg (List.cons _) (ih _)

/-- The answer is that a record could not be written. -/
def failsToWrite : Except NodeError Reply → Bool
  | .error error => error.isOfWriting
  | .ok _ => false

namespace Follows

variable {node plain : Node Medium}

/-- An event that counts ends as in the plain node. -/
theorem alongside_event {event : Event} (counts : event.counts = true) :
    Alongside Follows NotOfWriting event.perform := by
  cases event with
  | submit request => exact (alongside_submit request).bind fun _ => alongside_pure _
  | redeliver delivery => exact (alongside_redeliver delivery).bind fun _ => alongside_pure _
  | setNow now =>
    intro node plain follows _
    exact .ok (follows.withLedgers ⟨follows.ledger.backend, rfl⟩ fun _ _ found => found)
  | view request | commit => cases counts

/-- Another event does not show. -/
theorem event (follows : node.Follows plain) {event : Event} (hidden : event.counts = false)
    (stops : StopsOnly NotOfWriting event.perform node) :
    (stateAfter event.perform node).Follows plain := by
  cases event with
  | submit request | redeliver delivery | setNow now => cases hidden
  | view request =>
    show (stateAfter (runView request >>= fun result => pure (Reply.returned result)) node).Follows _
    rw [stateAfter_bind_pure]
    exact follows.view request
  | commit =>
    obtain ⟨after, ran, goesOn⟩ := follows.commit (StopsOnly.first stops)
    show (stateAfter (Node.commit >>= fun _ => pure Reply.done) node).Follows plain
    rw [stateAfter_bind_pure fun _ => Reply.done, stateAfter_ok ran]
    exact goesOn

/-- **A run follows the plain run of the events that count**, as long as records can be written. -/
theorem run (follows : node.Follows plain) (events : List Event)
    (written : ∀ entry ∈ (node.run events).1, failsToWrite entry.2 = false) :
    (node.run events).1.filter (fun entry => entry.1.counts) =
        (plain.run (events.filter Event.counts)).1 ∧
      (node.run events).2.Follows (plain.run (events.filter Event.counts)).2 := by
  induction events generalizing node plain with
  | nil => exact ⟨rfl, follows⟩
  | cons event rest ih =>
    obtain ⟨head, others⟩ := List.forall_mem_cons.mp written
    have stops : StopsOnly NotOfWriting event.perform node := by
      intro error after stopped
      have told : resultOf event.perform node = .error error := by rw [resultOf, stopped]
      have head : failsToWrite (resultOf event.perform node) = false := head
      rw [told] at head
      exact head
    cases kind : event.counts with
    | true =>
      have same := alongside_event kind node plain follows stops
      obtain ⟨answers, last⟩ := ih same.stateAfter others
      rw [List.filter_cons_of_pos kind]
      refine ⟨?_, last⟩
      show List.filter _ ((event, resultOf event.perform node) :: _) = _
      simp only [List.filter_cons, kind, if_true]
      exact congr (congrArg List.cons (congrArg (Prod.mk event) same.resultOf_eq)) answers
    | false =>
      obtain ⟨answers, last⟩ := ih (follows.event kind stops) others
      rw [List.filter_cons_of_neg (by simp [kind])]
      refine ⟨?_, last⟩
      show List.filter _ ((event, resultOf event.perform node) :: _) = _
      simp only [List.filter_cons, kind]
      exact answers

end Follows

/-! ### Two runs -/

/-- The nodes give the same results of views and the same answers about uncommitted records, and
code sees the same in both. -/
structure ShowSame (node other : Node Medium) : Prop where
  views : ∀ request, resultOf (runView request) node = resultOf (runView request) other
  view : node.ledger.view = other.ledger.view
  answers : Backend.answers node.ledger.backend .uncommitted =
    Backend.answers other.ledger.backend .uncommitted
  lastReference : node.ledger.lastReference = other.ledger.lastReference

theorem Follows.showSame {node other plain : Node Medium} (follows : node.Follows plain)
    (followsToo : other.Follows plain) : node.ShowSame other where
  views request := (follows.sameEnd_view request).resultOf_eq.trans
    (followsToo.sameEnd_view request).resultOf_eq.symm
  view := follows.ledger.view_eq.trans followsToo.ledger.view_eq.symm
  answers := follows.ledger.backend.answers_eq.trans followsToo.ledger.backend.answers_eq.symm
  lastReference := follows.ledger.backend.lastReference_eq.trans
    followsToo.ledger.backend.lastReference_eq.symm

/-- **Caches, views and commits do not show.** Two runs of nodes over empty stores whose settings
differ only in the size of the cache and in automatic commits answer all transactions, deliveries and
settings of the time alike, if these are the same, wherever views and commits come in between; and they
show the same after all parts with the same such events, as long as records can be written. -/
theorem runs_showSame (config : NodeConfig) (size sizeToo : UInt64) (always alwaysToo : Bool)
    (first second : List Event) (same : first.filter Event.counts = second.filter Event.counts)
    (written : ∀ entry ∈ ((fresh config size always).run first).1, failsToWrite entry.2 = false)
    (writtenToo : ∀ entry ∈ ((fresh config sizeToo alwaysToo).run second).1,
      failsToWrite entry.2 = false) :
    ((fresh config size always).run first).1.filter (fun entry => entry.1.counts) =
        ((fresh config sizeToo alwaysToo).run second).1.filter (fun entry => entry.1.counts) ∧
      ∀ before after, before <+: first → after <+: second →
        before.filter Event.counts = after.filter Event.counts →
        ((fresh config size always).run before).2.ShowSame
          ((fresh config sizeToo alwaysToo).run after).2 := by
  have begins := Follows.fresh config size always
  have beginsToo := Follows.fresh config sizeToo alwaysToo
  constructor
  · rw [(begins.run first written).1, (beginsToo.run second writtenToo).1, same]
  · rintro before after ⟨rest, rfl⟩ ⟨others, rfl⟩ equal
    rw [run_append] at written writtenToo
    have follows := (begins.run before fun entry member =>
      written entry (List.mem_append_left _ member)).2
    have followsToo := (beginsToo.run after fun entry member =>
      writtenToo entry (List.mem_append_left _ member)).2
    rw [equal] at follows
    exact follows.showSame followsToo

end Node

/-! ### A short run -/

namespace Getters

open Node Purses

/-- A store in files. -/
def settings : NodeConfig := { storeDir := some "store" }

def asking : Request := .paid (header 0) balance

/-- The gamete is made, and pays for asking for its balance. -/
def eager : List Event :=
  [.submit installing, .view asking, .submit creation, .commit, .view asking, .setNow 7,
    .submit asking]

/-- The same transactions with another view in between. -/
def plain : List Event :=
  [.submit installing, .submit creation, .setNow 7, .view asking, .submit asking]

/-- A node that keeps classpaths and commits all the time, and one that does neither. -/
theorem runs_showSame_asking :
    eager.filter Event.counts = plain.filter Event.counts ∧
      (∀ entry ∈ ((fresh settings 64 true).run eager).1, failsToWrite entry.2 = false) ∧
      (∀ entry ∈ ((fresh settings 0 false).run plain).1, failsToWrite entry.2 = false) ∧
      ((fresh settings 64 true).run eager).1.filter (fun entry => entry.1.counts) =
        ((fresh settings 0 false).run plain).1.filter (fun entry => entry.1.counts) ∧
      ∀ before after, before <+: eager → after <+: plain →
        before.filter Event.counts = after.filter Event.counts →
        ((fresh settings 64 true).run before).2.ShowSame
          ((fresh settings 0 false).run after).2 := by
  have written : ∀ entry ∈ ((fresh settings 64 true).run eager).1,
      failsToWrite entry.2 = false := by decide +kernel
  have writtenToo : ∀ entry ∈ ((fresh settings 0 false).run plain).1,
      failsToWrite entry.2 = false := by decide +kernel
  exact ⟨rfl, written, writtenToo, runs_showSame settings 64 0 true false eager plain rfl written
    writtenToo⟩

end Getters

end ObjectLedger
