/-
**A node over memory never breaks, whatever it is asked.**

* `NodeError.Excused`: an answer to the request, or an internal fault that is excused.
* `Node.Serving`: the records are in memory and sound, and all of them lie before the next
  reference.
* `Node.Survives`: an action stops only with what is excused, and leaves the node serving; closed
  under sequence.
* **`Node.Serving.survives_submit`**, `Node.Serving.survives_runView`,
  `Node.Serving.survives_autoCommit`: what a serving node survives.
* `Node.Served`: the nodes that calls lead to. **`Node.Served.faults_excused`**: as long as references
  are left, no call ends with a fault of the node.
-/
import ObjectLedger.Proofs.Node.Memory
import ObjectLedger.Proofs.Store.Acceptance
import ObjectLedger.Proofs.Transaction.Initial

namespace ObjectLedger

theorem TransactionRef.lt_next {reference : TransactionRef}
    (room : reference.value.toNat < maxWord) : reference < reference.next := by
  show reference.value < saturatingAdd reference.value 1
  rw [UInt64.lt_iff_toNat_lt, toNat_saturatingAdd]
  exact lt_min (Nat.lt_succ_self _) room

/-- An answer to the request, or a fault that is excused. -/
def NodeError.Excused (costs : CostModel) : NodeError → Prop
  | .internal cause => cause.Excused costs
  | _ => True

theorem NodeError.excused_of_source? {error : NodeError} (costs : CostModel)
    (outside : error.source? = none) : error.Excused costs := by
  cases error with
  | internal => cases outside
  | rejected | failed | exception => trivial

/-! ### Memory -/

namespace Ledger

variable {ledger pushed : Ledger Medium} {reference : TransactionRef} {request : Request}
  {response : Response} {view : LedgerView}

/-- The records are kept in memory. -/
def InMemory (ledger : Ledger Medium) : Prop :=
  ∃ memory, ledger.backend = .memory memory

theorem InMemory.write (inMemory : ledger.InMemory) (change : Records → Records) (now : UInt64)
    (metrics : Metrics) : InMemory ⟨Backend.write ledger.backend change, now, metrics⟩ := by
  obtain ⟨memory, kept⟩ := inMemory
  rw [kept]
  exact ⟨_, rfl⟩

theorem InMemory.push (inMemory : ledger.InMemory)
    (ran : ledger.push reference request response = (.ok (), pushed)) : pushed.InMemory := by
  unfold Ledger.push at ran
  split at ran
  · cases ran
  · cases ran
  · split at ran
    · cases ran
    · split at ran
      · cases ran
      · cases ran
        exact inMemory.write _ _ _

theorem InMemory.exists_manifest (inMemory : ledger.InMemory) :
    ∃ found, ledger.view.manifest = .ok found := by
  obtain ⟨memory, kept⟩ := inMemory
  unfold Ledger.view
  rw [kept]
  exact ⟨_, rfl⟩

/-- Memory takes every commit. -/
theorem InMemory.exists_commit (inMemory : ledger.InMemory) :
    ∃ committed, ledger.commit = (.ok (), committed) ∧ committed.InMemory := by
  obtain ⟨memory, kept⟩ := inMemory
  unfold commit
  rw [kept]
  exact ⟨_, rfl, _, rfl⟩

/-- The manifest can be named by a request for it, as long as there is none. -/
theorem exists_newManifest (named : response.isInitialization = true →
    ∃ classpath manifest, request = .nameManifest classpath manifest ∧
      ledger.view.manifest = .ok none) :
    ∃ manifest, newManifest ledger.backend reference request response = .ok manifest := by
  unfold newManifest
  split
  · rename_i ends
    obtain ⟨classpath, manifest, rfl, free⟩ := named ends
    have free : Backend.manifest ledger.backend .uncommitted = .ok none := free
    rw [free]
    exact ⟨_, rfl⟩
  · exact ⟨_, rfl⟩

end Ledger

namespace Node

variable {α β : Type} {config : NodeConfig} {contents : Contents} {node other : Node Medium}
  {request : Request}

/-! ### Serving -/

/-- A node that can go on: its records are in memory and sound, and all of them lie before the next
reference. -/
structure Serving (config : NodeConfig) (contents : Contents) (node : Node Medium) : Prop
    extends node.Sound contents where
  configured : node.config = config
  inMemory : node.ledger.InMemory
  earlier : ∀ reference, contents.responses reference ≠ none → reference < node.next

theorem serving_start (config : NodeConfig) :
    Serving config Contents.empty (start config { backend := Medium.blank none }) where
  toSound := sound_start config none
  configured := rfl
  inMemory := ⟨_, rfl⟩
  earlier _ known := absurd rfl known

namespace Serving

variable (serving : Serving config contents node)

include serving

theorem responses_next : contents.responses node.next = none := by
  by_contra known
  exact UInt64.lt_irrefl _ (serving.earlier node.next known)

/-- A transaction can run under the next reference. -/
theorem serves : node.ledger.view.Serves node.next where
  readable := Contents.Sound.readable serving.sound serving.holds.shows
  responses := serving.readable
  manifest := serving.inMemory.exists_manifest
  fresh number := by
    rw [serving.holds.shows.history_eq,
      serving.sound.histories_of_unrecorded serving.responses_next number]

theorem withCache {cache : ClasspathCache} (linked : ClasspathCache.From node.ledger.view cache) :
    Serving config contents { node with cache } :=
  ⟨⟨serving.holds, serving.sound, linked⟩, serving.configured, serving.inMemory, serving.earlier⟩

/-- Other records of the same contents, and a next reference that is not earlier. -/
theorem withLedger {ledger : Ledger Medium} (inMemory : ledger.InMemory)
    (holds : ledger.Holds contents) {next : TransactionRef}
    (later : ∀ reference, reference < node.next → reference < next) :
    Serving config contents { node with ledger, next } :=
  ⟨⟨holds, serving.sound, serving.linked.extends (serving.holds.shows.extends holds.shows)⟩,
    serving.configured, inMemory, fun reference known => later _ (serving.earlier reference known)⟩

/-- A response was pushed under the next reference. -/
theorem pushed {ledger : Ledger Medium} {response : Response} {later : Contents}
    (inMemory : ledger.InMemory) (holds : ledger.Holds later)
    (pushed : contents.Pushed node.next response later)
    (grounded : contents.Grounded node.next response) (room : node.next.value.toNat < maxWord) :
    Serving config later { node with ledger, next := node.next.next } where
  holds := holds
  sound := pushed.sound serving.sound grounded
  linked := serving.linked.extends (pushed.extends serving.holds.shows holds.shows)
  configured := serving.configured
  inMemory := inMemory
  earlier reference known := by
    rw [pushed.responses] at known
    by_cases same : reference = node.next
    · rw [same]
      exact TransactionRef.lt_next room
    · rw [Function.update_of_ne same] at known
      exact UInt64.lt_trans (serving.earlier reference known) (TransactionRef.lt_next room)

end Serving

/-! ### Surviving -/

/-- The action stops only with what is excused, and whatever the answer the node can go on. -/
structure Survives (config : NodeConfig) (action : NodeAction Medium α) (node : Node Medium) :
    Prop where
  stops : StopsOnly (NodeError.Excused config.gas) action node
  serving : ∃ contents, Serving config contents (stateAfter action node)

theorem Survives.congr {action step : NodeAction Medium α} (survives : Survives config step other)
    (same : action node = step other) : Survives config action node := by
  refine ⟨fun cause after stopped => survives.stops cause after (same ▸ stopped), ?_⟩
  unfold stateAfter
  rw [same]
  exact survives.serving

theorem Survives.bind {action : NodeAction Medium α} {rest : α → NodeAction Medium β}
    (first : Survives config action node)
    (others : ∀ value after contents, action node = .ok value after →
      Serving config contents after → Survives config (rest value) after) :
    Survives config (action >>= rest) node := by
  obtain ⟨contents, left⟩ := first.serving
  cases ran : action node with
  | ok value after =>
    rw [stateAfter_ok ran] at left
    exact (others value after contents ran left).congr (bind_of_ok ran)
  | error cause after =>
    rw [stateAfter_error ran] at left
    refine ⟨first.stops.bind fun value after ended => ?_, contents, ?_⟩
    · cases ran.symm.trans ended
    · rw [stateAfter_bind_of_error ran]
      exact left

theorem survives_pure (serving : Serving config contents node) (value : α) :
    Survives config (pure value) node :=
  ⟨stopsOnly_pure value node, contents, serving⟩

theorem survives_throw (serving : Serving config contents node) {error : NodeError}
    (excused : error.Excused config.gas) :
    Survives config (throw error : NodeAction Medium α) node :=
  ⟨stopsOnly_throw excused node, contents, serving⟩

theorem survives_ofExcept (serving : Serving config contents node) {result : Except NodeError α}
    (fails : FailsOnly (fun error => error.source? = none) result) :
    Survives config (NodeAction.ofExcept result) node := by
  cases result with
  | ok value => exact survives_pure serving value
  | error error => exact survives_throw serving (NodeError.excused_of_source? _ (fails error rfl))

namespace Serving

variable (serving : Serving config contents node)

include serving

theorem survives_commit : Survives config commit node := by
  obtain ⟨committed, ran, inMemory⟩ := serving.inMemory.exists_commit
  have holds := Ledger.holds_commit serving.holds
  rw [ran] at holds
  have next := serving.withLedger inMemory holds fun _ before => before
  exact (survives_pure next ()).congr (onLedger_of_ok Ledger.commit ran)

theorem survives_autoCommit : Survives config autoCommit node := by
  by_cases always : node.config.autoCommit = true
  · refine serving.survives_commit.congr ?_
    rw [autoCommit_eq, if_pos always]
  · refine (survives_pure serving ()).congr ?_
    rw [autoCommit_eq, if_neg always]
    rfl

/-- The building of an outcome, and what is done with it. -/
theorem survives_building {build : Build Outcome} {rest : Outcome → NodeAction Medium α}
    (stops : StopsOnly (Stop.Excused config.gas) build node.cache)
    (kept : Maintains (ClasspathCache.From node.ledger.view) build)
    (others : ∀ outcome cache, (build.settle node.cache).1 = .ok outcome →
      Serving config contents { node with cache } →
        Survives config (rest outcome) { node with cache }) :
    Survives config (building build.settle >>= rest) node := by
  have linked := kept node.cache serving.linked
  rw [← Build.settle_snd] at linked
  have fails := Build.failsOnly_settle stops
  cases settled : build.settle node.cache with
  | mk result cache =>
    rw [settled] at linked fails others
    have serving := serving.withCache linked
    cases result with
    | ok outcome =>
      have step : building build.settle node = .ok outcome { node with cache } := by
        unfold building
        rw [settled]
      exact (others outcome cache rfl serving).congr (bind_of_ok step)
    | error cause =>
      have step : building build.settle node = .error (.internal cause) { node with cache } := by
        unfold building
        rw [settled]
      have excused : NodeError.Excused config.gas (.internal cause) := fails cause rfl
      exact (survives_throw serving excused).congr (bind_of_error step)

end Serving

/-! ### Transactions -/

theorem runView_eq (node : Node Medium) (request : Request) :
    runView request node = (building (Outcome.ofView node.config node.ledger.view node.next
      request).settle >>= answerView node.next) node :=
  rfl

namespace Serving

variable (serving : Serving config contents node) (room : node.next.value.toNat < maxWord)

include serving room

theorem survives_recordRejection (reason : String) :
    Survives config (recordRejection node.next request reason) node := by
  have noted : Serving config contents { node with
      ledger := node.ledger.pushError node.next request reason
      next := node.next.next } :=
    serving.withLedger (serving.inMemory.write _ _ _) (Ledger.holds_pushError serving.holds _ _ _)
      fun _ before => UInt64.lt_trans before (TransactionRef.lt_next room)
  exact noted.survives_autoCommit.congr rfl

/-- Nothing is recorded under the next reference yet, so the push succeeds. -/
theorem survives_recordResponse {response : Response}
    (grounded : contents.Grounded node.next response)
    (named : response.isInitialization = true → ∃ classpath manifest,
      request = .nameManifest classpath manifest ∧ node.ledger.view.manifest = .ok none) :
    Survives config (recordResponse node.next request response) node := by
  -- the checks of a push, in its order: the reference is new, the manifest free, histories intact
  obtain ⟨manifest, names⟩ : ∃ manifest,
      Ledger.newManifest node.ledger.backend node.next request response = .ok manifest :=
    Ledger.exists_newManifest named
  obtain ⟨ledger, ran⟩ :=
    Ledger.exists_push serving.holds serving.sound.intact serving.responses_next names
  have push := Ledger.holds_push serving.holds node.next request response
  rw [ran] at push
  obtain ⟨later, holds, pushed⟩ := push
  have next := serving.pushed (serving.inMemory.push ran) holds pushed grounded room
  exact next.survives_autoCommit.congr
    (bind_of_ok (onLedger_of_ok (fun ledger => ledger.push node.next request response) ran))

/-- **A node that can go on goes on after a request.** -/
theorem survives_submit (request : Request) : Survives config (submit request) node := by
  have same := serving.configured
  subst same
  have serves := serving.serves
  refine Survives.congr ?_ (submit_eq node request)
  refine serving.survives_building (Outcome.stopsOnly_ofRequest serves serving.linked request)
    (Outcome.maintains_ofRequest serving.readable node.next request)
    fun outcome cache built linked => ?_
  have recorded : ∀ response, outcome.response? = some response →
      Survives node.config (recordResponse node.next request response) { node with cache } := by
    intro response given
    obtain ⟨after, ran⟩ := Outcome.built_of_response? built given
    exact linked.survives_recordResponse room
      (Outcome.grounded serving.holds.shows serves.fresh ran given)
      (Outcome.named_of_isInitialization ran given)
  cases outcome with
  | rejected reason =>
    exact (linked.survives_recordRejection room reason).bind fun _ _ _ _ goesOn =>
      survives_throw goesOn trivial
  | completed response | failed response =>
    exact (recorded response rfl).bind fun _ _ _ _ goesOn => survives_pure goesOn _

/-- The failures and the exceptions of transactions are answers, too. -/
theorem survives_add (request : Request) : Survives config (add request) node := by
  unfold add
  refine (serving.survives_submit room request).bind fun told _ _ ran goesOn => ?_
  obtain ⟨reference, response⟩ := told
  exact survives_ofExcept goesOn ((answered_of_submit ran).failsOnly_answer reference)

omit room in
/-- **A node that can go on goes on after a view**, and the answer is that of a call. -/
theorem survives_runView (request : Request) : Survives config (runView request) node := by
  have same := serving.configured
  subst same
  refine Survives.congr ?_ (runView_eq node request)
  refine serving.survives_building (Outcome.stopsOnly_ofView serving.serves serving.linked request)
    (Outcome.maintains_ofView serving.readable node.next request)
    fun outcome cache built linked => ?_
  cases outcome with
  | rejected reason => exact survives_throw linked trivial
  | completed response | failed response =>
    obtain ⟨after, ran⟩ := Build.ok_of_settle built rfl
    obtain ⟨call, rfl⟩ := Outcome.methodCall_of_ofView ran rfl
    exact survives_ofExcept linked (call.failsOnly_result _)

end Serving

/-! ### Runs -/

/-- What can be asked of a node. -/
inductive Call where
  | submit (request : Request)
  | add (request : Request)
  | view (request : Request)
  | commit

/-- The action of a call, its result aside. -/
def Call.perform : Call → NodeAction Medium Unit
  | submit request => do
    let _ ← Node.submit request
    return ()
  | add request => do
    let _ ← Node.add request
    return ()
  | view request => do
    let _ ← runView request
    return ()
  | commit => Node.commit

/-- Nodes that are reached from a first one by calls, as long as references are left, at whatever
times. -/
inductive Served (first : Node Medium) : Node Medium → Prop
  | start : Served first first
  | waited {node : Node Medium} (earlier : Served first node) (now : UInt64) :
      Served first { node with ledger := { node.ledger with now } }
  | called {node : Node Medium} (earlier : Served first node)
      (room : node.next.value.toNat < maxWord) (call : Call) :
      Served first (stateAfter call.perform node)

theorem Serving.survives (serving : Serving config contents node)
    (room : node.next.value.toNat < maxWord) (call : Call) : Survives config call.perform node := by
  cases call with
  | submit request =>
    exact (serving.survives_submit room request).bind fun _ _ _ _ goesOn => survives_pure goesOn ()
  | add request =>
    exact (serving.survives_add room request).bind fun _ _ _ _ goesOn => survives_pure goesOn ()
  | view request =>
    exact (serving.survives_runView request).bind fun _ _ _ _ goesOn => survives_pure goesOn ()
  | commit => exact serving.survives_commit

/-- The time is no record. -/
theorem Serving.waited (serving : Serving config contents node) (now : UInt64) :
    Serving config contents { node with ledger := { node.ledger with now } } :=
  ⟨⟨serving.holds, serving.sound, serving.linked⟩, serving.configured, serving.inMemory,
    serving.earlier⟩

/-- **Nodes that calls lead to can go on.** -/
theorem Served.serving {first : Node Medium} (served : Served first node)
    (begins : ∃ contents, Serving config contents first) :
    ∃ contents, Serving config contents node := by
  induction served with
  | start => exact begins
  | waited earlier now ih =>
    obtain ⟨contents, serving⟩ := ih
    exact ⟨contents, serving.waited now⟩
  | called earlier room call ih =>
    obtain ⟨contents, serving⟩ := ih
    exact (serving.survives room call).serving

/-- **No call of a node over fresh memory ends with an internal fault**, unless something is too
long to be written or code does not end, as long as references are left. -/
theorem Served.faults_excused
    (served : Served (Node.start config { backend := Medium.blank none }) node)
    (room : node.next.value.toNat < maxWord) (call : Call) :
    StopsOnly (NodeError.Excused config.gas) call.perform node := by
  obtain ⟨contents, serving⟩ := served.serving ⟨_, serving_start config⟩
  exact (serving.survives room call).stops

end Node

namespace Purses

open Node

theorem served_funded : Served begun funded := by
  have code : Served begun installed := by
    unfold installed submitted
    rw [← stateAfter_bind_pure fun _ => ()]
    exact .called .start (by decide) (.submit installing)
  unfold funded submitted
  rw [← stateAfter_bind_pure fun _ => ()]
  exact .called code (by decide +kernel) (.submit creation)

/-- The node with the gamete has references left, and no call of it ends with an internal fault,
because its instructions and its objects cost gas. -/
theorem faults_excused_funded :
    Served begun funded ∧ funded.next = ⟨2⟩ ∧ ¬ begun.config.gas.Endless ∧
      ∀ call : Call, StopsOnly (NodeError.Excused begun.config.gas) call.perform funded :=
  ⟨served_funded, by decide +kernel, by unfold CostModel.Endless; decide +kernel,
    fun call => Served.faults_excused served_funded (by decide +kernel) call⟩

end Purses

end ObjectLedger
