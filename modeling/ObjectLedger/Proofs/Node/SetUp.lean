/-
**A ledger is set up once.**

* `Node.Rejects`: a request is rejected, and only that is recorded. `Node.rejects_of_named`: so every
  initial request is once a manifest is named.
* `Node.SetUpBy`: the records and the requests that were accepted tell which transaction named the
  manifest. `Node.Chronicled`: they tell the set-up as it went, or that it is not over.
* `Node.Chronicled.rejected`, `Node.Chronicled.stage_pushed`: what a rejection and a response make of
  that. **`Node.Operated.chronicled`**: so it is in any run from an empty store in which nothing is
  delivered.
* **`Node.Operated.set_up_once`**: a manifest that was named stays, and initial requests are rejected
  from then on; there is one if and only if one transaction ended the set-up.
* **`Founding.named_by_another_request`**: the request that is stored with the response of that
  transaction may be another one, if its reference is the greatest.
-/
import ObjectLedger.Node.Bootstrap
import ObjectLedger.Proofs.Node.Memory
import ObjectLedger.Proofs.Node.Operating
import ObjectLedger.Proofs.Store.Crash
import ObjectLedger.Proofs.Transaction.Initial

namespace ObjectLedger

variable {reference : TransactionRef} {request : Request} {response : Response}
  {outcome : Outcome} {manifest : ObjectRef} {reason : String}

namespace Node

variable {first node later : Node Medium} {contents : Contents}
  {log : List (TransactionRef × Request)} {ledger : Ledger Medium}

/-! ### Rejections -/

/-- A request is rejected: with the reason it is recorded under the next reference, no response
changes, and the reason is the answer, unless its record cannot be made durable. -/
structure Rejects (node : Node Medium) (request : Request) (reason : String) : Prop where
  made : node.outcomeOf request = .ok (.rejected reason)
  stored : (node.submitted request).request node.next = .ok (some request)
  noted : Backend.error (node.submitted request).ledger.backend .uncommitted node.next =
    .ok (some reason)
  responses : (node.submitted request).response = node.response
  answered : resultOf (submit request) node = .error (.rejected reason) ∨
    node.config.autoCommit = true ∧
      ∃ cause, resultOf (submit request) node = .error (.internal (.store cause))

theorem rejects_of_outcome (intact : node.ledger.backend.Intact)
    (made : node.outcomeOf request = .ok (.rejected reason)) : node.Rejects request reason := by
  have ran : node.ledger.perform (Outcome.call node.next request (.rejected reason)) =
      (.ok (), node.ledger.pushError node.next request reason) := rfl
  have ended := submit_of_noted made ran
  have resembles := resembles_noted intact made ran
  refine ⟨made, ?_, ?_, ?_, ?_⟩
  · show Backend.request _ .uncommitted node.next = _
    rw [resembles.request, Ledger.request_of_noted ran, if_pos rfl]
  · rw [resembles.error]
    unfold Ledger.pushError
    cases node.ledger.backend with
    | memory store =>
      show Except.ok ((store.pending.errors.insert node.next reason).get? node.next <|> _) = _
      rw [Table.get?_insert_self]
      rfl
    | disk store =>
      show Disk.overlay .uncommitted
        ((store.pending.errors.insert node.next reason).get? node.next) _ = _
      rw [Table.get?_insert_self]
      rfl
  · show Backend.response _ .uncommitted = Backend.response node.ledger.backend .uncommitted
    rw [resembles.response]
    unfold Ledger.pushError
    cases node.ledger.backend <;> rfl
  · unfold resultOf
    rw [ended]
    cases committed : autoCommit (node.noted request _) with
    | ok done after =>
      rw [bind_of_ok committed]
      exact Or.inl rfl
    | error cause after =>
      obtain ⟨always, problem, _, -, -, rfl⟩ := autoCommit_error committed
      rw [bind_of_error committed]
      exact Or.inr ⟨always, problem, rfl⟩

/-- Where no response changes, no request was accepted. -/
theorem accepting?_of_responses (same : (node.submitted request).response = node.response) :
    node.accepting? (.submit request) = none := by
  rw [accepting?, Option.map_eq_none_iff, ← Option.not_isSome_iff_eq_none]
  intro accepts
  obtain ⟨response, accepts⟩ := Option.isSome_iff_exists.mp accepts
  obtain ⟨absent, found⟩ := accepted?_eq_some.mp accepts
  cases absent.symm.trans ((congrFun same node.next).symm.trans found)

/-- **Once a manifest is named, no initial request is accepted.** -/
theorem rejects_of_named (intact : node.ledger.backend.Intact)
    (named : Backend.manifest node.ledger.backend .uncommitted = .ok (some manifest))
    (initial : request.isInitial = true) :
    node.Rejects request (Initial.alreadySetUp manifest) :=
  rejects_of_outcome intact (congrArg Prod.fst (Outcome.build_of_named named initial))

/-! ### The chronicle of a set-up -/

/-- What is recorded, and the requests that were accepted, tell that the transaction of a reference
named the manifest: no other one did, and no response of the set-up is after it. -/
structure SetUpBy (contents : Contents) (log : List (TransactionRef × Request))
    (manifest : ObjectRef) (reference : TransactionRef) : Prop where
  once : ∀ other, contents.responses other = some .initialization ↔ other = reference
  accepted : ∃ origin, (reference, .nameManifest origin manifest) ∈ log
  only : ∀ other origin named, (other, .nameManifest origin named) ∈ log → named = manifest
  known : contents.histories manifest ≠ []
  last : ∀ other response, contents.responses other = some response → response.isInitial = true →
    other ≤ reference

/-- A paid request leaves it so. -/
theorem SetUpBy.pushed {pushed : Contents} {next : TransactionRef}
    (setUp : SetUpBy contents log manifest reference) (intact : contents.Intact)
    (paid : request.isInitial = false) (ordinary : response.isInitial = false)
    (grown : contents.Pushed next response pushed) :
    SetUpBy pushed ((next, request) :: log) manifest reference where
  once other := by
    rw [grown.responses_iff, setUp.once]
    refine ⟨fun found => found.resolve_left ?_, Or.inr⟩
    rintro ⟨-, rfl⟩
    cases ordinary
  accepted := setUp.accepted.imp fun _ member => List.mem_cons_of_mem _ member
  only other origin named member := by
    rcases List.mem_cons.mp member with here | earlier
    · obtain ⟨-, rfl⟩ := Prod.mk.inj here
      cases paid
    · exact setUp.only other origin named earlier
  known := (grown.within intact).histories manifest setUp.known
  last other told found initial := by
    rcases grown.responses_iff.mp found with ⟨-, rfl⟩ | earlier
    · rw [ordinary] at initial
      cases initial
    · exact setUp.last other told earlier initial

/-- How far the set-up is. -/
inductive Stage (node : Node Medium) (contents : Contents) (log : List (TransactionRef × Request)) :
    Prop
  | before (unnamed : Backend.manifest node.ledger.backend .uncommitted = .ok none)
      (never : ∀ reference, contents.responses reference ≠ some .initialization)
      (unasked : ∀ reference origin named, (reference, .nameManifest origin named) ∉ log)
  | done {manifest : ObjectRef} {reference : TransactionRef}
      (named : Backend.manifest node.ledger.backend .uncommitted = .ok (some manifest))
      (setUp : SetUpBy contents log manifest reference)

theorem Stage.congr (stage : node.Stage contents log)
    (same : Backend.manifest later.ledger.backend .uncommitted =
      Backend.manifest node.ledger.backend .uncommitted) : later.Stage contents log := by
  cases stage with
  | before unnamed never unasked => exact .before (same.trans unnamed) never unasked
  | done named setUp => exact .done (same.trans named) setUp

/-- What is recorded tells the set-up as it went, and the requests that were accepted: they are those
that are stored, unless their reference is the greatest one. -/
structure Chronicled (node : Node Medium) (contents : Contents)
    (log : List (TransactionRef × Request)) : Prop where
  ordered : node.Ordered
  holds : node.ledger.Holds contents
  intact : contents.Intact
  recorded : ∀ entry ∈ log, (contents.responses entry.1).isSome
  stored : ∀ entry ∈ log, entry.1 ≠ .greatest → node.request entry.1 = .ok (some entry.2)
  stage : node.Stage contents log

namespace Chronicled

variable (chronicled : node.Chronicled contents log)

include chronicled

theorem not_free (known : (contents.responses reference).isSome) : ¬ node.Free reference := by
  intro free
  have nothing := free.response
  rw [LawfulBackend.response_eq chronicled.holds] at nothing
  rw [Except.ok.inj nothing] at known
  cases known

/-- Only the store matters, as long as the node goes on after its last record. -/
theorem resembling (ordered : later.Ordered) (resembles : later.ledger.Resembles node.ledger) :
    later.Chronicled contents log where
  ordered
  holds := resembles.holds contents chronicled.holds
  intact := chronicled.intact
  recorded := chronicled.recorded
  stored entry member room := by
    rw [← chronicled.stored entry member room]
    exact congrFun resembles.request entry.1
  stage := chronicled.stage.congr resembles.manifest

/-- **A rejection changes nothing but what is stored under the next reference**, where nothing that
was accepted is, unless it is the greatest one. -/
theorem rejected (ordered : later.Ordered) (request : Request) (reason : String)
    (resembles : later.ledger.Resembles (node.ledger.pushError node.next request reason)) :
    later.Chronicled contents log where
  ordered
  holds := resembles.holds contents (Ledger.holds_pushError chronicled.holds ..)
  intact := chronicled.intact
  recorded := chronicled.recorded
  stored entry member room := by
    have ran : node.ledger.perform (Outcome.call node.next request (.rejected reason)) =
        (.ok (), node.ledger.pushError node.next request reason) := rfl
    have elsewhere := (chronicled.ordered.le_next_of_recorded
      (chronicled.not_free (chronicled.recorded entry member))).2 room
    rw [← chronicled.stored entry member room]
    show Backend.request _ .uncommitted entry.1 = _
    rw [resembles.request, Ledger.request_of_noted ran, if_neg elsewhere]
    rfl
  stage := by
    have same : Backend.manifest (node.ledger.pushError node.next request reason).backend
        .uncommitted = Backend.manifest node.ledger.backend .uncommitted :=
      Medium.manifest_write_of_same _ fun _ => rfl
    exact chronicled.stage.congr (resembles.manifest.trans same)

/-- **A request that names the manifest sets the ledger up** where nothing was named before. -/
theorem setUpBy_of_named {origin : Classpath} {named : ObjectRef} {pushed : Contents}
    (never : ∀ reference, contents.responses reference ≠ some .initialization)
    (unasked : ∀ reference origin named, (reference, .nameManifest origin named) ∉ log)
    (known : contents.histories named ≠ [])
    (grown : contents.Pushed node.next .initialization pushed) :
    SetUpBy pushed ((node.next, .nameManifest origin named) :: log) named node.next where
  once other := by
    rw [grown.responses_iff]
    exact ⟨fun found => found.elim And.left fun earlier => (never other earlier).elim,
      fun same => Or.inl ⟨same, rfl⟩⟩
  accepted := ⟨origin, List.mem_cons_self⟩
  only other _ another member := by
    rcases List.mem_cons.mp member with here | earlier
    · obtain ⟨-, same⟩ := Prod.mk.inj here
      cases same
      rfl
    · exact absurd earlier (unasked _ _ _)
  known := (grown.within chronicled.intact).histories named known
  last other _ found _ := by
    rcases grown.responses_iff.mp found with ⟨rfl, -⟩ | earlier
    · exact UInt64.le_refl _
    · exact (chronicled.ordered.le_next_of_recorded
        (chronicled.not_free (Option.isSome_of_eq_some earlier))).1

/-- **A response that is pushed tells how far the set-up is then.** -/
theorem stage_pushed {pushed : Contents} (made : node.outcomeOf request = .ok outcome)
    (given : outcome.response? = some response)
    (ran : node.ledger.push node.next request response = (.ok (), ledger))
    (grown : contents.Pushed node.next response pushed)
    (resembles : later.ledger.Resembles ledger) :
    later.Stage pushed ((node.next, request) :: log) := by
  obtain ⟨left, built⟩ := Outcome.built_of_response? made given
  cases chronicled.stage with
  | before unnamed never unasked =>
    rcases Ledger.manifest_push ran with
      ⟨silent, same⟩ | ⟨initializes, -, origin, named, rfl, names⟩
    · refine .before ((resembles.manifest.trans same).trans unnamed) (fun other found => ?_)
        fun other origin named member => ?_
      · rcases grown.responses_iff.mp found with ⟨-, rfl⟩ | earlier
        · cases silent
        · exact never other earlier
      · rcases List.mem_cons.mp member with here | earlier
        · obtain ⟨-, rfl⟩ := Prod.mk.inj here
          rw [Initial.of_nameManifest built] at given
          cases given
          cases silent
        · exact unasked other origin named earlier
    · rw [Initial.of_nameManifest built] at given
      cases given
      refine .done (resembles.manifest.trans names)
        (chronicled.setUpBy_of_named never unasked (fun nothing => ?_) grown)
      refine Initial.history_of_nameManifest built ?_
      rw [chronicled.holds.shows.history_eq, nothing]
  | @done manifest reference named setUp =>
    have paid : request.isInitial = false := by
      by_contra initial
      have rejected : node.outcomeOf request = .ok (.rejected (Initial.alreadySetUp manifest)) :=
        congrArg Prod.fst (Outcome.build_of_named named (Bool.eq_true_of_not_eq_false initial))
      cases made.symm.trans rejected
      cases given
    have silent : Backend.manifest ledger.backend .uncommitted = .ok (some manifest) := by
      rcases Ledger.manifest_push ran with ⟨-, same⟩ | ⟨-, nothing, -⟩
      · exact same.trans named
      · cases named.symm.trans nothing
    exact .done (resembles.manifest.trans silent) (setUp.pushed chronicled.intact paid
      ((Outcome.isInitial_response built given).trans paid) grown)

/-- **A request that is submitted is chronicled.** -/
theorem submitted (request : Request) : ∃ after,
    (node.submitted request).Chronicled after
      ((node.accepting? (.submit request)).toList ++ log) := by
  have ordered := (chronicled.ordered.goesOn_submit request).1.ordered
  rcases resembles_submitted chronicled.ordered.intact request with
    same | ⟨outcome, ledger, made, ran, recorded⟩
  · rw [accepting?_of_responses same.response]
    exact ⟨contents, chronicled.resembling ordered same⟩
  · cases outcome with
    | rejected reason =>
      rw [accepting?_of_responses (rejects_of_outcome chronicled.ordered.intact made).responses]
      obtain ⟨-, rfl⟩ := Prod.mk.inj ran
      exact ⟨contents, chronicled.rejected ordered request reason recorded⟩
    | completed response | failed response =>
      have push := Ledger.holds_push chronicled.holds node.next request response
      rw [show node.ledger.push node.next request response = (.ok (), ledger) from ran] at push
      obtain ⟨pushed, holds, grown⟩ := push
      have holds := recorded.holds pushed holds
      have accepts : node.accepted? request = some response := by
        refine accepted?_eq_some.mpr ⟨?_, ?_⟩
        · rw [← grown.fresh]
          exact LawfulBackend.response_eq chronicled.holds node.next
        · rw [← grown.response_self]
          exact LawfulBackend.response_eq holds node.next
      rw [accepting?, accepts]
      have request_eq : ∀ other, (node.submitted request).request other =
          if other = node.next then .ok (some request) else node.request other := fun other =>
        (congrFun recorded.request other).trans (Ledger.request_of_noted ran other)
      refine ⟨pushed, ordered, holds, grown.intact chronicled.intact, fun entry member => ?_,
        fun entry member room => ?_, chronicled.stage_pushed made rfl ran grown recorded⟩
      · rcases List.mem_cons.mp member with rfl | earlier
        · exact Option.isSome_of_eq_some grown.response_self
        · obtain ⟨told, found⟩ := Option.isSome_iff_exists.mp (chronicled.recorded entry earlier)
          exact Option.isSome_of_eq_some (grown.responses_of_some found)
      · rw [request_eq]
        rcases List.mem_cons.mp member with rfl | earlier
        · exact if_pos rfl
        · rw [if_neg, chronicled.stored entry earlier room]
          exact (chronicled.ordered.le_next_of_recorded
            (chronicled.not_free (chronicled.recorded entry earlier))).2 room

end Chronicled

/-! ### Runs -/

/-- The event is the delivery of a transaction that was run elsewhere. -/
def Event.isRedelivery : Event → Bool
  | redeliver _ => true
  | _ => false

variable {allowed : Event → Prop}

/-- **The set-up is chronicled by any run from an empty store** in which nothing is delivered. -/
theorem Operated.chronicled {settings : NodeConfig} {root : Option String}
    (run : Operated allowed (Node.start settings { backend := Medium.blank root }) node log)
    (own : ∀ event, allowed event → event.isRedelivery = false) :
    ∃ contents, node.Chronicled contents log := by
  induction run with
  | start =>
    refine ⟨.empty, ordered_start settings (Medium.found_blank root), Medium.holds_blank root,
      (fun _ _ member => by cases member), (fun _ member => by cases member),
      (fun _ member => by cases member), .before ?_ (fun _ found => by cases found)
      fun _ _ _ member => by cases member⟩
    cases root <;> rfl
  | @asked node log event earlier may ih =>
    obtain ⟨contents, chronicled⟩ := ih
    have quiet : event.records = false → ∃ contents,
        Chronicled (stateAfter event.perform node) contents
          ((node.accepting? event).toList ++ log) := by
      intro silent
      have unlogged : node.accepting? event = none := by
        cases event <;> first | rfl | cases silent
      rw [unlogged]
      rcases chronicled.ordered.resembles_event event with same | ⟨records, -⟩
      · exact ⟨contents, chronicled.resembling (chronicled.ordered.goesOn_event event).ordered same⟩
      · rw [silent] at records
        cases records
    cases event with
    | submit request =>
      rw [stateAfter_submit]
      exact chronicled.submitted request
    | redeliver delivery => cases own _ may
    | setNow now => exact quiet rfl
    | view request => exact quiet rfl
    | commit => exact quiet rfl
  | reopened earlier kept settled opened config ih =>
    obtain ⟨contents, chronicled⟩ := ih
    obtain ⟨ordered, same⟩ := chronicled.ordered.reopened kept settled opened config
    exact ⟨contents, chronicled.resembling ordered same⟩

/-- The transaction of a reference ended the set-up: it is the only one with such a response, the
manifest has a history, and no response of the set-up is stored after it. -/
structure SetUpAt (node : Node Medium) (manifest : ObjectRef) (reference : TransactionRef) :
    Prop where
  once : ∀ other, node.response other = .ok (some .initialization) ↔ other = reference
  known : ∃ entry rest,
    Backend.history node.ledger.backend .uncommitted manifest = .ok (entry :: rest)
  last : ∀ other response, node.response other = .ok (some response) →
    response.isInitial = true → other ≤ reference

theorem SetUpBy.setUpAt (setUp : SetUpBy contents log manifest reference)
    (holds : node.ledger.Holds contents) : node.SetUpAt manifest reference := by
  have response_eq : ∀ other, node.response other = .ok (contents.responses other) :=
    LawfulBackend.response_eq holds
  refine ⟨fun other => ?_, ?_, fun other response found => ?_⟩
  · rw [response_eq, Except.ok.injEq]
    exact setUp.once other
  · obtain ⟨entry, rest, shape⟩ := List.exists_cons_of_ne_nil setUp.known
    exact ⟨entry, rest, (holds.history_eq manifest).trans (congrArg _ shape)⟩
  · rw [response_eq, Except.ok.injEq] at found
    exact setUp.last other response found

/-- **A ledger is set up once.** Whatever a node goes through over a store that it found, a manifest
that was named stays, and then initial requests are rejected. Over an empty store, if nothing is
delivered, the manifest is named if and only if one transaction ended the set-up, whose request,
as it was accepted, named the manifest. It is the request that is stored with the response, unless
the reference is the greatest one. -/
theorem Operated.set_up_once {settings : NodeConfig} {medium : Medium} (found : medium.Found)
    (run : Operated allowed (Node.start settings { backend := medium }) node log) :
    (∀ manifest, Backend.manifest node.ledger.backend .uncommitted = .ok (some manifest) →
      ∀ {also : Event → Prop} {later : Node Medium} {more : List (TransactionRef × Request)},
        Operated also node later more →
          Backend.manifest later.ledger.backend .uncommitted = .ok (some manifest) ∧
            ∀ request, request.isInitial = true →
              later.Rejects request (Initial.alreadySetUp manifest)) ∧
    ((∃ root, medium = Medium.blank root) → (∀ event, allowed event → event.isRedelivery = false) →
      ∀ manifest, Backend.manifest node.ledger.backend .uncommitted = .ok (some manifest) ↔
        ∃ reference, node.SetUpAt manifest reference ∧
          ∃ origin, (reference, .nameManifest origin manifest) ∈ log ∧
            (reference ≠ .greatest →
              node.request reference = .ok (some (.nameManifest origin manifest)))) := by
  have ordered := run.ordered (ordered_start settings found)
  refine ⟨fun manifest named _ later _ further => ?_, ?_⟩
  · have stays := further.manifest_keeps ordered named
    exact ⟨stays, fun request => rejects_of_named (further.ordered ordered).intact stays⟩
  · rintro ⟨root, rfl⟩ own manifest
    obtain ⟨contents, chronicled⟩ := run.chronicled own
    cases chronicled.stage with
    | before unnamed never unasked =>
      refine iff_of_false (fun named => ?_) ?_
      · cases unnamed.symm.trans named
      · rintro ⟨reference, -, origin, member, -⟩
        exact unasked reference origin manifest member
    | @done told reference named setUp =>
      constructor
      · intro also
        cases named.symm.trans also
        obtain ⟨origin, member⟩ := setUp.accepted
        exact ⟨reference, setUp.setUpAt chronicled.holds, origin, member,
          chronicled.stored _ member⟩
      · rintro ⟨_, -, origin, member, -⟩
        rw [setUp.only _ _ _ member]
        exact named

end Node

/-! ### A short set-up, and a long one -/

namespace Founding

open Node

/-- Accounts and manifests. -/
def unit : CodeUnit :=
  ⟨[{ BaseLibrary.contract with superclass := none, constructors := [], methods := [] },
    { BaseLibrary.account with constructors := [], methods := [] },
    BaseLibrary.gamete,
    { BaseLibrary.manifest with superclass := none, methods := [] }]⟩

def classpath : Classpath := ⟨⟨0⟩, false⟩

def gamete : ObjectRef := ⟨⟨1⟩, 0⟩

def manifestObject : ObjectRef := ⟨⟨2⟩, 0⟩

def installing : Request := .installInitialJar unit.toBytes []

def creation : Request := .createGamete classpath 1000000 "key"

def making : Request := Bootstrap.manifestCreation "" gamete classpath

def naming : Request := .nameManifest classpath manifestObject

/-- A request that is rejected as long as nothing is installed under the reference. -/
def idle : Request := installingOver ⟨9⟩

def begun : Node Medium := start { autoCommit := false } { backend := Medium.blank none }

/-- The manifest is there, but it is not named. -/
def prepared : Node Medium := ((begun.submitted installing).submitted creation).submitted making

def founded : Node Medium := prepared.submitted naming

/-- Nothing is delivered. -/
abbrev Own (event : Event) : Prop := event.isRedelivery = false

/-- What is evaluated of the node. -/
theorem prepared_spec :
    prepared.config.autoCommit = false ∧ prepared.next.value.toNat = 3 ∧
      prepared.ledger.view.manifest = .ok none ∧
      prepared.ledger.view.response .greatest = .ok none ∧
      (Build.link prepared.config prepared.ledger.view [⟨⟨9⟩, false⟩] prepared.cache matches
        .error (.rejected _) _) = true ∧
      (Outcome.build prepared.config prepared.ledger.view prepared.cache .greatest naming).1 =
        .ok (.completed .initialization) := by
  decide +kernel

theorem operated_prepared : ∃ log, Operated Own begun prepared log := by
  have begins : Operated Own begun begun [] := .start
  exact ⟨_, ((begins.submitted installing rfl).submitted creation rfl).submitted making rfl⟩

/-- The ledger is set up as the fourth transaction. -/
theorem set_up_once_founded :
    Medium.Found (Medium.blank none) ∧ ∃ log, Operated Own begun founded log ∧
      Backend.manifest founded.ledger.backend .uncommitted = .ok (some manifestObject) ∧
      founded.Rejects installing (Initial.alreadySetUp manifestObject) ∧
      founded.SetUpAt manifestObject ⟨3⟩ ∧
      ∃ origin, founded.request ⟨3⟩ = .ok (some (.nameManifest origin manifestObject)) := by
  have found := Medium.found_blank none
  obtain ⟨log, run⟩ := operated_prepared
  have run := run.submitted naming rfl
  obtain ⟨named, ended⟩ :
      Backend.manifest founded.ledger.backend .uncommitted = .ok (some manifestObject) ∧
        founded.response ⟨3⟩ = .ok (some .initialization) := by decide +kernel
  obtain ⟨stays, once⟩ := run.set_up_once found
  obtain ⟨reference, setUp, origin, -, stored⟩ :=
    (once ⟨none, rfl⟩ (fun _ own => own) manifestObject).mp named
  obtain rfl := (setUp.once ⟨3⟩).mp ended
  have begins : Operated Own founded founded [] := .start
  exact ⟨found, _, run, named,
    (stays manifestObject named begins).2 installing rfl, setUp, origin,
    stored (by decide)⟩

/-- The request is rejected under any reference, and no classpath is kept for it. -/
theorem build_idle (reference : TransactionRef) : ∃ reason,
    Outcome.build prepared.config prepared.ledger.view prepared.cache reference idle =
      (.ok (.rejected reason), prepared.cache) := by
  obtain ⟨-, -, unnamed, -, stops, -⟩ := prepared_spec
  obtain ⟨reason, unlinked⟩ : ∃ reason, Build.link prepared.config prepared.ledger.view
      [⟨⟨9⟩, false⟩] prepared.cache = .error (.rejected reason) prepared.cache := by
    cases linked : Build.link prepared.config prepared.ledger.view [⟨⟨9⟩, false⟩]
        prepared.cache with
    | ok classes after =>
      rw [linked] at stops
      cases stops
    | error stop after =>
      obtain rfl := Build.cache_of_link_error linked
      rw [linked] at stops
      cases stop with
      | rejected reason => exact ⟨reason, rfl⟩
      | internal cause => cases stops
  have goesOn : Initial.rejectIfSetUp prepared.ledger.view prepared.cache =
      .ok () prepared.cache := by
    unfold Initial.rejectIfSetUp
    rw [unnamed]
    rfl
  have stopped : Outcome.ofRequest prepared.config prepared.ledger.view reference idle
      prepared.cache = .error (.rejected reason) prepared.cache :=
    (bind_of_ok goesOn).trans (bind_of_error unlinked)
  refine ⟨reason, ?_⟩
  unfold Outcome.build Build.settle
  rw [stopped]

/-- The node is as it was prepared but for what it rejected since. -/
structure Waits (node : Node Medium) : Prop where
  config : node.config = prepared.config
  cache : node.cache = prepared.cache
  view : node.ledger.view = prepared.ledger.view

variable {node : Node Medium}

theorem Waits.build_eq (waits : Waits node) (request : Request) :
    Outcome.build node.config node.ledger.view node.cache node.next request =
      Outcome.build prepared.config prepared.ledger.view prepared.cache node.next request := by
  rw [waits.config, waits.cache, waits.view]

/-- Another rejection only moves the node on. -/
theorem Waits.submitted_idle (waits : Waits node) :
    Waits (node.submitted idle) ∧ (node.submitted idle).next = node.next.next := by
  obtain ⟨reason, built⟩ := build_idle node.next
  have built := (waits.build_eq idle).trans built
  have ran : node.ledger.perform (Outcome.call node.next idle (.rejected reason)) =
      (.ok (), node.ledger.pushError node.next idle reason) := rfl
  have manual : node.config.autoCommit = false := waits.config ▸ prepared_spec.1
  rw [submitted_of_manual manual (congrArg Prod.fst built) ran]
  refine ⟨⟨waits.config, congrArg Prod.snd built, ?_⟩, rfl⟩
  rw [← waits.view]
  show Ledger.view (node.ledger.pushError node.next idle reason) = _
  unfold Ledger.view Ledger.pushError
  cases node.ledger.backend <;> rfl

/-- The node can wait until it comes to the greatest reference. -/
theorem exists_waiting (rejections : Nat) (room : 3 + rejections ≤ maxWord) :
    ∃ node log, Operated Own begun node log ∧ Waits node ∧
      node.next.value.toNat = 3 + rejections := by
  induction rejections with
  | zero =>
    obtain ⟨log, run⟩ := operated_prepared
    exact ⟨prepared, log, run, ⟨rfl, rfl, rfl⟩, prepared_spec.2.1⟩
  | succ rejections ih =>
    obtain ⟨node, log, run, waits, at_⟩ := ih (by omega)
    obtain ⟨waitsOn, next⟩ := waits.submitted_idle
    refine ⟨_, _, run.submitted idle rfl, waitsOn, ?_⟩
    rw [next, TransactionRef.toNat_next, at_]
    omega

/-- Then it names its manifest under that reference. -/
theorem exists_named_last : ∃ node log, Operated Own begun node log ∧ node.next = .greatest ∧
    Backend.manifest node.ledger.backend .uncommitted = .ok (some manifestObject) ∧
    node.response .greatest = .ok (some .initialization) := by
  obtain ⟨node, log, run, waits, last⟩ := exists_waiting (maxWord - 3) (by decide)
  have next : node.next = .greatest := TransactionRef.eq_greatest (by
    rw [TransactionRef.le_iff, TransactionRef.toNat_greatest, last]
    decide)
  obtain ⟨manual, -, noManifest, noResponse, -, built⟩ := prepared_spec
  have made : node.outcomeOf naming = .ok (.completed .initialization) := by
    rw [outcomeOf, waits.build_eq, next, built]
  have absent : Backend.response node.ledger.backend .uncommitted .greatest = .ok none :=
    (congrFun (congrArg LedgerView.response waits.view) .greatest).trans noResponse
  have unnamed : Backend.manifest node.ledger.backend .uncommitted = .ok none :=
    (congrArg LedgerView.manifest waits.view).trans noManifest
  obtain ⟨ledger, ran⟩ : ∃ ledger,
      node.ledger.push node.next naming .initialization = (.ok (), ledger) := by
    unfold Ledger.push Ledger.newManifest naming
    rw [next, absent, unnamed]
    exact ⟨_, rfl⟩
  refine ⟨_, _, run.submitted naming rfl, ?_⟩
  rw [submitted_of_manual (waits.config ▸ manual) made ran]
  refine ⟨?_, ?_, ?_⟩
  · show node.next.next = .greatest
    rw [next]
    decide
  · rcases Ledger.manifest_push ran with ⟨silent, -⟩ | ⟨-, -, origin, named, same, names⟩
    · cases silent
    · cases same
      exact names
  · obtain ⟨contents, chronicled⟩ := run.chronicled fun _ own => own
    have push := Ledger.holds_push chronicled.holds node.next naming .initialization
    rw [ran] at push
    obtain ⟨pushed, holds, grown⟩ := push
    rw [next] at grown
    rw [← grown.response_self]
    exact LawfulBackend.response_eq holds .greatest

/-- **The request that is stored with the response of the set-up need not have named the manifest**:
where that was done under the greatest reference, the request of a later rejection is stored there. -/
theorem named_by_another_request :
    ¬ ∀ (settings : NodeConfig) (root : Option String) (node : Node Medium)
        (log : List (TransactionRef × Request)),
      Operated Own (start settings { backend := Medium.blank root }) node log →
        ∀ manifest, Backend.manifest node.ledger.backend .uncommitted = .ok (some manifest) ↔
          ∃ reference, node.SetUpAt manifest reference ∧
            ∃ origin, node.request reference = .ok (some (.nameManifest origin manifest)) := by
  intro claimed
  obtain ⟨node, log, run, next, named, ended⟩ := exists_named_last
  have ordered := run.ordered (ordered_start _ (Medium.found_blank none))
  have rejects : node.Rejects idle (Initial.alreadySetUp manifestObject) :=
    rejects_of_named ordered.intact named rfl
  have further := run.submitted idle rfl
  have stays : Backend.manifest (node.submitted idle).ledger.backend .uncommitted =
      .ok (some manifestObject) := by
    rw [← stateAfter_submit]
    exact ordered.manifest_event (.submit idle) named
  obtain ⟨reference, setUp, origin, stored⟩ := (claimed _ none _ _ further manifestObject).mp stays
  -- the set-up ended under the greatest reference, where the last rejection is stored
  have last : reference = .greatest :=
    ((setUp.once .greatest).mp ((congrFun rejects.responses .greatest).trans ended)).symm
  have another := rejects.stored
  rw [next, ← last, stored] at another
  cases another

end Founding

end ObjectLedger
