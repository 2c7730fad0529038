/-
**Submitting requests to a node, one after the other.**

* `Node.submitted`: the node after a request, whatever the answer. `Node.accepted?`: the response
  that was recorded for it.
* `Node.Sound`: the store of the node is readable and sound, and the classpaths that it keeps come
  from installed units.
* **`Node.Sound.submitted_cases`**: a submission records the response of the outcome, or leaves all
  responses and histories as they are.
* **`Node.Submitted.sound`**: nodes that are reached by submissions are sound.
-/
import ObjectLedger.Node.Basic
import ObjectLedger.Proofs.Store.Disk
import ObjectLedger.Proofs.Transaction.Answers

namespace ObjectLedger

/-! ### Contents -/

namespace Contents

variable {before after : Contents} {view later : LedgerView} {reference : TransactionRef}
  {response : Response}

/-- No object belongs to a transaction that is not recorded. -/
theorem Sound.histories_of_unrecorded (sound : before.Sound)
    (unrecorded : before.responses reference = none) (number : UInt64) :
    before.histories ⟨reference, number⟩ = [] := by
  by_contra known
  have recorded := sound.created ⟨reference, number⟩ known
  rw [unrecorded] at recorded
  cases recorded

/-- What is shown after a push extends what was shown before. -/
theorem Pushed.extends (pushed : before.Pushed reference response after) (shown : view.Shows before)
    (shownAfter : later.Shows after) : later.Extends view := by
  intro other earlier found
  rw [shown.response_eq] at found
  have found : before.responses other = some earlier := Except.ok.inj found
  rw [shownAfter.response_eq]
  exact congrArg Except.ok (pushed.responses_of_some found)

end Contents

theorem LedgerView.Shows.readable {view : LedgerView} {contents : Contents}
    (shown : view.Shows contents) (reference : TransactionRef) :
    ∃ found, view.response reference = .ok found :=
  ⟨contents.responses reference, by rw [shown.response_eq]; rfl⟩

/-- Views of the same contents show the same responses. -/
theorem LedgerView.Shows.extends {view later : LedgerView} {contents : Contents}
    (shown : view.Shows contents) (shownLater : later.Shows contents) : later.Extends view := by
  intro reference response found
  rw [shownLater.response_eq, ← shown.response_eq]
  exact found

/-- An outcome with a response is what the building of it ends with. -/
theorem Build.ok_of_settle {build : Build Outcome} {cache : ClasspathCache} {outcome : Outcome}
    {response : Response} (settled : (build.settle cache).1 = .ok outcome)
    (given : outcome.response? = some response) : ∃ after, build cache = .ok outcome after := by
  unfold settle at settled
  cases ran : build cache with
  | ok other after =>
    rw [ran] at settled
    cases settled
    exact ⟨after, rfl⟩
  | error stop after =>
    rw [ran] at settled
    cases stop with
    | rejected reason =>
      cases settled
      cases given
    | internal cause => cases settled

/-- The classpaths that are kept after building an outcome. -/
theorem Build.settle_snd (build : Build Outcome) (cache : ClasspathCache) :
    (build.settle cache).2 = stateAfter build cache := by
  unfold settle stateAfter
  cases build cache with
  | ok outcome after => rfl
  | error stop after => cases stop <;> rfl

/-- A response of an outcome comes from building it. -/
theorem Outcome.built_of_response? {config : NodeConfig} {view : LedgerView}
    {cache : ClasspathCache} {reference : TransactionRef} {request : Request} {outcome : Outcome}
    {response : Response} (built : (build config view cache reference request).1 = .ok outcome)
    (given : outcome.response? = some response) :
    ∃ after, ofRequest config view reference request cache = .ok outcome after :=
  Build.ok_of_settle built given

namespace Node

variable {σ : Type} [Backend σ]

/-- The node after a request was submitted, whatever the answer. -/
def submitted (node : Node σ) (request : Request) : Node σ :=
  stateAfter (submit request) node

/-- The response that the submission of a request records as the next transaction. With it the
request is accepted. -/
def accepted? (node : Node σ) (request : Request) : Option Response :=
  match node.response node.next, (node.submitted request).response node.next with
  | .ok none, .ok (some response) => some response
  | _, _ => none

/-- What the node makes of a request as its next transaction. -/
def outcomeOf (node : Node σ) (request : Request) : Except InternalError Outcome :=
  (Outcome.build node.config node.ledger.view node.cache node.next request).1

/-- Nodes that are reached from a first one by submitting requests, with those that were accepted, in
their order. -/
inductive Submitted (first : Node σ) : Node σ → List Request → Prop
  | start : Submitted first first []
  | accepted {node : Node σ} {requests : List Request} {request : Request} {response : Response}
      (earlier : Submitted first node requests)
      (accepts : node.accepted? request = some response) :
      Submitted first (node.submitted request) (requests ++ [request])
  | refused {node : Node σ} {requests : List Request} {request : Request}
      (earlier : Submitted first node requests) (refuses : node.accepted? request = none) :
      Submitted first (node.submitted request) requests

/-- A request that is accepted leads on. -/
theorem Submitted.next {first node : Node σ} {requests : List Request} {request : Request}
    (earlier : Submitted first node requests)
    (accepts : (node.accepted? request).isSome = true) :
    Submitted first (node.submitted request) (requests ++ [request]) :=
  .accepted earlier (Option.some_get accepts).symm

theorem accepted?_eq_some {node : Node σ} {request : Request} {response : Response} :
    node.accepted? request = some response ↔ node.response node.next = .ok none ∧
      (node.submitted request).response node.next = .ok (some response) := by
  unfold accepted?
  split
  · rename_i absent recorded
    rw [absent, recorded]
    exact ⟨fun same => ⟨rfl, congrArg Except.ok same⟩, fun both => Except.ok.inj both.2⟩
  · rename_i other
    exact ⟨fun same => (by cases same), fun both => (other response both.1 both.2).elim⟩

/-! ### Actions on the store -/

omit [Backend σ] in
theorem onLedger_of_ok {node : Node σ} (step : Ledger σ → Except StoreError Unit × Ledger σ)
    {ledger : Ledger σ} (ran : step node.ledger = (.ok (), ledger)) :
    onLedger step node = .ok () { node with ledger } := by
  simp only [onLedger, ran]

omit [Backend σ] in
theorem onLedger_of_error {node : Node σ} (step : Ledger σ → Except StoreError Unit × Ledger σ)
    {cause : StoreError} {ledger : Ledger σ} (ran : step node.ledger = (.error cause, ledger)) :
    onLedger step node = .error (.internal (.store cause)) { node with ledger } := by
  simp only [onLedger, ran]

theorem autoCommit_eq (node : Node σ) :
    autoCommit node = if node.config.autoCommit = true then commit node else .ok () node := by
  show (if node.config.autoCommit = true then commit else pure ()) node = _
  split
  · rfl
  · rfl

variable [LawfulBackend σ] {node : Node σ} {contents : Contents} {request : Request}

/-! ### One submission -/

/-- The parts of a node that no record changes, and the contents of its store. -/
def Has (config : NodeConfig) (cache : ClasspathCache) (contents : Contents) (node : Node σ) :
    Prop :=
  node.config = config ∧ node.cache = cache ∧ node.ledger.Holds contents

variable {config : NodeConfig} {cache : ClasspathCache}

theorem maintains_autoCommit :
    Maintains (Has config cache contents) (autoCommit : NodeAction σ Unit) := by
  intro node has
  unfold stateAfter
  rw [autoCommit_eq]
  by_cases always : node.config.autoCommit = true
  · rw [if_pos always]
    unfold commit onLedger
    have committed := Ledger.holds_commit has.2.2
    cases ran : node.ledger.commit with
    | mk result ledger =>
      rw [ran] at committed
      cases result <;> exact ⟨has.1, has.2.1, committed⟩
  · rw [if_neg always]
    exact has

theorem maintains_goOnAt (reference : TransactionRef) :
    Maintains (Has config cache contents) (goOnAt reference : NodeAction σ Unit) :=
  fun _ has => has

theorem maintains_recordRejection (reference : TransactionRef) (reason : String) :
    Maintains (Has config cache contents)
      (recordRejection reference request reason : NodeAction σ Unit) := by
  have noted : Maintains (Has config cache contents) (modify fun node : Node σ =>
      { node with ledger := node.ledger.pushError reference request reason } :
        NodeAction σ PUnit) := fun node has =>
    ⟨has.1, has.2.1, Ledger.holds_pushError has.2.2 reference request reason⟩
  exact noted.bind fun _ => (maintains_goOnAt _).bind fun _ => maintains_autoCommit

/-- A response is pushed, or nothing changes. -/
theorem has_recordResponse (has : Has config cache contents node) (reference : TransactionRef)
    (response : Response) :
    Has config cache contents (stateAfter (recordResponse reference request response) node) ∨
      ∃ later, contents.Pushed reference response later ∧
        Has config cache later (stateAfter (recordResponse reference request response) node) := by
  have push := Ledger.holds_push has.2.2 reference request response
  unfold recordResponse
  cases ran : node.ledger.push reference request response with
  | mk result ledger =>
    rw [ran] at push
    cases result with
    | error cause =>
      rw [stateAfter_bind_of_error
        (onLedger_of_error (fun ledger => ledger.push reference request response) ran)]
      exact Or.inl ⟨has.1, has.2.1, push⟩
    | ok _ =>
      obtain ⟨later, holds, pushed⟩ := push
      rw [stateAfter_bind_of_ok
        (onLedger_of_ok (fun ledger => ledger.push reference request response) ran)]
      exact Or.inr ⟨later, pushed, (maintains_goOnAt reference.next).bind
        (fun _ => maintains_autoCommit) _ ⟨has.1, has.2.1, holds⟩⟩

/-- A response that is recorded to the end was pushed. -/
theorem has_of_recordResponse {after : Node σ} {reference : TransactionRef} {response : Response}
    (has : Has config cache contents node)
    (ran : recordResponse reference request response node = .ok () after) :
    ∃ later, contents.Pushed reference response later ∧ Has config cache later after := by
  obtain ⟨_, middle, accepted, rest⟩ := ok_of_bind ran
  have push := Ledger.holds_push has.2.2 reference request response
  unfold onLedger at accepted
  split at accepted
  · rename_i ledger pushed
    have pushed : node.ledger.push reference request response = (.ok (), ledger) := pushed
    rw [pushed] at push
    obtain ⟨later, holds, pushed⟩ := push
    cases accepted
    refine ⟨later, pushed, ?_⟩
    rw [← stateAfter_ok rest]
    exact (maintains_goOnAt reference.next).bind (fun _ => maintains_autoCommit) _
      ⟨has.1, has.2.1, holds⟩
  · cases accepted

/-- What follows once the outcome of a request is known. -/
def record (reference : TransactionRef) (request : Request) :
    Outcome → NodeAction σ (TransactionRef × Response)
  | .rejected reason => do
    recordRejection reference request reason
    throw (.rejected reason)
  | .completed response | .failed response => do
    recordResponse reference request response
    return (reference, response)

omit [LawfulBackend σ] in
theorem submit_eq (node : Node σ) (request : Request) :
    submit request node = (building (fun cache =>
      Outcome.build node.config node.ledger.view cache node.next request) >>=
        record node.next request) node := by
  show EStateM.bind (building _) _ node = EStateM.bind (building _) _ node
  congr 1

omit [LawfulBackend σ] in
/-- A submission records the outcome that can be built, if one can. -/
theorem submit_eq_match (node : Node σ) (request : Request) :
    submit request node =
      let built := { node with
        cache := (Outcome.build node.config node.ledger.view node.cache node.next request).2 }
      match node.outcomeOf request with
      | .error cause => .error (.internal cause) built
      | .ok outcome => record node.next request outcome built := by
  rw [submit_eq]
  show EStateM.bind (building _) _ node = _
  unfold outcomeOf EStateM.bind building
  dsimp only
  cases Outcome.build node.config node.ledger.view node.cache node.next request with
  | mk result cache => cases result <;> rfl

omit [LawfulBackend σ] in
/-- Where no outcome can be built nothing is recorded. -/
theorem submit_of_error {cause : InternalError} (made : node.outcomeOf request = .error cause) :
    submit request node = .error (.internal cause) { node with
      cache := (Outcome.build node.config node.ledger.view node.cache node.next request).2 } := by
  rw [submit_eq_match, made]

omit [LawfulBackend σ] in
/-- An outcome is recorded. -/
theorem submit_of_ok {outcome : Outcome} (made : node.outcomeOf request = .ok outcome) :
    submit request node = record node.next request outcome { node with
      cache := (Outcome.build node.config node.ledger.view node.cache node.next request).2 } := by
  rw [submit_eq_match, made]

omit [LawfulBackend σ] in
/-- The response that a submission gives is of the kind of the request. -/
theorem answered_of_submit {reference : TransactionRef} {response : Response} {after : Node σ}
    (ran : submit request node = .ok (reference, response) after) : request.Answered response := by
  rw [submit_eq_match] at ran
  cases made : node.outcomeOf request with
  | error cause =>
    rw [made] at ran
    cases ran
  | ok outcome =>
    rw [made] at ran
    cases outcome with
    | rejected reason =>
      obtain ⟨_, _, -, never⟩ := ok_of_bind ran
      cases never
    | completed | failed =>
      obtain ⟨_, _, -, ended⟩ := ok_of_bind ran
      cases ended
      obtain ⟨_, built⟩ := Outcome.built_of_response? made rfl
      exact Outcome.answered_of_ofRequest built rfl

/-- What a submission does to the records, at its end or where it stops. -/
theorem has_submitted (holds : node.ledger.Holds contents) (request : Request) :
    Has node.config (Outcome.build node.config node.ledger.view node.cache node.next request).2
        contents (node.submitted request) ∨
      ∃ outcome response later, node.outcomeOf request = .ok outcome ∧
        outcome.response? = some response ∧ contents.Pushed node.next response later ∧
        Has node.config (Outcome.build node.config node.ledger.view node.cache node.next request).2
          later (node.submitted request) := by
  have has : Has node.config
      (Outcome.build node.config node.ledger.view node.cache node.next request).2 contents
      { node with
        cache := (Outcome.build node.config node.ledger.view node.cache node.next request).2 } :=
    ⟨rfl, rfl, holds⟩
  cases made : node.outcomeOf request with
  | error cause =>
    rw [submitted, stateAfter_error (submit_of_error made)]
    exact Or.inl has
  | ok outcome =>
    rw [submitted, stateAfter, submit_of_ok made]
    cases outcome with
    | rejected reason =>
      exact Or.inl (((maintains_recordRejection _ reason).bind fun _ => maintains_throw _) _ has)
    | completed response | failed response =>
      show Has _ _ _ (stateAfter (record node.next request _) _) ∨ ∃ outcome response later,
        _ ∧ _ ∧ _ ∧ Has _ _ _ (stateAfter (record node.next request _) _)
      unfold record
      rw [stateAfter_bind_pure]
      rcases has_recordResponse has node.next response with unchanged | ⟨later, pushed, changed⟩
      · exact Or.inl unchanged
      · exact Or.inr ⟨_, response, later, rfl, rfl, pushed, changed⟩

/-- A submission that is accepted pushes the response. -/
theorem holds_of_accepts (holds : node.ledger.Holds contents)
    {response : Response}
    (accepts : node.accepted? request = some response) :
    ∃ later, contents.Pushed node.next response later ∧
      (node.submitted request).ledger.Holds later := by
  obtain ⟨absent, recorded⟩ := accepted?_eq_some.mp accepts
  rcases has_submitted holds request with
    ⟨-, -, same⟩ | ⟨outcome, other, later, built, given, pushed, -, -, holdsLater⟩
  · have same : (node.submitted request).response node.next = node.response node.next :=
      (LawfulBackend.response_eq same node.next).trans
        (LawfulBackend.response_eq holds node.next).symm
    rw [recorded, absent] at same
    cases same
  · have told : (node.submitted request).response node.next = .ok (some other) := by
      rw [← pushed.response_self]
      exact LawfulBackend.response_eq holdsLater node.next
    cases recorded.symm.trans told
    exact ⟨later, pushed, holdsLater⟩

/-- A submission that is not accepted leaves the contents as they are. -/
theorem holds_of_refuses (holds : node.ledger.Holds contents)
    (refuses : node.accepted? request = none) : (node.submitted request).ledger.Holds contents := by
  rcases has_submitted holds request with
    ⟨-, -, same⟩ | ⟨outcome, other, later, built, given, pushed, -, -, holdsLater⟩
  · exact same
  · have accepts : node.accepted? request = some other := by
      refine accepted?_eq_some.mpr ⟨?_, ?_⟩
      · rw [← pushed.fresh]
        exact LawfulBackend.response_eq holds node.next
      · rw [← pushed.response_self]
        exact LawfulBackend.response_eq holdsLater node.next
    rw [refuses] at accepts
    cases accepts

/-! ### Sound nodes -/

/-- The store of the node can be read and is sound, and the classpaths that the node keeps come from
installed units. -/
structure Sound (node : Node σ) (contents : Contents) : Prop where
  holds : node.ledger.Holds contents
  sound : contents.Sound
  linked : ClasspathCache.From node.ledger.view node.cache

/-- What is known of a submission whose response is recorded. -/
structure Recorded (node : Node σ) (request : Request) (response : Response) (later : Contents) :
    Prop where
  built : ∃ outcome after, Outcome.ofRequest node.config node.ledger.view node.next request
    node.cache = .ok outcome after ∧ outcome.response? = some response
  fresh : ∀ number, node.ledger.view.history ⟨node.next, number⟩ = .ok []
  value_eq : ∀ object field, (node.submitted request).ledger.view.value object field =
    node.ledger.view.valueAfter response object field
  keeps : (node.submitted request).ledger.view.Extends node.ledger.view
  sound : (node.submitted request).Sound later

variable {response : Response}

theorem Sound.readable (sound : node.Sound contents) (reference : TransactionRef) :
    ∃ found, node.ledger.view.response reference = .ok found :=
  sound.holds.shows.readable reference

/-- Nothing recorded under a reference means no object under it. -/
theorem Sound.fresh (sound : node.Sound contents) {reference : TransactionRef}
    (unrecorded : node.response reference = .ok none) (number : UInt64) :
    node.ledger.view.history ⟨reference, number⟩ = .ok [] := by
  have absent : node.ledger.view.response reference = .ok none := unrecorded
  rw [sound.holds.shows.response_eq] at absent
  rw [sound.holds.shows.history_eq,
    sound.sound.histories_of_unrecorded (Except.ok.inj absent) number]

/-- Whatever is linked for a request comes from installed units. -/
theorem Sound.from_of_link (sound : node.Sound contents) {config : NodeConfig}
    {classpaths : List Classpath} {linked : LinkedClasspath} {after : ClasspathCache}
    (ran : Build.link config node.ledger.view classpaths node.cache = .ok linked after) :
    linked.From node.ledger.view :=
  Build.from_of_link sound.readable sound.linked ran

theorem Sound.linked_submitted (sound : node.Sound contents) (request : Request) :
    ClasspathCache.From node.ledger.view
      (Outcome.build node.config node.ledger.view node.cache node.next request).2 := by
  unfold Outcome.build
  rw [Build.settle_snd]
  exact Outcome.maintains_ofRequest sound.readable node.next request _ sound.linked

/-- **A submission records the response of its outcome, or leaves all responses and histories as
they are.** -/
theorem Sound.submitted_cases (sound : node.Sound contents) (request : Request) :
    (node.submitted request).Sound contents ∧
        (node.submitted request).response node.next = node.response node.next ∨
      ∃ response later, node.accepted? request = some response ∧
        node.Recorded request response later := by
  have linked := sound.linked_submitted request
  rcases has_submitted sound.holds request with
    ⟨-, cached, holds⟩ | ⟨outcome, response, later, built, given, pushed, -, cached, holds⟩
  · refine Or.inl ⟨⟨holds, sound.sound, ?_⟩, ?_⟩
    · rw [cached]
      exact linked.extends (sound.holds.shows.extends holds.shows)
    · exact (LawfulBackend.response_eq holds node.next).trans
        (LawfulBackend.response_eq sound.holds node.next).symm
  · have unrecorded : node.response node.next = .ok none := by
      rw [← pushed.fresh]
      exact LawfulBackend.response_eq sound.holds node.next
    have recorded : (node.submitted request).response node.next = .ok (some response) := by
      rw [← pushed.response_self]
      exact LawfulBackend.response_eq holds node.next
    have fresh := sound.fresh unrecorded
    have keeps := pushed.extends sound.holds.shows holds.shows
    obtain ⟨after, ran⟩ := Outcome.built_of_response? built given
    have grounded := Outcome.grounded sound.holds.shows fresh ran given
    refine Or.inr ⟨response, later, accepted?_eq_some.mpr ⟨unrecorded, recorded⟩,
      ⟨outcome, after, ran, given⟩, fresh, fun object field =>
      pushed.value_eq sound.sound.intact sound.holds.shows holds.shows, keeps, holds,
      pushed.sound sound.sound grounded, ?_⟩
    rw [cached]
    exact linked.extends keeps

theorem Sound.recorded (sound : node.Sound contents)
    (accepts : node.accepted? request = some response) :
    ∃ later, node.Recorded request response later := by
  rcases sound.submitted_cases request with ⟨-, same⟩ | ⟨other, later, accepted, recorded⟩
  · obtain ⟨absent, recorded⟩ := accepted?_eq_some.mp accepts
    rw [absent, recorded] at same
    cases same
  · cases accepts.symm.trans accepted
    exact ⟨later, recorded⟩

theorem Sound.of_refuses (sound : node.Sound contents) (refuses : node.accepted? request = none) :
    (node.submitted request).Sound contents := by
  rcases sound.submitted_cases request with ⟨unchanged, -⟩ | ⟨response, later, accepts, -⟩
  · exact unchanged
  · rw [refuses] at accepts
    cases accepts

/-- A response that a submission gives back was accepted. -/
theorem Sound.accepted?_of_ok (sound : node.Sound contents) {reference : TransactionRef}
    {after : Node σ} (ran : submit request node = .ok (reference, response) after) :
    reference = node.next ∧ after = node.submitted request ∧
      node.accepted? request = some response := by
  have left : node.submitted request = after := stateAfter_ok ran
  rw [submit_eq] at ran
  obtain ⟨outcome, middle, built, recording⟩ := ok_of_bind ran
  have holds : middle.ledger.Holds contents := by
    unfold building at built
    split at built
    · cases built
      exact sound.holds
    · cases built
  have recorded : ∀ other, (do recordResponse node.next request other; return (node.next, other) :
      NodeAction σ (TransactionRef × Response)) middle = .ok (reference, response) after →
      reference = node.next ∧ ∃ later, contents.Pushed node.next response later ∧
        after.ledger.Holds later := by
    intro other recording
    obtain ⟨_, _, recorded, same⟩ := ok_of_bind recording
    cases same
    obtain ⟨later, pushed, has⟩ := has_of_recordResponse ⟨rfl, rfl, holds⟩ recorded
    exact ⟨rfl, later, pushed, has.2.2⟩
  rw [accepted?_eq_some, left]
  cases outcome with
  | rejected reason =>
    obtain ⟨_, _, -, thrown⟩ := ok_of_bind recording
    cases thrown
  | completed other | failed other =>
    obtain ⟨same, later, pushed, holdsLater⟩ := recorded other recording
    refine ⟨same, rfl, ?_, ?_⟩
    · rw [← pushed.fresh]
      exact LawfulBackend.response_eq sound.holds node.next
    · rw [← pushed.response_self]
      exact LawfulBackend.response_eq holdsLater node.next

/-! ### Rejections -/

omit [LawfulBackend σ] in
/-- Making records durable after every transaction ends, or stops with an error of the store. -/
theorem autoCommit_cases (node : Node σ) :
    ∃ after, autoCommit node = .ok () after ∨
      ∃ cause, node.ledger.commit = (.error cause, after.ledger) ∧
        autoCommit node = .error (.internal (.store cause)) after := by
  rw [autoCommit_eq]
  split
  · unfold commit onLedger
    cases committed : node.ledger.commit with
    | mk result ledger =>
      cases result with
      | ok _ => exact ⟨{ node with ledger }, Or.inl rfl⟩
      | error cause => exact ⟨{ node with ledger }, Or.inr ⟨cause, rfl, rfl⟩⟩
  · exact ⟨node, Or.inl rfl⟩

omit [LawfulBackend σ] in
/-- A rejection is recorded, and then it is the answer. -/
theorem submit_eq_of_rejected {reason : String}
    (rejected : node.outcomeOf request = .ok (.rejected reason)) :
    submit request node =
      (autoCommit >>= fun _ => throw (.rejected reason) :
        NodeAction σ (TransactionRef × Response))
      { node with
        cache := (Outcome.build node.config node.ledger.view node.cache node.next request).2
        ledger := node.ledger.pushError node.next request reason
        next := node.next.next } :=
  submit_of_ok rejected

omit [LawfulBackend σ] in
/-- The answer to a request that is rejected is the reason, unless its record cannot be made
durable. -/
theorem submit_of_rejected {reason : String}
    (rejected : node.outcomeOf request = .ok (.rejected reason)) :
    ∃ after, submit request node = .error (.rejected reason) after ∨
      ∃ cause, (node.ledger.pushError node.next request reason).commit =
          (.error cause, after.ledger) ∧
        submit request node = .error (.internal (.store cause)) after := by
  rw [submit_eq_of_rejected rejected]
  obtain ⟨after, ran⟩ := autoCommit_cases { node with
    cache := (Outcome.build node.config node.ledger.view node.cache node.next request).2
    ledger := node.ledger.pushError node.next request reason
    next := node.next.next }
  refine ⟨after, ?_⟩
  rcases ran with ran | ⟨cause, failed, ran⟩
  · exact Or.inl (bind_of_ok ran)
  · exact Or.inr ⟨cause, failed, bind_of_error ran⟩

/-- A request that is rejected is not accepted. -/
theorem Sound.accepted?_of_rejected (sound : node.Sound contents) {reason : String}
    (rejected : node.outcomeOf request = .ok (.rejected reason)) :
    node.accepted? request = none := by
  by_contra accepted
  obtain ⟨response, accepts⟩ := Option.ne_none_iff_exists'.mp accepted
  obtain ⟨absent, recorded⟩ := accepted?_eq_some.mp accepts
  rcases has_submitted sound.holds request with
    ⟨-, -, holds⟩ | ⟨outcome, response, later, built, given, -⟩
  · have same : (node.submitted request).response node.next = node.response node.next :=
      (LawfulBackend.response_eq holds node.next).trans
        (LawfulBackend.response_eq sound.holds node.next).symm
    rw [recorded, absent] at same
    cases same
  · cases rejected.symm.trans built
    cases given

/-! ### Runs -/

theorem sound_start (config : NodeConfig) (root : Option String) :
    (start config { backend := Medium.blank root }).Sound Contents.empty where
  holds := Medium.holds_blank root
  sound := Contents.sound_empty
  linked _ _ found := by cases found

/-- **Nodes that are reached by submissions are sound.** -/
theorem Submitted.sound {first : Node σ} {requests : List Request}
    (run : Submitted first node requests) (begins : first.Sound contents) :
    ∃ contents, node.Sound contents := by
  induction run with
  | start => exact ⟨contents, begins⟩
  | accepted earlier accepts ih =>
    obtain ⟨_, sound⟩ := ih
    obtain ⟨later, recorded⟩ := sound.recorded accepts
    exact ⟨later, recorded.sound⟩
  | refused earlier refuses ih =>
    obtain ⟨_, sound⟩ := ih
    exact ⟨_, sound.of_refuses refuses⟩

end Node

end ObjectLedger
