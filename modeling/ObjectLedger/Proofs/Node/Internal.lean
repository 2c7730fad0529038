/-
**Requests that stop with an internal error.**

* `Outcome.call`, `Node.conclude`: how an outcome is recorded, and the answer once it is.
  `Node.submit_of_noted`, `Node.submit_of_unnoted`: a submission records the outcome that was built,
  makes it durable if that is to happen at once, and answers.
* `Node.manual`: the node without automatic commits. `Node.outcomeOf_manual`: it builds the same
  outcomes.
* **`Node.submit_of_internal`**: a request that stops with an internal error leaves the node as it was,
  or just the automatic commit at the end failed, and the request was answered without it.
* **`Node.internal_moves_on`**: in that case the node does not stay as it was.
-/
import ObjectLedger.Proofs.Node.Unobserved
import ObjectLedger.Proofs.Store.Retry

namespace ObjectLedger

/-- How an outcome is recorded. -/
def Outcome.call (reference : TransactionRef) (request : Request) : Outcome → Ledger.Call
  | rejected reason => .pushError reference request reason
  | completed response | failed response => .push reference request response

namespace Node

section Submit

variable {σ : Type} [Backend σ] {node after : Node σ} {ledger : Ledger σ} {request : Request}
  {outcome : Outcome}

/-! ### Recording an outcome -/

/-- The answer to a request whose outcome is recorded. -/
def conclude (reference : TransactionRef) : Outcome → NodeAction σ (TransactionRef × Response)
  | .rejected reason => throw (.rejected reason)
  | .completed response | .failed response => return (reference, response)

/-- The classpaths that are kept after a request was submitted. -/
def cacheAfter (node : Node σ) (request : Request) : ClasspathCache :=
  (Outcome.build node.config node.ledger.view node.cache node.next request).2

/-- The node once the outcome of a request is recorded. -/
def noted (node : Node σ) (request : Request) (ledger : Ledger σ) : Node σ :=
  { node with ledger, cache := node.cacheAfter request, next := node.next.next }

/-- **A submission records the outcome that was built**, commits it if that is to happen at once, and
answers. -/
theorem submit_of_noted (made : node.outcomeOf request = .ok outcome)
    (ran : node.ledger.perform (outcome.call node.next request) = (.ok (), ledger)) :
    submit request node =
      (autoCommit >>= fun _ => conclude node.next outcome) (node.noted request ledger) := by
  rw [submit_of_ok made]
  have recorded : ∀ response,
      node.ledger.push node.next request response = (.ok (), ledger) →
        recordResponse node.next request response { node with cache := node.cacheAfter request } =
          autoCommit (node.noted request ledger) := by
    intro response pushed
    have step : onLedger (·.push node.next request response)
        { node with cache := node.cacheAfter request } = .ok () _ := onLedger_of_ok _ pushed
    exact bind_of_ok step
  have follows : ∀ {first second : NodeAction σ Unit} {middle : Node σ} (answer : NodeAction σ
      (TransactionRef × Response)), first { node with cache := node.cacheAfter request } =
        second middle → (first >>= fun _ => answer) { node with cache := node.cacheAfter request } =
          (second >>= fun _ => answer) middle := by
    intro first second middle answer same
    show EStateM.bind first _ _ = EStateM.bind second _ _
    unfold EStateM.bind
    rw [same]
  cases outcome with
  | rejected reason =>
    obtain ⟨-, rfl⟩ := Prod.mk.inj ran
    exact follows (throw (.rejected reason)) rfl
  | completed response => exact follows (pure (node.next, response)) (recorded response ran)
  | failed response => exact follows (pure (node.next, response)) (recorded response ran)

/-- What a submission leaves is what the commit at its end leaves. -/
theorem submitted_of_noted (made : node.outcomeOf request = .ok outcome)
    (ran : node.ledger.perform (outcome.call node.next request) = (.ok (), ledger)) :
    node.submitted request = stateAfter autoCommit (node.noted request ledger) := by
  rw [submitted, stateAfter, submit_of_noted made ran, ← stateAfter]
  refine stateAfter_bind_of_still fun _ last => ?_
  cases outcome <;> rfl

/-- A submission whose outcome cannot be recorded stops. -/
theorem submit_of_unnoted {cause : StoreError} (made : node.outcomeOf request = .ok outcome)
    (ran : node.ledger.perform (outcome.call node.next request) = (.error cause, ledger)) :
    submit request node = .error (.internal (.store cause))
        { node with ledger, cache := node.cacheAfter request } ∧
      ledger = { node.ledger with metrics := ledger.metrics } := by
  rw [submit_of_ok made]
  have stopped : ∀ response,
      node.ledger.push node.next request response = (.error cause, ledger) →
        (recordResponse node.next request response >>= fun _ => return (node.next, response) :
            NodeAction σ (TransactionRef × Response))
          { node with cache := node.cacheAfter request } = .error (.internal (.store cause))
            { node with ledger, cache := node.cacheAfter request } := by
    intro response refused
    have step : onLedger (·.push node.next request response)
        { node with cache := node.cacheAfter request } = .error _ _ := onLedger_of_error _ refused
    exact bind_of_error (bind_of_error step)
  cases outcome with
  | rejected reason => cases ran
  | completed response => exact ⟨stopped response ran, Ledger.eq_of_refused ran⟩
  | failed response => exact ⟨stopped response ran, Ledger.eq_of_refused ran⟩

/-- A submission records its outcome, or it stops and leaves the node as it was, the classpaths that
are kept and the counters aside. -/
theorem submit_cases (node : Node σ) (request : Request) :
    (∃ cause cache metrics, submit request node =
      .error (.internal cause) { node with cache, ledger := { node.ledger with metrics } }) ∨
    ∃ outcome ledger, node.outcomeOf request = .ok outcome ∧
      node.ledger.perform (outcome.call node.next request) = (.ok (), ledger) := by
  cases made : node.outcomeOf request with
  | error cause => exact Or.inl ⟨cause, _, node.ledger.metrics, submit_of_error made⟩
  | ok outcome =>
    cases ran : node.ledger.perform (outcome.call node.next request) with
    | mk result ledger =>
      cases result with
      | error cause =>
        obtain ⟨ended, same⟩ := submit_of_unnoted made ran
        rw [same] at ended
        exact Or.inl ⟨_, _, _, ended⟩
      | ok done => exact Or.inr ⟨outcome, ledger, rfl, ran⟩

omit [Backend σ] in
/-- An answer is no internal error, and changes nothing. -/
theorem conclude_cases (reference : TransactionRef) (outcome : Outcome) (node : Node σ) :
    (∃ response, conclude reference outcome node = .ok (reference, response) node) ∨
      ∃ reason, conclude reference outcome node = .error (.rejected reason) node := by
  cases outcome with
  | rejected reason => exact Or.inr ⟨reason, rfl⟩
  | completed response | failed response => exact Or.inl ⟨response, rfl⟩

/-! ### Automatic commits -/

/-- The node without automatic commits. -/
def manual (node : Node σ) : Node σ :=
  { node with config := node.config.tuned node.config.loaderCacheSize false }

theorem build_manual (node : Node σ) (request : Request) :
    Outcome.build node.manual.config node.manual.ledger.view node.manual.cache node.manual.next
        request =
      Outcome.build node.config node.ledger.view node.cache node.next request :=
  congrArg (fun build => Build.settle build node.cache)
    ((Outcome.oblivious_ofRequest node.next request).tuned _ _ _ _)

/-- Without automatic commits the same outcomes are built. -/
theorem outcomeOf_manual (node : Node σ) (request : Request) :
    node.manual.outcomeOf request = node.outcomeOf request :=
  congrArg Prod.fst (node.build_manual request)

/-- Without automatic commits a request is answered once its outcome is recorded. -/
theorem submit_manual (made : node.outcomeOf request = .ok outcome)
    (ran : node.ledger.perform (outcome.call node.next request) = (.ok (), ledger)) :
    submit request node.manual = conclude node.next outcome (node.noted request ledger).manual := by
  have same : node.manual.noted request ledger = (node.noted request ledger).manual := by
    unfold noted cacheAfter
    rw [build_manual]
    rfl
  rw [submit_of_noted ((node.outcomeOf_manual request).trans made) ran, same]
  exact bind_of_ok ((autoCommit_eq _).trans (if_neg Bool.false_ne_true))

/-- Without automatic commits a submission just records its outcome. -/
theorem submitted_of_manual (manual : node.config.autoCommit = false)
    (made : node.outcomeOf request = .ok outcome)
    (ran : node.ledger.perform (outcome.call node.next request) = (.ok (), ledger)) :
    node.submitted request = node.noted request ledger := by
  rw [submitted_of_noted made ran]
  exact stateAfter_ok ((autoCommit_eq _).trans (if_neg (Bool.eq_false_iff.mp manual)))

/-- A commit that fails leaves what its backend does, and nothing else changes. -/
theorem autoCommit_error {error : NodeError} (failed : autoCommit node = .error error after) :
    node.config.autoCommit = true ∧ ∃ problem backend,
      Backend.commit node.ledger.backend = (.error problem, backend) ∧
        after = { node with ledger := { node.ledger with backend } } ∧
        error = .internal (.store problem) := by
  rw [autoCommit_eq] at failed
  split at failed
  · rename_i always
    refine ⟨always, ?_⟩
    unfold commit onLedger Ledger.commit at failed
    cases ran : Backend.commit node.ledger.backend with
    | mk result backend =>
      rw [ran] at failed
      cases result with
      | ok done => cases failed
      | error problem =>
        cases failed
        exact ⟨problem, backend, rfl, rfl, rfl⟩
  · cases failed

/-- The node after a request whose automatic commit failed, beside the one that the request leaves
without automatic commits. -/
structure OnlyUncommitted (plain after : Node σ) : Prop where
  config : after.config = plain.config.tuned plain.config.loaderCacheSize true
  cache : after.cache = plain.cache
  next : after.next = plain.next
  now : after.ledger.now = plain.ledger.now
  metrics : after.ledger.metrics = plain.ledger.metrics
  committed : ∃ problem,
    Backend.commit plain.ledger.backend = (.error problem, after.ledger.backend)

/-- **A request that stops with an internal error leaves the node as it was**, the classpaths that are
kept and the counters aside; **or just the automatic commit failed**, and without automatic commits
the request is answered and leaves the same, with the next reference. -/
theorem submit_of_internal {cause : InternalError}
    (stopped : submit request node = .error (.internal cause) after) :
    after = { node with
        cache := after.cache
        ledger := { node.ledger with metrics := after.ledger.metrics } } ∨
      node.config.autoCommit = true ∧ ∃ plain : Node σ,
        ((∃ response, submit request node.manual = .ok (node.next, response) plain) ∨
          ∃ reason, submit request node.manual = .error (.rejected reason) plain) ∧
        plain.next = node.next.next ∧ OnlyUncommitted plain after ∧
        ∀ intact : σ → Prop, Backend.Retains intact → intact node.ledger.backend →
          Backend.answers after.ledger.backend .uncommitted =
              Backend.answers plain.ledger.backend .uncommitted ∧
            after.ledger.lastReference = plain.ledger.lastReference := by
  rcases node.submit_cases request with
    ⟨problem, cache, metrics, ended⟩ | ⟨outcome, ledger, made, ran⟩
  · cases ended.symm.trans stopped
    exact Or.inl rfl
  · rw [submit_of_noted made ran] at stopped
    rcases error_of_bind stopped with failed | ⟨_, middle, -, answered⟩
    · obtain ⟨always, problem, backend, committed, rfl, -⟩ := autoCommit_error failed
      have always : node.config.autoCommit = true := always
      refine Or.inr ⟨always, (node.noted request ledger).manual, ?_, rfl,
        ⟨?_, rfl, rfl, rfl, rfl, problem, committed⟩, fun intact retains before => ?_⟩
      · rw [submit_manual made ran]
        exact conclude_cases node.next outcome _
      · show node.config = node.manual.config.tuned node.manual.config.loaderCacheSize true
        unfold manual NodeConfig.tuned
        rw [← always]
      · have kept := retains.perform node.ledger before (outcome.call node.next request)
        rw [ran] at kept
        exact ⟨retains.answers_eq kept committed, retains.lastReference_eq kept committed⟩
    · -- an answer is no internal error
      rcases conclude_cases node.next outcome middle with ⟨response, same⟩ | ⟨reason, same⟩
      · rw [same] at answered
        cases answered
      · rw [same] at answered
        cases answered

end Submit

/-! ### A folder in the way -/

/-- A folder where the draft of the first request would be. -/
def jammedDirectory : Directory where
  folders := [Layout.transactions, Layout.transaction .first,
    Layout.temporary (Layout.request .first)]

/-- A node over files, where the folder was made after the start. -/
def jammed : Node Medium :=
  start {} { backend := .disk { root := "store", directory := jammedDirectory } }

/-- The installation of a code unit without classes. -/
def installingNothing : Request := .installInitialJar [0] []

theorem intact_jammed : jammed.ledger.backend.Intact := by
  have made : Directory.createFolders {} (Layout.temporary (Layout.request .first)) =
      .ok jammedDirectory := rfl
  exact ⟨Directory.isTree_empty.createFolders made, Records.proper_empty⟩

/-- The request stops with an internal error, but it is recorded. -/
theorem submit_jammed_eq :
    (∃ cause, submit installingNothing jammed =
      .error (.internal cause) (jammed.submitted installingNothing)) ∧
      jammed.next = ⟨0⟩ ∧ (jammed.submitted installingNothing).next = ⟨1⟩ := by
  have unwritten : resultOf (submit installingNothing) jammed =
      .error (.internal (.store (.file (.writeTemporary
        "store/transactions/0000000000000000/request.bcs.tmp")))) := by decide +kernel
  exact ⟨⟨_, error_of_resultOf unwritten⟩, by decide +kernel, by decide +kernel⟩

/-- Without automatic commits the request would be answered, and leave the same. -/
theorem submit_of_internal_jammed :
    jammed.ledger.backend.Intact ∧ (∃ cause, submit installingNothing jammed =
      .error (.internal cause) (jammed.submitted installingNothing)) ∧
      ∃ plain, ((∃ response, submit installingNothing jammed.manual = .ok (⟨0⟩, response) plain) ∨
          ∃ reason, submit installingNothing jammed.manual = .error (.rejected reason) plain) ∧
        plain.next = ⟨1⟩ ∧ OnlyUncommitted plain (jammed.submitted installingNothing) ∧
        Backend.answers (jammed.submitted installingNothing).ledger.backend .uncommitted =
          Backend.answers plain.ledger.backend .uncommitted := by
  obtain ⟨⟨cause, stopped⟩, first, second⟩ := submit_jammed_eq
  refine ⟨intact_jammed, ⟨cause, stopped⟩, ?_⟩
  rcases submit_of_internal stopped with same | ⟨-, plain, answered, next, only, answers⟩
  · rw [same, first] at second
    cases second
  · exact ⟨plain, answered, next, only, (answers _ Medium.retains intact_jammed).1⟩

/-- **An internal error does not leave every node as it was**: a request whose commit fails takes its
reference, and stays pending. -/
theorem internal_moves_on :
    ¬ ∀ (node after : Node Medium) (request : Request) (cause : InternalError),
      node.ledger.backend.Intact → submit request node = .error (.internal cause) after →
        Backend.answers after.ledger.backend .uncommitted =
            Backend.answers node.ledger.backend .uncommitted ∧
          after.next = node.next := by
  intro stays
  obtain ⟨⟨cause, stopped⟩, first, second⟩ := submit_jammed_eq
  obtain ⟨-, same⟩ := stays _ _ _ cause intact_jammed stopped
  rw [first, second] at same
  cases same

end Node

end ObjectLedger
