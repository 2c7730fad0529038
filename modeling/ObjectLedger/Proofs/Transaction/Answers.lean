/-
**Responses are of the kind of their requests.**

* `Action.Answered`, `Request.Answered`: the response is of the kind that an action or a request
  leads to.
* `Paid.Finished.answered`: so is the response of a paid transaction that comes to an end, whether it
  fails, succeeds or throws. `Paid.answered_of_built`: also that of a view.
* **`Outcome.answered_of_ofRequest`**: the response that is built for a request is of its kind.
  `Outcome.methodCall_of_ofView`: that of a view tells how its call ended.
* **`Request.Answered.failsOnly_answer`**: so whoever asked gets what they asked for, or the cause of
  an exception or a failure, and never hears of an unexpected response.
-/
import ObjectLedger.Node.Basic
import ObjectLedger.Proofs.Transaction.Grounding

namespace ObjectLedger

/-! ### Kinds -/

/-- The response is of the kind that an action leads to. -/
inductive Action.Answered : Action → Response → Prop
  | installed {jar : List UInt8} {dependencies : List Classpath} {outcome : JarOutcome} :
      Answered (.installJar jar dependencies) (.jar outcome)
  | constructed {constructor : ConstructorSignature} {actuals : List Value}
      {outcome : CallOutcome ObjectRef} :
      Answered (.construct constructor actuals) (.constructorCall outcome)
  | invoked {method : MethodSignature} {receiver : ObjectRef} {actuals : List Value}
      {outcome : CallOutcome (Option Value)} :
      Answered (.invoke method receiver actuals) (.methodCall outcome)
  | invokedStatic {method : MethodSignature} {actuals : List Value}
      {outcome : CallOutcome (Option Value)} :
      Answered (.invokeStatic method actuals) (.methodCall outcome)

/-- The response is of the kind that a request leads to. -/
inductive Request.Answered : Request → Response → Prop
  | installedInitially {jar : List UInt8} {dependencies : List Classpath} :
      Answered (.installInitialJar jar dependencies) (.initialJar jar dependencies)
  | createdGamete {classpath : Classpath} {amount : Amount} {publicKey : String}
      {updates : List Update} {gamete : ObjectRef} :
      Answered (.createGamete classpath amount publicKey) (.gameteCreation updates gamete)
  | namedManifest {classpath : Classpath} {manifest : ObjectRef} :
      Answered (.nameManifest classpath manifest) .initialization
  | paid {header : Header} {action : Action} {response : Response}
      (answered : action.Answered response) : Answered (.paid header action) response

namespace Action

variable {action : Action} {respond : Effects → Response}

theorem answered_failed (action : Action) (failure : Failure) :
    action.Answered (action.failed failure) := by
  cases action <;> constructor

theorem Succeeds.answered {result : Option Value} (succeeds : action.Succeeds result respond)
    (effects : Effects) : action.Answered (respond effects) := by
  cases succeeds <;> constructor

theorem Throws.answered {cause : Cause} (throws : action.Throws cause respond)
    (effects : Effects) : action.Answered (respond effects) := by
  cases throws <;> constructor

end Action

/-! ### Paid transactions -/

namespace Paid

variable {config : NodeConfig} {view : LedgerView} {reference : TransactionRef} {header : Header}
  {action : Action} {paid : Paid} {roots : List ObjectRef} {respond : Effects → Response}
  {cache after : ClasspathCache} {outcome : Outcome} {response : Response}

/-- A transaction that completes fails, or its response tells what its code did. -/
theorem response_of_complete (completes : paid.complete roots respond = .ok outcome) :
    (∃ failure, outcome.response? = some (paid.action.failed failure)) ∨
      ∃ effects, outcome.response? = some (respond effects) := by
  obtain ⟨_, _, -, ⟨_, rfl⟩ | ⟨-, -, _, _, _, _, -, -, -, rfl⟩⟩ := steps_of_complete completes
  · exact Or.inl ⟨_, rfl⟩
  · exact Or.inr ⟨_, rfl⟩

theorem answered_of_complete (completes : paid.complete roots respond = .ok outcome)
    (same : paid.action = action) (answered : ∀ effects, action.Answered (respond effects))
    (given : outcome.response? = some response) : action.Answered response := by
  rcases response_of_complete completes with ⟨failure, told⟩ | ⟨effects, told⟩
  · rw [same] at told
    cases given.symm.trans told
    exact action.answered_failed failure
  · cases given.symm.trans told
    exact answered effects

/-- **A paid transaction that comes to an end has a response of the kind of its action.** -/
theorem Finished.answered (finished : paid.Finished outcome)
    (given : outcome.response? = some response) : paid.action.Answered response := by
  cases finished with
  | failed cause =>
    cases given
    exact paid.action.answered_failed _
  | succeeded ran succeeds rooted completes =>
    exact answered_of_complete completes rfl succeeds.answered given
  | threw ran checked throws completes =>
    exact answered_of_complete completes rfl throws.answered given

/-- The same of what is built for a paid request, as a transaction or as a view. -/
theorem answered_of_built
    (built : Outcome.ofRequest config view reference (.paid header action) cache =
        .ok outcome after ∨
      Outcome.ofView config view reference (.paid header action) cache = .ok outcome after)
    (given : outcome.response? = some response) : action.Answered response := by
  obtain ⟨_, paid, _, -, started, ended⟩ := finished_of_built built
  rw [← (begun_of_start started).action_eq]
  rcases ended with finished | ⟨cause, rfl⟩
  · exact finished.answered given
  · cases given
    exact paid.action.answered_failed _

end Paid

/-! ### Requests -/

namespace Outcome

variable {config : NodeConfig} {view : LedgerView} {reference : TransactionRef} {request : Request}
  {cache after : ClasspathCache} {outcome : Outcome} {response : Response}

/-- **The response that is built for a request is of its kind.** -/
theorem answered_of_ofRequest
    (built : ofRequest config view reference request cache = .ok outcome after)
    (given : outcome.response? = some response) : request.Answered response := by
  cases request with
  | installInitialJar jar dependencies =>
    rw [Initial.of_installJar built] at given
    cases given
    exact .installedInitially
  | createGamete classpath amount publicKey =>
    obtain ⟨_, _, _, _, -, -, rfl⟩ := Initial.of_createGamete built
    cases given
    exact .createdGamete
  | nameManifest classpath manifest =>
    rw [Initial.of_nameManifest built] at given
    cases given
    exact .namedManifest
  | paid header action => exact .paid (Paid.answered_of_built (Or.inl built) given)

/-- The response to a view tells how its call ended. -/
theorem methodCall_of_ofView
    (built : ofView config view reference request cache = .ok outcome after)
    (given : outcome.response? = some response) : ∃ call, response = .methodCall call := by
  cases request with
  | paid header action =>
    cases Paid.answered_of_built (Or.inr built) given with
    | installed | constructed => cases built
    | invoked | invokedStatic => exact ⟨_, rfl⟩
  | _ => cases built

end Outcome

/-! ### Answers -/

theorem CallOutcome.failsOnly_result {Result : Type} (reference : TransactionRef)
    (outcome : CallOutcome Result) :
    FailsOnly (fun error : NodeError => error.source? = none) (outcome.result reference) := by
  cases outcome with
  | successful => exact failsOnly_ok _
  | exception | failed => exact failsOnly_error rfl

/-- **A response of the kind of its request is answered for**: no fault inside the node keeps whoever
asked from an answer. -/
theorem Request.Answered.failsOnly_answer {request : Request} {response : Response}
    (answered : request.Answered response) (reference : TransactionRef) :
    FailsOnly (fun error : NodeError => error.source? = none)
      (request.answer reference response) := by
  cases answered with
  | installedInitially | createdGamete | namedManifest => exact failsOnly_ok _
  | paid answered =>
    cases answered with
    | @installed _ _ outcome =>
      cases outcome with
      | successful => exact failsOnly_ok _
      | failed failure => exact failsOnly_error rfl
    | constructed => exact (CallOutcome.failsOnly_result reference _).map _
    | invoked | invokedStatic => exact (CallOutcome.failsOnly_result reference _).map _

end ObjectLedger
