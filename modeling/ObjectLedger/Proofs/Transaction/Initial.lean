/-
**Initial requests.**

* `Response.isInitial`: the responses of a set-up.
* **`Outcome.build_of_named`**: once a manifest is named, initial requests are rejected.
* **`Outcome.isInitial_response`**: only they lead to the responses of a set-up.
  `Outcome.named_of_isInitialization`: only the naming of the manifest ends it.
* `Initial.history_of_nameManifest`: only an object with a history can be named.
-/
import ObjectLedger.Proofs.Transaction.Answers
import ObjectLedger.Proofs.Transaction.Faults

namespace ObjectLedger

variable {config : NodeConfig} {view : LedgerView} {cache after : ClasspathCache}
  {reference : TransactionRef} {request : Request} {response : Response} {outcome : Outcome}
  {manifest : ObjectRef}

/-- The response is that to an initial request. -/
def Response.isInitial : Response → Bool
  | initialJar _ _ | gameteCreation _ _ | initialization => true
  | _ => false

/-- Why initial requests are rejected once the manifest is named. -/
def Initial.alreadySetUp (manifest : ObjectRef) : String :=
  "cannot run an initial transaction: the node is already initialized with manifest " ++
    manifest.toText

/-- **Once a manifest is named, initial requests are rejected**, before anything is linked for them. -/
theorem Outcome.build_of_named (named : view.manifest = .ok (some manifest))
    (initial : request.isInitial = true) :
    build config view cache reference request =
      (.ok (.rejected (Initial.alreadySetUp manifest)), cache) := by
  have stops : Initial.rejectIfSetUp view cache =
      .error (.rejected (Initial.alreadySetUp manifest)) cache := by
    unfold Initial.rejectIfSetUp
    rw [named]
    rfl
  have stopped : ofRequest config view reference request cache =
      .error (.rejected (Initial.alreadySetUp manifest)) cache := by
    cases request with
    | installInitialJar jar dependencies => exact bind_of_error stops
    | createGamete classpath amount publicKey => exact bind_of_error stops
    | nameManifest classpath manifest => exact bind_of_error stops
    | paid header action => cases initial
  unfold build Build.settle
  rw [stopped]

/-- **The responses of a set-up are those to initial requests.** -/
theorem Outcome.isInitial_response
    (built : ofRequest config view reference request cache = .ok outcome after)
    (given : outcome.response? = some response) : response.isInitial = request.isInitial := by
  cases answered_of_ofRequest built given with
  | installedInitially | createdGamete | namedManifest => rfl
  | paid answered => cases answered <;> rfl

/-- A look at the manifest that is not rejected found none. -/
theorem Initial.manifest_of_rejectIfSetUp
    (free : rejectIfSetUp view cache = .ok () after) : view.manifest = .ok none := by
  obtain ⟨found, middle, looked, free⟩ := ok_of_bind free
  cases known : view.manifest with
  | error cause =>
    rw [known] at looked
    cases looked
  | ok manifest =>
    rw [known] at looked
    cases looked
    cases found with
    | none => rfl
    | some manifest => cases free

/-- **Only a request that names the manifest ends the set-up**, and only if there is none. -/
theorem Outcome.named_of_isInitialization
    (built : ofRequest config view reference request cache = .ok outcome after)
    (given : outcome.response? = some response) (ends : response.isInitialization = true) :
    ∃ classpath manifest, request = .nameManifest classpath manifest ∧ view.manifest = .ok none := by
  cases answered_of_ofRequest built given with
  | @namedManifest classpath manifest =>
    obtain ⟨_, _, free, -⟩ := ok_of_bind built
    exact ⟨classpath, manifest, rfl, Initial.manifest_of_rejectIfSetUp free⟩
  | installedInitially | createdGamete => cases ends
  | paid answered => cases answered <;> cases ends

/-- Only an object with a history can be named. -/
theorem Initial.history_of_nameManifest {classpath : Classpath}
    (built : nameManifest config view classpath manifest cache = .ok outcome after) :
    view.history manifest ≠ .ok [] := by
  intro nothing
  have unknown : view.classTag? manifest = .ok none := by
    unfold LedgerView.classTag?
    rw [nothing]
    rfl
  obtain ⟨_, _, -, built⟩ := ok_of_bind built
  obtain ⟨_, _, -, built⟩ := ok_of_bind built
  obtain ⟨tag, _, looked, built⟩ := ok_of_bind built
  rw [unknown] at looked
  cases looked
  cases built

end ObjectLedger
