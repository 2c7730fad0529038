/-
**What a view answers is what a transaction answers.**

* `Node.of_runView`: an answer of a view is the result of its outcome.
* `Node.Commits`: the records of the next transaction can be made durable.
  `Node.Submitted.commits_of_memory`: in memory they always can.
* **`Node.Submitted.call_agrees_with_view`**: wherever submissions lead to, a view that does not look
  at the nonce of its caller answers what the transaction of the same request does.
* `Getters`: accounts that tell their balance and their nonce. **`Getters.nonce_disagrees`**: a getter
  of the nonce answers a view and a transaction differently, and a nonce at its maximum stops
  transactions only.
-/
import ObjectLedger.Proofs.Node.Atomicity
import ObjectLedger.Proofs.Transaction.Viewing

namespace ObjectLedger

namespace Node

variable {node last : Node Medium} {contents : Contents} {request : Request} {header : Header}
  {action : Action} {requests : List Request} {reference : TransactionRef} {response : Response}
  {value : Option Value} {config : NodeConfig} {root : Option String}

/-! ### Views -/

/-- **An answer of a view is the result of its outcome.** -/
theorem of_runView (ran : runView request node = .ok value last) :
    ∃ outcome after effects, Outcome.ofView node.config node.ledger.view node.next request
        node.cache = .ok outcome after ∧
      outcome.response? = some (.methodCall (.successful value effects)) := by
  rw [runView_eq] at ran
  obtain ⟨outcome, middle, built, answered⟩ := ok_of_bind ran
  have settled : ((Outcome.ofView node.config node.ledger.view node.next request).settle
      node.cache).1 = .ok outcome := by
    unfold building at built
    split at built
    · rename_i made
      cases built
      rw [made]
    · cases built
  cases outcome with
  | rejected reason => cases answered
  | completed response | failed response =>
    obtain ⟨after, viewed⟩ := Build.ok_of_settle settled rfl
    obtain ⟨call, rfl⟩ := Outcome.methodCall_of_ofView viewed rfl
    cases call with
    | successful result effects =>
      cases answered
      exact ⟨_, after, effects, viewed, rfl⟩
    | exception | failed => cases answered

/-! ### Transactions -/

/-- A response that can be recorded and made durable is recorded. -/
theorem exists_recordResponse (node : Node Medium) {pushed : Ledger Medium}
    (pushes : node.ledger.push reference request response = (.ok (), pushed))
    (commits : node.config.autoCommit = true → ∃ kept, pushed.commit = (.ok (), kept)) :
    ∃ after, recordResponse reference request response node = .ok () after := by
  have step := onLedger_of_ok (fun ledger => ledger.push reference request response) pushes
  suffices ends : ∃ after, autoCommit { node with ledger := pushed, next := reference.next } =
      .ok () after by
    obtain ⟨after, ends⟩ := ends
    exact ⟨after, (bind_of_ok step).trans ends⟩
  rw [autoCommit_eq]
  split
  · rename_i always
    obtain ⟨kept, committed⟩ := commits always
    exact ⟨_, onLedger_of_ok Ledger.commit committed⟩
  · exact ⟨_, rfl⟩

/-- A transaction that took effect is answered for. -/
theorem add_of_submit {after : Node Medium} {answer : Answer}
    (ran : submit request node = .ok (reference, response) after)
    (answers : request.answer reference response = .ok answer) :
    add request node = .ok answer after := by
  refine (bind_of_ok ran).trans ?_
  simp only [answers]
  rfl

/-- The records of the next transaction can be made durable, if that is to happen at once. -/
def Commits (node : Node Medium) (request : Request) : Prop :=
  node.config.autoCommit = true → ∀ response pushed,
    node.ledger.push node.next request response = (.ok (), pushed) →
      ∃ kept, pushed.commit = (.ok (), kept)

/-- Records in memory can always be made durable. -/
theorem Submitted.commits_of_memory
    (reached : Submitted (Node.start config { backend := Medium.blank none }) node requests)
    (request : Request) : node.Commits request := by
  intro _ response pushed pushes
  obtain ⟨memory, kept, -⟩ := reached.flushed (flushed_start config)
  obtain ⟨kept, committed, -⟩ := (Ledger.InMemory.push ⟨memory, kept⟩ pushes).exists_commit
  exact ⟨kept, committed⟩

/-- A request whose outcome is complete is answered with its result. -/
theorem Sound.exists_add {effects : Effects} {after : ClasspathCache}
    (sound : node.Sound contents) (unrecorded : node.response node.next = .ok none)
    (commits : node.Commits request)
    (built : Outcome.ofRequest node.config node.ledger.view node.next request node.cache =
      .ok (.completed (.methodCall (.successful value effects))) after) :
    ∃ after, add request node = .ok (.returned value) after := by
  have made : node.outcomeOf request =
      .ok (.completed (.methodCall (.successful value effects))) := by
    unfold outcomeOf Outcome.build Build.settle
    rw [built]
  have absent : contents.responses node.next = none := by
    have found : node.ledger.view.response node.next = .ok none := unrecorded
    rw [sound.holds.shows.response_eq] at found
    exact Except.ok.inj found
  have unnamed : Ledger.newManifest node.ledger.backend node.next request
      (.methodCall (.successful value effects)) = .ok none := rfl
  obtain ⟨pushed, pushes⟩ :=
    Ledger.exists_push sound.holds sound.sound.intact absent unnamed
  obtain ⟨after, ran⟩ := exists_recordResponse { node with
    cache := (Outcome.build node.config node.ledger.view node.cache node.next request).2 } pushes
    fun always => commits always _ _ pushes
  have answers : request.answer node.next (.methodCall (.successful value effects)) =
      .ok (.returned value) := by
    cases Outcome.answered_of_ofRequest built rfl with
    | paid answered => cases answered <;> rfl
  exact ⟨after, add_of_submit ((submit_of_ok made).trans (bind_of_ok ran)) answers⟩

/-- **What a view answers is what the transaction of the same request answers**, wherever submissions
to a node over an empty store lead to, for a request with the nonce of its caller and no more gas than
a view may have, as long as the view does not come to a look at the nonce of its caller, the nonce can
be raised, and the transaction can be recorded. -/
theorem Submitted.call_agrees_with_view
    (reached : Submitted (Node.start config { backend := Medium.blank root }) node requests)
    (viewed : runView (.paid header action) node = .ok value last)
    (current : node.ledger.view.value header.caller .nonce = .bigInteger header.nonce)
    (allowed : header.gasLimit ≤ node.config.maxGasPerView)
    (unseen : ∀ paid, Paid.viewed? node.config node.ledger.view node.cache node.next header action =
      some paid → ¬ paid.LooksAt header.caller .nonce)
    (room : header.nonce.toNat < Amount.maximum)
    (unrecorded : node.response node.next = .ok none)
    (commits : root = none ∨ node.Commits (.paid header action)) :
    ∃ after, add (.paid header action) node = .ok (.returned value) after := by
  obtain ⟨contents, sound⟩ := reached.sound (sound_start config root)
  obtain ⟨outcome, _, _, built, returned⟩ := of_runView viewed
  obtain ⟨effects, built⟩ := Outcome.agrees (sound.fresh unrecorded) built returned allowed current
    room unseen
  refine sound.exists_add unrecorded ?_ built
  rcases commits with rfl | commits
  · exact reached.commits_of_memory _
  · exact commits

end Node

/-! ### Accounts that tell their balance and their nonce -/

namespace Getters

open Node Purses

/-- Accounts with getters, and with a method that raises their nonce to the maximum. -/
def unit : CodeUnit :=
  ⟨[{ BaseLibrary.contract with
      superclass := none, constructors := [], methods := [BaseLibrary.getter "balance" .balance] },
    { BaseLibrary.account with
      constructors := []
      methods := [BaseLibrary.getter "nonce" .nonce,
        ⟨"exhaust", [], none, false, .none, 0,
          [.load 0, .push (.bigInteger (BitVec.allOnes 128)), .putField .nonce, .ret]⟩] },
    BaseLibrary.gamete]⟩

def installing : Request := .installInitialJar unit.toBytes []

def installed : Node Medium := begun.submitted installing

def funded : Node Medium := installed.submitted creation

def exhausting : Request :=
  .paid (header 0) (.invoke ⟨ClassName.account, "exhaust", [], none⟩ gamete [])

/-- The node with a gamete that cannot pay for any more transactions. -/
def exhausted : Node Medium := funded.submitted exhausting

def balance : Action := .invoke ⟨ClassName.contract, "balance", [], some .bigInteger⟩ gamete []

def nonce : Action := .invoke ⟨ClassName.account, "nonce", [], some .bigInteger⟩ gamete []

theorem submitted_funded : Submitted begun funded [installing, creation] := by
  have code : Submitted begun installed [installing] :=
    Submitted.start.next (by decide +kernel)
  exact code.next (by decide +kernel)

/-- The balance of the gamete, which has paid for the gas of the view as well as for that of the
transaction. -/
theorem call_agrees_with_view_balance :
    Submitted begun funded [installing, creation] ∧
    (∃ last, runView (.paid (header 0) balance) funded = .ok (some (.bigInteger 985000)) last) ∧
    (∀ paid, Paid.viewed? funded.config funded.ledger.view funded.cache funded.next (header 0)
      balance = some paid → ¬ paid.LooksAt gamete .nonce) ∧
    ∃ after, add (.paid (header 0) balance) funded =
      .ok (.returned (some (.bigInteger 985000))) after := by
  have facts : resultOf? (runView (.paid (header 0) balance)) funded =
        some (some (.bigInteger 985000)) ∧
      funded.ledger.view.value gamete .nonce = .bigInteger 0 ∧
      (header 0).gasLimit ≤ funded.config.maxGasPerView ∧
      (Paid.viewed? funded.config funded.ledger.view funded.cache funded.next (header 0)
        balance).all (fun paid => paid.overlooks gamete .nonce 10) = true ∧
      funded.response funded.next = .ok none := by decide +kernel
  obtain ⟨answered, current, allowed, overlooked, unrecorded⟩ := facts
  obtain ⟨last, viewed⟩ := ok_of_resultOf? answered
  have unseen : ∀ paid, Paid.viewed? funded.config funded.ledger.view funded.cache funded.next
      (header 0) balance = some paid → ¬ paid.LooksAt gamete .nonce := by
    intro paid starts
    rw [starts] at overlooked
    exact Paid.not_looksAt_of_overlooks overlooked
  exact ⟨submitted_funded, ⟨last, viewed⟩, unseen,
    submitted_funded.call_agrees_with_view viewed current allowed unseen (by decide) unrecorded
      (Or.inl rfl)⟩

/-- **Not every view answers what its transaction does.** The nonce that code sees is raised for a
transaction only, and a nonce that cannot be raised does not keep a view from being run. -/
theorem nonce_disagrees :
    (Submitted begun funded [installing, creation] ∧
      funded.ledger.view.value gamete .nonce = .bigInteger 0 ∧
      (header 0).gasLimit ≤ funded.config.maxGasPerView ∧
      (∃ last, runView (.paid (header 0) nonce) funded = .ok (some (.bigInteger 0)) last) ∧
      ∃ after, add (.paid (header 0) nonce) funded =
        .ok (.returned (some (.bigInteger 1))) after) ∧
    Submitted begun exhausted [installing, creation, exhausting] ∧
      exhausted.ledger.view.value gamete .nonce = .bigInteger (BitVec.allOnes 128) ∧
      (∃ value last, runView (.paid (header (BitVec.allOnes 128)) balance) exhausted =
        .ok value last) ∧
      ∃ after, add (.paid (header (BitVec.allOnes 128)) balance) exhausted =
        .error (.rejected "the nonce of the caller overflows") after := by
  have raised : funded.ledger.view.value gamete .nonce = .bigInteger 0 ∧
      (header 0).gasLimit ≤ funded.config.maxGasPerView ∧
      resultOf? (runView (.paid (header 0) nonce)) funded = some (some (.bigInteger 0)) ∧
      resultOf? (add (.paid (header 0) nonce)) funded =
        some (.returned (some (.bigInteger 1))) ∧
      (funded.accepted? exhausting).isSome = true := by decide +kernel
  obtain ⟨first, allowed, viewed, answered, accepts⟩ := raised
  have refused : exhausted.ledger.view.value gamete .nonce = .bigInteger (BitVec.allOnes 128) ∧
      (resultOf? (runView (.paid (header (BitVec.allOnes 128)) balance)) exhausted).isSome = true ∧
      exhausted.outcomeOf (.paid (header (BitVec.allOnes 128)) balance) =
        .ok (.rejected "the nonce of the caller overflows") := by decide +kernel
  obtain ⟨greatest, told, rejected⟩ := refused
  have reached : Submitted begun exhausted [installing, creation, exhausting] :=
    submitted_funded.next accepts
  obtain ⟨after, _, _, ran, -⟩ :=
    (reached.flushed (flushed_start {})).submit_of_rejected rejected
  exact ⟨⟨submitted_funded, first, allowed, ok_of_resultOf? viewed, ok_of_resultOf? answered⟩,
    reached, greatest, ⟨_, ok_of_resultOf? (Option.some_get told).symm⟩, after, bind_of_error ran⟩

end Getters

end ObjectLedger
