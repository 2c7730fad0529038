/-
**What the responses over a store look like.**

* **`Outcome.storage_paid`**: over every store, a request or a view that fails has paid for the
  storage of the request, and one that completes for that of the response that is given as well.
* **`Node.Submitted.responses_normal`**: over the store of every node that submissions lead to, the
  response to a request or a view under a new reference is in normal form.
-/
import ObjectLedger.Proofs.Node.Gas
import ObjectLedger.Proofs.Node.Viewing
import ObjectLedger.Proofs.Transaction.Candidate
import ObjectLedger.Proofs.Transaction.Normal

namespace ObjectLedger

variable {config : NodeConfig} {view : LedgerView} {cache : ClasspathCache}
  {reference : TransactionRef} {header : Header} {action : Action} {request : Request}
  {outcome : Outcome} {response : Response}

/-- An outcome with a response comes from a request that came to an end. -/
theorem Outcome.ofRequest_or_ofView_of_built
    (built : (build config view cache reference request).1 = .ok outcome ∨
      (buildView config view cache reference request).1 = .ok outcome)
    (given : outcome.response? = some response) :
    ∃ last, ofRequest config view reference request cache = .ok outcome last ∨
      ofView config view reference request cache = .ok outcome last := by
  rcases built with settled | settled
  · obtain ⟨last, built⟩ := Build.ok_of_settle settled given
    exact ⟨last, Or.inl built⟩
  · obtain ⟨last, built⟩ := Build.ok_of_settle settled given
    exact ⟨last, Or.inr built⟩

/-- **The response that is given is the one that is paid for.** The gas consumed for storage by a
request or a view that fails is that for its own bytes. If it completes, it is that and the one for
the bytes of the response that is given, which are as many as those of the response before the charge
and the refund. -/
theorem Outcome.storage_paid
    (built : (build config view cache reference (.paid header action)).1 = .ok outcome ∨
      (buildView config view cache reference (.paid header action)).1 = .ok outcome) :
    (∀ response, outcome = .failed response → ∃ gas, response.gas? = some gas ∧
      gas.storage = config.gas.storageOfBytes (Request.paid header action).size) ∧
    ∀ response, outcome = .completed response → ∃ gas, response.gas? = some gas ∧
      gas.storage.toNat = (config.gas.storageOfBytes (Request.paid header action).size).toNat +
        (config.gas.storageOfBytes response.size).toNat ∧
      ∃ classes after paid isView roots respond candidate,
        Build.link config view (action.classpaths header) cache = .ok classes after ∧
        Paid.start config view reference header action classes (action.extra config.gas) isView =
          .ok paid ∧
        { paid with heap := paid.left }.complete roots respond = .ok outcome ∧
        { paid with heap := paid.left }.candidate? roots respond = some candidate ∧
        (Codec.response.encode candidate).length = (Codec.response.encode response).length := by
  constructor
  · rintro response rfl
    obtain ⟨last, built⟩ := ofRequest_or_ofView_of_built built rfl
    obtain ⟨classes, paid, isView, -, -, request, -, billed⟩ := Paid.billed_of_built built
    cases billed with
    | @failed cause heap spared =>
      exact ⟨heap.charger.consumed, (paid.action.failed_spec _).2.1, spared.trans request⟩
  · rintro response rfl
    obtain ⟨last, built⟩ := ofRequest_or_ofView_of_built built rfl
    obtain ⟨classes, paid, isView, link, started, request, costs, billed⟩ :=
      Paid.billed_of_built built
    cases billed with
    | completed completes found carries same charged =>
      refine ⟨_, carries.gas?_eq, ?_, classes, last, paid, isView, _, _, _, link, started, completes,
        found, same.length_eq.symm⟩
      rw [← request, ← costs]
      exact charged

/-- The response to a view of the balance of a gamete, which gets its unused gas back. -/
def Getters.told : Response :=
  .methodCall (.successful (some (.bigInteger 985000))
    ⟨[.field Purses.gamete .balance (.bigInteger 998929),
      .field Purses.gamete .nonce (.bigInteger 0)], [], ⟨56, 28, 273⟩⟩)

/-- A purse that is made, a purse that is not, and a view. -/
theorem Outcome.storage_paid_purses :
    ((build {} Purses.funded.ledger.view Purses.funded.cache ⟨2⟩
        (.paid (Purses.header 0) (Purses.making 100 5))).1 = .ok (.completed Purses.made) ∧
      362 = (({} : NodeConfig).gas.storageOfBytes
          (Request.paid (Purses.header 0) (Purses.making 100 5)).size).toNat +
        (({} : NodeConfig).gas.storageOfBytes Purses.made.size).toNat) ∧
    ((build {} Purses.funded.ledger.view Purses.funded.cache ⟨2⟩
        (.paid (Purses.header 0) (Purses.making 100 500))).1 = .ok (.failed Purses.refused) ∧
      104 = ({} : NodeConfig).gas.storageOfBytes
        (Request.paid (Purses.header 0) (Purses.making 100 500)).size) ∧
    (buildView {} Getters.funded.ledger.view Getters.funded.cache ⟨2⟩
        (.paid (Purses.header 0) Getters.balance)).1 = .ok (.completed Getters.told) ∧
      273 = (({} : NodeConfig).gas.storageOfBytes
          (Request.paid (Purses.header 0) Getters.balance).size).toNat +
        (({} : NodeConfig).gas.storageOfBytes Getters.told.size).toNat := by
  have viewed : (buildView {} Getters.funded.ledger.view Getters.funded.cache ⟨2⟩
      (.paid (Purses.header 0) Getters.balance)).1 = .ok (.completed Getters.told) := by
    decide +kernel
  obtain ⟨_, given, made, -⟩ := (storage_paid (Or.inl Purses.build_made)).2 _ rfl
  cases given
  obtain ⟨_, given, refused⟩ := (storage_paid (Or.inl Purses.build_refused)).1 _ rfl
  cases given
  obtain ⟨_, given, told, -⟩ := (storage_paid (Or.inr viewed)).2 _ rfl
  cases given
  exact ⟨⟨Purses.build_made, made⟩, ⟨Purses.build_refused, refused⟩, viewed, told⟩

namespace Node

variable {settings : NodeConfig} {root : Option String} {node : Node Medium}
  {requests : List Request}

/-- **The response to a request or a view is in normal form**, for the classes that were linked for
it, and tells the balance and the nonce of a caller that pays. -/
theorem Submitted.responses_normal
    (reached : Submitted (Node.start settings { backend := Medium.blank root }) node requests)
    (beyond : ∀ other response, node.response other = .ok (some response) → other < reference)
    (built : (Outcome.build config node.ledger.view cache reference request).1 = .ok outcome ∨
      (Outcome.buildView config node.ledger.view cache reference request).1 = .ok outcome)
    (given : outcome.response? = some response) :
    ∃ classes after, Build.link config node.ledger.view request.classpaths cache =
        .ok classes after ∧
      response.Normal node.ledger.view classes reference ∧
      ∀ header action, request = .paid header action → response.TellsAccount header.caller := by
  obtain ⟨contents, sound⟩ := reached.sound (sound_start settings root)
  have fresh := sound.fresh (sound.unrecorded_of_beyond beyond)
  obtain ⟨_, built⟩ := Outcome.ofRequest_or_ofView_of_built built given
  exact Outcome.normal fresh built given

/-- The response to the request of a purse, which is a new object. -/
theorem responses_normal_purse :
    Submitted Purses.begun Purses.funded [Purses.installing, Purses.creation] ∧
    (Outcome.build {} Purses.funded.ledger.view Purses.funded.cache ⟨2⟩
      (.paid (Purses.header 0) (Purses.making 100 5))).1 = .ok (.completed Purses.made) ∧
    (∃ classes after, Build.link {} Purses.funded.ledger.view [⟨⟨0⟩, false⟩] Purses.funded.cache =
        .ok classes after ∧
      Purses.made.Normal Purses.funded.ledger.view classes ⟨2⟩) := by
  obtain ⟨classes, after, link, normal, -⟩ := Submitted.responses_normal Purses.submitted_funded
    (fun _ _ => Purses.lt_two_of_response) (Or.inl Purses.build_made) rfl
  exact ⟨Purses.submitted_funded, Purses.build_made, classes, after, link, normal⟩

end Node

end ObjectLedger
