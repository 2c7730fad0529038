/-
**The gas of a paid transaction, and what its caller pays for it.**

* **`Node.Submitted.gas_accounted`**: over the store of every node that submissions lead to, a failure
  keeps all gas that was bought, and a transaction that completes returns what it did not consume.
-/
import ObjectLedger.Proofs.Node.Memory

namespace ObjectLedger

namespace Node

variable {settings : NodeConfig} {root : Option String} {node : Node Medium}
  {requests : List Request} {reference : TransactionRef}

/-- Nothing is recorded under a reference beyond all those recorded. -/
theorem Sound.unrecorded_of_beyond {contents : Contents} (sound : node.Sound contents)
    (beyond : ∀ other response, node.response other = .ok (some response) → other < reference) :
    node.response reference = .ok none := by
  obtain ⟨found, read⟩ := sound.readable reference
  have read : node.response reference = .ok found := read
  cases found with
  | none => exact read
  | some response => exact absurd (beyond reference response read) (UInt64.lt_irrefl _)

/-- **A failure keeps all gas of a paid transaction, and a transaction that completes returns what it
did not consume**, for the balance that its code left the caller. -/
theorem Submitted.gas_accounted
    (reached : Submitted (Node.start settings { backend := Medium.blank root }) node requests)
    (beyond : ∀ other response, node.response other = .ok (some response) → other < reference)
    (config : NodeConfig) (cache : ClasspathCache) (header : Header) (action : Action)
    (response : Response) :
    ((Outcome.build config node.ledger.view cache reference (.paid header action)).1 =
        .ok (.failed response) →
      ∃ owned, node.ledger.view.value header.caller .balance = .bigInteger owned ∧
        response.KeepsGas header owned) ∧
    ((Outcome.build config node.ledger.view cache reference (.paid header action)).1 =
        .ok (.completed response) →
      ∃ paid owned kept,
        Paid.started? config node.ledger.view cache reference header action = some paid ∧
        node.ledger.view.value header.caller .balance = .bigInteger owned ∧
        paid.left.value node.ledger.view header.caller .balance = .bigInteger kept ∧
        response.ReturnsGas header owned kept) := by
  obtain ⟨contents, sound⟩ := reached.sound (sound_start settings root)
  have fresh := sound.fresh (sound.unrecorded_of_beyond beyond)
  constructor
  · intro built
    obtain ⟨after, ran⟩ := Outcome.built_of_response? built rfl
    obtain ⟨classes, paid, owned, -, -, bought, ended⟩ := Paid.outcome_cases fresh ran
    rcases ended with ⟨cause, charger, balanced, same⟩ | ⟨_, _, _, _, _, _, _, same⟩
    · cases same
      exact ⟨owned, bought.owned, bought.keepsGas balanced rfl⟩
    · cases same
  · intro built
    obtain ⟨after, ran⟩ := Outcome.built_of_response? built rfl
    obtain ⟨classes, paid, owned, -, started, bought, ended⟩ := Paid.outcome_cases fresh ran
    rcases ended with ⟨_, _, _, same⟩ | ⟨kept, last, effects, other, -, settled, carries, same⟩
    · cases same
    · cases same
      exact ⟨paid, owned, kept, started, bought.owned, settled.value_left bought,
        settled.returnsGas bought carries⟩

/-- The gamete makes a purse that loses five coins, and fails to make one that loses more than it
gets. -/
theorem gas_accounted_purses :
    Submitted Purses.begun Purses.funded [Purses.installing, Purses.creation] ∧
    (Outcome.build {} Purses.funded.ledger.view Purses.funded.cache ⟨2⟩
      (.paid (Purses.header 0) (Purses.making 100 5))).1 = .ok (.completed Purses.made) ∧
    (∃ owned kept, Purses.made.ReturnsGas (Purses.header 0) owned kept) ∧
    (Outcome.build {} Purses.funded.ledger.view Purses.funded.cache ⟨2⟩
      (.paid (Purses.header 0) (Purses.making 100 500))).1 = .ok (.failed Purses.refused) ∧
    ∃ owned, Purses.refused.KeepsGas (Purses.header 0) owned := by
  have beyond : ∀ other response, Purses.funded.response other = .ok (some response) →
      other < (⟨2⟩ : TransactionRef) := fun _ _ => Purses.lt_two_of_response
  obtain ⟨_, owned, kept, -, -, -, returns⟩ := (Submitted.gas_accounted Purses.submitted_funded
    beyond {} Purses.funded.cache (Purses.header 0) (Purses.making 100 5) Purses.made).2
    Purses.build_made
  obtain ⟨had, -, keeps⟩ := (Submitted.gas_accounted Purses.submitted_funded
    beyond {} Purses.funded.cache (Purses.header 0) (Purses.making 100 500) Purses.refused).1
    Purses.build_refused
  exact ⟨Purses.submitted_funded, Purses.build_made, ⟨owned, kept, returns⟩, Purses.build_refused, had,
    keeps⟩

end Node

end ObjectLedger
