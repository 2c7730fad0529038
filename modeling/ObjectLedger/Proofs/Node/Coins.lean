/-
**The coins of all objects, transaction after transaction.**

* `Node.Recorded.coins_eq`: after an accepted request an object has the coins that the response
  leaves it.
* **`Node.Submitted.coins_accounted`**: over the store of every node that submissions lead to, an
  accepted request makes no coins; those that are gone paid for its gas, or belong to new objects that
  its response does not record.
-/
import ObjectLedger.Proofs.Node.Memory

namespace ObjectLedger

namespace Node

variable {settings : NodeConfig} {root : Option String} {node : Node Medium}
  {requests : List Request} {request : Request} {response : Response} {later : Contents}

/-- All coins after an accepted request. -/
theorem Recorded.coins_eq (recorded : node.Recorded request response later) :
    (node.submitted request).ledger.view.coins =
      ∑ object, (node.ledger.view.valueAfter response object .balance).coins := by
  rw [LedgerView.coins_eq_sum]
  exact Finset.sum_congr rfl fun object _ => by rw [recorded.value_eq]

/-- **No accepted request makes coins**: those that are gone paid for its gas, or belong to new
objects that its response does not record. -/
theorem Submitted.coins_accounted
    (reached : Submitted (Node.start settings { backend := Medium.blank root }) node requests)
    (closed : ∀ jar unit, node.ledger.view.Installs jar unit → unit.WritesOnly (· ≠ .balance))
    (small : node.ledger.view.coins ≤ Amount.maximum) (header : Header) (action : Action)
    (response : Response) (accepts : node.accepted? (.paid header action) = some response) :
    ∃ paid gas,
      Paid.started? node.config node.ledger.view node.cache node.next header action = some paid ∧
      response.gas? = some gas ∧
      (node.submitted (.paid header action)).ledger.view.coins +
        header.gasPrice.toNat * (gas.cpu.toNat + gas.ram.toNat + gas.storage.toNat +
          response.penalty?.elim 0 UInt64.toNat) +
        (if response.ending = .failed then 0
          else paid.left.unrecordedCoins node.ledger.view node.next response) =
      node.ledger.view.coins := by
  obtain ⟨contents, sound⟩ := reached.sound (sound_start settings root)
  obtain ⟨later, recorded⟩ := sound.recorded accepts
  obtain ⟨outcome, after, built, given⟩ := recorded.built
  obtain ⟨classes, paid, balance, link, started, bought, ended⟩ :=
    Paid.outcome_cases recorded.fresh built
  rw [recorded.coins_eq]
  rcases ended with ⟨cause, charger, balanced, rfl⟩ | ⟨kept, last, effects, other, ends, settled,
    carries, rfl⟩
  all_goals cases given
  · obtain ⟨updates, gas, penalty, ending⟩ := action.failed_spec
      { updates := paid.reserved, gas := charger.consumed, penalty := charger.penalty, cause }
    refine ⟨paid, charger.consumed, started, gas, ?_⟩
    rw [penalty, if_pos ending]
    show _ + header.gasPrice.toNat * (charger.consumed.sum + charger.penalty.toNat) + 0 = _
    rw [balanced.penalty, Nat.mul_comm]
    exact Paid.coins_after_failed bought updates
  · refine ⟨paid, effects.gas, started, carries.gas?_eq, ?_⟩
    rw [carries.penalty?_eq, if_neg carries.ending_ne]
    show _ + header.gasPrice.toNat * effects.gas.sum + _ = _
    rw [Nat.mul_comm]
    exact Paid.coins_after_completed recorded.fresh bought
      ((sound.from_of_link link).writesOnly closed) ends settled carries small

end Node

namespace Purses

open Node

/-- Of the coins of the gamete, 1488 pay for the gas of the first purse, and five are lost in a
purse that nothing refers to. -/
theorem coins_accounted_purses :
    Submitted begun funded [installing, creation] ∧
    (∀ jar unit, funded.ledger.view.Installs jar unit → unit.WritesOnly (· ≠ .balance)) ∧
    funded.ledger.view.coins = 1000000 ∧
    funded.accepted? (.paid (header 0) (making 100 5)) = some made ∧
    (funded.submitted (.paid (header 0) (making 100 5))).ledger.view.coins = 998507 ∧
    ∃ paid, Paid.started? funded.config funded.ledger.view funded.cache funded.next (header 0)
        (making 100 5) = some paid ∧
      paid.left.unrecordedCoins funded.ledger.view funded.next made = 5 := by
  have closed : ∀ jar unit, funded.ledger.view.Installs jar unit →
      unit.WritesOnly (· ≠ .balance) :=
    fun jar unit => writesOnly_of_installs (by decide +kernel)
  have before : funded.ledger.view.coins = 1000000 := by
    rw [coins_eq_sum_of_histories [gamete] (by decide +kernel) (by decide)]
    decide +kernel
  have after : (funded.submitted (.paid (header 0) (making 100 5))).ledger.view.coins = 998507 := by
    rw [coins_eq_sum_of_histories [gamete, ⟨⟨2⟩, 0⟩] (by decide +kernel) (by decide)]
    decide +kernel
  have accepts : funded.accepted? (.paid (header 0) (making 100 5)) = some made := by
    decide +kernel
  obtain ⟨paid, gas, started, consumed, accounted⟩ := Submitted.coins_accounted submitted_funded
    closed (by rw [before]; decide) (header 0) (making 100 5) made accepts
  have price : (header 0).gasPrice.toNat * (gas.cpu.toNat + gas.ram.toNat + gas.storage.toNat +
      made.penalty?.elim 0 UInt64.toNat) = 1488 := by
    cases consumed
    decide
  rw [before, after, price, if_neg (by decide)] at accounted
  exact ⟨submitted_funded, closed, before, accepts, after, paid, started,
    Nat.add_left_cancel accounted⟩

end Purses

end ObjectLedger
