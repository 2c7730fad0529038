/-
**A push that is not refused at its first checks succeeds.**

* `Contents.Open`: a history of which the entries but the oldest have responses about the object.
  `History.exists_extend`: it can be extended.
* **`Ledger.exists_push_of_open`**: a response is accepted under a reference that has none, if the
  histories of the updated objects are open, and the manifest can be named, or none is.
  `Ledger.exists_push`: so it is over intact contents.
* `Contents.Pushed.length_histories_le`: it makes no history longer than by one entry.
-/
import ObjectLedger.Proofs.Store.Replay

namespace ObjectLedger

variable {contents : Contents} {reference : TransactionRef} {response : Response}
  {object : ObjectRef}

namespace Contents

/-- The entries of a history that an extension looks at have responses that update the object. -/
def Open (contents : Contents) (object : ObjectRef) : Prop :=
  ∀ entry ∈ (contents.histories object).dropLast, ∃ response,
    contents.responses entry = some response ∧ response.updatesOf object ≠ []

theorem Intact.open (intact : contents.Intact) (object : ObjectRef) : contents.Open object :=
  fun entry member => intact object entry (List.dropLast_subset _ member)

end Contents

namespace History

/-- Entries with a response about the object can be looked through. -/
theorem exists_providers {covered : List UpdateKey} {entries : List TransactionRef}
    (known : ∀ entry ∈ entries, ∃ response, contents.responses entry = some response ∧
      response.updatesOf object ≠ []) :
    ∃ result, providers contents.look object reference covered entries = .ok result := by
  induction entries generalizing covered with
  | nil => exact ⟨_, rfl⟩
  | cons entry rest ih =>
    have older := fun covered : List UpdateKey =>
      @ih covered fun other member => known other (List.mem_cons_of_mem _ member)
    rw [providers]
    split
    · exact older covered
    · obtain ⟨response, found, updated⟩ := known entry List.mem_cons_self
      obtain ⟨⟨kept, dropped⟩, tail⟩ := older (covered ++ keysOf response object)
      have some : (keysOf response object).isEmpty = false := by
        rw [List.isEmpty_eq_false_iff]
        exact fun nothing => updated (keysOf_eq_nil.mp nothing)
      simp only [Contents.look, found, some, tail, Bool.false_eq_true, if_false]
      split
      · exact ⟨_, rfl⟩
      · exact ⟨_, rfl⟩

/-- An open history can be extended. -/
theorem exists_extend (isOpen : contents.Open object) (reference : TransactionRef)
    (response : Response) :
    ∃ result, extend contents.look reference response object (contents.histories object) =
      .ok result := by
  unfold extend
  split
  · exact ⟨_, rfl⟩
  · obtain ⟨⟨kept, dropped⟩, looked⟩ : ∃ result, providers contents.look object reference
        (keysOf response object) (contents.histories object).dropLast = .ok result :=
      exists_providers isOpen
    rw [looked]
    exact ⟨_, rfl⟩

end History

namespace Ledger

variable {σ : Type} [Backend σ] [LawfulBackend σ] {ledger : Ledger σ}

theorem exists_extendedHistories (holds : ledger.Holds contents) (reference : TransactionRef)
    (response : Response) {objects : List ObjectRef}
    (isOpen : ∀ object ∈ objects, contents.Open object) (metrics : Metrics) :
    ∃ histories after, extendedHistories ledger.backend reference response metrics objects =
      (.ok histories, after) := by
  induction objects generalizing metrics with
  | nil => exact ⟨[], metrics, rfl⟩
  | cons object rest ih =>
    obtain ⟨⟨extended, dropped⟩, first⟩ :=
      History.exists_extend (isOpen object List.mem_cons_self) reference response
    obtain ⟨others, after, tail⟩ := ih (fun other member =>
      isOpen other (List.mem_cons_of_mem _ member)) (metrics.recordExpansion (UInt64.ofNat dropped))
    simp only [extendedHistories, holds.history_eq, holds.response_eq, first, tail]
    exact ⟨_, _, rfl⟩

/-- **A response is accepted under a reference that has none**, if the histories of the updated
objects are open, and the manifest can be named, or none is. -/
theorem exists_push_of_open (holds : ledger.Holds contents)
    (isOpen : ∀ object, response.updatesOf object ≠ [] → contents.Open object)
    (fresh : contents.responses reference = none) {request : Request} {manifest : Option ObjectRef}
    (named : newManifest ledger.backend reference request response = .ok manifest) :
    ∃ pushed, ledger.push reference request response = (.ok (), pushed) := by
  obtain ⟨histories, metrics, extended⟩ := exists_extendedHistories holds reference response
    (fun object member => isOpen object (mem_updatedObjects.mp member)) ledger.metrics
  simp only [push, holds.response_eq, Contents.look, fresh, named, extended]
  exact ⟨_, rfl⟩

theorem exists_push (holds : ledger.Holds contents) (intact : contents.Intact)
    (fresh : contents.responses reference = none) {request : Request} {manifest : Option ObjectRef}
    (named : newManifest ledger.backend reference request response = .ok manifest) :
    ∃ pushed, ledger.push reference request response = (.ok (), pushed) :=
  exists_push_of_open holds (fun object _ => intact.open object) fresh named

end Ledger

theorem Contents.Pushed.length_histories_le {before after : Contents} {reference : TransactionRef}
    {response : Response} (pushed : before.Pushed reference response after) (object : ObjectRef) :
    (after.histories object).length ≤ (before.histories object).length + 1 := by
  by_cases updated : response.updatesOf object = []
  · rw [pushed.others object updated]
    exact Nat.le_succ _
  · obtain ⟨dropped, extended⟩ := pushed.extended object updated
    have longer := History.length_extend extended
    omega

end ObjectLedger
