/-
**What a push and a replacement can do.**

* `Ledger.extension`: the history that an object gets from a push.
  `Ledger.extendedHistories_cases`: a push computes that of each object that it updates, or meets
  the first one that has none.
* `Ledger.Refuses`, `Ledger.Accepts`: why a push is refused, and what is known once it is accepted.
  **`Ledger.push_cases`**: nothing but counters changes in the one case, and all is written at once
  in the other. `Ledger.replace_cases`: the same for a replacement.
-/
import ObjectLedger.Proofs.Order
import ObjectLedger.Store.Ledger

namespace ObjectLedger

theorem mem_updatedObjects {response : Response} {object : ObjectRef} :
    object ∈ Ledger.updatedObjects response ↔ response.updatesOf object ≠ [] := by
  unfold Ledger.updatedObjects Response.updatesOf
  rw [mem_normalize, List.mem_map, Ne, List.filter_eq_nil_iff]
  simp

namespace Ledger

variable {σ : Type} [Backend σ] {backend : σ} {reference : TransactionRef} {request : Request}
  {response : Response}

/-- The history of an object after a response at a reference, and the number of dropped entries. -/
def extension (backend : σ) (reference : TransactionRef) (response : Response)
    (object : ObjectRef) : Except StoreError (List TransactionRef × Nat) :=
  match Backend.history backend .uncommitted object with
  | .error cause => .error cause
  | .ok history =>
    History.extend (Backend.response backend .uncommitted) reference response object history

/-- **The histories of a push are those of its objects, in order, unless one of them has none.** -/
theorem extendedHistories_cases (backend : σ) (reference : TransactionRef) (response : Response)
    (before : Metrics) (objects : List ObjectRef) :
    (∃ cause after object, object ∈ objects ∧
        extension backend reference response object = .error cause ∧
        extendedHistories backend reference response before objects = (.error cause, after)) ∨
      ∃ histories after, histories.map Prod.fst = objects ∧
        (∀ entry ∈ histories, ∃ dropped,
          extension backend reference response entry.1 = .ok (entry.2, dropped)) ∧
        extendedHistories backend reference response before objects = (.ok histories, after) := by
  induction objects generalizing before with
  | nil => exact Or.inr ⟨[], before, rfl, fun _ member => absurd member List.not_mem_nil, rfl⟩
  | cons object rest ih =>
    have here : extension backend reference response object =
        match Backend.history backend .uncommitted object with
        | .error cause => .error cause
        | .ok history => History.extend (Backend.response backend .uncommitted) reference response
            object history := rfl
    unfold extendedHistories
    cases read : Backend.history backend .uncommitted object with
    | error cause =>
      rw [read] at here
      exact Or.inl ⟨cause, before, object, List.mem_cons_self, here, rfl⟩
    | ok history =>
      rw [read] at here
      dsimp only at here ⊢
      cases extended : History.extend (Backend.response backend .uncommitted) reference response
          object history with
      | error cause =>
        exact Or.inl ⟨cause, before, object, List.mem_cons_self, here.trans extended, rfl⟩
      | ok result =>
        obtain ⟨longer, dropped⟩ := result
        rcases ih (before.recordExpansion (UInt64.ofNat dropped)) with
          ⟨cause, after, other, member, broken, tail⟩ | ⟨others, after, objectsOf, each, tail⟩
        · exact Or.inl ⟨cause, after, other, List.mem_cons_of_mem _ member, broken, by simp [tail]⟩
        · refine Or.inr ⟨(object, longer) :: others, after, congrArg (object :: ·) objectsOf,
            fun entry member => ?_, by simp [tail]⟩
          rcases List.mem_cons.mp member with rfl | member
          · exact ⟨dropped, here.trans extended⟩
          · exact each entry member

/-- Why a push is refused. -/
inductive Refuses (backend : σ) (reference : TransactionRef) (request : Request)
    (response : Response) : StoreError → Prop where
  | unread {cause : StoreError} (failed : Backend.response backend .uncommitted reference =
      .error cause) : Refuses backend reference request response cause
  | known {earlier : Response} (found : Backend.response backend .uncommitted reference =
      .ok (some earlier)) : Refuses backend reference request response (.alreadyPushed reference)
  | unnamed {cause : StoreError} (failed : newManifest backend reference request response =
      .error cause) : Refuses backend reference request response cause
  | broken {cause : StoreError} {object : ObjectRef} (updated : response.updatesOf object ≠ [])
      (failed : extension backend reference response object = .error cause) :
      Refuses backend reference request response cause

/-- What was found by the checks of a push, all of which come before it writes. -/
structure Accepts (backend : σ) (reference : TransactionRef) (request : Request)
    (response : Response) (histories : List (ObjectRef × List TransactionRef))
    (manifest : Option ObjectRef) : Prop where
  fresh : Backend.response backend .uncommitted reference = .ok none
  named : newManifest backend reference request response = .ok manifest
  objects : histories.map Prod.fst = updatedObjects response
  extended : ∀ entry ∈ histories, ∃ dropped,
    extension backend reference response entry.1 = .ok (entry.2, dropped)

/-- The histories of the updated objects can all be extended. -/
theorem Accepts.exists_entry {histories : List (ObjectRef × List TransactionRef)}
    {manifest : Option ObjectRef}
    (accepts : Accepts backend reference request response histories manifest) {object : ObjectRef}
    (updated : response.updatesOf object ≠ []) : ∃ history, (object, history) ∈ histories := by
  have listed : object ∈ histories.map Prod.fst := by
    rw [accepts.objects]
    exact mem_updatedObjects.mpr updated
  obtain ⟨⟨_, history⟩, member, rfl⟩ := List.mem_map.mp listed
  exact ⟨history, member⟩

/-- No reason to refuse a push is left once it is accepted. -/
theorem Accepts.not_refuses {histories : List (ObjectRef × List TransactionRef)}
    {manifest : Option ObjectRef}
    (accepts : Accepts backend reference request response histories manifest)
    (cause : StoreError) : ¬ Refuses backend reference request response cause := by
  intro refuses
  cases refuses with
  | unread failed => cases failed.symm.trans accepts.fresh
  | known found => cases found.symm.trans accepts.fresh
  | unnamed failed => cases failed.symm.trans accepts.named
  | broken updated failed =>
    obtain ⟨history, member⟩ := accepts.exists_entry updated
    obtain ⟨dropped, extended⟩ := accepts.extended _ member
    cases failed.symm.trans extended

/-- **A push is refused for a reason and changes counters only, or it is accepted and writes its
transaction with all histories at once.** -/
theorem push_cases (ledger : Ledger σ) (reference : TransactionRef) (request : Request)
    (response : Response) :
    (∃ cause metrics, Refuses ledger.backend reference request response cause ∧
        ledger.push reference request response = (.error cause, { ledger with metrics })) ∨
      ∃ histories manifest metrics,
        Accepts ledger.backend reference request response histories manifest ∧
        ledger.push reference request response = (.ok (), { ledger with
          backend := Backend.write ledger.backend
            (writeTransaction reference request response histories manifest)
          metrics }) := by
  unfold push
  cases found : Backend.response ledger.backend .uncommitted reference with
  | error cause => exact Or.inl ⟨cause, _, .unread found, rfl⟩
  | ok earlier =>
    cases earlier with
    | some earlier => exact Or.inl ⟨_, _, .known found, rfl⟩
    | none =>
      dsimp only
      cases named : newManifest ledger.backend reference request response with
      | error cause => exact Or.inl ⟨cause, _, .unnamed named, rfl⟩
      | ok manifest =>
        rcases extendedHistories_cases ledger.backend reference response ledger.metrics
          (updatedObjects response) with
          ⟨cause, after, object, member, failed, same⟩ | ⟨histories, after, objects, each, same⟩
        · exact Or.inl ⟨cause, after, .broken (mem_updatedObjects.mp member) failed, by simp [same]⟩
        · exact Or.inr ⟨histories, manifest, after.recordPush, ⟨found, named, objects, each⟩,
            by simp [same]⟩

/-- **A replacement is refused and changes nothing, or it writes its transaction.** -/
theorem replace_cases (ledger : Ledger σ) (reference : TransactionRef) (request : Request)
    (response : Response) :
    (∃ cause, ledger.replace reference request response = (.error cause, ledger)) ∨
      ∃ earlier, Backend.response ledger.backend .uncommitted reference = .ok (some earlier) ∧
        ledger.replace reference request response = (.ok (), { ledger with
          backend := Backend.write ledger.backend (·.putTransaction reference request response)
          metrics := ledger.metrics.recordReplace }) := by
  unfold replace
  cases found : Backend.response ledger.backend .uncommitted reference with
  | error cause => exact Or.inl ⟨cause, rfl⟩
  | ok earlier =>
    cases earlier with
    | none => exact Or.inl ⟨_, rfl⟩
    | some earlier => exact Or.inr ⟨earlier, rfl, rfl⟩

end Ledger

end ObjectLedger
