/-
**Stores that give the same answers take the same steps.**

* `Ledger.extendedHistories_congr`: the histories of a push depend on the answers only.
* **`Ledger.push_related`**, `Ledger.replace_related`: what two stores with the same answers accept is
  the same, and what keeps two backends related when it is written to both is kept by the call.
-/
import ObjectLedger.Proofs.Store.Mirror

namespace ObjectLedger.Ledger

variable {σ τ : Type} [Backend σ] [Backend τ] {first : Ledger σ} {second : Ledger τ}

theorem newManifest_congr {one : σ} {other : τ}
    (same : Backend.manifest one .uncommitted = Backend.manifest other .uncommitted)
    (reference : TransactionRef) (request : Request) (response : Response) :
    newManifest one reference request response = newManifest other reference request response := by
  unfold newManifest
  rw [same]

/-- What is found before an error does not matter for the histories. -/
theorem extendedHistories_congr {one : σ} {other : τ}
    (same : Backend.answers one .uncommitted = Backend.answers other .uncommitted)
    (reference : TransactionRef) (response : Response) (metrics metrics' : Metrics)
    (objects : List ObjectRef) :
    (extendedHistories one reference response metrics objects).1 =
      (extendedHistories other reference response metrics' objects).1 := by
  have responses : Backend.response one .uncommitted = Backend.response other .uncommitted :=
    congrArg Answers.response same
  have histories : Backend.history one .uncommitted = Backend.history other .uncommitted :=
    congrArg Answers.history same
  induction objects generalizing metrics metrics' with
  | nil => rfl
  | cons object rest ih =>
    unfold extendedHistories
    rw [responses, histories]
    cases Backend.history other .uncommitted object with
    | error cause => rfl
    | ok history =>
      simp only
      cases History.extend (Backend.response other .uncommitted) reference response object
          history with
      | error cause => rfl
      | ok extended =>
        have tail := ih (metrics.recordExpansion (UInt64.ofNat extended.2))
          (metrics'.recordExpansion (UInt64.ofNat extended.2))
        simp only
        revert tail
        generalize extendedHistories one reference response _ rest = found
        generalize extendedHistories other reference response _ rest = foundToo
        obtain ⟨_ | _, _⟩ := found <;> obtain ⟨_ | _, _⟩ := foundToo <;> intro tail <;>
          cases tail <;> rfl

/-- **Stores that give the same answers accept the same pushes, and then write the same records.** -/
theorem push_related
    (agree : Backend.answers first.backend .uncommitted =
      Backend.answers second.backend .uncommitted)
    (reference : TransactionRef) (request : Request) (response : Response) :
    (first.push reference request response).1 = (second.push reference request response).1 ∧
      ∀ related : σ → τ → Prop, related first.backend second.backend →
        (∀ histories manifest,
          related
            (Backend.write first.backend
              (writeTransaction reference request response histories manifest))
            (Backend.write second.backend
              (writeTransaction reference request response histories manifest))) →
        related (first.push reference request response).2.backend
          (second.push reference request response).2.backend := by
  have known : Backend.response first.backend .uncommitted =
      Backend.response second.backend .uncommitted := congrArg Answers.response agree
  have histories := extendedHistories_congr agree reference response first.metrics second.metrics
    (updatedObjects response)
  unfold push
  rw [known, newManifest_congr (congrArg Answers.manifest agree)]
  cases Backend.response second.backend .uncommitted reference with
  | error cause => exact ⟨rfl, fun _ unchanged _ => unchanged⟩
  | ok found =>
    cases found with
    | some response => exact ⟨rfl, fun _ unchanged _ => unchanged⟩
    | none =>
      simp only
      cases newManifest second.backend reference request response with
      | error cause => exact ⟨rfl, fun _ unchanged _ => unchanged⟩
      | ok manifest =>
        simp only
        revert histories
        generalize extendedHistories first.backend reference response _ _ = found
        generalize extendedHistories second.backend reference response _ _ = foundToo
        obtain ⟨_ | histories, _⟩ := found <;> obtain ⟨_ | _, _⟩ := foundToo <;>
          intro same <;> cases same
        · exact ⟨rfl, fun _ unchanged _ => unchanged⟩
        · exact ⟨rfl, fun _ _ written => written histories manifest⟩

/-- **They also accept the same replacements.** -/
theorem replace_related
    (agree : Backend.answers first.backend .uncommitted =
      Backend.answers second.backend .uncommitted)
    (reference : TransactionRef) (request : Request) (response : Response) :
    (first.replace reference request response).1 =
        (second.replace reference request response).1 ∧
      ∀ related : σ → τ → Prop, related first.backend second.backend →
        related
          (Backend.write first.backend (·.putTransaction reference request response))
          (Backend.write second.backend (·.putTransaction reference request response)) →
        related (first.replace reference request response).2.backend
          (second.replace reference request response).2.backend := by
  have known : Backend.response first.backend .uncommitted =
      Backend.response second.backend .uncommitted := congrArg Answers.response agree
  unfold replace
  rw [known]
  cases Backend.response second.backend .uncommitted reference with
  | error cause => exact ⟨rfl, fun _ unchanged _ => unchanged⟩
  | ok found =>
    cases found with
    | none => exact ⟨rfl, fun _ unchanged _ => unchanged⟩
    | some old => exact ⟨rfl, fun _ _ written => written⟩

end ObjectLedger.Ledger
