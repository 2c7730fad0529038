/-
**A manifest is named at most once.**

* `Medium.manifest_eq`: a pending manifest is read before a committed one.
* `Ledger.manifest_push`: what a push makes of the manifest.
* **`Ledger.manifest_perform`**: a call leaves the manifest as it is, or it is the push of an
  initialization where none was named. `Ledger.manifest_keeps`: a manifest that was named stays.
-/
import ObjectLedger.Proofs.Store.Numbering
import ObjectLedger.Proofs.Store.Redelivery

namespace ObjectLedger

variable {medium : Medium} {manifest : ObjectRef}

/-! ### The manifest of a medium -/

namespace Medium

/-- A pending manifest is read before a committed one. -/
theorem manifest_eq (medium : Medium) : Backend.manifest medium .uncommitted =
    match medium.pending.manifest with
    | some manifest => .ok (some manifest)
    | none => Backend.manifest medium .committed := by
  cases medium with
  | memory store =>
    show Except.ok (store.pending.manifest <|> store.committed.manifest) =
      match store.pending.manifest with
      | some manifest => .ok (some manifest)
      | none => .ok store.committed.manifest
    cases store.pending.manifest <;> rfl
  | disk store =>
    show Disk.overlay .uncommitted store.pending.manifest store.committedManifest =
      match store.pending.manifest with
      | some manifest => .ok (some manifest)
      | none => Disk.overlay .committed store.pending.manifest store.committedManifest
    cases store.pending.manifest <;> rfl

/-- A writing changes the pending manifest only. -/
theorem manifest_write (medium : Medium) (change : Records → Records) :
    Backend.manifest (Backend.write medium change) .uncommitted =
      match (change medium.pending).manifest with
      | some manifest => .ok (some manifest)
      | none => Backend.manifest medium .committed := by
  rw [manifest_eq]
  cases medium <;> rfl

/-- A writing that names nothing leaves the manifest. -/
theorem manifest_write_of_same (medium : Medium) {change : Records → Records}
    (same : ∀ records, (change records).manifest = records.manifest) :
    Backend.manifest (Backend.write medium change) .uncommitted =
      Backend.manifest medium .uncommitted := by
  rw [manifest_write, same, manifest_eq]

end Medium

/-! ### Calls -/

namespace Ledger

variable {ledger pushed : Ledger Medium} {reference : TransactionRef} {request : Request}
  {response : Response}

/-- What a transaction names where it names something. -/
theorem newManifest_eq_some {named : ObjectRef}
    (naming : newManifest ledger.backend reference request response = .ok (some named)) :
    response.isInitialization = true ∧ (∃ origin, request = .nameManifest origin named) ∧
      Backend.manifest ledger.backend .uncommitted = .ok none := by
  unfold newManifest at naming
  split at naming
  · rename_i initializes
    split at naming
    · split at naming
      · cases naming
      · cases naming
      · rename_i nothing
        cases naming
        exact ⟨initializes, ⟨_, rfl⟩, nothing⟩
    · cases naming
  · cases naming

/-- An initialization that is accepted names something. -/
theorem newManifest_eq_none
    (naming : newManifest ledger.backend reference request response = .ok none) :
    response.isInitialization = false := by
  unfold newManifest at naming
  split at naming
  · split at naming
    · split at naming <;> cases naming
    · cases naming
  · exact Bool.eq_false_iff.mpr ‹_›

/-- **What a push makes of the manifest.** -/
theorem manifest_push (accepted : ledger.push reference request response = (.ok (), pushed)) :
    response.isInitialization = false ∧
        Backend.manifest pushed.backend .uncommitted =
          Backend.manifest ledger.backend .uncommitted ∨
      response.isInitialization = true ∧ Backend.manifest ledger.backend .uncommitted = .ok none ∧
        ∃ origin named, request = .nameManifest origin named ∧
          Backend.manifest pushed.backend .uncommitted = .ok (some named) := by
  obtain ⟨histories, named, naming, same⟩ := push_eq_ok accepted
  rw [same]
  cases named with
  | none =>
    refine Or.inl ⟨newManifest_eq_none naming, Medium.manifest_write_of_same _ fun records => ?_⟩
    rw [manifest_writeTransaction, Option.none_or]
  | some manifest =>
    obtain ⟨initializes, ⟨origin, rfl⟩, nothing⟩ := newManifest_eq_some naming
    refine Or.inr ⟨initializes, nothing, origin, manifest, rfl, ?_⟩
    rw [Medium.manifest_write, manifest_writeTransaction]
    rfl

/-- The manifest is left as it is, or it is named where there was none. -/
def Names (call : Call) (ledger after : Ledger Medium) : Prop :=
  Backend.manifest after.backend .uncommitted = Backend.manifest ledger.backend .uncommitted ∨
    Backend.manifest ledger.backend .uncommitted = .ok none ∧
      ∃ reference origin named response,
        call = .push reference (.nameManifest origin named) response ∧
          response.isInitialization = true ∧
            Backend.manifest after.backend .uncommitted = .ok (some named)

/-- **A call leaves the manifest as it is, or it is the push of an initialization where none was
named.** -/
theorem manifest_perform (intact : ledger.backend.Intact) (call : Call) :
    Names call ledger (ledger.perform call).2 := by
  cases call with
  | push reference request response =>
    show Names _ ledger (ledger.push reference request response).2
    cases pushing : ledger.push reference request response with
    | mk result pushed =>
      cases result with
      | error cause =>
        have unchanged := congrArg Ledger.backend (eq_of_refused pushing)
        exact Or.inl (congrArg (Backend.manifest · .uncommitted) unchanged)
      | ok done =>
        rcases manifest_push pushing with
          ⟨-, same⟩ | ⟨initializes, nothing, origin, named, rfl, names⟩
        · exact Or.inl same
        · exact Or.inr ⟨nothing, _, origin, named, _, rfl, initializes, names⟩
  | replace reference request response =>
    show Names _ ledger (ledger.replace reference request response).2
    unfold replace
    split
    · exact Or.inl rfl
    · exact Or.inl rfl
    · exact Or.inl (Medium.manifest_write_of_same _ fun _ => rfl)
  | pushError reference request reason =>
    exact Or.inl (Medium.manifest_write_of_same _ fun _ => rfl)
  | commit =>
    show Names _ ledger ledger.commit.2
    refine Or.inl ?_
    rw [ledger.commit_eq.2]
    exact congrArg Answers.manifest (Medium.answers_commit intact)

/-- A manifest that was named stays. -/
theorem manifest_keeps (intact : ledger.backend.Intact) (call : Call)
    (named : Backend.manifest ledger.backend .uncommitted = .ok (some manifest)) :
    Backend.manifest (ledger.perform call).2.backend .uncommitted = .ok (some manifest) := by
  rcases manifest_perform intact call with same | ⟨nothing, -⟩
  · exact same.trans named
  · rw [named] at nothing
    cases nothing

end Ledger

end ObjectLedger
