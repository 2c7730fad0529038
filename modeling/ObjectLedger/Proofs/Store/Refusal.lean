/-
**Calls that are refused leave nothing behind.**

* `Ledger.Unchanged`: every question about a store has the answer that it had before.
* `Ledger.Extends`: the histories of the objects of a response are extended, and no others.
* `Medium.history_write`: a history is read from the pending records before any others.
* **`Ledger.refused_or_extended`**: a push or a replacement that is refused changes nothing, and a
  push that is accepted extends the histories of exactly the updated objects. Nothing is asked of
  the records: histories may name what is missing, and files may hold anything.
-/
import ObjectLedger.Proofs.Store.Extension
import ObjectLedger.Proofs.Store.Numbering
import ObjectLedger.Proofs.Store.Pushing

namespace ObjectLedger

/-! ### Histories that are written -/

/-- Of the values written for a key the last one stays. -/
theorem Table.get?_foldl_insert {κ ν : Type} [DecidableEq κ] (entries : List (κ × ν))
    (table : Table κ ν) (key : κ) :
    (key ∉ entries.map Prod.fst ∧
      (entries.foldl (fun table entry => table.insert entry.1 entry.2) table).get? key =
        table.get? key) ∨
      ∃ entry ∈ entries, entry.1 = key ∧
        (entries.foldl (fun table entry => table.insert entry.1 entry.2) table).get? key =
          some entry.2 := by
  induction entries generalizing table with
  | nil => exact Or.inl ⟨List.not_mem_nil, rfl⟩
  | cons entry rest ih =>
    rcases ih (table.insert entry.1 entry.2) with ⟨absent, same⟩ | ⟨other, member, found⟩
    · rw [get?_insert] at same
      split at same
      · rename_i here
        exact Or.inr ⟨entry, List.mem_cons_self, here.symm, same⟩
      · rename_i elsewhere
        exact Or.inl ⟨List.not_mem_cons_of_ne_of_not_mem elsewhere absent, same⟩
    · exact Or.inr ⟨other, List.mem_cons_of_mem _ member, found⟩

theorem Ledger.histories_writeTransaction (reference : TransactionRef) (request : Request)
    (response : Response) (histories : List (ObjectRef × List TransactionRef))
    (manifest : Option ObjectRef) (records : Records) :
    (writeTransaction reference request response histories manifest records).histories =
      histories.foldl (fun table entry => table.insert entry.1 entry.2) records.histories := by
  have written : ∀ start : Records,
      (histories.foldl (fun records entry => records.putHistory entry.1 entry.2) start).histories =
        histories.foldl (fun table entry => table.insert entry.1 entry.2) start.histories := by
    induction histories with
    | nil => exact fun _ => rfl
    | cons entry rest ih => exact fun start => ih (start.putHistory entry.1 entry.2)
  cases manifest with
  | none => exact written _
  | some object => exact written _

namespace Medium

/-- A pending history is the one that is read, and one that is not pending is read as it was. -/
theorem history_write (medium : Medium) (change : Records → Records) (object : ObjectRef) :
    (∀ history, (change medium.pending).histories.get? object = some history →
        Backend.history (Backend.write medium change) .uncommitted object = .ok history) ∧
      ((change medium.pending).histories.get? object = medium.pending.histories.get? object →
        Backend.history (Backend.write medium change) .uncommitted object =
          Backend.history medium .uncommitted object) := by
  cases medium with
  | memory store =>
    show (∀ history, (change store.pending).histories.get? object = some history →
        Except.ok (((change store.pending).histories.get? object <|> _).getD []) = _) ∧
      ((change store.pending).histories.get? object = store.pending.histories.get? object →
        Except.ok (((change store.pending).histories.get? object <|> _).getD []) = _)
    exact ⟨fun history found => by rw [found]; rfl, fun same => by rw [same]; rfl⟩
  | disk store =>
    show (∀ history, (change store.pending).histories.get? object = some history →
        Except.bind (Disk.overlay .uncommitted ((change store.pending).histories.get? object) _) _ =
          _) ∧
      ((change store.pending).histories.get? object = store.pending.histories.get? object →
        Except.bind (Disk.overlay .uncommitted ((change store.pending).histories.get? object) _) _ =
          _)
    exact ⟨fun history found => by rw [found]; rfl, fun same => by rw [same]; rfl⟩

theorem answers_committed_write (medium : Medium) (change : Records → Records) :
    Backend.answers (Backend.write medium change) .committed =
      Backend.answers medium .committed := by
  cases medium <;> rfl

end Medium

namespace Ledger

variable {ledger after : Ledger Medium} {reference : TransactionRef} {request : Request}
  {response : Response}

/-! ### What a call leaves -/

/-- The records are the same, so every question has the answer that it had before. -/
structure Unchanged (before after : Ledger Medium) : Prop where
  backend_eq : after.backend = before.backend
  answers_eq : ∀ view, Backend.answers after.backend view = Backend.answers before.backend view
  lastReference_eq : after.lastReference = before.lastReference
  now_eq : after.now = before.now

theorem unchanged_of_metrics (ledger : Ledger Medium) (metrics : Metrics) :
    ledger.Unchanged { ledger with metrics } :=
  ⟨rfl, fun _ => rfl, rfl, rfl⟩

/-- The histories of the objects that a response updates begin with its reference and go on as the
earlier ones are extended; the history of any other object is read as before, and so is each
committed one. -/
structure Extends (before after : Ledger Medium) (reference : TransactionRef)
    (response : Response) : Prop where
  updated : ∀ object, response.updatesOf object ≠ [] → ∃ history rest dropped,
    Backend.history before.backend .uncommitted object = .ok history ∧
      History.extend (Backend.response before.backend .uncommitted) reference response object
        history = .ok (reference :: rest, dropped) ∧
      Backend.history after.backend .uncommitted object = .ok (reference :: rest)
  others : ∀ object, response.updatesOf object = [] →
    Backend.history after.backend .uncommitted object =
      Backend.history before.backend .uncommitted object
  committed : Backend.history after.backend .committed = Backend.history before.backend .committed

/-- An extended history begins with the new reference. -/
theorem extension_eq_ok {backend : Medium} {object : ObjectRef} {longer : List TransactionRef}
    {dropped : Nat}
    (extended : extension backend reference response object = .ok (longer, dropped)) :
    ∃ history rest, Backend.history backend .uncommitted object = .ok history ∧
      longer = reference :: rest ∧
      History.extend (Backend.response backend .uncommitted) reference response object history =
        .ok (longer, dropped) := by
  unfold extension at extended
  split at extended
  · cases extended
  · rename_i history read
    obtain ⟨rest, shape⟩ := History.exists_cons_of_extend extended
    exact ⟨history, rest, read, shape, extended⟩

/-- **An accepted push extends the histories of exactly the objects that it updates.** -/
theorem extends_of_accepts {histories : List (ObjectRef × List TransactionRef)}
    {manifest : Option ObjectRef}
    (accepts : Accepts ledger.backend reference request response histories manifest)
    (same : after.backend = Backend.write ledger.backend
      (writeTransaction reference request response histories manifest)) :
    ledger.Extends after reference response := by
  have stored : ∀ object,
      (object ∉ histories.map Prod.fst ∧ _) ∨ ∃ entry ∈ histories, entry.1 = object ∧ _ :=
    Table.get?_foldl_insert histories ledger.backend.pending.histories
  simp only [← histories_writeTransaction reference request response histories manifest] at stored
  refine ⟨fun object updated => ?_, fun object untouched => ?_, ?_⟩
  · rcases stored object with ⟨absent, -⟩ | ⟨entry, member, rfl, found⟩
    · rw [accepts.objects] at absent
      exact absurd (mem_updatedObjects.mpr updated) absent
    · obtain ⟨dropped, extended⟩ := accepts.extended entry member
      obtain ⟨history, rest, read, begins, longer⟩ := extension_eq_ok extended
      have written := (ledger.backend.history_write _ entry.1).1 _ found
      rw [begins] at longer written
      rw [same]
      exact ⟨history, rest, dropped, read, longer, written⟩
  · rcases stored object with ⟨-, kept⟩ | ⟨entry, member, rfl, -⟩
    · rw [same]
      exact (ledger.backend.history_write _ object).2 kept
    · refine absurd untouched (mem_updatedObjects.mp ?_)
      rw [← accepts.objects]
      exact List.mem_map_of_mem member
  · rw [same]
    exact congrArg Answers.history (ledger.backend.answers_committed_write _)

/-- **A push or a replacement that is refused changes nothing, whichever object it fails at, and a
push that is accepted extends the histories of exactly the objects that it updates.** -/
theorem refused_or_extended (ledger : Ledger Medium) (reference : TransactionRef)
    (request : Request) (response : Response) :
    (∀ cause, (ledger.push reference request response).1 = .error cause →
        ledger.Unchanged (ledger.push reference request response).2) ∧
      (∀ object cause, response.updatesOf object ≠ [] →
        extension ledger.backend reference response object = .error cause →
        (ledger.push reference request response).1 ≠ .ok ()) ∧
      (∀ cause, (ledger.replace reference request response).1 = .error cause →
        ledger.Unchanged (ledger.replace reference request response).2) ∧
      ((ledger.push reference request response).1 = .ok () →
        ledger.Extends (ledger.push reference request response).2 reference response) := by
  have replaced : ∀ cause, (ledger.replace reference request response).1 = .error cause →
      ledger.Unchanged (ledger.replace reference request response).2 := by
    intro cause failed
    rcases ledger.replace_cases reference request response with ⟨_, ran⟩ | ⟨_, -, ran⟩
    · rw [ran]
      exact ledger.unchanged_of_metrics ledger.metrics
    · rw [ran] at failed
      cases failed
  rcases ledger.push_cases reference request response with
    ⟨reason, metrics, -, ran⟩ | ⟨histories, manifest, metrics, accepts, ran⟩
  · rw [ran]
    exact ⟨fun _ _ => ledger.unchanged_of_metrics metrics, fun _ _ _ _ accepted => (nomatch accepted),
      replaced, fun accepted => nomatch accepted⟩
  · rw [ran]
    exact ⟨fun _ failed => (nomatch failed),
      fun object cause updated failed _ => accepts.not_refuses cause (.broken updated failed),
      replaced, fun _ => extends_of_accepts accepts rfl⟩

/-- A store that lost the response behind the last entry of one of two histories. -/
def torn : Ledger Medium where
  backend := .memory
    { committed :=
        { responses := ⟨[(⟨1⟩, lampResponse "off")]⟩
          histories := ⟨[(lamp, [⟨2⟩, ⟨1⟩]), (⟨⟨1⟩, 1⟩, [⟨3⟩, ⟨1⟩])]⟩ }
      pending := { responses := ⟨[(⟨2⟩, lampResponse "on")]⟩ } }

/-- An update of the lamp and of the object whose history is torn. -/
def tornResponse : Response :=
  .gameteCreation [.field lamp ⟨"Lamp", "state", .string⟩ (.string "off"),
    .field ⟨⟨1⟩, 1⟩ ⟨"Lamp", "state", .string⟩ (.string "off")] lamp

/-- The push that meets the lost response leaves the history of the lamp as well, which one that
updates only the lamp extends. -/
theorem refused_or_extended_torn :
    (torn.push ⟨4⟩ lampRequest tornResponse).1 = .error (.missingResponse ⟨⟨1⟩, 1⟩ ⟨3⟩) ∧
      torn.Unchanged (torn.push ⟨4⟩ lampRequest tornResponse).2 ∧
      (torn.replace ⟨4⟩ lampRequest tornResponse).1 = .error (.notPushed ⟨4⟩) ∧
      torn.Unchanged (torn.replace ⟨4⟩ lampRequest tornResponse).2 ∧
      (torn.push ⟨4⟩ lampRequest (lampResponse "broken")).1 = .ok () ∧
      torn.Extends (torn.push ⟨4⟩ lampRequest (lampResponse "broken")).2 ⟨4⟩
        (lampResponse "broken") := by
  obtain ⟨refused, -, replaced, -⟩ := refused_or_extended torn ⟨4⟩ lampRequest tornResponse
  obtain ⟨-, -, -, extended⟩ := refused_or_extended torn ⟨4⟩ lampRequest (lampResponse "broken")
  have fails : (torn.push ⟨4⟩ lampRequest tornResponse).1 =
      .error (.missingResponse ⟨⟨1⟩, 1⟩ ⟨3⟩) := by decide
  have unknown : (torn.replace ⟨4⟩ lampRequest tornResponse).1 = .error (.notPushed ⟨4⟩) := rfl
  have accepted : (torn.push ⟨4⟩ lampRequest (lampResponse "broken")).1 = .ok () := by decide
  exact ⟨fails, refused _ fails, unknown, replaced _ unknown, accepted, extended accepted⟩

end Ledger

end ObjectLedger
