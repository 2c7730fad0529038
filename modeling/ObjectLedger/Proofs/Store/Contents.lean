/-
**What a store holds, whatever keeps its records.**

* `Contents`: the responses and the histories that a read of the uncommitted records shows.
* `LawfulBackend`: a backend refines contents (`Holds`). A read shows them, a write changes them as
  it says, and a commit, also one that does not succeed, leaves them as they are.
* `Contents.Pushed`: what the push of a response makes of the contents.
* **`Ledger.holds_push`**, `Ledger.holds_replace`, `Ledger.holds_pushError`, `Ledger.holds_commit`:
  the operations of a store, through its contents.
-/
import Mathlib.Data.List.Basic
import Mathlib.Logic.Function.Basic
import ObjectLedger.Proofs.Store.Pushing
import ObjectLedger.Store.Memory
import ObjectLedger.Store.ObjectState

namespace ObjectLedger

/-- The responses and the histories of a store, pending ones included. -/
structure Contents where
  responses : TransactionRef → Option Response
  /-- The history of each object, empty for an object without one. -/
  histories : ObjectRef → List TransactionRef

namespace Contents

/-- Nothing at all. -/
def empty : Contents := ⟨fun _ => none, fun _ => []⟩

/-- The contents with the response of a transaction. -/
def putResponse (contents : Contents) (reference : TransactionRef) (response : Response) :
    Contents :=
  { contents with responses := Function.update contents.responses reference (some response) }

/-- The contents with the history of an object. -/
def putHistory (contents : Contents) (object : ObjectRef) (history : List TransactionRef) :
    Contents :=
  { contents with histories := Function.update contents.histories object history }

@[simp] theorem putResponse_responses_self (contents : Contents) (reference : TransactionRef)
    (response : Response) :
    (contents.putResponse reference response).responses reference = some response :=
  Function.update_self ..

theorem putResponse_responses_of_ne (contents : Contents) {reference other : TransactionRef}
    (response : Response) (different : other ≠ reference) :
    (contents.putResponse reference response).responses other = contents.responses other :=
  Function.update_of_ne different ..

@[simp] theorem putHistory_histories_self (contents : Contents) (object : ObjectRef)
    (history : List TransactionRef) :
    (contents.putHistory object history).histories object = history :=
  Function.update_self ..

theorem putHistory_histories_of_ne (contents : Contents) {object other : ObjectRef}
    (history : List TransactionRef) (different : other ≠ object) :
    (contents.putHistory object history).histories other = contents.histories other :=
  Function.update_of_ne different ..

/-- Responses are looked up in the contents. -/
def look (contents : Contents) : History.Responses :=
  fun reference => .ok (contents.responses reference)

/-- What the push of a response makes of the contents. -/
structure Pushed (before : Contents) (reference : TransactionRef) (response : Response)
    (after : Contents) : Prop where
  fresh : before.responses reference = none
  responses : after.responses = Function.update before.responses reference (some response)
  extended : ∀ object, response.updatesOf object ≠ [] → ∃ dropped,
    History.extend before.look reference response object (before.histories object) =
      .ok (after.histories object, dropped)
  others : ∀ object, response.updatesOf object = [] →
    after.histories object = before.histories object

end Contents

/-- A view shows the contents. -/
structure LedgerView.Shows (view : LedgerView) (contents : Contents) : Prop where
  response_eq : view.response = contents.look
  history_eq : ∀ object, view.history object = .ok (contents.histories object)

/-- A backend whose uncommitted records are those that were written. -/
class LawfulBackend (σ : Type) [Backend σ] where
  /-- The backend is intact, and its uncommitted records are the contents. -/
  Holds : σ → Contents → Prop
  response_eq {backend : σ} {contents : Contents} (holds : Holds backend contents)
    (reference : TransactionRef) :
    Backend.response backend .uncommitted reference = .ok (contents.responses reference)
  history_eq {backend : σ} {contents : Contents} (holds : Holds backend contents)
    (object : ObjectRef) :
    Backend.history backend .uncommitted object = .ok (contents.histories object)
  write_write (backend : σ) (first second : Records → Records) :
    Backend.write (Backend.write backend first) second =
      Backend.write backend fun records => second (first records)
  holds_putTransaction {backend : σ} {contents : Contents} (holds : Holds backend contents)
    (reference : TransactionRef) (request : Request) (response : Response) :
    Holds (Backend.write backend fun records => records.putTransaction reference request response)
      (contents.putResponse reference response)
  holds_putHistory {backend : σ} {contents : Contents} (holds : Holds backend contents)
    (object : ObjectRef) (history : List TransactionRef) :
    Holds (Backend.write backend fun records => records.putHistory object history)
      (contents.putHistory object history)
  holds_putError {backend : σ} {contents : Contents} (holds : Holds backend contents)
    (reference : TransactionRef) (request : Request) (reason : String) :
    Holds (Backend.write backend fun records => records.putError reference request reason) contents
  holds_putManifest {backend : σ} {contents : Contents} (holds : Holds backend contents)
    (manifest : ObjectRef) :
    Holds (Backend.write backend fun records => records.putManifest manifest) contents
  holds_commit {backend : σ} {contents : Contents} (holds : Holds backend contents) :
    Holds (Backend.commit backend).2 contents

/-! ### Memory -/

namespace Memory

/-- The contents of the records in memory. -/
def contents (memory : Memory) : Contents where
  responses reference :=
    memory.pending.responses.get? reference <|> memory.committed.responses.get? reference
  histories object :=
    (memory.pending.histories.get? object <|> memory.committed.histories.get? object).getD []

instance : LawfulBackend Memory where
  Holds memory contents := memory.contents = contents
  response_eq holds reference := by subst holds; rfl
  history_eq holds object := by subst holds; rfl
  write_write _ _ _ := rfl
  holds_putTransaction := by
    rintro memory _ rfl reference request response
    refine congrArg (Contents.mk · _) (funext fun other => ?_)
    show ((memory.pending.responses.insert reference response).get? other <|> _) = _
    by_cases same : other = reference
    · subst same
      simp
    · rw [Table.get?_insert_of_ne _ _ same, Function.update_of_ne same]
      rfl
  holds_putHistory := by
    rintro memory _ rfl object history
    refine congrArg (Contents.mk _) (funext fun other => ?_)
    show (((memory.pending.histories.insert object history).get? other <|> _) : Option _).getD []
      = _
    by_cases same : other = object
    · subst same
      simp
    · rw [Table.get?_insert_of_ne _ _ same, Function.update_of_ne same]
      rfl
  holds_putError := by
    rintro memory _ rfl reference request reason
    rfl
  holds_putManifest := by
    rintro memory _ rfl manifest
    rfl
  holds_commit := by
    rintro memory _ rfl
    show Contents.mk _ _ = Contents.mk _ _
    congr 1
    · funext reference
      exact Table.get?_merge _ _ reference
    · funext object
      exact congrArg (Option.getD · []) (Table.get?_merge _ _ object)

theorem holds_empty : LawfulBackend.Holds ({} : Memory) Contents.empty := rfl

end Memory

namespace Ledger

variable {σ : Type} [Backend σ] [LawfulBackend σ] {ledger : Ledger σ} {contents : Contents}

/-- The records of the store are the contents. -/
def Holds (ledger : Ledger σ) (contents : Contents) : Prop :=
  LawfulBackend.Holds ledger.backend contents

theorem Holds.response_eq (holds : ledger.Holds contents) :
    Backend.response ledger.backend .uncommitted = contents.look :=
  funext (LawfulBackend.response_eq holds)

theorem Holds.history_eq (holds : ledger.Holds contents) (object : ObjectRef) :
    Backend.history ledger.backend .uncommitted object = .ok (contents.histories object) :=
  LawfulBackend.history_eq holds object

theorem Holds.shows (holds : ledger.Holds contents) : ledger.view.Shows contents :=
  ⟨holds.response_eq, holds.history_eq⟩

/-! ### Pushing -/

/-- The history that an object gets is an extension of the one in the contents. -/
theorem Holds.extension_eq (holds : ledger.Holds contents) (reference : TransactionRef)
    (response : Response) (object : ObjectRef) :
    extension ledger.backend reference response object =
      History.extend contents.look reference response object (contents.histories object) := by
  unfold extension
  rw [holds.history_eq, holds.response_eq]

/-- Histories that are written one after the other. -/
theorem holds_foldl_putHistory {backend : σ} {change : Records → Records}
    (histories : List (ObjectRef × List TransactionRef))
    (holds : LawfulBackend.Holds (Backend.write backend change) contents) :
    LawfulBackend.Holds
      (Backend.write backend fun records => histories.foldl
        (fun records entry => records.putHistory entry.1 entry.2) (change records))
      (histories.foldl (fun contents entry => contents.putHistory entry.1 entry.2) contents) := by
  induction histories generalizing change contents with
  | nil => exact holds
  | cons entry rest ih =>
    refine ih ?_
    rw [← LawfulBackend.write_write backend change fun records =>
      records.putHistory entry.1 entry.2]
    exact LawfulBackend.holds_putHistory holds entry.1 entry.2

theorem foldl_putHistory_responses (histories : List (ObjectRef × List TransactionRef))
    (contents : Contents) :
    (histories.foldl (fun contents entry => contents.putHistory entry.1 entry.2)
      contents).responses = contents.responses := by
  induction histories generalizing contents with
  | nil => rfl
  | cons entry rest ih => exact ih _

/-- Of the histories written for an object the last one stays. -/
theorem foldl_putHistory_histories (histories : List (ObjectRef × List TransactionRef))
    (contents : Contents) (object : ObjectRef) :
    (object ∉ histories.map Prod.fst ∧
      (histories.foldl (fun contents entry => contents.putHistory entry.1 entry.2)
        contents).histories object = contents.histories object) ∨
      ∃ entry ∈ histories, entry.1 = object ∧
        (histories.foldl (fun contents entry => contents.putHistory entry.1 entry.2)
          contents).histories object = entry.2 := by
  induction histories generalizing contents with
  | nil => exact Or.inl ⟨by simp, rfl⟩
  | cons entry rest ih =>
    rcases ih (contents.putHistory entry.1 entry.2) with ⟨absent, same⟩ | ⟨other, member, rest⟩
    · by_cases here : object = entry.1
      · refine Or.inr ⟨entry, List.mem_cons_self, here.symm, ?_⟩
        rw [List.foldl_cons, same, here]
        exact Function.update_self ..
      · refine Or.inl ⟨by simp [here, absent], ?_⟩
        rw [List.foldl_cons, same]
        exact Function.update_of_ne here ..
    · exact Or.inr ⟨other, List.mem_cons_of_mem _ member, rest⟩

/-- Writing a transaction writes its response and then its histories. -/
theorem holds_writeTransaction (holds : ledger.Holds contents) (reference : TransactionRef)
    (request : Request) (response : Response)
    (histories : List (ObjectRef × List TransactionRef)) (manifest : Option ObjectRef) :
    LawfulBackend.Holds
      (Backend.write ledger.backend
        (writeTransaction reference request response histories manifest))
      (histories.foldl (fun contents entry => contents.putHistory entry.1 entry.2)
        (contents.putResponse reference response)) := by
  have written := holds_foldl_putHistory histories
    (LawfulBackend.holds_putTransaction holds reference request response)
  cases manifest with
  | none => exact written
  | some manifest =>
    have named := LawfulBackend.holds_putManifest written manifest
    rw [LawfulBackend.write_write] at named
    exact named

/-- **A push that succeeds extends the histories of the updated objects, and one that does not
leaves the contents as they are.** -/
theorem holds_push (holds : ledger.Holds contents) (reference : TransactionRef)
    (request : Request) (response : Response) :
    match ledger.push reference request response with
    | (.ok (), pushed) =>
      ∃ after, pushed.Holds after ∧ contents.Pushed reference response after
    | (.error _, refused) => refused.Holds contents := by
  rcases ledger.push_cases reference request response with
    ⟨cause, metrics, -, ran⟩ | ⟨histories, manifest, metrics, accepts, ran⟩
  · rw [ran]
    exact holds
  · rw [ran]
    refine ⟨_, holds_writeTransaction holds reference request response histories manifest, ?_,
      foldl_putHistory_responses _ _, fun object updated => ?_, fun object untouched => ?_⟩
    · exact Except.ok.inj ((congrFun holds.response_eq reference).symm.trans accepts.fresh)
    all_goals
      have written := foldl_putHistory_histories histories
        (contents.putResponse reference response) object
    · rcases written with ⟨absent, _⟩ | ⟨entry, member, rfl, same⟩
      · rw [accepts.objects] at absent
        exact absurd (mem_updatedObjects.mpr updated) absent
      · obtain ⟨dropped, extended⟩ := accepts.extended entry member
        rw [holds.extension_eq] at extended
        exact ⟨dropped, same ▸ extended⟩
    · rcases written with ⟨_, same⟩ | ⟨entry, member, rfl, _⟩
      · exact same
      · refine absurd untouched (mem_updatedObjects.mp ?_)
        rw [← accepts.objects]
        exact List.mem_map_of_mem member

/-! ### Other operations -/

theorem holds_replace (holds : ledger.Holds contents) (reference : TransactionRef)
    (request : Request) (response : Response) :
    match ledger.replace reference request response with
    | (.ok (), replaced) =>
      (contents.responses reference).isSome ∧
        replaced.Holds (contents.putResponse reference response)
    | (.error _, refused) => refused.Holds contents := by
  unfold replace
  rw [holds.response_eq]
  simp only [Contents.look]
  cases contents.responses reference with
  | none => exact holds
  | some earlier =>
    exact ⟨rfl, LawfulBackend.holds_putTransaction holds reference request response⟩

theorem holds_pushError (holds : ledger.Holds contents) (reference : TransactionRef)
    (request : Request) (reason : String) :
    (ledger.pushError reference request reason).Holds contents :=
  LawfulBackend.holds_putError holds reference request reason

theorem holds_commit (holds : ledger.Holds contents) : ledger.commit.2.Holds contents := by
  have committed := LawfulBackend.holds_commit holds
  unfold commit
  split
  all_goals
    rename_i equation
    rw [equation] at committed
    exact committed

end Ledger

end ObjectLedger
