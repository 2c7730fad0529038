/-
**A simplified history says what the whole log says.**

* `Ledger.Reached`: the stores that any calls lead to, with the log of the references accepted by a
  push. A replacing response updates the keys of the one that it replaces.
* `Ledger.Reached.agrees`: in each of them histories and the log have the same providers.
* `LedgerView.liveAlong`: the update that counts for each key, along entries from the newest on.
* **`Ledger.liveAlong_history_eq_liveAlong_log`**: it is the same along a history and along the log,
  in memory and on a disk.
-/
import ObjectLedger.Proofs.Store.Disk
import ObjectLedger.Proofs.Store.Replay

namespace ObjectLedger

/-! ### Updates along entries -/

/-- The update that counts for each key of an object, along entries from the newest on. -/
def LedgerView.liveAlong (view : LedgerView) (object : ObjectRef)
    (entries : List TransactionRef) : Except StoreError (UpdateKey → Option Update) :=
  (view.updatesAlong object entries).map History.live

namespace Contents

variable {contents : Contents} {object : ObjectRef} {entries : List TransactionRef}

/-- The updates of an object along entries. -/
def updatesAlong (contents : Contents) (object : ObjectRef) (entries : List TransactionRef) :
    List Update :=
  entries.flatMap fun entry =>
    (contents.responses entry).elim [] fun response => response.updatesOf object

theorem updatesAlong_cons {entry : TransactionRef} {response : Response}
    (contents : Contents) (rest : List TransactionRef)
    (found : contents.responses entry = some response) :
    contents.updatesAlong object (entry :: rest) =
      response.updatesOf object ++ contents.updatesAlong object rest := by
  rw [updatesAlong, List.flatMap_cons, found]
  rfl

/-- The first update of a key is that of the first entry that provides the key. -/
theorem live_updatesAlong (contents : Contents) (object : ObjectRef)
    (entries : List TransactionRef) (key : UpdateKey) :
    History.live (contents.updatesAlong object entries) key =
      contents.update? object key entries := by
  rw [History.live_eq_find?]
  induction entries with
  | nil => rfl
  | cons entry rest ih =>
    have head : ((contents.responses entry).elim [] fun response =>
        response.updatesOf object).find? (fun update => update.key = key) =
          contents.updateAt? object key entry := by
      unfold updateAt?
      cases contents.responses entry <;> rfl
    rw [updatesAlong, List.flatMap_cons, List.find?_append, head]
    unfold update? provider?
    rw [List.find?_cons]
    cases provided : contents.provides object key entry with
    | true =>
      have known : contents.updateAt? object key entry ≠ none := by
        rw [Ne, updateAt?_eq_none_iff, provided]
        decide
      obtain ⟨update, found⟩ := Option.ne_none_iff_exists'.mp known
      simp [found]
    | false =>
      rw [updateAt?_eq_none_iff.mpr provided]
      exact ih

/-- The updates that count, of all keys of an object. -/
def state (contents : Contents) (object : ObjectRef) : List Update :=
  normalize (History.firstOfKeys (contents.updatesAlong object (contents.histories object)))

theorem mem_state {update : Update} : update ∈ contents.state object ↔
    contents.update? object update.key (contents.histories object) = some update := by
  rw [state, mem_normalize, History.mem_firstOfKeys, contents.live_updatesAlong]

end Contents

namespace LedgerView

variable {view : LedgerView} {contents : Contents} {object : ObjectRef}

theorem Shows.responseOf_eq (shown : view.Shows contents) {entry : TransactionRef}
    {response : Response} (found : contents.responses entry = some response) :
    view.responseOf object entry = .ok response := by
  unfold responseOf
  rw [shown.response_eq, Contents.look, found]

theorem Shows.updatesAlong_eq (shown : view.Shows contents) {entries : List TransactionRef}
    (recorded : ∀ entry ∈ entries, (contents.responses entry).isSome) :
    view.updatesAlong object entries = .ok (contents.updatesAlong object entries) := by
  induction entries with
  | nil => rfl
  | cons entry rest ih =>
    obtain ⟨response, found⟩ :=
      Option.isSome_iff_exists.mp (recorded entry List.mem_cons_self)
    rw [updatesAlong, shown.responseOf_eq found,
      ih fun other member => recorded other (List.mem_cons_of_mem _ member)]
    exact congrArg Except.ok (contents.updatesAlong_cons rest found).symm

theorem Shows.liveAlong_eq (shown : view.Shows contents) {entries : List TransactionRef}
    (recorded : ∀ entry ∈ entries, (contents.responses entry).isSome) :
    view.liveAlong object entries =
      .ok fun key => contents.update? object key entries := by
  unfold liveAlong
  rw [shown.updatesAlong_eq recorded]
  exact congrArg Except.ok (funext (contents.live_updatesAlong object entries))

/-- The state of an object is made of the updates that count. -/
theorem Shows.state_ok (shown : view.Shows contents)
    (recorded : ∀ entry ∈ contents.histories object, (contents.responses entry).isSome) :
    view.state object = .ok (contents.state object) := by
  unfold state
  rw [shown.history_eq]
  show (view.updatesAlong object (contents.histories object) >>= _) = _
  rw [shown.updatesAlong_eq recorded]
  rfl

/-- The state of an object is what its history says about each key. -/
theorem Shows.state_eq (shown : view.Shows contents)
    (recorded : ∀ entry ∈ contents.histories object, (contents.responses entry).isSome) :
    ∃ updates, view.state object = .ok updates ∧ ∀ update, update ∈ updates ↔
      contents.update? object update.key (contents.histories object) = some update :=
  ⟨_, shown.state_ok recorded, fun _ => Contents.mem_state⟩

end LedgerView

/-! ### Runs -/

namespace Ledger

variable {σ : Type} [Backend σ]

/-- The stores that any calls lead to, and the references accepted by a push, the newest first. -/
inductive Reached (first : Ledger σ) : Ledger σ → List TransactionRef → Prop
  | start : Reached first first []
  | push {before after : Ledger σ} {log : List TransactionRef} (reached : Reached first before log)
      (reference : TransactionRef) (request : Request) (response : Response)
      (accepted : before.push reference request response = (.ok (), after)) :
      Reached first after (reference :: log)
  | refusedPush {before after : Ledger σ} {log : List TransactionRef} {cause : StoreError}
      (reached : Reached first before log) (reference : TransactionRef) (request : Request)
      (response : Response)
      (refused : before.push reference request response = (.error cause, after)) :
      Reached first after log
  /-- The response takes the place of one that updates the same keys of the same objects. -/
  | replace {before after : Ledger σ} {log : List TransactionRef} {old : Response}
      (reached : Reached first before log) (reference : TransactionRef) (request : Request)
      (response : Response)
      (found : Backend.response before.backend .uncommitted reference = .ok (some old))
      (same : response.SameKeys old)
      (accepted : before.replace reference request response = (.ok (), after)) :
      Reached first after log
  | refusedReplace {before after : Ledger σ} {log : List TransactionRef} {cause : StoreError}
      (reached : Reached first before log) (reference : TransactionRef) (request : Request)
      (response : Response)
      (refused : before.replace reference request response = (.error cause, after)) :
      Reached first after log
  | pushError {before : Ledger σ} {log : List TransactionRef} (reached : Reached first before log)
      (reference : TransactionRef) (request : Request) (reason : String) :
      Reached first (before.pushError reference request reason) log
  /-- A commit, also one that does not succeed. -/
  | commit {before : Ledger σ} {log : List TransactionRef} (reached : Reached first before log) :
      Reached first before.commit.2 log

/-- **Every call keeps the contents in agreement with the log.** -/
theorem Reached.agrees [LawfulBackend σ] {first ledger : Ledger σ} {log : List TransactionRef}
    (blank : first.Holds Contents.empty) (reached : Reached first ledger log) :
    ∃ contents, ledger.Holds contents ∧ contents.Agrees log := by
  induction reached with
  | start => exact ⟨Contents.empty, blank, Contents.agrees_empty⟩
  | push _ reference request response accepted ih =>
    obtain ⟨contents, holds, agrees⟩ := ih
    have pushed := holds_push holds reference request response
    rw [accepted] at pushed
    obtain ⟨after, holdsAfter, pushed⟩ := pushed
    exact ⟨after, holdsAfter, agrees.pushed pushed⟩
  | refusedPush _ reference request response refused ih =>
    obtain ⟨contents, holds, agrees⟩ := ih
    have unchanged := holds_push holds reference request response
    rw [refused] at unchanged
    exact ⟨contents, unchanged, agrees⟩
  | replace _ reference request response found same accepted ih =>
    obtain ⟨contents, holds, agrees⟩ := ih
    rw [holds.response_eq] at found
    have replaced := holds_replace holds reference request response
    rw [accepted] at replaced
    exact ⟨_, replaced.2, agrees.replaced (Except.ok.inj found) same⟩
  | refusedReplace _ reference request response refused ih =>
    obtain ⟨contents, holds, agrees⟩ := ih
    have unchanged := holds_replace holds reference request response
    rw [refused] at unchanged
    exact ⟨contents, unchanged, agrees⟩
  | pushError _ reference request reason ih =>
    obtain ⟨contents, holds, agrees⟩ := ih
    exact ⟨contents, holds_pushError holds reference request reason, agrees⟩
  | commit _ ih =>
    obtain ⟨contents, holds, agrees⟩ := ih
    exact ⟨contents, holds_commit holds, agrees⟩

/-- **What a simplified history says about an object is what the whole log says about it.** -/
theorem liveAlong_history_eq_liveAlong_log {root : Option String} {ledger : Ledger Medium}
    {log : List TransactionRef} (reached : Reached { backend := Medium.blank root } ledger log)
    (object : ObjectRef) :
    ∃ history live, ledger.view.history object = .ok history ∧
      ledger.view.liveAlong object history = .ok live ∧
      ledger.view.liveAlong object log = .ok live := by
  have blank : Holds { backend := Medium.blank root } Contents.empty := Medium.holds_blank root
  obtain ⟨contents, holds, agrees⟩ := reached.agrees blank
  refine ⟨contents.histories object, _, holds.history_eq object,
    holds.shows.liveAlong_eq fun entry member => ?_, ?_⟩
  · obtain ⟨response, found, -⟩ := agrees.intact object entry member
    rw [found]
    rfl
  · rw [holds.shows.liveAlong_eq fun entry member => (agrees.mem_log entry).mp member]
    refine congrArg Except.ok (funext fun key => ?_)
    unfold Contents.update?
    rw [agrees.provider?_eq]

/-- A door is made and closed, and after a commit opened, which is replaced by leaving it ajar. -/
def door : ObjectRef := ⟨⟨0⟩, 0⟩

def doorUpdate (name value : String) : Update :=
  .field door ⟨"Door", name, .string⟩ (.string value)

def doorRequest : Request := .nameManifest ⟨⟨0⟩, false⟩ door

def doorMade : Ledger Medium :=
  (push { backend := Medium.blank none } ⟨0⟩ doorRequest (.gameteCreation
    [.classTag door "Door" ⟨0⟩, doorUpdate "colour" "red", doorUpdate "state" "open"] door)).2

def doorClosed : Ledger Medium :=
  (doorMade.push ⟨1⟩ doorRequest (.gameteCreation [doorUpdate "state" "closed"] door)).2

def doorOpened : Ledger Medium :=
  (doorClosed.commit.2.push ⟨2⟩ doorRequest (.gameteCreation [doorUpdate "state" "open"] door)).2

def doorAjar : Ledger Medium :=
  (doorOpened.replace ⟨2⟩ doorRequest (.gameteCreation [doorUpdate "state" "ajar"] door)).2

theorem reached_doorAjar : Reached { backend := Medium.blank none } doorAjar [⟨2⟩, ⟨1⟩, ⟨0⟩] := by
  have made : Reached { backend := Medium.blank none } doorMade [⟨0⟩] :=
    .push .start _ _ _ (Prod.ext (by decide +kernel) rfl)
  have closed : Reached { backend := Medium.blank none } doorClosed [⟨1⟩, ⟨0⟩] :=
    .push made _ _ _ (Prod.ext (by decide +kernel) rfl)
  have opened : Reached { backend := Medium.blank none } doorOpened [⟨2⟩, ⟨1⟩, ⟨0⟩] :=
    .push (.commit closed) _ _ _ (Prod.ext (by decide +kernel) rfl)
  have found : Backend.response doorOpened.backend .uncommitted ⟨2⟩ =
      .ok (some (.gameteCreation [doorUpdate "state" "open"] door)) := by decide +kernel
  refine .replace opened ⟨2⟩ _ _ found (fun object key => ?_) (Prod.ext (by decide +kernel) rfl)
  by_cases here : door = object <;>
    simp [History.keysOf, Response.updatesOf, Response.updates, Response.updates?, doorUpdate,
      Update.object, Update.key, here]

/-- The history of the door has lost an entry of the log, and says the same. -/
theorem liveAlong_doorAjar :
    Reached { backend := Medium.blank none } doorAjar [⟨2⟩, ⟨1⟩, ⟨0⟩] ∧
      doorAjar.view.history door = .ok [⟨2⟩, ⟨0⟩] ∧
      ∃ history live, doorAjar.view.history door = .ok history ∧
        doorAjar.view.liveAlong door history = .ok live ∧
        doorAjar.view.liveAlong door [⟨2⟩, ⟨1⟩, ⟨0⟩] = .ok live :=
  ⟨reached_doorAjar, by decide +kernel, liveAlong_history_eq_liveAlong_log reached_doorAjar door⟩

end Ledger

end ObjectLedger
