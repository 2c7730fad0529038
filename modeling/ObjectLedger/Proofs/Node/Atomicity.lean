/-
**A transaction takes effect as a whole or not at all.**

* `Memory.Noted`: a rejection is recorded in memory. `Memory.Noted.lookup_eq`: all else is as it was.
* `Node.Flushed`: a node over memory leaves nothing pending if every transaction is made durable.
* `Node.OnlyNotes`: what is left of a rejection are the request and the reason.
  **`Node.Sound.onlyNotes_of_rejected`**: that is all.
* `Node.OnlyCharges`: what is left of a failure is the balance and the nonce of an account.
  **`Node.Sound.onlyCharges_of_failed`**: that is all, whatever the code did before.
* **`Node.Submitted.all_or_nothing`**: both, wherever submissions lead to.
-/
import ObjectLedger.Proofs.Node.Memory
import ObjectLedger.Proofs.Node.Serving
import ObjectLedger.Proofs.Store.Mirror
import ObjectLedger.Proofs.Store.Redelivery
import ObjectLedger.Proofs.Transaction.Accounting

namespace ObjectLedger

variable {request : Request} {reference : TransactionRef} {reason : String} {response : Response}
  {object : ObjectRef}

/-! ### Memory -/

namespace Records

theorem looks_entry {κ ν : Type} [DecidableEq κ] (part : Records → Table κ ν)
    (blank : part {} = {})
    (merged : ∀ older newer, part (older.merge newer) = (part older).merge (part newer)) (key : κ) :
    Looks fun records => (part records).get? key where
  blank := by rw [blank]; rfl
  merged older newer := by rw [merged, Table.get?_merge]

theorem looks_manifest : Looks manifest :=
  ⟨rfl, fun _ _ => rfl⟩

end Records

namespace Memory

variable {α : Type} {memory noted : Memory} {select : Records → Option α}

/-- Where nothing is pending all views show the same. -/
theorem lookup_of_pending_eq (looks : Records.Looks select) (flushed : memory.pending = {})
    (seen : View) : memory.lookup seen select = memory.lookup .uncommitted select := by
  cases seen with
  | uncommitted => rfl
  | committed =>
    show _ = (select memory.pending <|> select memory.committed)
    rw [flushed, looks.blank]
    rfl

/-- A rejection is recorded; it is made durable where nothing else is pending. -/
inductive Noted (memory : Memory) (reference : TransactionRef) (request : Request)
    (reason : String) : Memory → Prop
  | pending : Noted memory reference request reason
      (Backend.write memory fun records => records.putError reference request reason)
  | committed (flushed : memory.pending = {}) : Noted memory reference request reason
      (Backend.commit (Backend.write memory fun records =>
        records.putError reference request reason)).2

theorem Noted.lookup_uncommitted (recorded : memory.Noted reference request reason noted)
    (looks : Records.Looks select) :
    noted.lookup .uncommitted select =
      (select (memory.pending.putError reference request reason) <|> select memory.committed) := by
  cases recorded with
  | pending => rfl
  | committed flushed => exact lookup_commit looks _ _

/-- The record of a rejection, beside those that were there. -/
theorem Noted.lookup_entry {ν : Type} {part : Records → Table TransactionRef ν} {value : ν}
    {other : TransactionRef} (recorded : memory.Noted reference request reason noted)
    (looks : Records.Looks fun records => (part records).get? other)
    (inserted : ∀ records : Records, part (records.putError reference request reason) =
      (part records).insert reference value) :
    noted.lookup .uncommitted (fun records => (part records).get? other) =
      if other = reference then some value
      else memory.lookup .uncommitted fun records => (part records).get? other := by
  rw [recorded.lookup_uncommitted looks, inserted, Table.get?_insert]
  split
  · rfl
  · rfl

/-- **What is no part of the record of a rejection is as it was**, in every view. -/
theorem Noted.lookup_eq (recorded : memory.Noted reference request reason noted)
    (looks : Records.Looks select)
    (silent : ∀ records : Records, select (records.putError reference request reason) =
      select records) (seen : View) : noted.lookup seen select = memory.lookup seen select := by
  have shown : noted.lookup .uncommitted select = memory.lookup .uncommitted select := by
    rw [recorded.lookup_uncommitted looks, silent]
    rfl
  cases recorded with
  | pending =>
    cases seen with
    | uncommitted => exact shown
    | committed => rfl
  | committed flushed =>
    rw [lookup_of_pending_eq looks flushed, ← shown, lookup_commit looks, lookup_commit looks]

end Memory

namespace Node

variable {node after : Node Medium} {memory noted : Memory} {contents : Contents}

/-! ### Nodes over memory -/

/-- The records are in memory, and if every transaction is made durable nothing is pending. -/
def Flushed (node : Node Medium) : Prop :=
  ∃ memory, node.ledger.backend = .memory memory ∧
    (node.config.autoCommit = true → memory.pending = {})

theorem flushed_start (config : NodeConfig) :
    Flushed (start config { backend := Medium.blank none }) :=
  ⟨{}, rfl, fun _ => rfl⟩

/-- Memory is made durable without an error. -/
theorem autoCommit_of_memory (node : Node Medium) (kept : node.ledger.backend = .memory memory) :
    ∃ after, autoCommit node = .ok () after ∧ after.Flushed ∧
      after.ledger.backend = .memory (if node.config.autoCommit = true then
        (Backend.commit memory).2 else memory) := by
  rw [autoCommit_eq]
  by_cases always : node.config.autoCommit = true
  · obtain ⟨config, ⟨backend, now, metrics⟩, cache, next⟩ := node
    subst kept
    rw [if_pos always, if_pos always]
    exact ⟨_, rfl, ⟨_, rfl, fun _ => rfl⟩, rfl⟩
  · rw [if_neg always, if_neg always]
    exact ⟨node, rfl, ⟨memory, kept, fun durable => absurd durable always⟩, kept⟩

/-- A response is recorded and made durable, or not recorded at all. -/
theorem Flushed.recordResponse (flushed : node.Flushed) :
    (stateAfter (recordResponse reference request response) node).Flushed := by
  obtain ⟨memory, kept, nothing⟩ := flushed
  unfold Node.recordResponse
  cases pushed : node.ledger.push reference request response with
  | mk result ledger =>
    cases result with
    | error cause =>
      rw [stateAfter_bind_of_error
        (onLedger_of_error (fun ledger => ledger.push reference request response) pushed)]
      exact ⟨memory, (congrArg Ledger.backend (Ledger.eq_of_refused pushed)).trans kept, nothing⟩
    | ok _ =>
      obtain ⟨later, keeps⟩ := Ledger.InMemory.push ⟨memory, kept⟩ pushed
      rw [stateAfter_bind_of_ok
        (onLedger_of_ok (fun ledger => ledger.push reference request response) pushed)]
      show (stateAfter autoCommit { node with ledger, next := reference.next }).Flushed
      obtain ⟨after, ran, flushed, -⟩ := autoCommit_of_memory
        { node with ledger, next := reference.next } keeps
      rw [stateAfter_ok ran]
      exact flushed

/-- The node after a rejection. -/
theorem Flushed.submit_of_rejected (flushed : node.Flushed)
    (rejected : node.outcomeOf request = .ok (.rejected reason)) :
    ∃ after memory noted, submit request node = .error (.rejected reason) after ∧ after.Flushed ∧
      node.ledger.backend = .memory memory ∧ after.ledger.backend = .memory noted ∧
      memory.Noted node.next request reason noted := by
  obtain ⟨memory, kept, nothing⟩ := flushed
  have written : (node.ledger.pushError node.next request reason).backend =
      .memory (Backend.write memory fun records =>
        records.putError node.next request reason) := by
    unfold Ledger.pushError
    rw [kept]
    rfl
  obtain ⟨after, ran, last, noted⟩ := autoCommit_of_memory { node with
    cache := (Outcome.build node.config node.ledger.view node.cache node.next request).2
    ledger := node.ledger.pushError node.next request reason
    next := node.next.next } written
  refine ⟨after, memory, _, (submit_eq_of_rejected rejected).trans (bind_of_ok ran), last, kept,
    noted, ?_⟩
  by_cases always : node.config.autoCommit = true
  · rw [if_pos always]
    exact .committed (nothing always)
  · rw [if_neg always]
    exact .pending

/-- Nothing is left pending by a submission if every transaction is made durable. -/
theorem Flushed.submitted (flushed : node.Flushed) (request : Request) :
    (node.submitted request).Flushed := by
  cases made : node.outcomeOf request with
  | error cause =>
    rw [Node.submitted, stateAfter_error (submit_of_error made)]
    exact flushed
  | ok outcome =>
    cases outcome with
    | rejected reason =>
      obtain ⟨after, _, _, ran, last, -⟩ := flushed.submit_of_rejected made
      rw [Node.submitted, stateAfter_error ran]
      exact last
    | completed response | failed response =>
      rw [Node.submitted, stateAfter, submit_of_ok made]
      show (stateAfter (record node.next request _) _).Flushed
      unfold record
      rw [stateAfter_bind_pure]
      exact Flushed.recordResponse flushed

/-! ### Rejections -/

/-- Recording a response stops only with an internal fault. -/
theorem stopsOnly_recordResponse (node : Node Medium) :
    StopsOnly (fun error => ∃ cause, error = .internal cause)
      (recordResponse reference request response) node := by
  refine StopsOnly.bind (fun error after stopped => ?_) fun _ pushed _ =>
    StopsOnly.bind (fun error after stopped => ?_) fun _ moved _ error after stopped => ?_
  · unfold onLedger at stopped
    split at stopped
    · cases stopped
    · cases stopped
      exact ⟨_, rfl⟩
  · cases stopped
  · obtain ⟨committed, ran | ⟨cause, -, ran⟩⟩ := autoCommit_cases moved
    · cases ran.symm.trans stopped
    · cases ran.symm.trans stopped
      exact ⟨_, rfl⟩

/-- The answer to a request is a rejection only if the outcome is. -/
theorem outcomeOf_of_submit (flushed : node.Flushed)
    (ran : submit request node = .error (.rejected reason) after) :
    node.outcomeOf request = .ok (.rejected reason) := by
  cases made : node.outcomeOf request with
  | error cause => cases (submit_of_error made).symm.trans ran
  | ok outcome =>
    cases outcome with
    | rejected other =>
      obtain ⟨_, _, _, answered, -⟩ := flushed.submit_of_rejected made
      cases answered.symm.trans ran
      rfl
    | completed response | failed response =>
      rw [submit_of_ok made] at ran
      obtain stopped | ⟨_, _, -, returned⟩ := error_of_bind ran
      · obtain ⟨cause, same⟩ := stopsOnly_recordResponse _ _ _ stopped
        cases same
      · cases returned

/-- Of a rejection only the request and the reason are left, under the next reference. -/
structure OnlyNotes (node after : Node Medium) (request : Request) (reason : String) : Prop where
  responses (seen : View) : Backend.response after.ledger.backend seen =
    Backend.response node.ledger.backend seen
  histories (seen : View) : Backend.history after.ledger.backend seen =
    Backend.history node.ledger.backend seen
  manifest (seen : View) : Backend.manifest after.ledger.backend seen =
    Backend.manifest node.ledger.backend seen
  state : after.state = node.state
  requests (reference : TransactionRef) : after.request reference =
    if reference = node.next then .ok (some request) else node.request reference
  errors (reference : TransactionRef) : Backend.error after.ledger.backend .uncommitted reference =
    if reference = node.next then .ok (some reason)
    else Backend.error node.ledger.backend .uncommitted reference

/-- **A rejection leaves the request and the reason behind, and nothing else.** -/
theorem Sound.onlyNotes_of_rejected (sound : node.Sound contents) (flushed : node.Flushed)
    (ran : submit request node = .error (.rejected reason) after) :
    OnlyNotes node after request reason := by
  have rejected := outcomeOf_of_submit flushed ran
  have holds := holds_of_refuses sound.holds (sound.accepted?_of_rejected rejected)
  rw [submitted, stateAfter_error ran] at holds
  obtain ⟨_, memory, noted, answered, -, kept, keeps, recorded⟩ :=
    flushed.submit_of_rejected rejected
  cases answered.symm.trans ran
  have unnoted : ∀ {α : Type} {select : Records → Option α}, Records.Looks select →
      (∀ records : Records, select (records.putError node.next request reason) = select records) →
      ∀ seen, noted.lookup seen select = memory.lookup seen select :=
    fun looks silent => recorded.lookup_eq looks silent
  refine ⟨fun seen => ?_, fun seen => ?_, fun seen => ?_, ?_, fun other => ?_, fun other => ?_⟩
  · rw [keeps, kept]
    exact funext fun other => congrArg Except.ok
      (unnoted (Records.looks_entry Records.responses rfl (fun _ _ => rfl) other) (fun _ => rfl)
        seen)
  · rw [keeps, kept]
    exact funext fun object => congrArg (fun found => Except.ok (found.getD []))
      (unnoted (Records.looks_entry Records.histories rfl (fun _ _ => rfl) object) (fun _ => rfl)
        seen)
  · rw [keeps, kept]
    exact congrArg Except.ok (unnoted Records.looks_manifest (fun _ => rfl) seen)
  · funext object
    have readable := sound.sound.intact.isSome_responses object
    exact (holds.shows.state_ok readable).trans (sound.holds.shows.state_ok readable).symm
  · have entered := recorded.lookup_entry
      (Records.looks_entry Records.requests rfl (fun _ _ => rfl) other) fun _ => rfl
    show Backend.request after.ledger.backend .uncommitted other =
      if _ then _ else Backend.request node.ledger.backend .uncommitted other
    rw [keeps, kept]
    exact (congrArg Except.ok entered).trans (apply_ite Except.ok ..)
  · have entered := recorded.lookup_entry
      (Records.looks_entry Records.errors rfl (fun _ _ => rfl) other) fun _ => rfl
    rw [keeps, kept]
    exact (congrArg Except.ok entered).trans (apply_ite Except.ok ..)

end Node

/-! ### Failures -/

namespace Contents

variable {before later : Contents}

/-- An object that a push is not about keeps its state. -/
theorem Pushed.state_of_silent (pushed : before.Pushed reference response later)
    (intact : before.Intact) (silent : response.updatesOf object = []) :
    later.state object = before.state object := by
  have along : later.updatesAlong object (before.histories object) =
      before.updatesAlong object (before.histories object) := by
    refine List.flatMap_congr fun entry member => ?_
    have different : entry ≠ reference := by
      rintro rfl
      exact intact.not_mem_histories pushed.fresh object member
    rw [pushed.responses, Function.update_of_ne different]
  rw [Contents.state, pushed.others object silent, along]
  rfl

/-- What counts for a key that a push is not about counts as before. -/
theorem Pushed.mem_state_of_silent (pushed : before.Pushed reference response later)
    (intact : before.Intact) {update : Update}
    (silent : ∀ other ∈ response.updatesOf object, other.key ≠ update.key) :
    update ∈ later.state object ↔ update ∈ before.state object := by
  have nothing : ((response.updatesOf object).find? fun other => other.key = update.key) = none :=
    List.find?_eq_none.mpr fun other member same => silent other member (of_decide_eq_true same)
  rw [mem_state, mem_state, pushed.update?_eq intact, nothing, Option.none_or]

end Contents

/-- A failure tells the balance and the nonce of the caller, and nothing else. -/
theorem Outcome.updates_of_failed {config : NodeConfig} {view : LedgerView}
    {cache after : ClasspathCache} {outcome : Outcome}
    (fresh : ∀ number, view.history ⟨reference, number⟩ = .ok [])
    (built : ofRequest config view reference request cache = .ok outcome after)
    (given : outcome.response? = some response) (failed : response.ending = .failed) :
    ∃ header action balance nonce, request = .paid header action ∧ response.updates =
      [.field header.caller .balance balance, .field header.caller .nonce nonce] := by
  cases request with
  | installInitialJar jar dependencies =>
    rw [Initial.of_installJar built] at given
    cases given
    cases failed
  | nameManifest classpath manifest =>
    rw [Initial.of_nameManifest built] at given
    cases given
    cases failed
  | createGamete classpath amount publicKey =>
    obtain ⟨_, _, _, _, -, -, rfl⟩ := Initial.of_createGamete built
    cases given
    cases failed
  | paid header action =>
    obtain ⟨_, paid, _, -, -, bought, ended⟩ := Paid.outcome_cases fresh built
    rcases ended with ⟨cause, charger, -, rfl⟩ | ⟨_, _, _, other, -, -, carries, rfl⟩
    · cases given
      exact ⟨header, action, _, _, rfl, (action.failed_spec _).1.trans bought.reserved_eq⟩
    · cases given
      exact absurd failed carries.ending_ne

namespace Node

variable {caller : ObjectRef}

/-- Nothing is left of a failure but the balance and the nonce of its caller. -/
structure OnlyCharges (node after : Node Medium) (caller : ObjectRef) : Prop where
  histories (object : ObjectRef) (other : object ≠ caller) :
    after.ledger.view.history object = node.ledger.view.history object
  states (object : ObjectRef) (other : object ≠ caller) : after.state object = node.state object
  account : ∃ owned left, node.state caller = .ok owned ∧ after.state caller = .ok left ∧
    ∀ update : Update, update.key ≠ .field .balance → update.key ≠ .field .nonce →
      (update ∈ left ↔ update ∈ owned)

/-- **A failure leaves all objects as they were**, except for the balance and the nonce of its
caller. -/
theorem Sound.onlyCharges_of_failed (sound : node.Sound contents)
    (accepts : node.accepted? request = some response) (failed : response.ending = .failed) :
    ∃ header action, request = .paid header action ∧
      OnlyCharges node (node.submitted request) header.caller := by
  obtain ⟨_, recorded⟩ := sound.recorded accepts
  obtain ⟨outcome, cache, built, given⟩ := recorded.built
  obtain ⟨header, action, balance, nonce, same, updates⟩ :=
    Outcome.updates_of_failed recorded.fresh built given failed
  obtain ⟨later, pushed, holds⟩ := holds_of_accepts sound.holds accepts
  have intact := sound.sound.intact
  have shown := sound.holds.shows
  have silent : ∀ object, object ≠ header.caller → response.updatesOf object = [] := by
    intro object other
    unfold Response.updatesOf
    rw [updates]
    simp [Update.object, other.symm]
  refine ⟨header, action, same, fun object other => ?_, fun object other => ?_, ?_⟩
  · rw [holds.shows.history_eq, shown.history_eq, pushed.others object (silent object other)]
  · refine (holds.shows.state_ok ((pushed.intact intact).isSome_responses object)).trans ?_
    rw [pushed.state_of_silent intact (silent object other)]
    exact (shown.state_ok (intact.isSome_responses object)).symm
  · refine ⟨_, _, shown.state_ok (intact.isSome_responses _),
      holds.shows.state_ok ((pushed.intact intact).isSome_responses _), fun update paid counted =>
      pushed.mem_state_of_silent intact fun other member => ?_⟩
    have named : other ∈ response.updates := (List.mem_filter.mp member).1
    rw [updates] at named
    rcases List.mem_pair.mp named with rfl | rfl
    · exact paid.symm
    · exact counted.symm

/-! ### All or nothing -/

theorem Submitted.flushed {requests : List Request} {first : Node Medium}
    (reached : Submitted first node requests) (begins : first.Flushed) : node.Flushed := by
  induction reached with
  | start => exact begins
  | accepted earlier accepts ih | refused earlier refuses ih => exact ih.submitted _

variable {config : NodeConfig} {requests : List Request}

/-- **A transaction takes effect as a whole or not at all**, wherever submissions to a node over
empty memory lead to. If a request is rejected, all responses and histories, the manifest and the
states of all objects stay as they are, and only the request and the reason are recorded under the
next reference. If it fails, the histories and the states of all other objects than the caller stay
as they are, and in the state of the caller all but the balance and the nonce. -/
theorem Submitted.all_or_nothing
    (reached : Submitted (Node.start config { backend := Medium.blank none }) node requests)
    (request : Request) :
    (∀ reason after, submit request node = .error (.rejected reason) after →
      OnlyNotes node after request reason) ∧
    ∀ reference response after, submit request node = .ok (reference, response) after →
      response.ending = .failed → ∃ header action, request = .paid header action ∧
        OnlyCharges node after header.caller := by
  obtain ⟨contents, sound⟩ := reached.sound (sound_start config none)
  have flushed := reached.flushed (flushed_start config)
  refine ⟨fun reason after ran => sound.onlyNotes_of_rejected flushed ran,
    fun reference response after ran failed => ?_⟩
  obtain ⟨-, rfl, accepts⟩ := sound.accepted?_of_ok ran
  exact sound.onlyCharges_of_failed accepts failed

end Node

namespace Purses

open Node

def misnumbered : Request := .paid (header 5) (making 100 5)

/-- The purse is made and paid before it turns out that it cannot lose so many coins. -/
def overdrawing : Request := .paid (header 0) (making 100 500)

/-- A request of the gamete is rejected for its nonce, and another one fails. -/
theorem all_or_nothing_funded :
    Submitted begun funded [installing, creation] ∧
    (∃ reason after, submit misnumbered funded = .error (.rejected reason) after ∧
      OnlyNotes funded after misnumbered reason) ∧
    ∃ after, submit overdrawing funded = .ok (⟨2⟩, refused) after ∧ refused.ending = .failed ∧
      OnlyCharges funded after gamete := by
  refine ⟨submitted_funded, ?_, ?_⟩
  · obtain ⟨after, _, _, ran, -⟩ := (submitted_funded.flushed (flushed_start {})).submit_of_rejected
      (show funded.outcomeOf misnumbered = .ok (.rejected
        "incorrect nonce: the request reports 5 but the account contains 0") by decide +kernel)
    exact ⟨_, after, ran, (Submitted.all_or_nothing submitted_funded misnumbered).1 _ _ ran⟩
  · obtain ⟨after, ran⟩ := ok_of_resultOf?
      (show resultOf? (submit overdrawing) funded = some (⟨2⟩, refused) by decide +kernel)
    obtain ⟨_, _, same, charges⟩ :=
      (Submitted.all_or_nothing submitted_funded overdrawing).2 _ _ _ ran rfl
    cases same
    exact ⟨after, ran, rfl, charges⟩

end Purses

end ObjectLedger
