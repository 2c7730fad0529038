/-
**Requests and their responses.**

* `Ledger.Call.request?`, `Ledger.Call.given?`: the request that a call writes for a reference, and
  the transaction that it writes.
* `Ledger.Keeps`: what is read under a key is what was written for it last.
  **`Ledger.Keeps.read_performAll`**: so it is after any calls. `Ledger.keeps_request`,
  `Ledger.keeps_response`: requests and responses are kept so.
* **`Ledger.requests_stay`**: the request of a reference is the one given with its response as long
  as rejections are recorded only for references without a response.
* `Ledger.read_pushError`, `Ledger.not_requests_stay`: a rejection for a reference that has a response
  takes its request away.
-/
import ObjectLedger.Proofs.Store.Histories
import ObjectLedger.Proofs.Store.Refusal
import ObjectLedger.Proofs.Store.Uncommitted

namespace ObjectLedger

variable {medium : Medium} {reference : TransactionRef} {request : Request} {response : Response}

/-! ### Reading what was written -/

/-- Of two pending records the first one is read. -/
theorem Disk.overlay_or {α : Type} (first second : Option α)
    (committed : Except StoreError (Option α)) :
    overlay .uncommitted (first.or second) committed =
      overlay .uncommitted first (overlay .uncommitted second committed) := by
  cases first with
  | none | some => rfl

namespace Medium

/-- A pending request is read before a committed one. -/
theorem request_eq (medium : Medium) (reference : TransactionRef) :
    Backend.request medium .uncommitted reference =
      Disk.overlay .uncommitted (medium.pending.requests.get? reference)
        (Backend.request medium .committed reference) := by
  cases medium with
  | memory store =>
    show Except.ok (store.pending.requests.get? reference <|>
        store.committed.requests.get? reference) =
      Disk.overlay .uncommitted (store.pending.requests.get? reference) _
    cases store.pending.requests.get? reference with
    | none | some => rfl
  | disk store =>
    show Disk.overlay .uncommitted (store.pending.requests.get? reference) _ =
      Disk.overlay .uncommitted (store.pending.requests.get? reference) _
    cases store.pending.requests.get? reference with
    | none | some => rfl

/-- A pending response is read before a committed one. -/
theorem response_eq (medium : Medium) (reference : TransactionRef) :
    Backend.response medium .uncommitted reference =
      Disk.overlay .uncommitted (medium.pending.responses.get? reference)
        (Backend.response medium .committed reference) := by
  cases medium with
  | memory store =>
    show Except.ok
        (store.pending.responses.get? reference <|> store.committed.responses.get? reference) =
      Disk.overlay .uncommitted (store.pending.responses.get? reference) _
    cases store.pending.responses.get? reference with
    | none | some => rfl
  | disk store =>
    show Disk.overlay .uncommitted (store.pending.responses.get? reference) _ =
      Disk.overlay .uncommitted (store.pending.responses.get? reference) _
    cases store.pending.responses.get? reference with
    | none | some => rfl

theorem pending_write (medium : Medium) (change : Records → Records) :
    (Backend.write medium change).pending = change medium.pending := by
  cases medium with
  | memory | disk => rfl

end Medium

namespace Ledger

/-! ### What calls write -/

/-- The request that a call writes for a reference. -/
def Call.request? (reference : TransactionRef) : Call → Option Request
  | push other request _ | replace other request _ | pushError other request _ =>
    if reference = other then some request else none
  | commit => none

/-- The transaction that a call writes for a reference: a request with its response. -/
def Call.given? (reference : TransactionRef) : Call → Option (Request × Response)
  | push other request response | replace other request response =>
    if reference = other then some (request, response) else none
  | pushError _ _ _ | commit => none

/-- What is found after an insertion: the new value under its key, and what was found before under
any other. -/
theorem get?_insert_eq_or {κ ν : Type} [DecidableEq κ] (table : Table κ ν) (place : κ) (value : ν)
    (key : κ) :
    (table.insert place value).get? key =
      (if key = place then some value else none).or (table.get? key) := by
  rw [Table.get?_insert]
  split
  · rfl
  · rfl

theorem Call.Writes.get?_requests {call : Call} {change : Records → Records}
    (writes : call.Writes change) (records : Records) (reference : TransactionRef) :
    (change records).requests.get? reference =
      (call.request? reference).or (records.requests.get? reference) := by
  cases writes with
  | push histories manifest =>
    rw [requests_writeTransaction]
    exact get?_insert_eq_or ..
  | replace | pushError => exact get?_insert_eq_or ..

theorem responses_writeTransaction (reference : TransactionRef) (request : Request)
    (response : Response) (histories : List (ObjectRef × List TransactionRef))
    (manifest : Option ObjectRef) (records : Records) :
    (writeTransaction reference request response histories manifest records).responses =
      records.responses.insert reference response := by
  obtain ⟨written, same⟩ := foldl_putHistory histories
    (records.putTransaction reference request response)
  cases manifest with
  | none => exact (congrArg Records.responses same :)
  | some object => exact (congrArg Records.responses same :)

theorem Call.Writes.get?_responses {call : Call} {change : Records → Records}
    (writes : call.Writes change) (records : Records) (reference : TransactionRef) :
    (change records).responses.get? reference =
      ((call.given? reference).map Prod.snd).or (records.responses.get? reference) := by
  have inserted : ∀ other request (response : Response),
      (records.responses.insert other response).get? reference =
        ((if reference = other then some (request, response) else none :
          Option (Request × Response)).map Prod.snd).or (records.responses.get? reference) := by
    intro other request response
    rw [get?_insert_eq_or, apply_ite (Option.map Prod.snd)]
    rfl
  cases writes with
  | push histories manifest =>
    rw [responses_writeTransaction]
    exact inserted ..
  | replace => exact inserted ..
  | pushError => rfl

/-- What a call with a result wrote. -/
def wrote? {α : Type} (writes? : Call → Option α) : Call × Except StoreError Unit → Option α
  | (call, .ok ()) => writes? call
  | (_, .error _) => none

/-- What the accepted calls of a run wrote, the last of them last. -/
def written {σ α : Type} [Backend σ] (writes? : Call → Option α) (ledger : Ledger σ)
    (calls : List Call) : List α :=
  (ledger.outcomes calls).filterMap (wrote? writes?)

theorem written_concat {σ α : Type} [Backend σ] (writes? : Call → Option α) (ledger : Ledger σ)
    (calls : List Call) (call : Call) :
    written writes? ledger (calls ++ [call]) = written writes? ledger calls ++
      (wrote? writes? (call, ((ledger.performAll calls).2.perform call).1)).toList := by
  unfold written
  rw [outcomes_concat, List.filterMap_append]
  cases found : wrote? writes? (call, ((ledger.performAll calls).2.perform call).1) with
  | none => rw [List.filterMap_cons_none found]; rfl
  | some value => rw [List.filterMap_cons_some found]; rfl

/-- A store stays intact along calls. -/
theorem intact_performAll {ledger : Ledger Medium} (intact : ledger.backend.Intact)
    (calls : List Call) : (ledger.performAll calls).2.backend.Intact := by
  induction calls using List.reverseRecOn with
  | nil => exact intact
  | append_singleton calls call ih =>
    rw [performAll_append]
    exact Medium.retains.perform _ ih call

/-- A question about uncommitted records is answered with what calls wrote last. -/
structure Keeps {α : Type} (read : Medium → Except StoreError (Option α))
    (writes? : Call → Option α) : Prop where
  answered : ∀ medium other : Medium,
    Backend.answers medium .uncommitted = Backend.answers other .uncommitted →
      read medium = read other
  commits : writes? .commit = none
  write : ∀ {call change} medium, call.Writes change → read (Backend.write medium change) =
    Disk.overlay .uncommitted (writes? call) (read medium)

namespace Keeps

variable {α : Type} {read : Medium → Except StoreError (Option α)} {writes? : Call → Option α}
  {ledger : Ledger Medium}

/-- **What a call wrote is read next**, and what was read before if it wrote nothing. -/
theorem read_perform (keeps : Keeps read writes?) (intact : ledger.backend.Intact) (call : Call) :
    read (ledger.perform call).2.backend =
      Disk.overlay .uncommitted (wrote? writes? (call, (ledger.perform call).1))
        (read ledger.backend) := by
  cases call with
  | push reference request response =>
    rcases ledger.push_cases reference request response with
      ⟨cause, metrics, -, refused⟩ | ⟨histories, manifest, metrics, -, accepted⟩
    · simp only [Ledger.perform, refused]
      rfl
    · simp only [Ledger.perform, accepted]
      exact keeps.write ledger.backend (.push histories manifest)
  | replace reference request response =>
    rcases ledger.replace_cases reference request response with
      ⟨cause, refused⟩ | ⟨earlier, -, accepted⟩
    · simp only [Ledger.perform, refused]
      rfl
    · simp only [Ledger.perform, accepted]
      exact keeps.write ledger.backend .replace
  | pushError reference request reason => exact keeps.write ledger.backend .pushError
  | commit =>
    have nothing : wrote? writes? (.commit, ledger.commit.1) = none := by
      cases ledger.commit.1 with
      | ok done => exact keeps.commits
      | error cause => rfl
    show read ledger.commit.2.backend =
      Disk.overlay .uncommitted (wrote? writes? (.commit, ledger.commit.1)) (read ledger.backend)
    rw [nothing, ledger.commit_eq.2]
    exact keeps.answered _ _ (Medium.answers_commit intact)

/-- **After any calls what is read is what was written last**, or what was read before; by induction
on the calls. -/
theorem read_performAll (keeps : Keeps read writes?) (intact : ledger.backend.Intact)
    (calls : List Call) :
    read (ledger.performAll calls).2.backend =
      Disk.overlay .uncommitted (written writes? ledger calls).getLast? (read ledger.backend) := by
  induction calls using List.reverseRecOn with
  | nil => rfl
  | append_singleton calls call ih =>
    rw [performAll_append, written_concat, List.getLast?_append]
    refine (keeps.read_perform (intact_performAll intact calls) call).trans ?_
    rw [ih]
    cases wrote? writes? (call, ((ledger.performAll calls).2.perform call).1) with
    | none => rfl
    | some value => rfl

end Keeps

/-- The request of a reference is the one that was written last. -/
theorem keeps_request (reference : TransactionRef) :
    Keeps (Backend.request · .uncommitted reference) (Call.request? reference) where
  answered _ _ same := congrArg (Answers.request · reference) same
  commits := rfl
  write {call change} medium writes := by
    have settled := congrArg Answers.request (medium.answers_committed_write change)
    rw [Medium.request_eq, Medium.request_eq, Medium.pending_write, writes.get?_requests,
      Disk.overlay_or]
    exact congrArg (fun committed => Disk.overlay _ _ (Disk.overlay _ _ (committed reference))) settled

/-- The response of a reference is the one that was written last. -/
theorem keeps_response (reference : TransactionRef) :
    Keeps (Backend.response · .uncommitted reference)
      fun call => (call.given? reference).map Prod.snd where
  answered _ _ same := congrArg (Answers.response · reference) same
  commits := rfl
  write {call change} medium writes := by
    have settled := congrArg Answers.response (medium.answers_committed_write change)
    rw [Medium.response_eq, Medium.response_eq, Medium.pending_write, writes.get?_responses,
      Disk.overlay_or]
    exact congrArg (fun committed => Disk.overlay _ _ (Disk.overlay _ _ (committed reference))) settled

/-! ### Requests with their responses -/

/-- What is written is a part of what else is written with it. -/
theorem written_map {σ α β : Type} [Backend σ] (writes? : Call → Option α) (part : α → β)
    (ledger : Ledger σ) (calls : List Call) :
    written (fun call => (writes? call).map part) ledger calls =
      (written writes? ledger calls).map part := by
  unfold written
  rw [List.map_filterMap]
  refine List.filterMap_congr fun outcome _ => ?_
  obtain ⟨call, _ | ⟨⟨⟩⟩⟩ := outcome
  · rfl
  · rfl

/-- A transaction is written with its request. -/
theorem request?_of_given? {outcome : Call × Except StoreError Unit}
    (given : wrote? (Call.given? reference) outcome = some (request, response)) :
    wrote? (Call.request? reference) outcome = some request := by
  obtain ⟨call, _ | ⟨⟨⟩⟩⟩ := outcome
  · cases given
  · unfold wrote? Call.given? at given
    unfold wrote? Call.request?
    cases call with
    | push | replace =>
      simp only [Option.ite_none_right_eq_some] at given ⊢
      obtain ⟨same, written⟩ := given
      cases written
      exact ⟨same, rfl⟩
    | pushError | commit => cases given

/-- A request that is written without a response is a rejected one. -/
theorem rejection_of_request? {outcome : Call × Except StoreError Unit}
    (asked : wrote? (Call.request? reference) outcome = some request)
    (alone : wrote? (Call.given? reference) outcome = none) :
    ∃ reason, outcome.1 = .pushError reference request reason := by
  obtain ⟨call, _ | ⟨⟨⟩⟩⟩ := outcome
  · cases asked
  · unfold wrote? Call.request? at asked
    unfold wrote? Call.given? at alone
    cases call with
    | push | replace =>
      simp only [Option.ite_none_right_eq_some] at asked
      simp [asked.1] at alone
    | pushError other rejected reason =>
      simp only [Option.ite_none_right_eq_some] at asked
      obtain ⟨rfl, written⟩ := asked
      cases written
      exact ⟨reason, rfl⟩
    | commit => cases asked

/-- **After any calls on an empty store**, commits that fail included, the response of a reference is
the one that was accepted last, and its request the one that was accepted or rejected last. -/
theorem read_blank (root : Option String) (calls : List Call) (reference : TransactionRef) :
    let store : Ledger Medium := { backend := Medium.blank root }
    let last := (store.performAll calls).2.backend
    Backend.response last .uncommitted reference =
        .ok ((written (Call.given? reference) store calls).getLast?.map Prod.snd) ∧
      Backend.request last .uncommitted reference =
        .ok (written (Call.request? reference) store calls).getLast? := by
  intro store last
  have intact : store.backend.Intact := (Medium.found_blank root).bounded.1
  have responses := (keeps_response reference).read_performAll intact calls
  have requests := (keeps_request reference).read_performAll intact calls
  have nothing : Backend.response store.backend .uncommitted reference = .ok none ∧
      Backend.request store.backend .uncommitted reference = .ok none := by
    cases root with
    | none | some => exact ⟨rfl, rfl⟩
  rw [written_map, List.getLast?_map] at responses
  constructor
  · refine responses.trans ?_
    rw [nothing.1]
    cases (written (Call.given? reference) store calls).getLast? with
    | none | some => rfl
  · refine requests.trans ?_
    rw [nothing.2]
    cases (written (Call.request? reference) store calls).getLast? with
    | none | some => rfl

/-- Rejections are recorded only for references without a response. -/
def RejectsFresh (store : Ledger Medium) (calls : List Call) : Prop :=
  ∀ before reference request reason, before ++ [.pushError reference request reason] <+: calls →
    Backend.response (store.performAll before).2.backend .uncommitted reference = .ok none

/-- The last request is the one that was written with the last transaction; by induction on the
calls. -/
theorem getLast?_requests (root : Option String) {calls : List Call}
    (fresh : RejectsFresh { backend := Medium.blank root } calls)
    (given : (written (Call.given? reference) { backend := Medium.blank root } calls).getLast? =
      some (request, response)) :
    (written (Call.request? reference) { backend := Medium.blank root } calls).getLast? =
      some request := by
  induction calls using List.reverseRecOn with
  | nil => cases given
  | append_singleton calls call ih =>
    have earlier : RejectsFresh { backend := Medium.blank root } calls :=
      fun before _ _ _ first => fresh before _ _ _ (first.trans (List.prefix_append _ _))
    rw [written_concat, List.getLast?_append] at given ⊢
    cases now : wrote? (Call.given? reference)
        (call, ((performAll { backend := Medium.blank root } calls).2.perform call).1) with
    | some transaction =>
      rw [now] at given
      cases given
      rw [request?_of_given? now]
      rfl
    | none =>
      rw [now] at given
      have before := ih earlier given
      cases asked : wrote? (Call.request? reference)
          (call, ((performAll { backend := Medium.blank root } calls).2.perform call).1) with
      | none => exact before
      | some other =>
        -- a rejection of a reference that has a response
        obtain ⟨reason, rfl⟩ := rejection_of_request? asked now
        have absent := fresh calls reference other reason (List.prefix_refl _)
        rw [(read_blank root calls reference).1] at absent
        have given : (written (Call.given? reference) { backend := Medium.blank root }
          calls).getLast? = some (request, response) := given
        rw [given] at absent
        cases absent

/-- **Requests stay with their responses** as long as rejections are recorded only for references
without a response: after any such calls on an empty store, the request of a reference that has a
response is the one that was accepted with it last. -/
theorem requests_stay (root : Option String) {calls : List Call}
    (fresh : RejectsFresh { backend := Medium.blank root } calls)
    (found : Backend.response (performAll { backend := Medium.blank root } calls).2.backend
      .uncommitted reference = .ok (some response)) :
    ∃ request, (written (Call.given? reference) { backend := Medium.blank root } calls).getLast? =
        some (request, response) ∧
      Backend.request (performAll { backend := Medium.blank root } calls).2.backend .uncommitted
        reference = .ok (some request) := by
  obtain ⟨responses, requests⟩ := read_blank root calls reference
  obtain ⟨⟨request, _⟩, given, rfl⟩ := Option.map_eq_some_iff.mp
    (Except.ok.inj (responses.symm.trans found))
  exact ⟨request, given, requests.trans (congrArg Except.ok (getLast?_requests root fresh given))⟩

/-- A rejection takes the place of the request of its reference, also where there is a response,
which stays. -/
theorem read_pushError (ledger : Ledger Medium) (reference : TransactionRef) (request : Request)
    (reason : String) :
    let last := (ledger.pushError reference request reason).backend
    Backend.request last .uncommitted reference = .ok (some request) ∧
      Backend.response last .uncommitted reference =
        Backend.response ledger.backend .uncommitted reference := by
  have writes : (Call.pushError reference request reason).Writes
      (·.putError reference request reason) := .pushError
  have requests := (keeps_request reference).write ledger.backend writes
  have responses := (keeps_response reference).write ledger.backend writes
  rw [Call.request?, if_pos rfl] at requests
  exact ⟨requests, responses⟩

/-- A lamp is switched on, and a late request under the same reference is rejected. -/
def lampRejected : List Call :=
  [.push ⟨1⟩ lampRequest (lampResponse "on"),
    .pushError ⟨1⟩ (.nameManifest ⟨⟨0⟩, true⟩ lamp) "incorrect nonce"]

/-- **A rejection takes away the request of a reference that has a response**: that of the lamp is
not the one that was given with its response. -/
theorem not_requests_stay : ¬ ∀ (calls : List Call) (reference : TransactionRef)
    (response : Response),
    Backend.response (performAll { backend := Medium.blank none } calls).2.backend .uncommitted
      reference = .ok (some response) →
    ∃ request, (written (Call.given? reference) { backend := Medium.blank none } calls).getLast? =
        some (request, response) ∧
      Backend.request (performAll { backend := Medium.blank none } calls).2.backend .uncommitted
        reference = .ok (some request) := by
  intro stay
  have given : (written (Call.given? ⟨1⟩) { backend := Medium.blank none } lampRejected).getLast? =
      some (lampRequest, lampResponse "on") := by decide +kernel
  have answered : Backend.response (performAll { backend := Medium.blank none }
      lampRejected).2.backend .uncommitted ⟨1⟩ = .ok (some (lampResponse "on")) := by decide +kernel
  have asked : Backend.request (performAll { backend := Medium.blank none } lampRejected).2.backend
      .uncommitted ⟨1⟩ ≠ .ok (some lampRequest) := by decide +kernel
  obtain ⟨request, last, found⟩ := stay lampRejected ⟨1⟩ (lampResponse "on") answered
  rw [given] at last
  cases last
  exact asked found

end Ledger

end ObjectLedger
