/-
**No paid request is accepted twice.**

* `Request.paidBy`: the paid requests of an account among those that were accepted.
* `Node.Recorded.nonce_value`: an accepted request carries the nonce of its caller, which it raises
  by one; no other nonce changes.
* `Node.Numbered`: the accepted requests of an account are numbered from zero, and its nonce is their
  number. **`Node.Submitted.numbered`**: it is so wherever submissions lead to.
* **`Node.Submitted.accepted_once`**: so an accepted request is rejected from then on.
-/
import ObjectLedger.Proofs.Node.Memory
import ObjectLedger.Proofs.Transaction.Rejection

namespace ObjectLedger

/-! ### Accepted requests -/

/-- The headers of the paid requests of an account. -/
def Request.paidBy (account : ObjectRef) (requests : List Request) : List Header :=
  (requests.filterMap Request.header?).filter fun header => header.caller = account

theorem Request.paidBy_concat (account : ObjectRef) (requests : List Request) (request : Request) :
    paidBy account (requests ++ [request]) =
      paidBy account requests ++
        (request.header?.toList.filter fun header => header.caller = account) := by
  cases request <;> simp [paidBy, header?]

theorem Request.mem_paidBy {header : Header} {action : Action} {requests : List Request}
    (member : .paid header action ∈ requests) : header ∈ paidBy header.caller requests :=
  List.mem_filter.mpr ⟨List.mem_filterMap.mpr ⟨_, member, rfl⟩, decide_eq_true rfl⟩

namespace Node

variable {settings : NodeConfig} {root : Option String}

section

variable {σ : Type} [Backend σ] [LawfulBackend σ] {node : Node σ} {contents later : Contents}
  {request : Request} {response : Response} {header : Header} {action : Action}

/-! ### One accepted request -/

/-- **An accepted request carries the nonce of its caller and raises it by one**, where the
installed code writes no nonce. -/
theorem Recorded.nonce_value (recorded : node.Recorded (.paid header action) response later)
    (sound : node.Sound contents)
    (closed : ∀ jar unit, node.ledger.view.Installs jar unit → unit.WritesOnly (· ≠ .nonce)) :
    node.ledger.view.value header.caller .nonce = .bigInteger header.nonce ∧
      header.nonce.toNat + 1 ≤ Amount.maximum ∧
      ∀ account, (node.submitted (.paid header action)).ledger.view.value account .nonce =
        if account = header.caller then .bigInteger (BitVec.ofNat 128 (header.nonce.toNat + 1))
        else node.ledger.view.value account .nonce := by
  obtain ⟨outcome, after, built, given⟩ := recorded.built
  obtain ⟨classes, paid, balance, link, -, bought, ended⟩ :=
    Paid.outcome_cases recorded.fresh built
  refine ⟨bought.counted, bought.room, fun account => ?_⟩
  rw [recorded.value_eq]
  rcases ended with ⟨cause, charger, -, rfl⟩ | ⟨kept, last, effects, other, ends, settled, carries,
    rfl⟩
  all_goals cases given
  · rw [bought.valueAfter_of_failed (action.failed_spec _).1]
    simp [FieldSignature.nonce_ne_balance]
  · exact Paid.nonce_valueAfter recorded.fresh bought
      ((sound.from_of_link link).writesOnly closed) ends settled carries account

/-- An accepted request can be written, with and without its signature. -/
theorem Recorded.encodable (recorded : node.Recorded (.paid header action) response later) :
    Codec.request.oversize? (.paid header action) = none ∧
      Codec.request.oversize? (Request.paid header action).withoutSignature = none := by
  obtain ⟨outcome, after, built, -⟩ := recorded.built
  obtain ⟨classes, paid, -, started, -⟩ := Paid.start_of_ofRequest built
  exact Paid.encodable_of_start started

/-! ### Numbered requests -/

/-- The paid requests of an account that were accepted are numbered from zero, and its nonce is how
many they are. -/
structure Numbered (node : Node σ) (requests : List Request) (account : ObjectRef) : Prop where
  numbers : (Request.paidBy account requests).map (·.nonce.toNat) =
    List.range (Request.paidBy account requests).length
  bounded : (Request.paidBy account requests).length ≤ Amount.maximum
  value_eq : node.ledger.view.value account .nonce =
    .bigInteger (BitVec.ofNat 128 (Request.paidBy account requests).length)

omit [LawfulBackend σ] in
theorem Numbered.toNat_nonce {requests : List Request} {account : ObjectRef}
    (numbered : node.Numbered requests account) :
    (BitVec.ofNat 128 (Request.paidBy account requests).length).toNat =
      (Request.paidBy account requests).length :=
  Amount.toNat_ofNat numbered.bounded

/-- **A request that is accepted continues the numbers.** -/
theorem Numbered.accepted {requests : List Request} {account : ObjectRef}
    (numbered : node.Numbered requests account) (sound : node.Sound contents)
    (recorded : node.Recorded request response later)
    (closed : ∀ jar unit, node.ledger.view.Installs jar unit → unit.WritesOnly (· ≠ .nonce)) :
    (node.submitted request).Numbered (requests ++ [request]) account := by
  cases kind : request.isInitial with
  | true =>
    obtain ⟨outcome, after, built, given⟩ := recorded.built
    have same : Request.paidBy account (requests ++ [request]) =
        Request.paidBy account requests := by
      rw [Request.paidBy_concat]
      cases request with
      | paid => cases kind
      | _ => exact List.append_nil _
    refine ⟨same ▸ numbered.numbers, same ▸ numbered.bounded, ?_⟩
    rw [same, recorded.value_eq,
      Initial.nonce_valueAfter kind recorded.fresh built given, numbered.value_eq]
  | false =>
    cases request with
    | paid header action =>
      obtain ⟨current, room, raised⟩ := recorded.nonce_value sound closed
      by_cases own : account = header.caller
      · subst own
        have grown : Request.paidBy header.caller (requests ++ [.paid header action]) =
            Request.paidBy header.caller requests ++ [header] := by
          rw [Request.paidBy_concat]
          simp [Request.header?]
        have number : header.nonce.toNat = (Request.paidBy header.caller requests).length := by
          rw [numbered.value_eq] at current
          rw [← Value.bigInteger.inj current, numbered.toNat_nonce]
        refine ⟨?_, ?_, ?_⟩
        · rw [grown, List.map_append, numbered.numbers, List.length_append]
          simp [List.range_succ, number]
        · rw [grown, List.length_append, ← number]
          exact room
        · rw [raised, if_pos rfl, grown, List.length_append, ← number]
          rfl
      · have same : Request.paidBy account (requests ++ [.paid header action]) =
            Request.paidBy account requests := by
          rw [Request.paidBy_concat]
          simp [Request.header?, Ne.symm own]
        refine ⟨same ▸ numbered.numbers, same ▸ numbered.bounded, ?_⟩
        rw [raised, if_neg own, same, numbered.value_eq]
    | _ => cases kind

/-- A request that is not accepted leaves the numbers as they are. -/
theorem Numbered.refused {requests : List Request} {account : ObjectRef}
    (numbered : node.Numbered requests account) (sound : node.Sound contents)
    (refuses : node.accepted? request = none) :
    (node.submitted request).Numbered requests account := by
  refine ⟨numbered.numbers, numbered.bounded, ?_⟩
  rw [(sound.of_refuses refuses).holds.shows.value_eq sound.sound.intact,
    ← sound.holds.shows.value_eq sound.sound.intact]
  exact numbered.value_eq

/-! ### Runs -/

/-- Nothing is paid for over an empty store. -/
theorem Sound.numbered_nil (sound : node.Sound Contents.empty) (account : ObjectRef) :
    node.Numbered [] account := by
  refine ⟨rfl, Nat.zero_le _, ?_⟩
  rw [sound.holds.shows.value_eq Contents.sound_empty.intact]
  rfl

/-- **Wherever submissions lead to, the accepted requests of every account are numbered.** -/
theorem Submitted.numbered {first : Node σ} {requests : List Request}
    (reached : Submitted first node requests) (begins : first.Sound Contents.empty)
    (closed : ∀ jar unit, node.ledger.view.Installs jar unit → unit.WritesOnly (· ≠ .nonce))
    (account : ObjectRef) : node.Numbered requests account := by
  induction reached with
  | start => exact begins.numbered_nil account
  | accepted earlier accepts ih =>
    obtain ⟨contents, sound⟩ := earlier.sound begins
    obtain ⟨later, recorded⟩ := sound.recorded accepts
    have before : ∀ jar unit, LedgerView.Installs _ jar unit → unit.WritesOnly (· ≠ .nonce) :=
      fun jar unit installs => closed jar unit (installs.extends recorded.keeps)
    exact (ih before).accepted sound recorded before
  | refused earlier refuses ih =>
    obtain ⟨contents, sound⟩ := earlier.sound begins
    have keeps := sound.holds.shows.extends (sound.of_refuses refuses).holds.shows
    exact (ih fun jar unit installs => closed jar unit (installs.extends keeps)).refused sound
      refuses

/-- Wherever submissions lead to, the accepted requests can be written. -/
theorem Submitted.encodable {first : Node σ} {requests : List Request}
    (reached : Submitted first node requests) (begins : first.Sound contents)
    (member : .paid header action ∈ requests) :
    Codec.request.oversize? (.paid header action) = none ∧
      Codec.request.oversize? (Request.paid header action).withoutSignature = none := by
  induction reached with
  | start => cases member
  | accepted earlier accepts ih =>
    rcases List.mem_append.mp member with old | new
    · exact ih old
    · obtain ⟨_, sound⟩ := earlier.sound begins
      obtain ⟨_, recorded⟩ := sound.recorded accepts
      cases List.mem_singleton.mp new
      exact recorded.encodable
  | refused earlier refuses ih => exact ih member

/-- **A request that was accepted is rejected from then on.** -/
theorem Submitted.rejected {first : Node σ} {requests : List Request}
    (reached : Submitted first node requests) (begins : first.Sound Contents.empty)
    (closed : ∀ jar unit, node.ledger.view.Installs jar unit → unit.WritesOnly (· ≠ .nonce))
    (member : .paid header action ∈ requests) :
    ∃ reason, node.outcomeOf (.paid header action) = .ok (.rejected reason) := by
  obtain ⟨contents, sound⟩ := reached.sound begins
  obtain ⟨whole, bare⟩ := reached.encodable begins member
  have numbered := reached.numbered begins closed header.caller
  have used : header.nonce.toNat < (Request.paidBy header.caller requests).length := by
    rw [← List.mem_range, ← numbered.numbers]
    exact List.mem_map_of_mem (Request.mem_paidBy member)
  refine Outcome.rejected_of_nonce (sound.sound.readable sound.holds.shows) sound.readable
    sound.linked whole bare fun current => ?_
  rw [numbered.value_eq] at current
  rw [← Value.bigInteger.inj current, numbered.toNat_nonce] at used
  exact Nat.lt_irrefl _ used

end

/-- **The nonce of an account is the number of its paid requests that were accepted**, which are
numbered from zero in their order; so an accepted request is rejected from then on. Its answer is
the reason, unless the record of the rejection cannot be made durable. -/
theorem Submitted.accepted_once {node : Node Medium} {requests : List Request}
    (reached : Submitted (Node.start settings { backend := Medium.blank root }) node requests)
    (closed : ∀ jar unit, node.ledger.view.Installs jar unit → unit.WritesOnly (· ≠ .nonce)) :
    (∀ account,
      (∃ found nonce, node.ledger.view.field? account .nonce = .ok found ∧
        found.getD (.bigInteger 0) = .bigInteger nonce ∧
        nonce.toNat = (Request.paidBy account requests).length) ∧
      (Request.paidBy account requests).map (·.nonce.toNat) =
        List.range (Request.paidBy account requests).length ∧
      ((Request.paidBy account requests).map Header.nonce).Nodup) ∧
    ∀ header action, .paid header action ∈ requests →
      node.accepted? (.paid header action) = none ∧
      ∃ reason, node.outcomeOf (.paid header action) = .ok (.rejected reason) ∧
        ∃ after, submit (.paid header action) node = .error (.rejected reason) after ∨
          ∃ cause, (node.ledger.pushError node.next (.paid header action) reason).commit =
              (.error cause, after.ledger) ∧
            submit (.paid header action) node = .error (.internal (.store cause)) after := by
  have begins := sound_start settings root
  obtain ⟨contents, sound⟩ := reached.sound begins
  refine ⟨fun account => ?_, fun header action member => ?_⟩
  · have numbered := reached.numbered begins closed account
    obtain ⟨found, read⟩ := (sound.sound.readable sound.holds.shows).exists_field account .nonce
    refine ⟨⟨found, _, read, ?_, numbered.toNat_nonce⟩, numbered.numbers, ?_⟩
    · rw [← numbered.value_eq, LedgerView.value_of_field? read]
      rfl
    · refine List.Nodup.of_map BitVec.toNat ?_
      rw [List.map_map]
      exact numbered.numbers ▸ List.nodup_range
  · obtain ⟨reason, rejected⟩ := reached.rejected begins closed member
    exact ⟨sound.accepted?_of_rejected rejected, reason, rejected, submit_of_rejected rejected⟩

end Node

namespace Purses

open Node

def paying : Request := .paid (header 0) (making 100 5)

def overspending : Request := .paid (header 1) (making 100 500)

/-- The second purse fails to be made, and the first request comes again. -/
def repeated : Node Medium := ((funded.submitted paying).submitted overspending).submitted paying

theorem submitted_repeated :
    Submitted begun repeated [installing, creation, paying, overspending] := by
  have made : Submitted begun (funded.submitted paying) [installing, creation, paying] :=
    submitted_funded.next (by decide +kernel)
  have failed : Submitted begun ((funded.submitted paying).submitted overspending)
      [installing, creation, paying, overspending] :=
    made.next (by decide +kernel)
  exact .refused failed (by decide +kernel)

/-- The gamete paid for two requests, and neither is accepted again. -/
theorem accepted_once_repeated :
    Submitted begun repeated [installing, creation, paying, overspending] ∧
    (∀ jar unit, repeated.ledger.view.Installs jar unit → unit.WritesOnly (· ≠ .nonce)) ∧
    (∃ nonce, repeated.ledger.view.field? gamete .nonce = .ok (some (.bigInteger nonce)) ∧
      nonce.toNat = 2) ∧
    (Request.paidBy gamete [installing, creation, paying, overspending]).map (·.nonce.toNat) =
      [0, 1] ∧
    (∃ reason, repeated.outcomeOf paying = .ok (.rejected reason)) ∧
    ∃ reason, repeated.outcomeOf overspending = .ok (.rejected reason) := by
  have closed : ∀ jar unit, repeated.ledger.view.Installs jar unit →
      unit.WritesOnly (· ≠ .nonce) :=
    fun jar unit => writesOnly_of_installs (by decide +kernel)
  obtain ⟨numbers, rejections⟩ := Submitted.accepted_once submitted_repeated closed
  obtain ⟨⟨found, nonce, read, value, count⟩, numbered, -⟩ := numbers gamete
  have known : found = some (.bigInteger nonce) := by
    cases found with
    | none =>
      cases value
      cases count
    | some other => exact congrArg some value
  have again : ∀ header action,
      .paid header action ∈ [installing, creation, paying, overspending] →
      ∃ reason, repeated.outcomeOf (.paid header action) = .ok (.rejected reason) := by
    intro header action member
    obtain ⟨-, reason, rejected, -⟩ := rejections header action member
    exact ⟨reason, rejected⟩
  exact ⟨submitted_repeated, closed, ⟨nonce, known ▸ read, count⟩, numbered,
    again _ _ (by decide), again _ _ (by decide)⟩

end Purses

end ObjectLedger
