/-
**Redelivering transactions to a node.**

* `Node.redeliver_eq`: a redelivery is a delivery to the store, after which the node goes on.
* `Node.Backed`: the records of a node mirror those in memory, and all of them can be written.
* **`Node.Backed.redeliver`**: a delivery that the memory accepts succeeds, whether it is committed at
  once or not. **`Node.Backed.exists_redeliverAll`**: so do all deliveries of what another store
  accepted as new, and the records catch up with it.
-/
import ObjectLedger.Proofs.Node.Submission
import ObjectLedger.Proofs.Store.Redelivery

namespace ObjectLedger.Node

/-! ### One redelivery -/

section Redeliver

variable {σ : Type} [Backend σ]

/-- The reference of the next transaction after a delivery. -/
def nextAfter (node : Node σ) (reference : TransactionRef) : TransactionRef :=
  match node.response reference with
  | .ok none => if node.next ≤ reference then reference.next else node.next
  | _ => node.next

/-- **A redelivery is a delivery to the store**, and gives up the linked classpaths. -/
theorem redeliver_eq (node : Node σ) (delivery : Delivery) :
    redeliver delivery.reference delivery.request delivery.response node =
      match node.ledger.deliver delivery with
      | (.ok (), ledger) => autoCommit
        { node with ledger, cache := node.cache.clear, next := node.nextAfter delivery.reference }
      | (.error cause, ledger) => .error (.internal (.store cause)) { node with ledger } := by
  have asked : (get : NodeAction σ (Node σ)) node = .ok node node := rfl
  obtain ⟨reference, request, response⟩ := delivery
  rw [redeliver, bind_of_ok asked, Ledger.deliver, nextAfter]
  dsimp only
  cases known : node.response reference with
  | error cause =>
    have look : Backend.response node.ledger.backend .uncommitted reference = .error cause := known
    rw [look]
    rfl
  | ok found =>
    have look : Backend.response node.ledger.backend .uncommitted reference = .ok found := known
    rw [look]
    cases found with
    | some old =>
      show _ = match node.ledger.replace reference request response with
        | (.ok (), ledger) => _
        | (.error cause, ledger) => _
      cases ran : node.ledger.replace reference request response with
      | mk result ledger =>
        cases result with
        | ok done =>
          exact bind_of_ok (onLedger_of_ok (·.replace reference request response) ran)
        | error cause => exact bind_of_error (onLedger_of_error _ ran)
    | none =>
      show _ = match node.ledger.push reference request response with
        | (.ok (), ledger) => _
        | (.error cause, ledger) => _
      cases ran : node.ledger.push reference request response with
      | mk result ledger =>
        cases result with
        | ok done =>
          refine (bind_of_ok (onLedger_of_ok _ ran)).trans ?_
          dsimp only
          split <;> rfl
        | error cause => exact bind_of_error (onLedger_of_error _ ran)

/-- Redelivers transactions, one after the other. -/
def redeliverAll : List Delivery → NodeAction σ Unit
  | [] => pure ()
  | delivery :: rest => do
    redeliver delivery.reference delivery.request delivery.response
    redeliverAll rest

end Redeliver

/-! ### Deliveries that succeed -/

variable {node : Node Medium} {memory : Memory} {delivery : Delivery}

/-- The records mirror those in memory, and all that are pending can be written. -/
structure Backed (node : Node Medium) (memory : Memory) : Prop where
  mirrors : node.ledger.backend.Mirrors memory
  writable : memory.pending.Writable

namespace Backed

theorem commit (backed : node.Backed memory) (short : memory.contents.Short) :
    ∃ after, Node.commit node = .ok () after ∧ after.Backed (Backend.commit memory).2 := by
  have success := backed.mirrors.commit_ok (short.encodable backed.writable)
  obtain ⟨result, kept⟩ := node.ledger.commit_eq
  have ran : node.ledger.commit = (.ok (), node.ledger.commit.2) :=
    Prod.ext (result.trans success) rfl
  refine ⟨_, onLedger_of_ok Ledger.commit ran, ⟨?_, Records.writable_empty⟩⟩
  show node.ledger.commit.2.backend.Mirrors _
  rw [kept]
  exact backed.mirrors.commit success

theorem autoCommit (backed : node.Backed memory) (short : memory.contents.Short) :
    ∃ after last, Node.autoCommit node = .ok () after ∧ after.Backed last ∧
      (last = memory ∨ last = (Backend.commit memory).2) := by
  rw [autoCommit_eq]
  split
  · obtain ⟨after, ran, backed⟩ := backed.commit short
    exact ⟨after, _, ran, backed, Or.inr rfl⟩
  · exact ⟨node, memory, rfl, backed, Or.inl rfl⟩

/-- **What the memory accepts the node accepts**, and commits it at once or not. -/
theorem redeliver (ledger : Ledger Memory) {ledger' : Ledger Memory} (backed : node.Backed ledger.backend)
    (encodable : delivery.Encodable) (accepted : ledger.deliver delivery = (.ok (), ledger'))
    (short : ledger'.backend.contents.Short) :
    ∃ after last,
      Node.redeliver delivery.reference delivery.request delivery.response node = .ok () after ∧
        after.Backed last ∧ (last = ledger'.backend ∨ last = (Backend.commit ledger'.backend).2) := by
  obtain ⟨result, mirrors, writable⟩ := Ledger.deliver_related node.ledger ledger
    (fun medium memory => medium.Mirrors memory ∧ memory.pending.Writable)
    (backed.mirrors.answers_eq .uncommitted) ⟨backed.mirrors, backed.writable⟩
    fun known change writes =>
      ⟨backed.mirrors.write (writes.proper backed.mirrors.proper),
        writes.writable (encodable.call known) backed.writable⟩
  rw [accepted] at result mirrors writable
  have ran : node.ledger.deliver delivery = (.ok (), (node.ledger.deliver delivery).2) :=
    Prod.ext result rfl
  rw [redeliver_eq, ran]
  have goesOn : Backed { node with
      ledger := (node.ledger.deliver delivery).2
      cache := node.cache.clear
      next := node.nextAfter delivery.reference } ledger'.backend := ⟨mirrors, writable⟩
  exact goesOn.autoCommit short

variable {skipped : TransactionRef → Prop} {final : TransactionRef → Option Response}
  {tracked : ObjectRef → Prop} {early : Prop} {left : Contents}

/-- **All that another store accepted as new is accepted again**, and the records catch up with it. -/
theorem exists_redeliverAll {plain : Ledger Memory} {deliveries : List Delivery}
    (backed : node.Backed memory)
    (catchesUp : Memory.CatchesUp skipped final tracked early left plain.backend memory)
    (accepted : ∀ result ∈ (plain.performAll (deliveries.map (·.call false))).1, result = .ok ())
    (encodable : ∀ delivery ∈ deliveries, delivery.Encodable)
    (told : ∀ delivery ∈ deliveries, final delivery.reference = some delivery.response)
    (known : ∀ delivery ∈ deliveries,
      (skipped delivery.reference ↔ (left.responses delivery.reference).isSome))
    (whole : ∀ delivery ∈ deliveries, ¬ skipped delivery.reference →
      early ∧ ∀ object, tracked object)
    (short : memory.contents.Short)
    (room : early → ∀ object,
      (memory.contents.histories object).length + deliveries.length ≤ Codec.maxLength) :
    ∃ after last, redeliverAll deliveries node = .ok () after ∧ after.Backed last ∧
      Memory.CatchesUp skipped final tracked early left
        (plain.performAll (deliveries.map (·.call false))).2.backend last ∧
      last.contents.Short := by
  induction deliveries generalizing node memory plain with
  | nil => exact ⟨node, memory, rfl, backed, catchesUp, short⟩
  | cons delivery rest ih =>
    simp only [List.forall_mem_cons] at encodable told known whole
    obtain ⟨headAccepted, restAccepted⟩ := List.forall_mem_cons.mp accepted
    obtain ⟨ledger', ran, goesOn, changed⟩ := Memory.CatchesUp.deliver { backend := memory }
      catchesUp (Prod.ext headAccepted rfl) told.1 known.1 whole.1
    -- a push makes histories longer, but then there is room for all deliveries
    have grown : ledger'.backend.contents.Short ∧ (early → ∀ object,
        (ledger'.backend.contents.histories object).length + rest.length ≤ Codec.maxLength) := by
      rcases changed with same | ⟨taken, pushed⟩
      · rw [same]
        exact ⟨short, fun isEarly object =>
          Nat.le_of_succ_le (room isEarly object)⟩
      · have longer : ∀ object,
            (ledger'.backend.contents.histories object).length + rest.length ≤ Codec.maxLength := by
          intro object
          have before := room (whole.1 taken).1 object
          have after := pushed.length_histories_le object
          rw [List.length_cons] at before
          have after : (ledger'.backend.contents.histories object).length ≤
            (memory.contents.histories object).length + 1 := after
          omega
        exact ⟨fun object => Nat.le_of_add_right_le (longer object), fun _ => longer⟩
    obtain ⟨middle, last, done, backedMiddle, shape⟩ :=
      backed.redeliver { backend := memory } encodable.1 ran grown.1
    have later : last.contents = ledger'.backend.contents ∧
        Memory.CatchesUp skipped final tracked early left
          (plain.perform (delivery.call false)).2.backend last := by
      rcases shape with rfl | rfl
      · exact ⟨rfl, goesOn⟩
      · exact ⟨Memory.contents_commit _, goesOn.commit⟩
    obtain ⟨after, final, doneAll, rest⟩ := ih backedMiddle later.2 restAccepted encodable.2 told.2
      known.2 whole.2 (later.1 ▸ grown.1) (by rw [later.1]; exact grown.2)
    exact ⟨after, final, (bind_of_ok done).trans doneAll, rest⟩

end Backed

end ObjectLedger.Node
