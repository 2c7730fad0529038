/-
**What running code leaves as it is.**

* `Heap.Write.value_eq`: a write changes one field of one object.
* **`Heap.Moves.value_eq`**: a field that code cannot write holds what it held, unless it is the
  balance.
* `Heap.coins`: all coins of all objects, loaded or not.
* **`Heap.Moves.coins_eq`**: where code cannot write the balance, it makes and loses no coins.
-/
import Mathlib.Algebra.BigOperators.Group.Finset.Basic
import Mathlib.Data.FinEnum
import Mathlib.Data.Fintype.Prod
import ObjectLedger.Proofs.Machine.Move

namespace ObjectLedger

/-- There are as many references to objects as pairs of words. -/
def ObjectRef.equivWords : UInt64 × UInt64 ≃ ObjectRef where
  toFun words := ⟨⟨words.1⟩, words.2⟩
  invFun object := (object.transaction.value, object.progressive)
  left_inv _ := rfl
  right_inv _ := rfl

-- irreducible, so that no proof tries to list all references
/-- All references to objects. -/
@[irreducible]
def ObjectRef.fintype : Fintype ObjectRef :=
  Fintype.ofEquiv _ ObjectRef.equivWords

instance : Fintype ObjectRef := ObjectRef.fintype

/-- Two sums whose terms agree but for one. -/
theorem sum_add_of_agree {ι : Type} [Fintype ι] [DecidableEq ι] (first second : ι → Nat)
    (place : ι) (others : ∀ other, other ≠ place → first other = second other) :
    ∑ other, first other + second place = ∑ other, second other + first place := by
  have rest : ∑ other ∈ Finset.univ.erase place, first other =
      ∑ other ∈ Finset.univ.erase place, second other :=
    Finset.sum_congr rfl fun other member => others other (Finset.ne_of_mem_erase member)
  rw [← Finset.add_sum_erase _ first (Finset.mem_univ place),
    ← Finset.add_sum_erase _ second (Finset.mem_univ place), rest]
  omega

/-- The coins that a value stands for. -/
def Value.coins : Value → Nat
  | .bigInteger amount => amount.toNat
  | _ => 0

@[simp] theorem Value.coins_bigInteger (amount : Amount) :
    (Value.bigInteger amount).coins = amount.toNat := rfl

namespace LedgerView

/-- The object has a history. -/
def knows (view : LedgerView) (object : ObjectRef) : Bool :=
  match view.history object with
  | .ok [] => false
  | _ => true

theorem history_of_not_knows {view : LedgerView} {object : ObjectRef}
    (unknown : ¬ view.knows object = true) : view.history object = .ok [] := by
  unfold knows at unknown
  split at unknown
  · assumption
  · exact absurd rfl unknown

/-- The coins of all objects with a history, none for an object without a balance. -/
def coins (view : LedgerView) : Nat :=
  ∑ object with view.knows object, (view.value object .balance).coins

/-- Objects without a history have no coins. -/
theorem coins_eq_sum (view : LedgerView) :
    view.coins = ∑ object, (view.value object .balance).coins := by
  refine Finset.sum_filter_of_ne fun object _ some => ?_
  by_contra unknown
  rw [value_of_no_history (history_of_not_knows unknown)] at some
  exact some rfl

end LedgerView

namespace Heap

variable {context : Context} {writable : FieldSignature → Prop} {heap after : Heap}
  {object other payer payee : ObjectRef} {loaded : HeapObject} {field unwritten : FieldSignature}
  {value : Value} {amount : Amount}

/-- All coins of a running transaction. -/
def coins (heap : Heap) (view : LedgerView) : Nat :=
  ∑ object, (heap.value view object .balance).coins

theorem coins_congr_balance {view : LedgerView}
    (same : ∀ object, after.value view object .balance = heap.value view object .balance) :
    after.coins view = heap.coins view :=
  Finset.sum_congr rfl fun object _ => by rw [same]

theorem coins_congr {view : LedgerView} (same : after.value view = heap.value view) :
    after.coins view = heap.coins view :=
  coins_congr_balance fun object => by rw [same]

/-! ### Writes -/

/-- A write changes one field of one object. -/
theorem Write.value_eq (write : Write context object field value heap after) (view : LedgerView)
    (other : ObjectRef) (another : FieldSignature) :
    after.value view other another =
      if other = object ∧ another = field then value else heap.value view other another := by
  cases write with
  | intro present =>
    by_cases same : other = object
    · subst same
      rw [value_put_self, value_of_present present]
      show ((HeapObject.fields _).insert field value |>.get? another).getD _ = _
      rw [Table.get?_insert]
      by_cases here : another = field <;> simp [here]
    · rw [value_put_of_ne _ _ same, if_neg fun both => same both.1]

/-- The coins after a write of a balance. -/
theorem Write.coins_add (write : Write context object .balance value heap after)
    (view : LedgerView) :
    after.coins view + (heap.value view object .balance).coins =
      heap.coins view + value.coins := by
  have agree := sum_add_of_agree (fun other => (after.value view other .balance).coins)
    (fun other => (heap.value view other .balance).coins) object fun other different => by
      rw [write.value_eq, if_neg fun both => different both.1]
  rw [write.value_eq view object .balance, if_pos ⟨rfl, rfl⟩] at agree
  exact agree

/-! ### Reads -/

/-- What every field of every object holds. -/
theorem Read.value_eq (read : Read context heap after) :
    after.value context.view = heap.value context.view := by
  funext other another
  cases read with
  | charge => rfl
  | @load object history updates className jar absent known nonempty read tag linked =>
    by_cases same : other = object
    · subst same
      rw [value_put_self, value_of_absent absent]
      show ((eagerFields updates _).get? another).getD _ = _
      rw [get?_eagerFields,
        LedgerView.value_of_field? (LedgerView.field?_of_updatesAlong known read another)]
      cases updates.findSome? (LedgerView.valueOf? another) with
      | some value => split <;> rfl
      | none =>
        by_cases eager : another.type.isEager = true
        · rw [if_pos eager, Option.none_or]
          split <;> rfl
        · rw [if_neg eager]
          rfl
    · exact value_put_of_ne _ _ same _
  | @fetch object loaded field found present has missing read =>
    by_cases same : other = object
    · subst same
      rw [value_put_self, value_of_present present]
      show ((loaded.fields.insert field _).get? another).getD _ = _
      by_cases here : another = field
      · subst here
        rw [Table.get?_insert_self, missing, LedgerView.value_of_field? read]
        rfl
      · rw [Table.get?_insert_of_ne _ _ here]
    · exact value_put_of_ne _ _ same _

/-- **Reading changes no field.** -/
theorem Reading.value_eq (reading : Reading context heap after) :
    after.value context.view = heap.value context.view := by
  induction reading with
  | refl => rfl
  | tail _ read ih => rw [read.value_eq, ih]

/-- A new object holds the defaults, as it did while it was not there. -/
theorem Sound.value_withNew (sound : Sound context heap) (fresh : context.Fresh)
    (className : String) (jar : TransactionRef) :
    (heap.withNew context className jar).value context.view = heap.value context.view := by
  funext other another
  by_cases same : other = ⟨context.transaction, heap.nextProgressive⟩
  · subst same
    rw [value_of_absent (sound.next_absent fresh)]
    show (heap.put _ _).value _ _ _ = _
    rw [value_put_self, get?_defaults,
      LedgerView.value_of_no_history (fresh heap.nextProgressive) another]
    split <;> rfl
  · exact value_put_of_ne _ _ same _

/-! ### Payments -/

/-- A payment changes balances only. -/
theorem Transfer.value_eq (transfer : Transfer context payer payee amount heap after)
    (apart : unwritten ≠ .balance) (other : ObjectRef) :
    after.value context.view other unwritten = heap.value context.view other unwritten := by
  cases transfer with
  | intro _ _ _ taken between _ _ _ given =>
    rw [given.value_eq, if_neg fun both => apart both.2, Reading.value_eq between,
      taken.value_eq, if_neg fun both => apart both.2]

/-- **A payment neither makes nor loses coins**, also when an object pays itself. -/
theorem Transfer.coins_eq (transfer : Transfer context payer payee amount heap after) :
    after.coins context.view = heap.coins context.view := by
  cases transfer with
  | @intro paid read _ loaded receiver balance received present owned enough taken between found
      held room given =>
    have less := taken.coins_add context.view
    have same : read.coins context.view = paid.coins context.view :=
      coins_congr (Reading.value_eq between)
    have more := given.coins_add context.view
    rw [value_of_present present, owned] at less
    rw [value_of_present found, held] at more
    simp only [Option.getD_some, Value.coins_bigInteger] at less more
    rw [BitVec.toNat_sub_of_le (BitVec.le_def.mpr enough)] at less
    rw [Amount.toNat_ofNat room] at more
    omega

/-! ### Whole runs -/

/-- **A field that code cannot write holds what it held, unless it is the balance.** -/
theorem Moves.value_eq (moves : Moves context writable heap after) (fresh : context.Fresh)
    (sound : Sound context heap) (closed : ¬ writable unwritten) (apart : unwritten ≠ .balance)
    (other : ObjectRef) :
    after.value context.view other unwritten = heap.value context.view other unwritten := by
  induction moves with
  | refl => rfl
  | tail before move ih =>
    rw [← ih]
    cases move with
    | read read => rw [read.value_eq]
    | restrict | release | emit => rfl
    | allocate => rw [(Moves.sound before sound).value_withNew fresh]
    | write may write =>
      rw [write.value_eq, if_neg]
      rintro ⟨-, rfl⟩
      exact closed may
    | pay transfer => exact transfer.value_eq apart other

/-- **Where code cannot write the balance, it makes and loses no coins.** -/
theorem Moves.coins_eq (moves : Moves context writable heap after) (fresh : context.Fresh)
    (sound : Sound context heap) (closed : ¬ writable .balance) :
    after.coins context.view = heap.coins context.view := by
  induction moves with
  | refl => rfl
  | tail before move ih =>
    rw [← ih]
    cases move with
    | read read => exact coins_congr read.value_eq
    | restrict | release | emit => rfl
    | allocate => exact coins_congr ((Moves.sound before sound).value_withNew fresh _ _)
    | write may write =>
      refine coins_congr_balance fun other => ?_
      rw [write.value_eq, if_neg]
      rintro ⟨-, rfl⟩
      exact closed may
    | pay transfer => exact transfer.coins_eq

end Heap

end ObjectLedger
