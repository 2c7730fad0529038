/-
**Updates of one object stand together.**

* `Update.object_eq_of_between`: between two updates of an object there are only updates of it.
  `Update.compare_classTag`: its class tags come before its fields.
* `exists_append_of_pairwise`: values that are in order are cut in two by what only goes from greater
  values to smaller ones.
* **`Update.together_of_sorted`**: wherever updates are in order, those of an object are one stretch,
  the class tags at its start.
* `normalize_eq_dedup_mergeSort`: normalizing values is to sort them and to drop repetitions.
* **`Update.total_order_and_normal_forms`**: the order of updates is total and tells apart whatever
  is different, so a list of updates has one normal form, which its members decide.
-/
import ObjectLedger.Proofs.Order
import Mathlib.Data.List.Dedup

namespace ObjectLedger

open Std

/-! ### The objects of updates -/

namespace Update

variable {first second middle last tag other : Update}

/-- The order of updates is an order of their objects first. -/
theorem isLE_object (below : (compare first second).isLE) :
    (compare first.object second.object).isLE := by
  rw [compare_eq] at below
  exact Ordering.isLE_left_of_isLE_then below

/-- An update between two updates of one object is about that object. -/
theorem object_eq_of_between (above : (compare first middle).isLE)
    (below : (compare middle last).isLE) (same : first.object = last.object) :
    middle.object = first.object := by
  have below := isLE_object below
  rw [← same] at below
  exact LawfulEqOrd.eq_of_compare (OrientedCmp.isLE_antisymm below (isLE_object above))

/-- The class tags of an object come before its fields. -/
theorem compare_classTag (same : tag.object = other.object) (tags : tag.isClassTag)
    (fields : ¬ other.isClassTag) : compare tag other = .lt := by
  rw [compare_eq, same, compare_self]
  cases tag with
  | field => cases tags
  | classTag =>
    cases other with
    | classTag => exact absurd rfl fields
    | field => rfl

end Update

/-! ### Stretches of sorted lists -/

/-- Values are cut in two by what holds of a value only if it holds of all values before it. -/
theorem exists_append_of_pairwise {α : Type} {values : List α} (property : α → Prop)
    (closed : values.Pairwise fun first second => property second → property first) :
    ∃ lower upper, values = lower ++ upper ∧ (∀ value ∈ lower, property value) ∧
      ∀ value ∈ upper, ¬ property value := by
  induction values with
  | nil => exact ⟨[], [], rfl, by simp, by simp⟩
  | cons first rest ih =>
    obtain ⟨ahead, closed⟩ := List.pairwise_cons.mp closed
    by_cases holds : property first
    · obtain ⟨lower, upper, rfl, has, lacks⟩ := ih closed
      exact ⟨first :: lower, upper, rfl, List.forall_mem_cons.mpr ⟨holds, has⟩, lacks⟩
    · exact ⟨[], first :: rest, rfl, by simp,
        List.forall_mem_cons.mpr ⟨holds, fun value member has => holds (ahead value member has)⟩⟩

namespace Update

variable {updates : List Update}

/-- The updates of the object are one stretch of the list, its class tags and then its fields, behind
those of lesser objects and before those of greater ones. -/
def Together (object : ObjectRef) (updates : List Update) : Prop :=
  ∃ before tags fields behind : List Update,
    updates = before ++ (tags ++ fields) ++ behind ∧
    (∀ update ∈ before, compare update.object object = .lt) ∧
    (∀ update ∈ tags, update.object = object ∧ update.isClassTag) ∧
    (∀ update ∈ fields, update.object = object ∧ ¬ update.isClassTag) ∧
    ∀ update ∈ behind, compare update.object object = .gt

/-- **Updates of one object stand together wherever updates are in order.** -/
theorem together_of_sorted
    (sorted : updates.Pairwise fun first second => (compare first second).isLE)
    (object : ObjectRef) : Together object updates := by
  obtain ⟨before, rest, rfl, lesser, notLesser⟩ := exists_append_of_pairwise
    (fun update : Update => compare update.object object = .lt)
    (sorted.imp fun below small => TransCmp.lt_of_isLE_of_lt (isLE_object below) small)
  obtain ⟨-, sorted, -⟩ := List.pairwise_append.mp sorted
  obtain ⟨own, behind, rfl, notGreater, greater⟩ := exists_append_of_pairwise
    (fun update : Update => (compare update.object object).isLE)
    (sorted.imp fun below small => TransCmp.isLE_trans (isLE_object below) small)
  have same : ∀ update ∈ own, update.object = object := by
    intro update member
    refine LawfulEqOrd.eq_of_compare ((Ordering.isLE_iff_eq_lt_or_eq_eq.mp
      (notGreater update member)).resolve_left ?_)
    exact notLesser update (List.mem_append_left _ member)
  obtain ⟨sorted, -, -⟩ := List.pairwise_append.mp sorted
  -- A field in front of a tag would be above it, as both are about the object.
  have closed : own.Pairwise fun first second => second.isClassTag → first.isClassTag := by
    refine sorted.imp_of_mem fun {first second} one other below tagged => ?_
    by_contra untagged
    have above := compare_classTag ((same second other).trans (same first one).symm) tagged untagged
    exact OrientedCmp.not_isLE_of_lt above below
  obtain ⟨tags, fields, rfl, tag, field⟩ :=
    exists_append_of_pairwise (fun update : Update => update.isClassTag) closed
  exact ⟨before, tags, fields, behind, by simp only [List.append_assoc], lesser,
    fun update member => ⟨same update (List.mem_append_left _ member), tag update member⟩,
    fun update member => ⟨same update (List.mem_append_right _ member), field update member⟩,
    fun update member =>
      OrientedCmp.gt_iff_lt.mpr (OrientedCmp.lt_of_not_isLE (greater update member))⟩

end Update

/-! ### Sorting and normalizing -/

section Sorting

variable {α : Type} [Ord α] [TransOrd α]

/-- Of two values one comes first, or both are at the same place. -/
theorem isLE_or_isLE (first second : α) :
    (compare first second).isLE ∨ (compare second first).isLE := by
  by_cases below : (compare first second).isLE
  · exact Or.inl below
  · exact Or.inr (Ordering.isLE_of_eq_lt (OrientedCmp.lt_of_not_isLE below))

/-- Normalizing values is to sort them and to drop repetitions. -/
theorem normalize_eq_dedup_mergeSort [LawfulEqOrd α] [DecidableEq α] (values : List α) :
    normalize values = (values.mergeSort fun first second => (compare first second).isLE).dedup := by
  have sorted : (values.mergeSort fun first second => (compare first second).isLE).Pairwise
      fun first second => (compare first second).isLE :=
    List.pairwise_mergeSort (fun _ _ _ => TransCmp.isLE_trans)
      (fun first second => Bool.or_eq_true_iff.mpr (isLE_or_isLE first second)) values
  refine normalize_eq_iff.mpr ⟨?_, fun value => ?_⟩
  · have apart := (sorted.sublist (List.dedup_sublist _)).and (List.nodup_dedup _)
    refine apart.imp fun ⟨below, different⟩ => ?_
    exact (Ordering.isLE_iff_eq_lt_or_eq_eq.mp below).resolve_right fun tie =>
      different (LawfulEqOrd.eq_of_compare tie)
  · rw [List.mem_dedup, List.mem_mergeSort]

end Sorting

namespace Update

/-- **The order of updates is total, and normal forms are what it makes of sets of updates.** Any two
updates compare, comparisons chain, and only equal updates compare as equal. The updates of an object
are together in the order, its class tags before its fields. The normal form of a list of updates is
the one increasing list with the same members; so it is its own normal form, and lists with the same
members share it. -/
theorem total_order_and_normal_forms (first second third : Update) (updates others : List Update) :
    ((compare first second).isLE ∨ (compare second first).isLE) ∧
    compare second first = (compare first second).swap ∧
    ((compare first second).isLE → (compare second first).isLE → first = second) ∧
    ((compare first second).isLE → (compare second third).isLE → (compare first third).isLE) ∧
    (compare first second = .eq ↔ first = second) ∧
    ((compare first second).isLE → (compare second third).isLE → first.object = third.object →
      second.object = first.object) ∧
    (first.object = second.object → first.isClassTag → ¬ second.isClassTag →
      compare first second = .lt) ∧
    (∀ object, Together object (normalize updates)) ∧
    (∀ normal, normalize updates = normal ↔
      Increasing normal ∧ ∀ update, update ∈ normal ↔ update ∈ updates) ∧
    normalize (normalize updates) = normalize updates ∧
    (normalize updates = normalize others ↔ ∀ update, update ∈ updates ↔ update ∈ others) := by
  have increasing := increasing_normalize updates
  refine ⟨isLE_or_isLE first second, OrientedCmp.eq_swap, fun below above => ?_,
    TransCmp.isLE_trans, compare_eq_iff_eq, object_eq_of_between, compare_classTag,
    together_of_sorted ?_, fun normal => normalize_eq_iff, increasing.normalize_eq,
    normalize_eq_normalize_iff⟩
  · exact LawfulEqOrd.eq_of_compare (OrientedCmp.isLE_antisymm below above)
  · exact increasing.imp Ordering.isLE_of_eq_lt

/-! ### A lamp -/

namespace Lamp

def lamp : ObjectRef := ⟨⟨7⟩, 0⟩

/-- Two tags that only the installing transaction tells apart. -/
def older : Update := .classTag lamp "Lamp" ⟨3⟩

def newer : Update := .classTag lamp "Lamp" ⟨5⟩

def dark : Update := .field lamp ⟨"Lamp", "next", .object "Lamp"⟩ .null

/-- Neither tag is dropped, and the field comes behind both, however often and in whatever order they
are told. -/
theorem total_order_and_normal_forms_lamp :
    (compare older newer).isLE ∧ (compare newer dark).isLE ∧ (compare older dark).isLE ∧
      older ≠ newer ∧ compare older newer ≠ .eq ∧
      newer.object = older.object ∧ compare newer dark = .lt ∧
      normalize [dark, newer, dark, older] = [older, newer, dark] ∧
      normalize [dark, newer, dark, older] = normalize [older, newer, older, dark] := by
  obtain ⟨-, -, -, chained, tie, between, -, -, form, -, same⟩ :=
    total_order_and_normal_forms older newer dark [dark, newer, dark, older]
      [older, newer, older, dark]
  obtain ⟨-, -, -, -, -, -, tagged, -⟩ := total_order_and_normal_forms newer dark dark [] []
  have below : (compare older newer).isLE := by decide
  have front : compare newer dark = .lt := tagged rfl rfl (by decide)
  have above : (compare newer dark).isLE := Ordering.isLE_of_eq_lt front
  have different : older ≠ newer := by decide
  have inOrder : Increasing [older, newer, dark] := by
    simp only [Increasing]
    decide
  have members : ∀ update, update ∈ [older, newer, dark] ↔ update ∈ [dark, newer, dark, older] := by
    intro update
    simp only [List.mem_cons, List.not_mem_nil, or_false]
    tauto
  refine ⟨below, above, chained below above, different, mt tie.mp different,
    between below above rfl, front, (form _).mpr ⟨inOrder, members⟩, same.mpr fun update => ?_⟩
  simp only [List.mem_cons, List.not_mem_nil, or_false]
  tauto

end Lamp

end Update

end ObjectLedger
