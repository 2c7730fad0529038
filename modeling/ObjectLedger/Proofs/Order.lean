/-
**Orders that tell apart whatever is different.**

* `LawfulEqOrd` of references, types, fields, values and updates: two of them compare as equal only
  if they are.
* `TransOrd` of the same: comparisons can be chained. `Update.order_eq`: updates compare part by
  part.
* **`mem_normalize`**: so normalizing values drops none of them. **`increasing_normalize`**: it leaves
  them in strictly increasing order.
* **`normalize_eq_iff`**: the normal form is the only list with both properties.
  `normalize_eq_normalize_iff`: which values they are decides it. `normalize_eq_pair`: what remains
  of two values.
-/
import ObjectLedger.Update

namespace ObjectLedger

open Std

/-! ### References and types -/

instance : LawfulEqOrd TransactionRef where
  compare_self := compare_self (α := UInt64)
  eq_of_compare {first second} tie := by
    obtain ⟨first⟩ := first
    obtain ⟨second⟩ := second
    exact congrArg TransactionRef.mk (LawfulEqOrd.eq_of_compare (α := UInt64) tie)

instance : LawfulEqOrd ObjectRef where
  compare_self := compareLex_eq_eq.mpr ⟨compare_self, compare_self⟩
  eq_of_compare {first second} tie := by
    obtain ⟨creators, numbers⟩ := compareLex_eq_eq.mp tie
    obtain ⟨creator, number⟩ := first
    exact congr (congrArg ObjectRef.mk (LawfulEqOrd.eq_of_compare creators))
      (LawfulEqOrd.eq_of_compare numbers)

instance : LawfulEqOrd ValueType where
  compare_self := compareLex_eq_eq.mpr ⟨compare_self, compare_self⟩
  eq_of_compare {first second} tie := by
    obtain ⟨ranks, names⟩ := compareLex_eq_eq.mp tie
    have ranks : first.rank = second.rank := LawfulEqOrd.eq_of_compare ranks
    have names : first.className = second.className := LawfulEqOrd.eq_of_compare names
    cases first <;> cases second
    case object.object => exact congrArg ValueType.object names
    all_goals first | rfl | cases ranks

instance : LawfulEqOrd FieldSignature where
  compare_self := compareLex_eq_eq.mpr
    ⟨compare_self, compareLex_eq_eq.mpr ⟨compare_self, compare_self⟩⟩
  eq_of_compare {first second} tie := by
    obtain ⟨classes, others⟩ := compareLex_eq_eq.mp tie
    obtain ⟨names, types⟩ := compareLex_eq_eq.mp others
    obtain ⟨_, _, _⟩ := first
    exact congr (congr (congrArg FieldSignature.mk (LawfulEqOrd.eq_of_compare classes))
      (LawfulEqOrd.eq_of_compare names)) (LawfulEqOrd.eq_of_compare types)

instance : LawfulEqOrd UpdateKey where
  compare_self {key} := by
    cases key with
    | classTag => rfl
    | field field => exact compare_self (α := FieldSignature)
  eq_of_compare {first second} tie := by
    cases first <;> cases second
    case classTag.classTag => rfl
    case field.field => exact congrArg UpdateKey.field (LawfulEqOrd.eq_of_compare tie)
    all_goals cases tie

/-! ### Values and updates -/

instance : LawfulEqOrd Value where
  compare_self {value} := by
    cases value with
    | null => rfl
    | boolean value => exact compare_self (α := Bool)
    | int value => exact compare_self (α := Int64)
    | bigInteger value => exact compare_self (α := Amount)
    | string value => exact compare_self (α := String)
    | reference object => exact compare_self (α := ObjectRef)
  eq_of_compare {first second} tie := by
    cases first <;> cases second
    case null.null => rfl
    case boolean.boolean => exact congrArg Value.boolean (LawfulEqOrd.eq_of_compare tie)
    case int.int => exact congrArg Value.int (LawfulEqOrd.eq_of_compare tie)
    case bigInteger.bigInteger => exact congrArg Value.bigInteger (LawfulEqOrd.eq_of_compare tie)
    case string.string => exact congrArg Value.string (LawfulEqOrd.eq_of_compare tie)
    case reference.reference => exact congrArg Value.reference (LawfulEqOrd.eq_of_compare tie)
    all_goals cases tie

instance : LawfulEqOrd Update where
  compare_self {update} := by
    refine compareLex_eq_eq.mpr ⟨compare_self, compareLex_eq_eq.mpr ⟨compare_self, ?_⟩⟩
    cases update with
    | classTag object className jar =>
      show (compare className className).then (compare jar jar) = .eq
      rw [compare_self, compare_self]
      rfl
    | field object field value => exact compare_self (α := Value)
  eq_of_compare {first second} tie := by
    obtain ⟨objects, others⟩ := compareLex_eq_eq.mp tie
    obtain ⟨keys, contents⟩ := compareLex_eq_eq.mp others
    have objects : first.object = second.object := LawfulEqOrd.eq_of_compare objects
    have keys : first.key = second.key := LawfulEqOrd.eq_of_compare keys
    cases first with
    | classTag object className jar =>
      cases second with
      | classTag other otherName otherJar =>
        obtain ⟨names, jars⟩ := Ordering.then_eq_eq.mp contents
        cases objects
        exact congr (congrArg (Update.classTag object) (LawfulEqOrd.eq_of_compare names))
          (LawfulEqOrd.eq_of_compare jars)
      | field => cases keys
    | field object field value =>
      cases second with
      | classTag => cases keys
      | field other otherField otherValue =>
        cases objects
        cases keys
        exact congrArg (Update.field object field) (LawfulEqOrd.eq_of_compare contents)

/-- Updates are compared by object, then by key, then by what they say. -/
theorem Update.compare_eq (first second : Update) : compare first second =
    (compare first.object second.object).then
      ((compare first.key second.key).then (first.contentOrder second)) :=
  rfl

/-- Updates of two fields of an object are in the order of the fields. -/
theorem Update.compare_field {object : ObjectRef} {first second : FieldSignature}
    {value other : Value} {order : Ordering}
    (fields : compare first second = order ∧ order ≠ .eq) :
    compare (Update.field object first value) (Update.field object second other) = order := by
  obtain ⟨rfl, different⟩ := fields
  show (compare object object).then ((compare first second).then (compare value other)) = _
  rw [compare_self (a := object)]
  cases fields : compare first second with
  | eq => exact absurd fields different
  | lt | gt => rfl

/-- Updates about different things are in the order of these things, whatever they say. -/
theorem Update.compare_congr {first second other another : Update}
    (object : other.object = first.object) (key : other.key = first.key)
    (objectToo : another.object = second.object) (keyToo : another.key = second.key)
    (differ : first.object = second.object → first.key ≠ second.key) :
    compare other another = compare first second := by
  rw [compare_eq, compare_eq, object, key, objectToo, keyToo]
  cases objects : compare first.object second.object with
  | lt | gt => rfl
  | eq =>
    cases keys : compare first.key second.key with
    | lt | gt => rfl
    | eq =>
      exact absurd (LawfulEqOrd.eq_of_compare keys) (differ (LawfulEqOrd.eq_of_compare objects))

/-! ### Chains of comparisons -/

instance : TransOrd TransactionRef :=
  inferInstanceAs (TransCmp (compareOn TransactionRef.value))

instance : TransOrd ObjectRef :=
  inferInstanceAs (TransCmp (compareLex (compareOn ObjectRef.transaction)
    (compareOn ObjectRef.progressive)))

instance : TransOrd ValueType :=
  inferInstanceAs (TransCmp (compareLex (compareOn ValueType.rank)
    (compareOn ValueType.className)))

instance : TransOrd FieldSignature :=
  inferInstanceAs (TransCmp (compareLex (compareOn FieldSignature.definingClass)
    (compareLex (compareOn FieldSignature.name) (compareOn FieldSignature.type))))

/-- The field of a key, none for the class tag. -/
def UpdateKey.field? : UpdateKey → Option FieldSignature
  | classTag => none
  | field signature => some signature

theorem UpdateKey.order_eq : UpdateKey.order = compareOn UpdateKey.field? := by
  funext first second
  cases first <;> cases second <;> rfl

instance : TransOrd UpdateKey := by
  show TransCmp UpdateKey.order
  rw [UpdateKey.order_eq]
  infer_instance

/-- The place of the kind of value among the kinds. -/
def Value.rank : Value → Nat
  | null => 0
  | boolean _ => 1
  | int _ => 2
  | bigInteger _ => 3
  | string _ => 4
  | reference _ => 5

theorem Value.order_eq : Value.order = compareLex (compareOn rank) (compareLex (compareOn boolean?)
    (compareLex (compareOn int?) (compareLex (compareOn bigInteger?)
      (compareLex (compareOn string?) (compareOn reference?))))) := by
  funext first second
  have kinds : ∀ {α : Type} [Ord α] (one other : α),
      compare (some one) (some other) = compare one other := fun _ _ => rfl
  cases first <;> cases second <;> first
    | rfl
    | simp [order, compareLex, compareOn, rank, boolean?, int?, bigInteger?, string?, reference?,
        kinds]

instance : TransOrd Value := by
  show TransCmp Value.order
  rw [Value.order_eq]
  infer_instance

namespace Update

/-- The name of the class that the update tells. -/
def className? : Update → Option String
  | classTag _ className _ => some className
  | field _ _ _ => none

/-- The transaction that installed the class that the update tells. -/
def jar? : Update → Option TransactionRef
  | classTag _ _ jar => some jar
  | field _ _ _ => none

/-- The value that the update gives to a field. -/
def value? : Update → Option Value
  | classTag _ _ _ => none
  | field _ _ value => some value

/-- Updates of different kinds have different keys, so their contents can be compared in parts. -/
theorem order_eq : order = compareLex (compareOn object) (compareLex (compareOn key)
    (compareLex (compareOn className?) (compareLex (compareOn jar?) (compareOn value?)))) := by
  funext first second
  cases first <;> cases second
  case classTag.classTag object name jar other otherName otherJar =>
    show (compare object other).then ((compare name otherName).then (compare jar otherJar)) =
      (compare object other).then ((compare name otherName).then ((compare jar otherJar).then .eq))
    rw [Ordering.then_eq]
  all_goals rfl

instance : TransOrd Update := by
  show TransCmp order
  rw [order_eq]
  infer_instance

end Update

/-! ### Normal forms -/

variable {α : Type} [Ord α] [LawfulEqOrd α] {value other : α} {values : List α}

theorem mem_insertOrdered : other ∈ insertOrdered value values ↔ other = value ∨ other ∈ values := by
  induction values with
  | nil => simp [insertOrdered]
  | cons first rest ih =>
    unfold insertOrdered
    split
    · exact List.mem_cons
    · rename_i tie
      obtain rfl := LawfulEqOrd.eq_of_compare tie
      simp
    · rw [List.mem_cons, ih, List.mem_cons]
      exact or_left_comm

/-- **Normalizing values drops none of them.** -/
theorem mem_normalize : value ∈ normalize values ↔ value ∈ values := by
  induction values with
  | nil => rfl
  | cons first rest ih =>
    rw [normalize, List.foldr_cons, mem_insertOrdered, List.mem_cons]
    exact or_congr_right ih

/-- The values are in strictly increasing order. -/
def Increasing (values : List α) : Prop :=
  values.Pairwise fun first second => compare first second = .lt

theorem Increasing.nodup (increasing : Increasing values) : values.Nodup :=
  increasing.imp fun below same => by
    subst same
    rw [compare_self] at below
    cases below

/-- Which values they are tells increasing values. -/
theorem Increasing.eq_of_mem_iff [TransOrd α] {others : List α} (increasing : Increasing values)
    (too : Increasing others) (same : ∀ value, value ∈ values ↔ value ∈ others) :
    values = others := by
  refine List.Perm.eq_of_pairwise (fun first second _ _ below above => ?_) increasing too
    ((List.perm_ext_iff_of_nodup increasing.nodup too.nodup).mpr same)
  rw [OrientedCmp.gt_iff_lt.mpr above] at below
  cases below

theorem Increasing.insertOrdered [TransOrd α] (increasing : Increasing values) :
    Increasing (insertOrdered value values) := by
  induction values with
  | nil => exact List.pairwise_singleton _ _
  | cons first rest ih =>
    obtain ⟨above, tail⟩ := List.pairwise_cons.mp increasing
    unfold ObjectLedger.insertOrdered
    split
    · rename_i below
      refine List.pairwise_cons.mpr ⟨fun other member => ?_, increasing⟩
      rcases List.mem_cons.mp member with rfl | member
      · exact below
      · exact TransCmp.lt_trans below (above other member)
    · exact increasing
    · rename_i behind
      refine List.pairwise_cons.mpr ⟨fun other member => ?_, ih tail⟩
      rcases mem_insertOrdered.mp member with rfl | member
      · exact OrientedCmp.gt_iff_lt.mp behind
      · exact above other member

/-- **Normalized values are in strictly increasing order.** -/
theorem increasing_normalize [TransOrd α] (values : List α) : Increasing (normalize values) := by
  induction values with
  | nil => exact List.Pairwise.nil
  | cons first rest ih => exact ih.insertOrdered

/-- **The normal form is the only increasing list of the same values.** -/
theorem normalize_eq_iff [TransOrd α] {normal : List α} : normalize values = normal ↔
    Increasing normal ∧ ∀ value, value ∈ normal ↔ value ∈ values := by
  constructor
  · rintro rfl
    exact ⟨increasing_normalize values, fun value => mem_normalize⟩
  · rintro ⟨increasing, same⟩
    exact (increasing_normalize values).eq_of_mem_iff increasing fun value =>
      mem_normalize.trans (same value).symm

/-- Values in increasing order are in normal form already. -/
theorem Increasing.normalize_eq [TransOrd α] (increasing : Increasing values) :
    normalize values = values :=
  normalize_eq_iff.mpr ⟨increasing, fun _ => Iff.rfl⟩

/-- Which values they are decides the normal form, not how often and in what order they come. -/
theorem normalize_eq_normalize_iff [TransOrd α] {others : List α} :
    normalize values = normalize others ↔ ∀ value, value ∈ values ↔ value ∈ others := by
  rw [normalize_eq_iff, and_iff_right (increasing_normalize others)]
  simp only [mem_normalize]
  exact forall_congr' fun value => Iff.comm

/-- Two values in increasing order are what remains of any list of them. -/
theorem normalize_eq_pair [TransOrd α] {first second : α} (before : compare first second = .lt)
    (only : ∀ value ∈ values, value = first ∨ value = second) (has : first ∈ values)
    (hasToo : second ∈ values) : normalize values = [first, second] := by
  refine normalize_eq_iff.mpr ⟨List.pairwise_pair.mpr before, fun value => ?_⟩
  rw [List.mem_cons, List.mem_singleton]
  constructor
  · rintro (rfl | rfl)
    · exact has
    · exact hasToo
  · exact only value

end ObjectLedger
