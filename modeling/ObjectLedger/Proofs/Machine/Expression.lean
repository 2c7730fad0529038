/-
**Arithmetic code computes exact integers.**

* `NumberKind`: machine integers and big integers, and the integers that they are.
  **`Operator.onNumbers_eq_some_iff`**: an operation gives the exact integer where it fits, but for
  one remainder, whose quotient does not.
* `Expression`: a tree of operations on constants. `Expression.value?` is the integer that it is and
  `Expression.number?` what the machine makes of it; **`Expression.number?_eq_some_iff`** compares
  them, by induction on the tree.
* `Heap.Charged`: nothing but gas was taken. **`Machine.works_code`**: the code of an expression
  leaves its number on the stack or throws, by induction on the tree.
* **`Machine.evaluate_code`**: so does an activation that runs it, given enough gas;
  `Desk.not_evaluate_code`: without the exception this does not hold.
-/
import ObjectLedger.Proofs.Machine.Executing
import ObjectLedger.Proofs.Machine.Halting

namespace ObjectLedger

/-! ### Numbers -/

/-- The kinds of numbers that code computes with. -/
inductive NumberKind where
  | int
  | bigInteger
  deriving DecidableEq, Repr

namespace NumberKind

/-- The numbers of a kind. -/
def Number : NumberKind → Type
  | int => Int64
  | bigInteger => Amount

/-- The value that holds a number. -/
def toValue : (kind : NumberKind) → kind.Number → Value
  | int, number => .int number
  | bigInteger, number => .bigInteger number

/-- The integer that a number is. -/
def toInt : (kind : NumberKind) → kind.Number → Int
  | int, number => Int64.toInt number
  | bigInteger, number => Int.ofNat (BitVec.toNat number)

/-- The least number of a kind. -/
def least : NumberKind → Int
  | int => -2 ^ 63
  | bigInteger => 0

/-- The greatest number of a kind. -/
def greatest : NumberKind → Int
  | int => 2 ^ 63 - 1
  | bigInteger => 2 ^ 128 - 1

/-- The integer is a number of the kind. -/
def Fits (kind : NumberKind) (integer : Int) : Prop :=
  kind.least ≤ integer ∧ integer ≤ kind.greatest

instance (kind : NumberKind) (integer : Int) : Decidable (kind.Fits integer) :=
  inferInstanceAs (Decidable (_ ∧ _))

variable {kind : NumberKind}

theorem toInt_inj {first second : kind.Number} :
    kind.toInt first = kind.toInt second ↔ first = second := by
  cases kind with
  | int => exact Int64.toInt_inj
  | bigInteger => exact Int.ofNat_inj.trans BitVec.toNat_inj

theorem fits_toInt (number : kind.Number) : kind.Fits (kind.toInt number) := by
  cases kind with
  | int => exact ⟨Int64.le_toInt number, Int.le_sub_one_of_lt (Int64.toInt_lt number)⟩
  | bigInteger =>
    have bound : BitVec.toNat (w := 128) number < 2 ^ 128 := BitVec.isLt number
    exact ⟨Int.natCast_nonneg _, by
      show ((BitVec.toNat (w := 128) number : Nat) : Int) ≤ 2 ^ 128 - 1
      omega⟩

/-- Each integer in the range is a number. -/
theorem exists_toInt_eq {integer : Int} (fits : kind.Fits integer) :
    ∃ number, kind.toInt number = integer := by
  cases kind with
  | int => exact ⟨Int64.ofInt integer,
      Int64.toInt_ofInt_of_le fits.1 (Int.lt_of_le_sub_one fits.2)⟩
  | bigInteger =>
    obtain ⟨nonneg, le⟩ : 0 ≤ integer ∧ integer ≤ 2 ^ 128 - 1 := fits
    refine ⟨BitVec.ofNat 128 integer.toNat, ?_⟩
    show ((BitVec.ofNat 128 integer.toNat).toNat : Int) = integer
    rw [Amount.toNat_ofNat (by unfold Amount.maximum; omega), Int.toNat_of_nonneg nonneg]

end NumberKind

theorem int64?_eq_some_iff {integer : Int} {number : Int64} :
    int64? integer = some number ↔ integer = number.toInt := by
  have least := number.le_toInt
  have greatest := number.toInt_lt
  unfold int64?
  split
  · rename_i range
    have same : (Int64.ofInt integer).toInt = integer :=
      Int64.toInt_ofInt_of_le (by omega) (by omega)
    rw [Option.some.injEq, ← Int64.toInt_inj, same]
  · rename_i range
    exact ⟨fun none => (by cases none), fun same => absurd (by omega) range⟩

theorem Amount.ofNat?_eq_some_iff {value : Nat} {amount : Amount} :
    ofNat? value = some amount ↔ value = amount.toNat := by
  rw [ofNat?_eq_some]
  constructor
  · rintro ⟨bound, rfl⟩
    exact (toNat_ofNat bound).symm
  · rintro rfl
    have bound := amount.isLt
    exact ⟨by unfold maximum; omega, by rw [BitVec.ofNat_toNat, BitVec.setWidth_eq]⟩

/-! ### Operations -/

namespace Operator

/-- The exact result of an operation on integers: division goes toward zero, the remainder has the
sign of the dividend, and there is neither of them by zero. -/
def integer? (operator : Operator) (first second : Int) : Option Int :=
  match operator with
  | add => some (first + second)
  | sub => some (first - second)
  | mul => some (first * second)
  | div => if second = 0 then none else some (first.tdiv second)
  | rem => if second = 0 then none else some (first.tmod second)

/-- The operation on numbers of a kind. -/
def onNumbers : (kind : NumberKind) → Operator → kind.Number → kind.Number → Option kind.Number
  | .int, operator => operator.onInt
  | .bigInteger, operator => operator.onAmount

variable {kind : NumberKind} {operator : Operator}

/-- A quotient of machine integers fits, but for that of the least one by minus one. -/
theorem fits_tdiv_iff {first second : Int64} (divides : second.toInt ≠ 0) :
    (∃ quotient, int64? (first.toInt.tdiv second.toInt) = some quotient) ↔
      ¬ (first.toInt = -2 ^ 63 ∧ second.toInt = -1) := by
  have least := first.le_toInt
  have greatest := first.toInt_lt
  have absolute : (first.toInt.tdiv second.toInt).natAbs =
      first.toInt.natAbs / second.toInt.natAbs := Int.natAbs_tdiv ..
  constructor
  · rintro ⟨quotient, fits⟩ ⟨dividend, divisor⟩
    have bound := quotient.toInt_lt
    rw [← int64?_eq_some_iff.mp fits, dividend, divisor] at bound
    exact absurd bound (by decide)
  · intro apart
    obtain ⟨quotient, same⟩ : ∃ quotient, NumberKind.toInt .int quotient =
        first.toInt.tdiv second.toInt := by
      refine NumberKind.exists_toInt_eq ?_
      show -2 ^ 63 ≤ first.toInt.tdiv second.toInt ∧ first.toInt.tdiv second.toInt ≤ 2 ^ 63 - 1
      by_cases unit : second.toInt = -1
      · rw [unit, Int.tdiv_neg, Int.tdiv_one]
        omega
      · by_cases one : second.toInt = 1
        · rw [one, Int.tdiv_one]
          omega
        · -- the divisor is two at least, up to its sign
          have half : first.toInt.natAbs / second.toInt.natAbs ≤ first.toInt.natAbs / 2 :=
            Nat.div_le_div_left (by omega) (by decide)
          omega
    exact ⟨quotient, int64?_eq_some_iff.mpr same.symm⟩

theorem onInt_eq_some_iff {first second result : Int64} :
    operator.onInt first second = some result ↔
      operator.integer? first.toInt second.toInt = some result.toInt ∧
        ¬ (operator = .rem ∧ first.toInt = -2 ^ 63 ∧ second.toInt = -1) := by
  have zero : second = 0 ↔ second.toInt = 0 := by
    rw [← Int64.toInt_inj]
    rfl
  cases operator with
  | add | sub | mul => simp [onInt, integer?, int64?_eq_some_iff]
  | div =>
    simp only [onInt, integer?, zero]
    split
    · simp
    · simp [int64?_eq_some_iff]
  | rem =>
    simp only [onInt, integer?, zero]
    split
    · simp
    · rename_i divides
      simp only [Option.bind_eq_some_iff, int64?_eq_some_iff, Option.some.injEq, true_and]
      have fits := @fits_tdiv_iff first second divides
      simp only [int64?_eq_some_iff] at fits
      constructor
      · rintro ⟨quotient, same, rest⟩
        exact ⟨rest, fits.mp ⟨quotient, same⟩⟩
      · rintro ⟨rest, apart⟩
        obtain ⟨quotient, same⟩ := fits.mpr apart
        exact ⟨quotient, same, rest⟩

theorem onAmount_eq_some_iff {first second result : Amount} :
    operator.onAmount first second = some result ↔
      operator.integer? (Int.ofNat first.toNat) (Int.ofNat second.toNat) =
        some (Int.ofNat result.toNat) := by
  have zero : second = 0 ↔ (second.toNat : Int) = 0 := by
    rw [Int.natCast_eq_zero, ← BitVec.toNat_inj]
    rfl
  cases operator with
  | add | mul =>
    simp only [onAmount, integer?, Amount.ofNat?_eq_some_iff, Option.some.injEq,
      Int.ofNat_eq_natCast]
    omega
  | sub =>
    simp only [onAmount, integer?, Option.some.injEq, Int.ofNat_eq_natCast]
    split
    · rw [Amount.ofNat?_eq_some_iff]
      omega
    · simp only [reduceCtorEq, false_iff]
      omega
  | div =>
    simp only [onAmount, integer?, zero, Int.ofNat_eq_natCast]
    split
    · simp
    · rw [Amount.ofNat?_eq_some_iff, Option.some.injEq, ← Int.ofNat_tdiv, Int.natCast_inj]
  | rem =>
    simp only [onAmount, integer?, zero, Int.ofNat_eq_natCast]
    split
    · simp
    · rw [Amount.ofNat?_eq_some_iff, Option.some.injEq, ← Int.ofNat_tmod, Int.natCast_inj]

/-- **An operation gives the exact result where there is one that fits**, but for the remainder of
the least number by minus one, whose quotient does not fit. -/
theorem onNumbers_eq_some_iff {first second result : kind.Number} :
    operator.onNumbers kind first second = some result ↔
      operator.integer? (kind.toInt first) (kind.toInt second) = some (kind.toInt result) ∧
        ¬ (operator = .rem ∧ kind.toInt first = kind.least ∧ kind.toInt second = -1) := by
  cases kind with
  | int => exact onInt_eq_some_iff
  | bigInteger =>
    have positive : ¬ (NumberKind.toInt .bigInteger second = -1) := by
      intro negative
      have fits : NumberKind.Fits .bigInteger (NumberKind.toInt .bigInteger second) :=
        NumberKind.fits_toInt second
      rw [negative] at fits
      exact absurd fits (by decide)
    exact onAmount_eq_some_iff.trans
      ⟨fun same => ⟨same, fun both => positive both.2.2⟩, fun both => both.1⟩

/-- The operation on values is the one on the numbers that they hold. -/
theorem apply_toValue (first second : kind.Number) :
    operator.apply (kind.toValue first) (kind.toValue second) =
      operator.settle (kind.toValue first) (kind.toValue second)
        ((operator.onNumbers kind first second).map kind.toValue) := by
  cases kind with
  | int | bigInteger => rfl

end Operator

/-! ### Expressions -/

/-- Operations on constants of a kind. -/
inductive Expression (kind : NumberKind) where
  | constant (number : kind.Number)
  | binary (operator : Operator) (first second : Expression kind)

namespace Expression

variable {kind : NumberKind} {operator : Operator} {first second : Expression kind}

/-- The expression and all expressions in it. -/
def parts : Expression kind → List (Expression kind)
  | constant number => [constant number]
  | binary operator first second =>
    binary operator first second :: (first.parts ++ second.parts)

/-- The integer that the expression is, if it has no division by zero in it. -/
def value? : Expression kind → Option Int
  | constant number => some (kind.toInt number)
  | binary operator first second =>
    first.value?.bind fun left => second.value?.bind fun right => operator.integer? left right

/-- The number that the machine makes of the expression, if it makes one. -/
def number? : Expression kind → Option kind.Number
  | constant number => some number
  | binary operator first second =>
    first.number?.bind fun left => second.number?.bind fun right =>
      operator.onNumbers kind left right

/-- The instructions for the expression, each operation after those for its operands. -/
def code : Expression kind → List Instruction
  | constant number => [.push (kind.toValue number)]
  | binary operator first second => first.code ++ second.code ++ [.arithmetic operator]

/-- Nothing is divided by zero, and the value of each part is a number of the kind. -/
def Fits (expression : Expression kind) : Prop :=
  ∀ part ∈ expression.parts, ∃ value, part.value? = some value ∧ kind.Fits value

/-- No part is the remainder of the least number by minus one. -/
def Divides (expression : Expression kind) : Prop :=
  ∀ first second, .binary .rem first second ∈ expression.parts →
    ¬ (first.value? = some kind.least ∧ second.value? = some (-1))

theorem self_mem_parts (expression : Expression kind) : expression ∈ expression.parts := by
  cases expression with
  | constant | binary => exact List.mem_cons_self

theorem fits_binary : (binary operator first second).Fits ↔
    (∃ value, (binary operator first second).value? = some value ∧ kind.Fits value) ∧
      first.Fits ∧ second.Fits := by
  unfold Fits
  rw [parts, List.forall_mem_cons, List.forall_mem_append]

theorem divides_binary : (binary operator first second).Divides ↔
    ¬ (operator = .rem ∧ first.value? = some kind.least ∧ second.value? = some (-1)) ∧
      first.Divides ∧ second.Divides := by
  unfold Divides
  simp only [parts, List.mem_cons, List.mem_append, binary.injEq]
  constructor
  · intro apart
    refine ⟨?_, fun left right inside => apart left right (.inr (.inl inside)),
      fun left right inside => apart left right (.inr (.inr inside))⟩
    rintro ⟨same, both⟩
    exact apart first second (.inl ⟨same.symm, rfl, rfl⟩) both
  · rintro ⟨here, before, after⟩ left right (⟨rfl, rfl, rfl⟩ | inside | inside)
    · exact fun both => here ⟨rfl, both⟩
    · exact before left right inside
    · exact after left right inside

/-- What fits is the integer of a number. -/
theorem Fits.exists_number {expression : Expression kind} (fits : expression.Fits) :
    ∃ number, expression.value? = some (kind.toInt number) := by
  obtain ⟨value, same, range⟩ := fits expression expression.self_mem_parts
  obtain ⟨number, rfl⟩ := NumberKind.exists_toInt_eq range
  exact ⟨number, same⟩

/-- **The machine makes the exact integer of an expression**, where all its parts have one that fits
and none is the remainder of the least number by minus one; by induction on the expression. -/
theorem number?_eq_some_iff {expression : Expression kind} {number : kind.Number} :
    expression.number? = some number ↔
      expression.Fits ∧ expression.Divides ∧ expression.value? = some (kind.toInt number) := by
  induction expression generalizing number with
  | constant other =>
    simp only [number?, value?, Option.some.injEq, NumberKind.toInt_inj]
    refine ⟨fun same => ⟨?_, ?_, same⟩, fun both => both.2.2⟩
    · intro part inside
      obtain rfl := List.mem_singleton.mp inside
      exact ⟨_, rfl, NumberKind.fits_toInt other⟩
    · intro first second inside
      cases List.mem_singleton.mp inside
  | binary operator first second left right =>
    simp only [number?, Option.bind_eq_some_iff, left, right, Operator.onNumbers_eq_some_iff,
      fits_binary, divides_binary]
    constructor
    · rintro ⟨one, ⟨fits, divides, here⟩, other, ⟨fitsToo, dividesToo, there⟩, same, apart⟩
      have value : (binary operator first second).value? = some (kind.toInt number) := by
        rw [value?, here, there]
        exact same
      refine ⟨⟨⟨_, value, NumberKind.fits_toInt number⟩, fits, fitsToo⟩,
        ⟨?_, divides, dividesToo⟩, value⟩
      rw [here, there]
      simpa using apart
    · rintro ⟨⟨-, fits, fitsToo⟩, ⟨apart, divides, dividesToo⟩, value⟩
      obtain ⟨one, here⟩ := fits.exists_number
      obtain ⟨other, there⟩ := fitsToo.exists_number
      rw [value?, here, there] at value
      rw [here, there] at apart
      exact ⟨one, ⟨fits, divides, here⟩, other, ⟨fitsToo, dividesToo, there⟩, value,
        by simpa using apart⟩

/-- The machine makes a number of an expression, or it has none to make. -/
theorem exists_number?_iff {expression : Expression kind} :
    (∃ number, expression.number? = some number) ↔ expression.Fits ∧ expression.Divides := by
  constructor
  · rintro ⟨number, made⟩
    obtain ⟨fits, divides, -⟩ := number?_eq_some_iff.mp made
    exact ⟨fits, divides⟩
  · rintro ⟨fits, divides⟩
    obtain ⟨number, value⟩ := fits.exists_number
    exact ⟨number, number?_eq_some_iff.mpr ⟨fits, divides, value⟩⟩

end Expression

/-! ### Gas for instructions -/

variable {context : Context} {heap middle after : Heap} {frame : Frame} {callers : List Frame}

namespace Heap

/-- The gas at hand covers the amount; a heap that takes no gas covers any. -/
def Affords (heap : Heap) (amount : Nat) : Prop :=
  heap.charger.metered = true → amount ≤ heap.charger.remaining.toNat

instance (heap : Heap) (amount : Nat) : Decidable (heap.Affords amount) :=
  inferInstanceAs (Decidable (_ → _))

/-- Nothing but the gas account changed. -/
def SameButGas (heap after : Heap) : Prop :=
  after = { heap with charger := after.charger }

/-- Nothing but gas was taken, and just the amount where gas is taken at all. -/
structure Charged (heap : Heap) (amount : Nat) (after : Heap) : Prop where
  same : heap.SameButGas after
  metered_eq : after.charger.metered = heap.charger.metered
  remaining_eq : heap.charger.metered = true →
    after.charger.remaining.toNat + amount = heap.charger.remaining.toNat

theorem SameButGas.trans (first : heap.SameButGas middle) (second : middle.SameButGas after) :
    heap.SameButGas after := by
  unfold SameButGas at *
  rw [first] at second
  exact second

theorem sameButGas_unwind (frames : List Frame) : heap.SameButGas (Machine.unwind frames heap) := by
  unfold Machine.unwind
  induction frames.filter Frame.bounded generalizing heap with
  | nil => rfl
  | cons frame rest ih =>
    have released : heap.SameButGas (Machine.releaseHeap heap) := rfl
    exact released.trans ih

variable {amount more : Nat}

theorem Affords.mono (affords : heap.Affords amount) (le : more ≤ amount) : heap.Affords more :=
  fun metered => le.trans (affords metered)

theorem Charged.trans (first : heap.Charged amount middle) (second : middle.Charged more after) :
    heap.Charged (amount + more) after where
  same := first.same.trans second.same
  metered_eq := second.metered_eq.trans first.metered_eq
  remaining_eq metered := by
    have before := first.remaining_eq metered
    have later := second.remaining_eq (first.metered_eq.trans metered)
    omega

/-- What is left after a part was paid covers the rest. -/
theorem Charged.affords (charged : heap.Charged amount after)
    (affords : heap.Affords (amount + more)) : after.Affords more := by
  intro metered
  have metered := charged.metered_eq.symm.trans metered
  have enough := affords metered
  have left := charged.remaining_eq metered
  omega

end Heap

/-- A charge that the gas at hand covers is paid. -/
theorem Run.exists_charge (purpose : GasUse) {amount : UInt64}
    (affords : heap.Affords amount.toNat) :
    ∃ after, Run.charge purpose amount heap = .ok () after ∧
      heap.Charged amount.toNat after := by
  unfold Run.charge
  rw [get_bind_apply]
  cases metered : heap.charger.metered with
  | false =>
    have paid : heap.charger.charge purpose amount = .ok heap.charger := by
      unfold Charger.charge
      rw [metered, if_pos (by rfl)]
    rw [paid]
    exact ⟨heap, rfl, rfl, rfl, fun isMetered => absurd (metered.symm.trans isMetered) (by decide)⟩
  | true =>
    have enough : amount ≤ heap.charger.remaining := UInt64.le_iff_toNat_le.mpr (affords metered)
    rw [Charger.charge_of_le metered enough]
    refine ⟨_, rfl, rfl, rfl, fun _ => ?_⟩
    show (heap.charger.remaining - amount).toNat + amount.toNat = _
    rw [UInt64.toNat_sub_of_le _ _ enough]
    exact Nat.sub_add_cancel (affords metered)

namespace Machine

open Heap Run

variable {kind : NumberKind}

/-! ### Running the code of an expression -/

/-- The activation after so many instructions, with one more operand. -/
def gained (frame : Frame) (count : Nat) (value : Value) : Frame :=
  { frame with position := frame.position + count, stack := value :: frame.stack }

/-- So many instructions lead an activation that can pay for them to the next point, or, if there is
none, an error of arithmetic is thrown on the way. -/
def Works (context : Context) (callers : List Frame) (count : Nat) (frame : Frame)
    (next : Option Frame) : Prop :=
  ∀ (heap : Heap) (fuel : Nat), heap.Affords (count * context.costs.instructionCpu.toNat) →
    match next with
    | some next => ∃ after, heap.Charged (count * context.costs.instructionCpu.toNat) after ∧
      run context (count + fuel) (.running frame callers) heap =
        run context fuel (.running next callers) after
    | none => ∃ message after, heap.SameButGas after ∧
      run context (count + fuel) (.running frame callers) heap =
        .error (.thrown (.arithmetic message)) after

variable {count more : Nat} {between : Frame} {next : Option Frame}

theorem Works.trans (first : Works context callers count frame (some between))
    (second : Works context callers more between next) :
    Works context callers (count + more) frame next := by
  intro heap fuel affords
  rw [Nat.add_mul] at affords ⊢
  rw [Nat.add_assoc]
  obtain ⟨middle, charged, ran⟩ :=
    first heap (more + fuel) (affords.mono (Nat.le_add_right _ _))
  have rest := second middle fuel (charged.affords affords)
  rw [ran]
  cases next with
  | none =>
    obtain ⟨message, after, same, thrown⟩ := rest
    exact ⟨message, after, charged.same.trans same, thrown⟩
  | some next =>
    obtain ⟨after, chargedToo, ranToo⟩ := rest
    exact ⟨after, charged.trans chargedToo, ranToo⟩

/-- What comes after an error is not reached. -/
theorem Works.stop (first : Works context callers count frame none) :
    Works context callers (count + more) frame none := by
  intro heap fuel affords
  rw [Nat.add_mul] at affords
  rw [Nat.add_assoc]
  exact first heap (more + fuel) (affords.mono (Nat.le_add_right _ _))

/-- A step that can be paid runs the instruction that the activation stands at. -/
theorem step_of_instruction (callers : List Frame) {instruction : Instruction}
    (here : frame.code[frame.position]? = some instruction)
    (affords : heap.Affords context.costs.instructionCpu.toNat) :
    ∃ after, heap.Charged context.costs.instructionCpu.toNat after ∧
      step context frame callers heap = execute context
        { frame with position := frame.position + 1 } callers instruction after := by
  obtain ⟨after, paid, charged⟩ := exists_charge .cpu affords
  refine ⟨after, charged, ?_⟩
  unfold step
  rw [here]
  exact bind_of_ok paid

theorem run_finished (fuel : Nat) (result : Option Value) :
    run context fuel (.finished result) heap = .ok result heap := by
  cases fuel with
  | zero | succ => rfl

theorem works_push {value : Value} (here : frame.code[frame.position]? = some (.push value)) :
    Works context callers 1 frame (some (gained frame 1 value)) := by
  intro heap fuel affords
  rw [Nat.one_mul] at affords ⊢
  obtain ⟨after, charged, stepped⟩ := step_of_instruction callers here affords
  refine ⟨after, charged, ?_⟩
  rw [Nat.add_comm]
  exact run_of_ok stepped fuel

/-- An operation takes two numbers from the stack and leaves its result, or throws. -/
theorem execute_arithmetic (context : Context) (callers : List Frame) (frame : Frame) (heap : Heap)
    (operator : Operator) (first second : kind.Number) {rest : List Value}
    (operands : frame.stack = kind.toValue second :: kind.toValue first :: rest) :
    ∃ message, execute context frame callers (.arithmetic operator) heap =
      match operator.onNumbers kind first second with
      | some number =>
        .ok (.running { frame with stack := kind.toValue number :: rest } callers) heap
      | none => .error (.thrown (.arithmetic message)) heap := by
  refine ⟨operator.name ++ " of " ++ (kind.toValue first).toText ++ " and " ++
    (kind.toValue second).toText, ?_⟩
  have popped : frame.pop =
      .ok (kind.toValue second, { frame with stack := kind.toValue first :: rest }) := by
    unfold Frame.pop
    rw [operands]
  have poppedToo : Frame.pop { frame with stack := kind.toValue first :: rest } =
      .ok (kind.toValue first, { frame with stack := rest }) := rfl
  simp only [execute, popped, poppedToo, ofThrowing, pure_bind, Operator.apply_toValue]
  cases operator.onNumbers kind first second with
  | none | some => rfl

theorem works_arithmetic (operator : Operator) (first second : kind.Number) {rest : List Value}
    (here : frame.code[frame.position]? = some (.arithmetic operator))
    (operands : frame.stack = kind.toValue second :: kind.toValue first :: rest) :
    Works context callers 1 frame ((operator.onNumbers kind first second).map fun number =>
      gained { frame with stack := rest } 1 (kind.toValue number)) := by
  intro heap fuel affords
  rw [Nat.one_mul] at affords ⊢
  rw [Nat.add_comm]
  obtain ⟨after, charged, stepped⟩ := step_of_instruction callers here affords
  obtain ⟨message, executed⟩ := execute_arithmetic context callers
    { frame with position := frame.position + 1 } after operator first second operands
  have stepped := stepped.trans executed
  cases result : operator.onNumbers kind first second with
  | none =>
    rw [result] at stepped
    exact ⟨message, _, charged.same.trans (sameButGas_unwind _), run_of_error stepped fuel⟩
  | some number =>
    rw [result] at stepped
    exact ⟨after, charged, run_of_ok stepped fuel⟩

/-- **The code of an expression leaves its number on the stack, or throws**, wherever it stands in
the code of an activation; by induction on the expression. -/
theorem works_code (expression : Expression kind) {before rest : List Instruction}
    (stands : frame.code = before ++ expression.code ++ rest)
    (there : frame.position = before.length) :
    Works context callers expression.code.length frame (expression.number?.map fun number =>
      gained frame expression.code.length (kind.toValue number)) := by
  induction expression generalizing frame before rest with
  | constant number =>
    refine works_push ?_
    rw [stands, there]
    simp [Expression.code]
  | binary operator first second left right =>
    have count : (Expression.binary operator first second).code.length =
        first.code.length + (second.code.length + 1) := by
      simp [Expression.code]
    have split : frame.code =
        before ++ first.code ++ (second.code ++ .arithmetic operator :: rest) := by
      rw [stands]
      simp [Expression.code]
    specialize left split there
    rw [count, Expression.number?]
    cases made : first.number? with
    | none =>
      rw [made] at left
      exact left.stop
    | some one =>
      rw [made] at left
      refine left.trans ?_
      have standsNext : (gained frame first.code.length (kind.toValue one)).code =
          before ++ first.code ++ second.code ++ .arithmetic operator :: rest := by
        simp [gained, split]
      have thereNext : (gained frame first.code.length (kind.toValue one)).position =
          (before ++ first.code).length := by
        simp [gained, there]
      specialize right standsNext thereNext
      cases madeToo : second.number? with
      | none =>
        rw [madeToo] at right
        exact right.stop
      | some other =>
        rw [madeToo] at right
        refine right.trans ?_
        have last : Works context callers 1 (gained (gained frame first.code.length
            (kind.toValue one)) second.code.length (kind.toValue other)) _ :=
          works_arithmetic operator one other (by simp [gained, split, there, Nat.add_assoc]) rfl
        simpa [gained, Nat.add_assoc] using last

/-! ### Activations that run an expression -/

/-- Runs code that gives a value, in an activation of its own under so many others. -/
def evaluate (context : Context) (depth fuel : Nat) (code : List Instruction) (locals : List Value)
    (extraLocals : UInt16) (this caller : Option ObjectRef) : Run (Option Value) := do
  let frame ← enter context depth code locals extraLocals this caller .value false
  run context fuel (.running frame [])

/-- The gas for an activation with so many locals. -/
def entryCost (context : Context) (slots : Nat) : Nat :=
  context.costs.invokeCpu.toNat + (context.costs.ramOfActivation (saturate slots)).toNat

/-- An activation that is allowed and can be paid begins. -/
theorem exists_enter (code : List Instruction) (this caller : Option ObjectRef) (yields : Yield)
    (bounded : Bool) {depth : Nat} {locals : List Value} {extraLocals : UInt16}
    (room : depth < context.maxCallDepth.toNat)
    (affords : heap.Affords (entryCost context (locals.length + extraLocals.toNat))) :
    ∃ begun, heap.Charged (entryCost context (locals.length + extraLocals.toNat)) begun ∧
      enter context depth code locals extraLocals this caller yields bounded heap = .ok
        { code, position := 0, locals := locals ++ List.replicate extraLocals.toNat .null
          stack := [], this, caller, yields, bounded } begun := by
  have slots : (locals ++ List.replicate extraLocals.toNat Value.null).length =
      locals.length + extraLocals.toNat := by simp
  obtain ⟨middle, invoked, charged⟩ :=
    exists_charge .cpu (affords.mono (Nat.le_add_right _ _))
  obtain ⟨begun, filled, chargedToo⟩ := exists_charge .ram (charged.affords affords)
  refine ⟨begun, charged.trans chargedToo, ?_⟩
  unfold enter
  rw [if_neg (Nat.not_le.mpr room)]
  simp only [slots]
  rw [bind_of_ok invoked, bind_of_ok filled]
  rfl

/-- **Arithmetic code computes exact integers.** The code of an expression is run, up to its return,
in an activation that is allowed and can be paid. If nothing is divided by zero and all parts of the
expression fit their kind, and none is the remainder of the least number by minus one, it returns
the integer that the expression is, and nothing changes but the gas for its instructions. In any
other case an error of arithmetic is thrown. -/
theorem evaluate_code (expression : Expression kind) (locals : List Value) (extraLocals : UInt16)
    (this caller : Option ObjectRef) {depth fuel : Nat}
    (room : depth < context.maxCallDepth.toNat)
    (enough : heap.Affords (entryCost context (locals.length + extraLocals.toNat) +
      (expression.code.length + 1) * context.costs.instructionCpu.toNat))
    (steps : expression.code.length < fuel) :
    let ended := evaluate context depth fuel (expression.code ++ [.ret]) locals extraLocals this
      caller heap
    (expression.Fits ∧ expression.Divides → ∃ number after,
      expression.value? = some (kind.toInt number) ∧
      ended = .ok (some (kind.toValue number)) after ∧
      heap.Charged (entryCost context (locals.length + extraLocals.toNat) +
        (expression.code.length + 1) * context.costs.instructionCpu.toNat) after) ∧
    (¬ (expression.Fits ∧ expression.Divides) → ∃ message after,
      ended = .error (.thrown (.arithmetic message)) after ∧ heap.SameButGas after) := by
  intro ended
  obtain ⟨begun, charged, entered⟩ := exists_enter (expression.code ++ [.ret]) this caller .value
    false room (enough.mono (Nat.le_add_right _ _))
  have affords := charged.affords enough
  obtain ⟨more, rfl⟩ := Nat.exists_eq_add_of_lt steps
  have starts : ended = run context (expression.code.length + (1 + more)) (.running
      ⟨expression.code ++ [.ret], 0, locals ++ List.replicate extraLocals.toNat .null, [], this,
        caller, .value, false⟩ []) begun := by
    rw [← Nat.add_assoc, Nat.add_right_comm]
    exact bind_of_ok entered
  generalize locals ++ List.replicate extraLocals.toNat .null = slots at starts
  have works : Works context [] expression.code.length
      ⟨expression.code ++ [.ret], 0, slots, [], this, caller, .value, false⟩ _ :=
    works_code expression (show _ = [] ++ expression.code ++ [.ret] from rfl) rfl
  specialize works begun (1 + more)
  rw [Nat.add_mul, Nat.one_mul] at affords enough ⊢
  specialize works (affords.mono (Nat.le_add_right _ _))
  cases made : expression.number? with
  | none =>
    rw [made] at works
    obtain ⟨message, after, same, thrown⟩ := works
    refine ⟨fun regular => ?_,
      fun _ => ⟨message, after, starts.trans thrown, charged.same.trans same⟩⟩
    obtain ⟨number, found⟩ := Expression.exists_number?_iff.mpr regular
    rw [made] at found
    cases found
  | some number =>
    rw [made] at works
    obtain ⟨middle, computed, ran⟩ := works
    have regular := Expression.number?_eq_some_iff.mp made
    refine ⟨fun _ => ?_, fun irregular => absurd ⟨regular.1, regular.2.1⟩ irregular⟩
    have last : (gained ⟨expression.code ++ [.ret], 0, slots, [], this, caller, .value, false⟩
        expression.code.length (kind.toValue number)).code[0 + expression.code.length]? =
        some .ret := by simp [gained]
    obtain ⟨after, paid, stepped⟩ := step_of_instruction [] last (computed.affords affords)
    refine ⟨number, after, regular.2.2, ?_, charged.trans (computed.trans paid)⟩
    rw [starts, ran, Nat.add_comm]
    exact (run_of_ok stepped more).trans (run_finished more _)

end Machine

/-! ### Remainders at an empty desk -/

namespace Desk

open Machine

def desk : Context where
  view := {
    response _ := .ok none
    history _ := .ok []
    manifest := .ok none
    now := 0 }
  classes := {}
  costs := {}
  transaction := ⟨2⟩
  maxCallDepth := 16

def begun : Heap := { charger := .withLimit 1000 }

/-- The remainder of 3 - 10 by 4. -/
def rest : Expression .int :=
  .binary .rem (.binary .sub (.constant (3 : Int64)) (.constant (10 : Int64)))
    (.constant (4 : Int64))

/-- The remainder of 3 - 10 by 4 is negative. -/
theorem evaluate_code_rest : 0 < desk.maxCallDepth.toNat ∧
    begun.Affords (entryCost desk 0 + (rest.code.length + 1) * desk.costs.instructionCpu.toNat) ∧
    rest.code.length < 6 ∧
    ∃ after, evaluate desk 0 6 (rest.code ++ [.ret]) [] 0 none none begun =
      .ok (some (.int (-3))) after := by
  have room : 0 < desk.maxCallDepth.toNat := by decide
  have enough : begun.Affords
      (entryCost desk 0 + (rest.code.length + 1) * desk.costs.instructionCpu.toNat) := by decide
  have steps : rest.code.length < 6 := by decide
  have regular : rest.Fits ∧ rest.Divides :=
    Expression.exists_number?_iff.mp ⟨(-3 : Int64), rfl⟩
  obtain ⟨number, after, value, ended, -⟩ :=
    (evaluate_code rest [] 0 none none room enough steps).1 regular
  have same : number = (-3 : Int64) :=
    NumberKind.toInt_inj.mp (Option.some.inj (value.symm.trans (by decide)))
  subst same
  exact ⟨room, enough, steps, after, ended⟩

/-- The remainder of the least number by minus one, which is zero. -/
def edge : Expression .int := .binary .rem (.constant Int64.minValue) (.constant (-1 : Int64))

/-- **An expression whose parts all fit may end in an error:** the remainder of the least number by
minus one. -/
theorem not_evaluate_code : ¬ ∀ (context : Context) (heap : Heap) (expression : Expression .int)
    (fuel : Nat), 0 < context.maxCallDepth.toNat →
    heap.Affords (entryCost context 0 +
      (expression.code.length + 1) * context.costs.instructionCpu.toNat) →
    expression.code.length < fuel → expression.Fits →
    ∃ number after, expression.value? = some (NumberKind.toInt .int number) ∧
      evaluate context 0 fuel (expression.code ++ [.ret]) [] 0 none none heap =
        .ok (some (.int number)) after := by
  intro computes
  have fits : edge.Fits := by
    refine Expression.fits_binary.mpr ⟨⟨0, by decide⟩, ?_, ?_⟩ <;>
      exact (Expression.exists_number?_iff.mp ⟨_, rfl⟩).1
  obtain ⟨number, after, -, ended⟩ :=
    computes desk begun edge 4 (by decide) (by decide) (by decide) fits
  have thrown : (resultOf? (evaluate desk 0 4 (edge.code ++ [.ret]) [] 0 none none) begun).isSome =
      false := by decide +kernel
  unfold resultOf? at thrown
  rw [ended] at thrown
  cases thrown

end Desk

end ObjectLedger
