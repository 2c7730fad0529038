/-
**Exact arithmetic on machine integers and big integers.**

* `Operator.onInt`, `Operator.onAmount`: the exact result of an operation, if there is one and it
  fits. Division goes toward zero, and the remainder has the sign of the dividend.
* `Operator.apply`: the operation on two values, or what it throws.
-/
import ObjectLedger.Code.Instruction
import ObjectLedger.Machine.Throwable

namespace ObjectLedger

/-- The machine integer of a number, if it fits. -/
def int64? (value : Int) : Option Int64 :=
  if -0x8000000000000000 ≤ value ∧ value < 0x8000000000000000 then some (Int64.ofInt value) else none

namespace Operator

/-- The name of the operation in messages. -/
def name : Operator → String
  | add => "Add"
  | sub => "Sub"
  | mul => "Mul"
  | div => "Div"
  | rem => "Rem"

/-- The operation on machine integers. The remainder is taken together with the quotient: there is
none where the quotient does not fit. -/
def onInt (operator : Operator) (first second : Int64) : Option Int64 :=
  match operator with
  | add => int64? (first.toInt + second.toInt)
  | sub => int64? (first.toInt - second.toInt)
  | mul => int64? (first.toInt * second.toInt)
  | div => if second = 0 then none else int64? (first.toInt.tdiv second.toInt)
  | rem =>
    if second = 0 then none
    else (int64? (first.toInt.tdiv second.toInt)).bind fun _ =>
      int64? (first.toInt.tmod second.toInt)

/-- The operation on big integers. -/
def onAmount (operator : Operator) (first second : Amount) : Option Amount :=
  match operator with
  | add => Amount.ofNat? (first.toNat + second.toNat)
  | sub =>
    if second.toNat ≤ first.toNat then Amount.ofNat? (first.toNat - second.toNat) else none
  | mul => Amount.ofNat? (first.toNat * second.toNat)
  | div => if second = 0 then none else Amount.ofNat? (first.toNat / second.toNat)
  | rem => if second = 0 then none else Amount.ofNat? (first.toNat % second.toNat)

/-- The result of an operation that may have none. -/
def settle (operator : Operator) (first second : Value) (result : Option Value) :
    Except Throwable Value :=
  match result with
  | some value => .ok value
  | none =>
    .error (.arithmetic
      (operator.name ++ " of " ++ first.toText ++ " and " ++ second.toText))

/-- The operation on two values of one kind. -/
def apply (operator : Operator) (first second : Value) : Except Throwable Value :=
  match first, second with
  | .int left, .int right =>
    operator.settle first second ((operator.onInt left right).map .int)
  | .bigInteger left, .bigInteger right =>
    operator.settle first second ((operator.onAmount left right).map .bigInteger)
  | _, _ =>
    .error (.classCast
      ("cannot apply " ++ operator.name ++ " to " ++ first.toText ++ " and " ++ second.toText))

end Operator

/-- The first value is below the second, which is of the same kind of numbers. -/
def Value.lessThan (first second : Value) : Except Throwable Bool :=
  match first, second with
  | .int left, .int right => .ok (left < right)
  | .bigInteger left, .bigInteger right => .ok (left.toNat < right.toNat)
  | _, _ =>
    .error (.classCast ("cannot compare " ++ first.toText ++ " and " ++ second.toText))

end ObjectLedger
