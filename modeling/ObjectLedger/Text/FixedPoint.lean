/-
**Numbers with a fixed number of decimal places.**

* `roundHalfEven`: the integer nearest to a quotient, the even one of two.
* `fixedPoint`: the decimal places of the exact value of a floating-point number.
-/

namespace ObjectLedger.Text

/-- The integer nearest to a quotient; a half goes to the even neighbour. -/
def roundHalfEven (numerator denominator : Nat) : Nat :=
  let quotient := numerator / denominator
  let twice := 2 * (numerator % denominator)
  if twice < denominator ∨ (twice = denominator ∧ quotient % 2 = 0) then quotient
  else quotient + 1

/-- A number of units of the last decimal place, with the point put in. -/
def withPoint (places units : Nat) : String :=
  let digits := toString (units % Nat.pow 10 places)
  toString (units / Nat.pow 10 places) ++ "." ++
    String.ofList (List.replicate (places - digits.length) '0') ++ digits

/-- The exact value of a non-negative floating-point number, given by its bits, as a quotient. -/
def exactQuotient (bits : Nat) : Nat × Nat :=
  let exponent := (bits >>> 52) % 0x800
  let fraction := bits % 0x10000000000000
  let significand := if exponent = 0 then fraction else fraction + 0x10000000000000
  let power := if exponent = 0 then 1 else exponent
  if power ≥ 1075 then (significand <<< (power - 1075), 1)
  else (significand, 1 <<< (1075 - power))

/-- A non-negative number with so many decimal places. -/
def fixedPoint (places : Nat) (value : Float) : String :=
  let (numerator, denominator) := exactQuotient value.toBits.toNat
  withPoint places (roundHalfEven (numerator * Nat.pow 10 places) denominator)

end ObjectLedger.Text
