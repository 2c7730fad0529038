/-
**Words of 64 bits whose operations stop at the bounds.**

* `saturatingAdd`, `saturatingMul`, `saturatingSub`: the exact result cut to the range of a word.
* `Amount`: coins and counts, words of 128 bits. `Amount.ofNat?` gives the amount of a number that
  fits, `Amount.saturate` cuts a number to the range.
-/

namespace ObjectLedger

/-- The greatest word of 64 bits. -/
def maxWord : Nat := 0xFFFFFFFFFFFFFFFF

/-- The word nearest to a natural number. -/
def saturate (value : Nat) : UInt64 :=
  if value ≤ maxWord then UInt64.ofNat value else UInt64.ofNat maxWord

/-- The sum, or the greatest word where the sum does not fit. -/
def saturatingAdd (first second : UInt64) : UInt64 :=
  saturate (first.toNat + second.toNat)

/-- The product, or the greatest word where the product does not fit. -/
def saturatingMul (first second : UInt64) : UInt64 :=
  saturate (first.toNat * second.toNat)

/-- The difference, or zero where it would be negative. -/
def saturatingSub (first second : UInt64) : UInt64 :=
  UInt64.ofNat (first.toNat - second.toNat)

theorem toNat_saturate (value : Nat) : (saturate value).toNat = min value maxWord := by
  unfold saturate
  split
  · rename_i fits
    rw [UInt64.toNat_ofNat_of_lt' (by unfold maxWord at fits; simp [UInt64.size]; omega)]
    omega
  · rw [UInt64.toNat_ofNat_of_lt' (by decide)]
    omega

@[simp] theorem toNat_saturatingAdd (first second : UInt64) :
    (saturatingAdd first second).toNat = min (first.toNat + second.toNat) maxWord :=
  toNat_saturate _

@[simp] theorem toNat_saturatingMul (first second : UInt64) :
    (saturatingMul first second).toNat = min (first.toNat * second.toNat) maxWord :=
  toNat_saturate _

@[simp] theorem toNat_saturatingSub (first second : UInt64) :
    (saturatingSub first second).toNat = first.toNat - second.toNat := by
  have bound := first.toNat_lt
  exact UInt64.toNat_ofNat_of_lt' (by simp [UInt64.size]; omega)

/-- An amount of coins, or a count, of at most 128 bits. -/
abbrev Amount := BitVec 128

namespace Amount

/-- The greatest amount. -/
def maximum : Nat := 0xFFFFFFFFFFFFFFFFFFFFFFFFFFFFFFFF

/-- The amount of a natural number, if it fits. -/
def ofNat? (value : Nat) : Option Amount :=
  if value ≤ maximum then some (BitVec.ofNat 128 value) else none

/-- The amount nearest to a natural number. -/
def saturate (value : Nat) : Amount :=
  if value ≤ maximum then BitVec.ofNat 128 value else BitVec.ofNat 128 maximum

/-- The amount of a number that fits is that number. -/
theorem toNat_ofNat {value : Nat} (fits : value ≤ maximum) :
    (BitVec.ofNat 128 value).toNat = value := by
  unfold maximum at fits
  rw [BitVec.toNat_ofNat, Nat.mod_eq_of_lt (by omega)]

theorem toNat_saturate (value : Nat) : (saturate value).toNat = min value maximum := by
  unfold saturate
  split
  · rename_i fits
    rw [toNat_ofNat fits]
    omega
  · rw [toNat_ofNat (Nat.le_refl _)]
    omega

theorem ofNat?_eq_some {value : Nat} {amount : Amount} :
    ofNat? value = some amount ↔ value ≤ maximum ∧ amount = BitVec.ofNat 128 value := by
  unfold ofNat?
  split
  · rename_i fits
    exact ⟨fun same => ⟨fits, (Option.some.inj same).symm⟩, fun both => congrArg some both.2.symm⟩
  · rename_i large
    exact ⟨fun none => (by cases none), fun both => absurd both.1 large⟩

end Amount

end ObjectLedger
