/-
**Gas is neither made nor lost.**

* `Charger.Balanced`: the gas consumed, at hand and set aside is the gas bought.
* `Charger.Balanced.charge`, `Charger.Balanced.pushGas`, `Charger.Balanced.popGas`: kept by each
  operation, so that no sum reaches the greatest word.
* `Charger.Balanced.unused`, `Charger.Balanced.penalty`: what is not consumed.
-/
import Mathlib.Algebra.BigOperators.Group.List.Basic
import Mathlib.Algebra.GroupWithZero.Nat
import ObjectLedger.Gas.Charger

namespace ObjectLedger

/-- All gas consumed, as a number. -/
def GasConsumed.sum (gas : GasConsumed) : Nat :=
  gas.cpu.toNat + gas.ram.toNat + gas.storage.toNat

theorem toNat_le_maxWord (word : UInt64) : word.toNat ≤ maxWord := by
  have bound := word.toNat_lt
  unfold maxWord
  omega

namespace GasConsumed

theorem toNat_total {gas : GasConsumed} (fits : gas.sum ≤ maxWord) :
    gas.total.toNat = gas.sum := by
  unfold sum at *
  simp only [total, toNat_saturatingAdd]
  omega

/-- The counters grow by no more than the amount, also where one of them is at its greatest. -/
theorem sum_add_le (gas : GasConsumed) (purpose : GasUse) (amount : UInt64) :
    (gas.add purpose amount).sum ≤ gas.sum + amount.toNat := by
  unfold sum
  cases purpose <;> simp only [add, toNat_saturatingAdd] <;> omega

theorem sum_add {gas : GasConsumed} {amount : UInt64} (purpose : GasUse)
    (fits : gas.sum + amount.toNat ≤ maxWord) :
    (gas.add purpose amount).sum = gas.sum + amount.toNat := by
  unfold sum at *
  cases purpose <;> simp only [add, toNat_saturatingAdd] <;> omega

end GasConsumed

namespace Charger

variable {charger after : Charger} {limit amount : UInt64} {purpose : GasUse}

/-- All gas set aside, as a number. -/
def reserve (charger : Charger) : Nat :=
  (charger.setAside.map UInt64.toNat).sum

/-- The gas consumed, at hand and set aside is the gas bought. -/
structure Balanced (charger : Charger) (limit : UInt64) : Prop where
  metered : charger.metered = true
  limit_eq : charger.limit = limit
  sum_eq : charger.consumed.sum + charger.remaining.toNat + charger.reserve = limit.toNat

theorem balanced_withLimit (limit : UInt64) : (withLimit limit).Balanced limit :=
  ⟨rfl, rfl, by simp [withLimit, GasConsumed.sum, reserve]⟩

theorem Balanced.consumed_le (balanced : charger.Balanced limit) :
    charger.consumed.sum ≤ limit.toNat := by
  have sum := balanced.sum_eq
  omega

/-- A charge that a metered account pays. -/
theorem charge_eq_ok (metered : charger.metered = true)
    (paid : charger.charge purpose amount = .ok after) :
    amount ≤ charger.remaining ∧ after = { charger with
      remaining := charger.remaining - amount
      consumed := charger.consumed.add purpose amount } := by
  unfold charge at paid
  rw [if_neg (by simp [metered])] at paid
  split at paid
  · cases paid
  · rename_i enough
    exact ⟨UInt64.not_lt.mp enough, (Except.ok.inj paid).symm⟩

/-- A metered account pays what the gas at hand covers. -/
theorem charge_of_le (metered : charger.metered = true) (enough : amount ≤ charger.remaining) :
    charger.charge purpose amount = .ok { charger with
      remaining := charger.remaining - amount
      consumed := charger.consumed.add purpose amount } := by
  unfold charge
  rw [metered, if_neg (by decide), if_neg (UInt64.not_lt.mpr enough)]

/-- A restriction that a metered account accepts. -/
theorem pushGas_eq_ok (metered : charger.metered = true)
    (pushed : charger.pushGas amount = .ok after) :
    amount ≤ charger.remaining ∧ after = { charger with
      setAside := (charger.remaining - amount) :: charger.setAside
      remaining := amount } := by
  unfold pushGas at pushed
  rw [if_neg (by simp [metered])] at pushed
  split at pushed
  · cases pushed
  · rename_i enough
    exact ⟨UInt64.not_lt.mp enough, (Except.ok.inj pushed).symm⟩

theorem Balanced.charge (balanced : charger.Balanced limit)
    (paid : charger.charge purpose amount = .ok after) :
    after.Balanced limit ∧ after.consumed = charger.consumed.add purpose amount ∧
      after.consumed.sum = charger.consumed.sum + amount.toNat := by
  obtain ⟨enough, rfl⟩ := charge_eq_ok balanced.metered paid
  have sum := balanced.sum_eq
  have bound := toNat_le_maxWord limit
  have enough : amount.toNat ≤ charger.remaining.toNat := UInt64.le_iff_toNat_le.mp enough
  have added : (charger.consumed.add purpose amount).sum =
      charger.consumed.sum + amount.toNat := GasConsumed.sum_add purpose (by omega)
  refine ⟨⟨balanced.metered, balanced.limit_eq, ?_⟩, rfl, added⟩
  simp only [reserve] at *
  rw [added, UInt64.toNat_sub_of_le _ _ (UInt64.le_iff_toNat_le.mpr enough)]
  omega

theorem consumed_of_pushGas (pushed : charger.pushGas amount = .ok after) :
    after.consumed = charger.consumed := by
  unfold pushGas at pushed
  split at pushed
  · cases pushed
    rfl
  · split at pushed
    · cases pushed
    · cases pushed
      rfl

theorem consumed_popGas (charger : Charger) : charger.popGas.consumed = charger.consumed := by
  unfold popGas
  split <;> rfl

theorem Balanced.pushGas (balanced : charger.Balanced limit)
    (pushed : charger.pushGas amount = .ok after) : after.Balanced limit := by
  obtain ⟨enough, rfl⟩ := pushGas_eq_ok balanced.metered pushed
  have sum := balanced.sum_eq
  have less : amount.toNat ≤ charger.remaining.toNat := UInt64.le_iff_toNat_le.mp enough
  refine ⟨balanced.metered, balanced.limit_eq, ?_⟩
  simp only [reserve, List.map_cons, List.sum_cons] at *
  rw [UInt64.toNat_sub_of_le _ _ enough]
  omega

theorem Balanced.popGas (balanced : charger.Balanced limit) :
    charger.popGas.Balanced limit := by
  unfold Charger.popGas
  split
  · exact balanced
  · rename_i amount rest aside
    have sum := balanced.sum_eq
    have bound := toNat_le_maxWord limit
    refine ⟨balanced.metered, balanced.limit_eq, ?_⟩
    simp only [reserve, aside, List.map_cons, List.sum_cons, toNat_saturatingAdd] at *
    omega

/-- Amounts that fit a word all together are added exactly. -/
theorem toNat_foldl_saturatingAdd {amounts : List UInt64} {start : UInt64}
    (fits : start.toNat + (amounts.map UInt64.toNat).sum ≤ maxWord) :
    (amounts.foldl saturatingAdd start).toNat =
      start.toNat + (amounts.map UInt64.toNat).sum := by
  induction amounts generalizing start with
  | nil => rfl
  | cons amount rest ih =>
    simp only [List.map_cons, List.sum_cons] at fits ⊢
    have added : (saturatingAdd start amount).toNat = start.toNat + amount.toNat := by
      rw [toNat_saturatingAdd]
      omega
    rw [List.foldl_cons, ih (by omega)]
    omega

/-- What is not consumed is unused. -/
theorem Balanced.unused (balanced : charger.Balanced limit) :
    charger.consumed.sum + charger.unused.toNat = limit.toNat := by
  have sum := balanced.sum_eq
  have bound := toNat_le_maxWord limit
  unfold reserve at sum
  rw [Charger.unused, toNat_foldl_saturatingAdd (by omega)]
  omega

/-- What is not consumed is the penalty of a failure. -/
theorem Balanced.penalty (balanced : charger.Balanced limit) :
    charger.consumed.sum + charger.penalty.toNat = limit.toNat := by
  have less := balanced.consumed_le
  have bound := toNat_le_maxWord limit
  rw [Charger.penalty, toNat_saturatingSub, balanced.limit_eq,
    GasConsumed.toNat_total (by omega)]
  omega

end Charger

end ObjectLedger
