/-
**The gas account of a transaction.**

* `Charger.charge`: takes gas for a use; a charge above the remaining gas is refused and takes
  nothing. A charger that is not metered takes nothing at all.
* `Charger.pushGas`, `Charger.popGas`: restrict a part of the transaction to an amount, the rest
  being set aside until that part ends.
* `Charger.penalty`: what a failure takes beyond the gas consumed.
-/
import ObjectLedger.Response

namespace ObjectLedger

/-- A charge above the gas at hand. -/
structure OutOfGas where
  requested : UInt64
  available : UInt64
  deriving DecidableEq, Repr

/-- The wording of a refused charge. -/
def OutOfGas.message (refusal : OutOfGas) : String :=
  "out of gas: requested " ++ toString refusal.requested.toNat ++ " units but only " ++
    toString refusal.available.toNat ++ " are available"

/-- What gas is taken for. -/
inductive GasUse where
  | cpu
  | ram
  | storage
  deriving DecidableEq, Repr

/-- The gas counters with an amount added for one use. -/
def GasConsumed.add (gas : GasConsumed) (purpose : GasUse) (amount : UInt64) : GasConsumed :=
  match purpose with
  | .cpu => { gas with cpu := saturatingAdd gas.cpu amount }
  | .ram => { gas with ram := saturatingAdd gas.ram amount }
  | .storage => { gas with storage := saturatingAdd gas.storage amount }

/-- The gas account of a transaction. -/
structure Charger where
  /-- Whether gas is taken at all. -/
  metered : Bool
  /-- The gas bought by the transaction. -/
  limit : UInt64
  /-- The gas at hand. -/
  remaining : UInt64
  consumed : GasConsumed
  /-- The amounts set aside by the enclosing parts, the innermost first. -/
  setAside : List UInt64
  deriving DecidableEq, Repr

namespace Charger

/-- The account of a transaction that bought the given gas. -/
def withLimit (limit : UInt64) : Charger :=
  ⟨true, limit, limit, ⟨0, 0, 0⟩, []⟩

/-- The account of a free transaction. -/
def unmetered : Charger :=
  { withLimit 0 with metered := false }

/-- The gas not consumed yet, the amounts set aside included. -/
def unused (charger : Charger) : UInt64 :=
  charger.setAside.foldl saturatingAdd charger.remaining

/-- Takes gas for a use. -/
def charge (charger : Charger) (purpose : GasUse) (amount : UInt64) :
    Except OutOfGas Charger :=
  if !charger.metered then .ok charger
  else if amount > charger.remaining then .error ⟨amount, charger.remaining⟩
  else
    .ok { charger with
      remaining := charger.remaining - amount
      consumed := charger.consumed.add purpose amount }

/-- Sets all gas aside but the given amount. -/
def pushGas (charger : Charger) (amount : UInt64) : Except OutOfGas Charger :=
  if !charger.metered then .ok charger
  else if amount > charger.remaining then .error ⟨amount, charger.remaining⟩
  else
    .ok { charger with
      setAside := (charger.remaining - amount) :: charger.setAside
      remaining := amount }

/-- Gives back the gas set aside last. -/
def popGas (charger : Charger) : Charger :=
  match charger.setAside with
  | [] => charger
  | amount :: rest =>
    { charger with setAside := rest, remaining := saturatingAdd charger.remaining amount }

/-- The gas that a failure takes beyond the gas consumed. -/
def penalty (charger : Charger) : UInt64 :=
  saturatingSub charger.limit charger.consumed.total

end Charger

end ObjectLedger
