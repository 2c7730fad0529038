/-
**The primitives that code may call.**

* `Primitive.resolve`: the primitive of a name and a number of arguments. Other names, and known
  ones whose result would depend on the machine, are refused before anything happens.
-/
import ObjectLedger.Machine.Throwable

namespace ObjectLedger

/-- A primitive that code may call. -/
inductive Primitive where
  /-- The time of the block. -/
  | now
  /-- Records an event of the transaction. -/
  | emit
  /-- The balance of a contract. -/
  | balanceOf
  /-- The caller of the code, for code that only contracts may call. -/
  | caller
  /-- Two texts in one. -/
  | concat
  /-- The size of a text. -/
  | length
  deriving DecidableEq, Repr

namespace Primitive

/-- The primitives by name, with the number of their arguments. -/
def whitelist : List (String × Primitive × UInt8) :=
  [("lang.now", now, 0), ("lang.emit", emit, 1), ("lang.balanceOf", balanceOf, 1),
    ("lang.caller", caller, 0), ("lang.concat", concat, 2), ("lang.length", length, 1)]

/-- Names of primitives whose result would depend on the machine. -/
def nondeterministic : List String :=
  ["system.currentTimeMillis", "system.nanoTime", "system.random", "system.identityHashCode",
    "system.getenv"]

/-- The primitive leaves a value. -/
def returnsValue : Primitive → Bool
  | emit => false
  | _ => true

/-- The primitive of a name and a number of arguments. -/
def resolve (name : String) (arity : UInt8) : Except Throwable Primitive :=
  if nondeterministic.contains name then
    .error (.notWhitelisted (name ++ " is not deterministic"))
  else
    match whitelist.lookup name with
    | none => .error (.notWhitelisted (name ++ " is not in the whitelist"))
    | some (primitive, expected) =>
      if expected = arity then .ok primitive
      else
        .error (.notWhitelisted (name ++ " expects " ++ toString expected.toNat ++
          " arguments, not " ++ toString arity.toNat))

end Primitive

end ObjectLedger
