/-
**A cache of linked classpaths.**

* `Cache.fetch`: what is kept under a key, or what a computation gives, which is then kept. A full
  cache is emptied before something new is kept, and one without capacity keeps nothing.
-/
import ObjectLedger.Table

namespace ObjectLedger

/-- What was computed for some keys. -/
structure Cache (κ α : Type) where
  /-- The number of keys that are kept. -/
  capacity : Nat
  entries : Table κ α := {}

namespace Cache

variable {κ α ε : Type} [DecidableEq κ]

/-- The cache with something under a key. -/
def keep (cache : Cache κ α) (key : κ) (value : α) : Cache κ α :=
  if cache.capacity = 0 then cache
  else
    let entries := if cache.entries.size ≥ cache.capacity then {} else cache.entries
    { cache with entries := entries.insert key value }

/-- What is kept under the key, or what the computation gives; an error is not kept. -/
def fetch (cache : Cache κ α) (key : κ) (compute : Unit → Except ε α) :
    Except ε α × Cache κ α :=
  match cache.entries.get? key with
  | some value => (.ok value, cache)
  | none =>
    match compute () with
    | .ok value => (.ok value, cache.keep key value)
    | .error cause => (.error cause, cache)

/-- The number of keys that are kept. -/
def size (cache : Cache κ α) : Nat :=
  cache.entries.size

/-- The cache without what it kept. -/
def clear (cache : Cache κ α) : Cache κ α :=
  { cache with entries := {} }

end Cache

end ObjectLedger
