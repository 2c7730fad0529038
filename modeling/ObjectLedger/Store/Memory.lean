/-
**Records in memory.**

* `Memory`: committed records and pending ones; a commit writes the latter over the former.
-/
import ObjectLedger.Store.Backend

namespace ObjectLedger

/-- Records that are kept in memory only. -/
structure Memory where
  committed : Records := {}
  pending : Records := {}
  deriving Inhabited

namespace Memory

/-- Looks a record up, among the pending ones first if the view sees them. -/
def lookup {α : Type} (memory : Memory) (view : View) (select : Records → Option α) :
    Option α :=
  match view with
  | .uncommitted => select memory.pending <|> select memory.committed
  | .committed => select memory.committed

instance : Backend Memory where
  response memory view reference :=
    .ok (memory.lookup view fun records => records.responses.get? reference)
  request memory view reference :=
    .ok (memory.lookup view fun records => records.requests.get? reference)
  error memory view reference :=
    .ok (memory.lookup view fun records => records.errors.get? reference)
  history memory view object :=
    .ok ((memory.lookup view fun records => records.histories.get? object).getD [])
  manifest memory view := .ok (memory.lookup view Records.manifest)
  lastReference memory := latest memory.pending.lastReference memory.committed.lastReference
  write memory change := { memory with pending := change memory.pending }
  commit memory := (.ok (), { committed := memory.committed.merge memory.pending, pending := {} })

end Memory

end ObjectLedger
