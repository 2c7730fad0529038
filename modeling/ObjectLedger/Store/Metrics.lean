/-
**The counters of a store.**

* `Metrics`: what happened to a store since it was opened; the counters wrap around.
* `Metrics.report`: the counters as a text for people.
-/
import ObjectLedger.Text.FixedPoint

namespace ObjectLedger

/-- The counters of a store. -/
structure Metrics where
  /-- Responses of new transactions. -/
  pushes : UInt64 := 0
  /-- Responses that took the place of others. -/
  replaces : UInt64 := 0
  /-- Rejected requests. -/
  errorsRecorded : UInt64 := 0
  /-- Histories that were extended. -/
  historyExpansions : UInt64 := 0
  /-- Entries of histories that were dropped. -/
  historyEntriesDropped : UInt64 := 0
  commits : UInt64 := 0
  /-- The time spent on histories. -/
  expansionMicros : UInt64 := 0
  deriving DecidableEq, Repr, Inhabited

namespace Metrics

/-- Counts the response of a new transaction. -/
def recordPush (metrics : Metrics) : Metrics :=
  { metrics with pushes := metrics.pushes + 1 }

/-- Counts a replaced response. -/
def recordReplace (metrics : Metrics) : Metrics :=
  { metrics with replaces := metrics.replaces + 1 }

/-- Counts a rejected request. -/
def recordError (metrics : Metrics) : Metrics :=
  { metrics with errorsRecorded := metrics.errorsRecorded + 1 }

/-- Counts a commit. -/
def recordCommit (metrics : Metrics) : Metrics :=
  { metrics with commits := metrics.commits + 1 }

/-- Counts an extended history and the entries it lost. -/
def recordExpansion (metrics : Metrics) (dropped : UInt64) : Metrics :=
  { metrics with
    historyExpansions := metrics.historyExpansions + 1
    historyEntriesDropped := metrics.historyEntriesDropped + dropped }

/-- Adds time spent on histories. -/
def recordExpansionTime (metrics : Metrics) (micros : UInt64) : Metrics :=
  { metrics with expansionMicros := metrics.expansionMicros + micros }

/-- The average number of entries dropped from an extended history. -/
def dropRate (metrics : Metrics) : Float :=
  if metrics.historyExpansions = 0 then 0
  else metrics.historyEntriesDropped.toFloat / metrics.historyExpansions.toFloat

/-- The counters as a text for people. -/
def report (metrics : Metrics) : String :=
  "\n".intercalate [
    "Store Metrics Report",
    String.ofList (List.replicate 50 '='),
    "  Pushes:              " ++ toString metrics.pushes.toNat,
    "  Replaces:            " ++ toString metrics.replaces.toNat,
    "  Rejections recorded: " ++ toString metrics.errorsRecorded.toNat,
    "  Commits:             " ++ toString metrics.commits.toNat,
    "",
    "Histories:",
    "  Expansions:          " ++ toString metrics.historyExpansions.toNat,
    "  Entries dropped:     " ++ toString metrics.historyEntriesDropped.toNat,
    "  Dropped/expansion:   " ++ Text.fixedPoint 2 metrics.dropRate,
    "  Time spent:          " ++ Text.fixedPoint 3 (metrics.expansionMicros.toFloat / 1000) ++
      " ms"]

end Metrics

end ObjectLedger
