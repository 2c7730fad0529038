/-
**Tables with one entry for each key.**

* `Table.Proper`: no key has two entries; kept by every operation.
* `Table.Proper.mem_entries`: the entries of a proper table are the values of its keys.
-/
import Mathlib.Data.List.Nodup
import ObjectLedger.Table

namespace ObjectLedger.Table

variable {κ ν : Type} [DecidableEq κ] {table : Table κ ν} {key : κ} {value : ν}

/-- No key has two entries. -/
def Proper (table : Table κ ν) : Prop :=
  table.keys.Nodup

omit [DecidableEq κ] in
theorem proper_empty : Proper (∅ : Table κ ν) :=
  List.nodup_nil

theorem mem_entries_of_get? (found : table.get? key = some value) : (key, value) ∈ table.entries := by
  unfold get? at found
  rw [Option.map_eq_some_iff] at found
  obtain ⟨entry, found, rfl⟩ := found
  have same : entry.1 = key := by simpa using List.find?_some found
  exact same ▸ List.mem_of_find?_eq_some found

theorem Proper.erase (proper : table.Proper) (key : κ) : (table.erase key).Proper :=
  List.Nodup.sublist (List.Sublist.map Prod.fst List.filter_sublist) proper

theorem Proper.insert (proper : table.Proper) (key : κ) (value : ν) :
    (table.insert key value).Proper := by
  refine List.nodup_cons.mpr ⟨fun member => ?_, proper.erase key⟩
  obtain ⟨entry, member, same⟩ := List.mem_map.mp member
  have different := (List.mem_filter.mp member).2
  simp [same] at different

/-- The entries of a proper table are the values of its keys. -/
theorem Proper.mem_entries (proper : table.Proper) :
    (key, value) ∈ table.entries ↔ table.get? key = some value := by
  refine ⟨fun member => ?_, mem_entries_of_get?⟩
  obtain ⟨entries⟩ := table
  unfold Proper keys at proper
  simp only at proper member
  induction entries with
  | nil => cases member
  | cons entry rest ih =>
    obtain ⟨absent, others⟩ := List.nodup_cons.mp proper
    unfold get?
    rcases List.mem_cons.mp member with rfl | member
    · simp
    · have different : entry.1 ≠ key := fun same =>
        absent (same ▸ List.mem_map_of_mem member)
      rw [List.find?_cons_of_neg (by simpa using different)]
      exact ih others member

end ObjectLedger.Table
