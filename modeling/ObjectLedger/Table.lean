/-
**Finite tables.**

* `Table`: keys with one value each, the entry written last in front.
* `Table.get?`, `Table.insert`, `Table.erase`, `Table.merge`: reading and writing. What each of
  them does is said through `get?`: `get?_insert`, `get?_erase`, `get?_merge`.
* `Table.sorted`: the entries by increasing key.
-/

namespace ObjectLedger

/-- A table of values by key; of two entries of one key the first counts. -/
structure Table (κ ν : Type) where
  entries : List (κ × ν)
  deriving Repr

namespace Table

variable {κ ν : Type} [DecidableEq κ]

/-- The table without entries. -/
def empty : Table κ ν := ⟨[]⟩

instance : Inhabited (Table κ ν) := ⟨⟨[]⟩⟩

instance : EmptyCollection (Table κ ν) := ⟨⟨[]⟩⟩

/-- The value of a key. -/
def get? (table : Table κ ν) (key : κ) : Option ν :=
  (table.entries.find? fun entry => entry.1 = key).map Prod.snd

/-- The key has a value. -/
def contains (table : Table κ ν) (key : κ) : Bool :=
  (table.get? key).isSome

/-- The table without a key. -/
def erase (table : Table κ ν) (key : κ) : Table κ ν :=
  ⟨table.entries.filter fun entry => entry.1 ≠ key⟩

/-- The table with a value for a key, in the place of an earlier one. -/
def insert (table : Table κ ν) (key : κ) (value : ν) : Table κ ν :=
  ⟨(key, value) :: (table.erase key).entries⟩

/-- The keys that have a value. -/
def keys (table : Table κ ν) : List κ :=
  table.entries.map Prod.fst

/-- The number of entries. -/
def size (table : Table κ ν) : Nat :=
  table.entries.length

/-- The table with the entries of a newer one written over it. -/
def merge (older newer : Table κ ν) : Table κ ν :=
  newer.entries.foldr (fun entry table => table.insert entry.1 entry.2) older

/-- The entries by increasing key. -/
def sorted [Ord κ] (table : Table κ ν) : List (κ × ν) :=
  table.entries.mergeSort fun first second => (compare first.1 second.1).isLE

@[simp] theorem get?_empty (key : κ) : (empty : Table κ ν).get? key = none := rfl

theorem get?_erase_self (table : Table κ ν) (key : κ) : (table.erase key).get? key = none := by
  unfold get? erase
  rw [Option.map_eq_none_iff, List.find?_eq_none]
  intro entry member
  have := (List.mem_filter.1 member).2
  simpa using this

theorem get?_erase_of_ne (table : Table κ ν) {key other : κ} (different : other ≠ key) :
    (table.erase key).get? other = table.get? other := by
  unfold get? erase
  induction table.entries with
  | nil => rfl
  | cons entry rest ih =>
    by_cases same : entry.1 = key
    · have apart : ¬ entry.1 = other := fun h => different (h.symm.trans same)
      simp only [ne_eq, same, not_true_eq_false, decide_false, Bool.false_eq_true,
        not_false_eq_true, List.filter_cons_of_neg]
      rw [List.find?_cons_of_neg (by simpa using apart)]
      exact ih
    · rw [List.filter_cons_of_pos (by simpa using same)]
      by_cases found : entry.1 = other
      · rw [List.find?_cons_of_pos (by simpa using found),
          List.find?_cons_of_pos (by simpa using found)]
      · rw [List.find?_cons_of_neg (by simpa using found),
          List.find?_cons_of_neg (by simpa using found)]
        exact ih

theorem get?_erase (table : Table κ ν) (key other : κ) :
    (table.erase key).get? other = if other = key then none else table.get? other := by
  split
  · rename_i same
    rw [same, get?_erase_self]
  · rename_i different
    exact get?_erase_of_ne table different

@[simp] theorem get?_insert_self (table : Table κ ν) (key : κ) (value : ν) :
    (table.insert key value).get? key = some value := by
  simp [get?, insert]

theorem get?_insert_of_ne (table : Table κ ν) {key other : κ} (value : ν)
    (different : other ≠ key) : (table.insert key value).get? other = table.get? other := by
  rw [← get?_erase_of_ne table different]
  unfold get? insert
  rw [List.find?_cons_of_neg (by simpa using fun h => different h.symm)]

theorem get?_insert (table : Table κ ν) (key other : κ) (value : ν) :
    (table.insert key value).get? other =
      if other = key then some value else table.get? other := by
  split
  · rename_i same
    rw [same, get?_insert_self]
  · rename_i different
    exact get?_insert_of_ne table value different

/-- What the newer table says counts, and where it says nothing the older one. -/
theorem get?_merge (older newer : Table κ ν) (key : κ) :
    (older.merge newer).get? key = (newer.get? key <|> older.get? key) := by
  unfold merge
  obtain ⟨entries⟩ := newer
  induction entries with
  | nil => rfl
  | cons entry rest ih =>
    simp only [List.foldr_cons, get?_insert]
    by_cases same : entry.1 = key
    · simp [get?, same]
    · rw [if_neg fun h => same h.symm]
      simpa [get?, same] using ih

end Table

end ObjectLedger
