/-
**How a history is extended.**

* `History.Looked`: how an extension goes through the newer entries of a history, each of which is
  skipped, dropped or kept. `History.looked_of_providers`: it succeeds in this way only.
* **`History.extend_eq_ok`**: what an extended history is made of.
* `History.length_extend`: an extension adds one entry; those that are gone are dropped ones, or the
  reference itself. `History.getLast?_extend`: the oldest entry stays the oldest one.
-/
import ObjectLedger.Store.History

namespace ObjectLedger.History

variable {responses : Responses} {object : ObjectRef} {reference : TransactionRef}
  {response : Response}

/-- What is kept of entries, and how many are dropped, where some keys are covered. -/
inductive Looked (responses : Responses) (object : ObjectRef) (reference : TransactionRef) :
    List UpdateKey → List TransactionRef → List TransactionRef → Nat → Prop
  | nil {covered : List UpdateKey} : Looked responses object reference covered [] [] 0
  | skip {covered : List UpdateKey} {rest kept : List TransactionRef} {dropped : Nat}
      (later : Looked responses object reference covered rest kept dropped) :
      Looked responses object reference covered (reference :: rest) kept dropped
  | drop {covered : List UpdateKey} {entry : TransactionRef} {response : Response}
      {rest kept : List TransactionRef} {dropped : Nat} (different : entry ≠ reference)
      (found : responses entry = .ok (some response)) (updated : keysOf response object ≠ [])
      (inside : ∀ key ∈ keysOf response object, key ∈ covered)
      (later : Looked responses object reference (covered ++ keysOf response object) rest kept
        dropped) :
      Looked responses object reference covered (entry :: rest) kept (dropped + 1)
  | keep {covered : List UpdateKey} {entry : TransactionRef} {response : Response}
      {rest kept : List TransactionRef} {dropped : Nat} (different : entry ≠ reference)
      (found : responses entry = .ok (some response)) (updated : keysOf response object ≠ [])
      (outside : ¬ ∀ key ∈ keysOf response object, key ∈ covered)
      (later : Looked responses object reference (covered ++ keysOf response object) rest kept
        dropped) :
      Looked responses object reference covered (entry :: rest) (entry :: kept) dropped

theorem looked_of_providers {covered : List UpdateKey} {entries kept : List TransactionRef}
    {dropped : Nat}
    (computed : providers responses object reference covered entries = .ok (kept, dropped)) :
    Looked responses object reference covered entries kept dropped := by
  induction entries generalizing covered kept dropped with
  | nil =>
    cases computed
    exact .nil
  | cons entry rest ih =>
    unfold providers at computed
    split at computed
    · rename_i same
      subst same
      exact .skip (ih computed)
    · rename_i different
      split at computed
      · cases computed
      · cases computed
      · rename_i response found
        dsimp only at computed
        split at computed
        · cases computed
        · rename_i updated
          rw [List.isEmpty_iff] at updated
          split at computed
          · cases computed
          · rename_i others count tail
            split at computed
            · rename_i all
              cases computed
              exact .drop different found updated (by simpa using all) (ih tail)
            · rename_i all
              cases computed
              exact .keep different found updated (by simpa using all) (ih tail)

/-- What is kept stays in its order. -/
theorem Looked.sublist {covered : List UpdateKey} {entries kept : List TransactionRef}
    {dropped : Nat} (looked : Looked responses object reference covered entries kept dropped) :
    kept.Sublist entries := by
  induction looked with
  | nil => exact List.Sublist.refl _
  | skip _ ih => exact ih.cons _
  | drop _ _ _ _ _ ih => exact ih.cons _
  | keep _ _ _ _ _ ih => exact ih.cons_cons _

/-- **An extended history is the reference, what is kept of the newer entries, and the oldest
entry, unless it is the reference.** -/
theorem extend_eq_ok {history extended : List TransactionRef} {dropped : Nat}
    (computed : extend responses reference response object history = .ok (extended, dropped)) :
    history = [] ∧ extended = [reference] ∧ dropped = 0 ∨
      ∃ newer oldest kept, history = newer ++ [oldest] ∧
        Looked responses object reference (keysOf response object) newer kept dropped ∧
        extended = reference :: kept ++ if oldest = reference then [] else [oldest] := by
  unfold extend at computed
  split at computed
  · rename_i last
    cases computed
    exact Or.inl ⟨List.getLast?_eq_none_iff.mp last, rfl, rfl⟩
  · rename_i oldest last
    obtain ⟨newer, rfl⟩ := List.getLast?_eq_some_iff.mp last
    rw [List.dropLast_concat] at computed
    split at computed
    · cases computed
    · rename_i kept count looked
      cases computed
      exact Or.inr ⟨newer, oldest, kept, rfl, looked_of_providers looked, rfl⟩

/-- Where the reference is new to the history, the oldest entry stays. -/
theorem extend_eq_ok_of_not_mem {history extended : List TransactionRef} {dropped : Nat}
    (absent : reference ∉ history)
    (computed : extend responses reference response object history = .ok (extended, dropped)) :
    history = [] ∧ extended = [reference] ∧ dropped = 0 ∨
      ∃ newer oldest kept, history = newer ++ [oldest] ∧
        Looked responses object reference (keysOf response object) newer kept dropped ∧
        extended = reference :: kept ++ [oldest] := by
  rcases extend_eq_ok computed with nothing | ⟨newer, oldest, kept, rfl, looked, rfl⟩
  · exact Or.inl nothing
  · have apart : oldest ≠ reference := by
      rintro rfl
      exact absent (List.mem_append_right _ (List.mem_singleton_self _))
    rw [if_neg apart]
    exact Or.inr ⟨newer, oldest, kept, rfl, looked, rfl⟩

theorem exists_cons_of_extend {history extended : List TransactionRef} {dropped : Nat}
    (computed : extend responses reference response object history = .ok (extended, dropped)) :
    ∃ rest, extended = reference :: rest := by
  rcases extend_eq_ok computed with ⟨-, rfl, -⟩ | ⟨newer, oldest, kept, -, -, rfl⟩
  · exact ⟨[], rfl⟩
  · exact ⟨_, rfl⟩

/-- The oldest entry of a history stays the oldest one. -/
theorem getLast?_extend {history extended : List TransactionRef} {dropped : Nat}
    (absent : reference ∉ history)
    (computed : extend responses reference response object history = .ok (extended, dropped)) :
    extended.getLast? = some (history.getLast?.getD reference) := by
  rcases extend_eq_ok_of_not_mem absent computed with
    ⟨rfl, rfl, -⟩ | ⟨newer, oldest, kept, rfl, -, rfl⟩
  · rfl
  · rw [List.getLast?_concat, List.getLast?_concat]
    rfl

/-! ### Lengths -/

/-- Each entry is kept, dropped or the reference. -/
theorem Looked.length {covered : List UpdateKey} {entries kept : List TransactionRef}
    {dropped : Nat} (looked : Looked responses object reference covered entries kept dropped) :
    kept.length + dropped + entries.count reference = entries.length := by
  induction looked with
  | nil => rfl
  | skip later ih =>
    rw [List.count_cons_self, List.length_cons, ← ih]
    omega
  | drop different found updated inside later ih =>
    rw [List.count_cons_of_ne different, List.length_cons, ← ih]
    omega
  | keep different found updated outside later ih =>
    rw [List.count_cons_of_ne different, List.length_cons, List.length_cons, ← ih]
    omega

/-- **An extended history is longer by one entry, less the dropped ones** and those that are the
reference. -/
theorem length_extend {history extended : List TransactionRef} {dropped : Nat}
    (computed : extend responses reference response object history = .ok (extended, dropped)) :
    extended.length + dropped + history.count reference = history.length + 1 := by
  rcases extend_eq_ok computed with ⟨rfl, rfl, rfl⟩ | ⟨newer, oldest, kept, rfl, looked, rfl⟩
  · rfl
  · have each := looked.length
    simp only [List.cons_append, List.length_cons, List.length_append, List.length_nil,
      List.count_append, List.count_singleton, beq_iff_eq]
    split
    · rw [List.length_nil]
      omega
    · rw [List.length_singleton]
      omega

end ObjectLedger.History
