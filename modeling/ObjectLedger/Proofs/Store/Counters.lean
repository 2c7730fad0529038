/-
**The counters of a store reconcile with what it holds.**

* `Ledger.counted`: the histories that a push counts. **`Ledger.metrics_push`**: a push counts each
  history as it computes it, before it knows whether there is one for the next object.
* `Ledger.abandoned`: the histories that refused pushes counted along calls.
* **`Ledger.Reconciled.perform`**: each call keeps the counters reconciled with the contents, up to
  what was abandoned. **`Ledger.reconciled_performAll`**: so they are after any calls on an empty
  store. **`Ledger.reconciled_of_plain`**: without replacements nothing is abandoned.
* `Ledger.not_reconciled`: with one, the counters may reconcile with no store at all.
-/
import Mathlib.Algebra.BigOperators.Group.Finset.Basic
import ObjectLedger.Proofs.Store.Arising
import ObjectLedger.Proofs.Store.Histories

namespace ObjectLedger

/-! ### What a push counts -/

namespace Metrics

/-- Counts extended histories by the numbers of entries that they lost. -/
def recordExpansions (metrics : Metrics) (drops : List Nat) : Metrics :=
  drops.foldl (fun metrics dropped => metrics.recordExpansion (UInt64.ofNat dropped)) metrics

theorem recordExpansions_eq (metrics : Metrics) (drops : List Nat) :
    metrics.recordExpansions drops = { metrics with
      historyExpansions := metrics.historyExpansions + UInt64.ofNat drops.length
      historyEntriesDropped := metrics.historyEntriesDropped + UInt64.ofNat drops.sum } := by
  induction drops generalizing metrics with
  | nil => simp [recordExpansions]
  | cons dropped rest ih =>
    refine (ih (metrics.recordExpansion (UInt64.ofNat dropped))).trans ?_
    simp only [recordExpansion, List.length_cons, List.sum_cons, UInt64.ofNat_add, UInt64.add_assoc]
    rw [UInt64.add_comm 1]
    rfl

end Metrics

namespace Ledger

section Pushes

variable {σ : Type} [Backend σ]

/-- The numbers of entries that the histories of objects lose by a push, up to the first object
whose history cannot be extended. -/
def drops (backend : σ) (reference : TransactionRef) (response : Response) :
    List ObjectRef → List Nat
  | [] => []
  | object :: rest =>
    match extension backend reference response object with
    | .error _ => []
    | .ok (_, dropped) => dropped :: drops backend reference response rest

/-- The histories that a push counts, by the numbers of entries that they lose. It comes to them
once its reference has no response, and the manifest can be named, or none is. -/
def counted (ledger : Ledger σ) (reference : TransactionRef) (request : Request)
    (response : Response) : List Nat :=
  match Backend.response ledger.backend .uncommitted reference,
    newManifest ledger.backend reference request response with
  | .ok none, .ok _ => drops ledger.backend reference response (updatedObjects response)
  | _, _ => []

theorem extendedHistories_metrics (backend : σ) (reference : TransactionRef) (response : Response)
    (metrics : Metrics) (objects : List ObjectRef) :
    (extendedHistories backend reference response metrics objects).2 =
      metrics.recordExpansions (drops backend reference response objects) := by
  induction objects generalizing metrics with
  | nil => rfl
  | cons object rest ih =>
    unfold extendedHistories drops extension
    cases Backend.history backend .uncommitted object with
    | error cause => rfl
    | ok history =>
      dsimp only
      cases History.extend (Backend.response backend .uncommitted) reference response object
          history with
      | error cause => rfl
      | ok result =>
        obtain ⟨longer, dropped⟩ := result
        specialize ih (metrics.recordExpansion (UInt64.ofNat dropped))
        dsimp only
        generalize extendedHistories backend reference response
          (metrics.recordExpansion (UInt64.ofNat dropped)) rest = result at ih ⊢
        obtain ⟨_ | _, _⟩ := result
        · exact ih
        · exact ih

/-- **A push counts the histories that it computes, and itself if it is accepted.** -/
theorem metrics_push (ledger : Ledger σ) (reference : TransactionRef) (request : Request)
    (response : Response) :
    (ledger.push reference request response).2.metrics =
      match (ledger.push reference request response).1 with
      | .ok () =>
        (ledger.metrics.recordExpansions (ledger.counted reference request response)).recordPush
      | .error _ =>
        ledger.metrics.recordExpansions (ledger.counted reference request response) := by
  unfold push counted
  cases Backend.response ledger.backend .uncommitted reference with
  | error cause => rfl
  | ok found =>
    cases found with
    | some earlier => rfl
    | none =>
      dsimp only
      cases newManifest ledger.backend reference request response with
      | error cause => rfl
      | ok manifest =>
        have counts := extendedHistories_metrics ledger.backend reference response ledger.metrics
          (updatedObjects response)
        dsimp only
        generalize extendedHistories ledger.backend reference response ledger.metrics
          (updatedObjects response) = result at counts ⊢
        obtain ⟨_ | _, _⟩ := result
        · exact counts
        · exact congrArg Metrics.recordPush counts

theorem counted_of_accepted {ledger : Ledger σ} {reference : TransactionRef} {request : Request}
    {response : Response} (accepted : (ledger.push reference request response).1 = .ok ()) :
    ledger.counted reference request response =
      drops ledger.backend reference response (updatedObjects response) := by
  rcases ledger.push_cases reference request response with
    ⟨cause, metrics, -, ran⟩ | ⟨histories, manifest, metrics, accepts, -⟩
  · rw [ran] at accepted
    cases accepted
  · unfold counted
    rw [accepts.fresh, accepts.named]

/-- Where all histories can be extended, each object has its drops. -/
theorem exists_drops {backend : σ} {reference : TransactionRef} {response : Response}
    {objects : List ObjectRef}
    (extended : ∀ object ∈ objects, ∃ result,
      extension backend reference response object = .ok result) :
    ∃ dropped : ObjectRef → Nat, drops backend reference response objects = objects.map dropped ∧
      ∀ object ∈ objects, ∃ longer,
        extension backend reference response object = .ok (longer, dropped object) := by
  refine ⟨fun object => (extension backend reference response object).toOption.elim 0 Prod.snd,
    ?_, fun object member => ?_⟩
  · induction objects with
    | nil => rfl
    | cons object rest ih =>
      obtain ⟨first, later⟩ := List.forall_mem_cons.mp extended
      obtain ⟨⟨longer, dropped⟩, here⟩ := first
      rw [drops, List.map_cons, ih later, here]
      rfl
  · obtain ⟨⟨longer, dropped⟩, here⟩ := extended object member
    refine ⟨longer, ?_⟩
    show extension backend reference response object =
      .ok (longer, (extension backend reference response object).toOption.elim 0 Prod.snd)
    rw [here]
    rfl

/-- The histories that a call counted and that were not written, since it was refused. -/
def unwritten (ledger : Ledger σ) : Call → List Nat
  | .push reference request response =>
    match (ledger.push reference request response).1 with
    | .ok () => []
    | .error _ => ledger.counted reference request response
  | _ => []

/-- The histories that refused pushes counted along calls, by the numbers of entries that they would
have lost. -/
def abandoned (ledger : Ledger σ) : List Call → List Nat
  | [] => []
  | call :: rest => ledger.unwritten call ++ (ledger.perform call).2.abandoned rest

end Pushes

/-! ### Counters and contents -/

section Runs

variable {σ : Type} [Backend σ] [LawfulBackend σ] {ledger : Ledger σ} {contents : Contents}
  {lost : List Nat}

/-- Pushes were counted as often as there are references with a response, modulo the word. -/
def CountsPushes (metrics : Metrics) (contents : Contents) : Prop :=
  ∃ references : Finset TransactionRef,
    (∀ reference, reference ∈ references ↔ (contents.responses reference).isSome) ∧
      metrics.pushes = UInt64.ofNat references.card

/-- Extended histories were counted as often as there are entries in histories or dropped from them,
modulo the word, but for the histories that were counted and are lost. -/
def CountsHistories (metrics : Metrics) (contents : Contents) (lost : List Nat) : Prop :=
  ∃ (objects : Finset ObjectRef) (expanded dropped : Nat),
    (∀ object, object ∈ objects ↔ contents.histories object ≠ []) ∧
      metrics.historyExpansions = UInt64.ofNat expanded ∧
      metrics.historyEntriesDropped = UInt64.ofNat dropped ∧
      expanded + lost.sum =
        dropped + ∑ object ∈ objects, (contents.histories object).length + lost.length

/-- The counters of the store reconcile with its contents, but for the histories that are lost. -/
structure Reconciled (ledger : Ledger σ) (contents : Contents) (lost : List Nat) : Prop where
  holds : ledger.Holds contents
  recorded : contents.Recorded
  pushes : CountsPushes ledger.metrics contents
  histories : CountsHistories ledger.metrics contents lost

theorem reconciled_blank (root : Option String) :
    Reconciled { backend := Medium.blank root : Ledger Medium } Contents.empty [] where
  holds := Medium.holds_blank root
  recorded := Contents.recorded_empty
  pushes := ⟨∅, fun _ => iff_of_false (Finset.notMem_empty _) Bool.false_ne_true, rfl⟩
  histories := ⟨∅, 0, 0, fun _ => iff_of_false (Finset.notMem_empty _) (· rfl), rfl, rfl, rfl⟩

/-- Counted histories that are not written are lost. -/
theorem CountsHistories.lose {metrics : Metrics} (counts : CountsHistories metrics contents lost)
    (drops : List Nat) :
    CountsHistories (metrics.recordExpansions drops) contents (lost ++ drops) := by
  obtain ⟨objects, expanded, dropped, all, expansions, drop, balance⟩ := counts
  refine ⟨objects, expanded + drops.length, dropped + drops.sum, all, ?_, ?_, ?_⟩
  · rw [Metrics.recordExpansions_eq, UInt64.ofNat_add, expansions]
  · rw [Metrics.recordExpansions_eq, UInt64.ofNat_add, drop]
  · rw [List.sum_append, List.length_append]
    omega

/-- If some lengths each grow by one less what is dropped, so does their sum. -/
theorem sum_lengths {objects updated : Finset ObjectRef} {before after dropped : ObjectRef → Nat}
    (longer : ∀ object ∈ updated, after object + dropped object = before object + 1)
    (others : ∀ object ∉ updated, after object = before object)
    (empty : ∀ object ∉ objects, before object = 0) :
    ∑ object ∈ objects ∪ updated, after object + ∑ object ∈ updated, dropped object =
      ∑ object ∈ objects, before object + updated.card := by
  have inside : updated ⊆ objects ∪ updated := Finset.subset_union_right
  calc ∑ object ∈ objects ∪ updated, after object + ∑ object ∈ updated, dropped object
      = ∑ object ∈ (objects ∪ updated) \ updated, after object +
          ∑ object ∈ updated, (after object + dropped object) := by
        rw [Finset.sum_add_distrib, ← Nat.add_assoc, Finset.sum_sdiff inside]
    _ = ∑ object ∈ (objects ∪ updated) \ updated, before object +
          ∑ object ∈ updated, (before object + 1) := by
        rw [Finset.sum_congr rfl longer, Finset.sum_congr rfl fun object member =>
          others object (Finset.mem_sdiff.mp member).2]
    _ = ∑ object ∈ objects ∪ updated, before object + updated.card := by
        rw [Finset.sum_add_distrib, ← Nat.add_assoc, Finset.sum_sdiff inside,
          Finset.card_eq_sum_ones]
    _ = _ := by
        rw [Finset.sum_subset Finset.subset_union_left fun object _ apart => empty object apart]

/-- **Histories that are counted and written make up for what they drop.** -/
theorem CountsHistories.push {metrics : Metrics} {after : Contents} {reference : TransactionRef}
    {response : Response} (counts : CountsHistories metrics contents lost)
    (recorded : contents.Recorded) (holds : ledger.Holds contents)
    (pushed : contents.Pushed reference response after) :
    CountsHistories (metrics.recordExpansions
      (drops ledger.backend reference response (updatedObjects response))) after lost := by
  obtain ⟨objects, expanded, loses, all, expansions, drop, balance⟩ := counts
  -- each updated object has a history, which is longer by one entry less the dropped ones
  have extended : ∀ object ∈ updatedObjects response, ∃ result,
      extension ledger.backend reference response object = .ok result := by
    intro object member
    obtain ⟨dropped, computed⟩ := pushed.extended object (mem_updatedObjects.mp member)
    exact ⟨_, (holds.extension_eq reference response object).trans computed⟩
  obtain ⟨dropped, each, computed⟩ := exists_drops extended
  have longer : ∀ object ∈ updatedObjects response, after.histories object ≠ [] ∧
      (after.histories object).length + dropped object =
        (contents.histories object).length + 1 := by
    intro object member
    obtain ⟨count, computedToo⟩ := pushed.extended object (mem_updatedObjects.mp member)
    obtain ⟨history, found⟩ := computed object member
    rw [holds.extension_eq, computedToo] at found
    cases found
    have length := History.length_extend computedToo
    rw [List.count_eq_zero.mpr (recorded.absent pushed.fresh object)] at length
    obtain ⟨rest, shape⟩ := History.exists_cons_of_extend computedToo
    exact ⟨by rw [shape]; exact List.cons_ne_nil _ _, length⟩
  have others : ∀ object, object ∉ updatedObjects response →
      after.histories object = contents.histories object := by
    intro object apart
    exact pushed.others object (not_not.mp (mt mem_updatedObjects.mpr apart))
  have once : (updatedObjects response).Nodup := (increasing_normalize _).nodup
  have total : ∑ object ∈ objects ∪ (updatedObjects response).toFinset,
      (after.histories object).length + ((updatedObjects response).map dropped).sum =
      ∑ object ∈ objects, (contents.histories object).length +
        (updatedObjects response).length := by
    rw [← List.sum_toFinset dropped once, ← List.toFinset_card_of_nodup once]
    refine sum_lengths (fun object member => (longer object (List.mem_toFinset.mp member)).2)
      (fun object apart => ?_) fun object none => ?_
    · rw [others object (mt List.mem_toFinset.mpr apart)]
    · rw [not_not.mp (mt (all object).mpr none), List.length_nil]
  refine ⟨objects ∪ (updatedObjects response).toFinset, expanded + (updatedObjects response).length,
    loses + ((updatedObjects response).map dropped).sum, fun object => ?_, ?_, ?_, ?_⟩
  · rw [Finset.mem_union, List.mem_toFinset]
    by_cases member : object ∈ updatedObjects response
    · exact iff_of_true (Or.inr member) (longer object member).1
    · rw [others object member, all object]
      exact or_iff_left member
  · rw [Metrics.recordExpansions_eq, each, UInt64.ofNat_add, expansions, List.length_map]
  · rw [Metrics.recordExpansions_eq, each, UInt64.ofNat_add, drop]
  · omega

/-- An accepted push counts a reference more. -/
theorem CountsPushes.push {metrics : Metrics} {after : Contents} {reference : TransactionRef}
    {response : Response} (counts : CountsPushes metrics contents)
    (pushed : contents.Pushed reference response after) :
    CountsPushes metrics.recordPush after := by
  obtain ⟨references, all, pushes⟩ := counts
  have absent : reference ∉ references := by
    rw [all, pushed.fresh]
    exact Bool.false_ne_true
  refine ⟨insert reference references, fun other => ?_, ?_⟩
  · rw [Finset.mem_insert, all, pushed.responses]
    by_cases same : other = reference
    · subst same
      simp
    · simp [same]
  · rw [Finset.card_insert_of_notMem absent, UInt64.ofNat_add, ← pushes]
    rfl

/-- **Each call keeps the counters reconciled**, up to what is counted and not written. -/
theorem Reconciled.perform (reconciled : Reconciled ledger contents lost) (call : Call) :
    ∃ after, Reconciled (ledger.perform call).2 after (lost ++ ledger.unwritten call) := by
  obtain ⟨holds, recorded, pushes, histories⟩ := reconciled
  cases call with
  | push reference request response =>
    have pushing := holds_push holds reference request response
    have counts := ledger.metrics_push reference request response
    have all := @counted_of_accepted _ _ ledger reference request response
    show ∃ after, Reconciled (ledger.push reference request response).2 after (lost ++
      match (ledger.push reference request response).1 with
      | .ok () => []
      | .error _ => ledger.counted reference request response)
    generalize ledger.push reference request response = result at pushing counts all ⊢
    obtain ⟨_ | ⟨⟨⟩⟩, last⟩ := result
    · refine ⟨contents, pushing, recorded, ?_, ?_⟩
      · rw [counts, Metrics.recordExpansions_eq]
        exact pushes
      · rw [counts]
        exact histories.lose _
    · obtain ⟨after, holdsAfter, pushed⟩ := pushing
      rw [all rfl] at counts
      refine ⟨after, holdsAfter, pushed.recorded recorded, ?_, ?_⟩
      · rw [counts, Metrics.recordExpansions_eq]
        exact pushes.push pushed
      · rw [counts, List.append_nil]
        exact histories.push recorded holds pushed
  | replace reference request response =>
    have replacing := holds_replace holds reference request response
    show ∃ after, Reconciled (ledger.replace reference request response).2 after (lost ++ [])
    rw [List.append_nil]
    rcases ledger.replace_cases reference request response with
      ⟨cause, ran⟩ | ⟨earlier, -, ran⟩
    · rw [ran]
      exact ⟨contents, holds, recorded, pushes, histories⟩
    · rw [ran] at replacing ⊢
      obtain ⟨known, replaced⟩ := replacing
      obtain ⟨references, all, pushes⟩ := pushes
      refine ⟨_, replaced, recorded.putResponse reference response,
        ⟨references, fun other => ?_, pushes⟩, histories⟩
      by_cases same : other = reference
      · subst same
        simpa [all] using known
      · rw [contents.putResponse_responses_of_ne _ same, all]
  | pushError reference request reason =>
    show ∃ after, Reconciled (ledger.pushError reference request reason) after (lost ++ [])
    rw [List.append_nil]
    exact ⟨contents, holds_pushError holds reference request reason, recorded, pushes, histories⟩
  | commit =>
    show ∃ after, Reconciled ledger.commit.2 after (lost ++ [])
    rw [List.append_nil]
    refine ⟨contents, holds_commit holds, recorded, ?_, ?_⟩ <;>
      unfold commit <;> split
    · exact pushes
    · exact pushes
    · exact histories
    · exact histories

theorem Reconciled.performAll (reconciled : Reconciled ledger contents lost) (calls : List Call) :
    ∃ after, Reconciled (ledger.performAll calls).2 after (lost ++ ledger.abandoned calls) := by
  induction calls generalizing ledger contents lost with
  | nil =>
    rw [abandoned, List.append_nil]
    exact ⟨contents, reconciled⟩
  | cons call rest ih =>
    obtain ⟨middle, reconciled⟩ := reconciled.perform call
    rw [abandoned, ← List.append_assoc]
    exact ih reconciled

/-! ### Runs without replacements -/

/-- Over intact histories a call writes all that it counts. -/
theorem unwritten_of_intact (holds : ledger.Holds contents) (intact : contents.Intact)
    (call : Call) : ledger.unwritten call = [] := by
  cases call with
  | push reference request response =>
    rw [unwritten, counted, holds.response_eq]
    simp only [Contents.look]
    cases found : contents.responses reference with
    | some earlier => split <;> rfl
    | none =>
      cases named : newManifest ledger.backend reference request response with
      | error cause => split <;> rfl
      | ok manifest =>
        obtain ⟨pushed, accepted⟩ := exists_push holds intact found named
        rw [accepted]
  | replace | pushError | commit => rfl

theorem abandoned_of_plain {pushes : List Push} {calls : List Call} (holds : ledger.Holds contents)
    (logged : contents.Logged pushes) (plain : ∀ call ∈ calls, call.isReplace = false) :
    ledger.abandoned calls = [] := by
  induction calls generalizing ledger contents pushes with
  | nil => rfl
  | cons call rest ih =>
    obtain ⟨first, later⟩ := List.forall_mem_cons.mp plain
    obtain ⟨after, holdsAfter, loggedAfter⟩ := logged_perform holds logged first
    rw [abandoned, unwritten_of_intact holds logged.intact call, ih holdsAfter loggedAfter later]
    rfl

/-- The histories of a store are the same in any contents that it holds. -/
theorem Holds.histories_eq {others : Contents} (holds : ledger.Holds contents)
    (holdsToo : ledger.Holds others) : contents.histories = others.histories :=
  funext fun object =>
    Except.ok.inj ((holds.history_eq object).symm.trans (holdsToo.history_eq object))

/-- The counters tell how many histories are lost, less what those would have dropped. -/
theorem Reconciled.lost_eq {others : Contents} {lostToo : List Nat}
    (reconciled : Reconciled ledger contents lost) (also : Reconciled ledger others lostToo) :
    UInt64.ofNat (lost.sum + lostToo.length) = UInt64.ofNat (lostToo.sum + lost.length) := by
  have same := reconciled.holds.histories_eq also.holds
  obtain ⟨objects, expanded, dropped, all, expansions, drop, balance⟩ := reconciled.histories
  obtain ⟨objectsToo, expandedToo, droppedToo, allToo, expansionsToo, dropToo, balanceToo⟩ :=
    also.histories
  have sameObjects : objects = objectsToo := by
    ext object
    rw [all, allToo, same]
  subst sameObjects
  rw [expansions] at expansionsToo
  rw [drop] at dropToo
  rw [← same] at balanceToo
  have total : lost.sum + lostToo.length + (expanded + droppedToo) =
      lostToo.sum + lost.length + (expandedToo + dropped) := by omega
  have words := congrArg UInt64.ofNat total
  rw [UInt64.ofNat_add _ (expanded + droppedToo), UInt64.ofNat_add _ (expandedToo + dropped),
    UInt64.ofNat_add expanded, UInt64.ofNat_add expandedToo, expansionsToo, dropToo] at words
  exact (UInt64.add_left_inj _).mp words

end Runs

/-- **The counters of a store reconcile with what it holds, but for abandoned histories:** after any
calls on an empty store, accepted or refused, pushes were counted as often as there are references
with a response, and histories as often as there are entries in them or dropped from them, once
those that refused pushes counted are set apart. -/
theorem reconciled_performAll (root : Option String) (calls : List Call) :
    let store : Ledger Medium := { backend := Medium.blank root }
    ∃ contents, Reconciled (store.performAll calls).2 contents (store.abandoned calls) := by
  intro store
  exact (reconciled_blank root).performAll calls

/-- **Without replacements the counters reconcile with what the store holds.** -/
theorem reconciled_of_plain (root : Option String) {calls : List Call}
    (plain : ∀ call ∈ calls, call.isReplace = false) :
    let store : Ledger Medium := { backend := Medium.blank root }
    ∃ contents, Reconciled (store.performAll calls).2 contents [] := by
  intro store
  have nothing : store.abandoned calls = [] :=
    abandoned_of_plain (Medium.holds_blank root) Contents.logged_empty plain
  obtain ⟨contents, reconciled⟩ := (reconciled_blank root).performAll calls
  rw [nothing] at reconciled
  exact ⟨contents, reconciled⟩

/-- A second lamp, made together with the first one. -/
def otherLamp : ObjectRef := ⟨⟨1⟩, 1⟩

/-- Both lamps are made and the second one is switched, but the response that switched it is
replaced by an empty one before both are switched. -/
def lampsSwitched : List Call :=
  let switched (lamps : List ObjectRef) : Response :=
    .gameteCreation (lamps.map fun lamp =>
      .field lamp ⟨"Lamp", "state", .string⟩ (.string "on")) lamp
  [.push ⟨1⟩ lampRequest (.gameteCreation
      [.classTag lamp "Lamp" ⟨0⟩, .classTag otherLamp "Lamp" ⟨0⟩] lamp),
    .push ⟨2⟩ lampRequest (switched [otherLamp]), .replace ⟨2⟩ lampRequest (switched []),
    .push ⟨3⟩ lampRequest (switched [lamp, otherLamp])]

/-- **A refused push may count a history that is not written:** that of the first lamp, when the
history of the second one is found to be torn. -/
theorem not_reconciled : ¬ ∀ calls : List Call, ∃ contents, Reconciled
    (performAll { backend := Medium.blank none : Ledger Medium } calls).2 contents [] := by
  intro reconcile
  obtain ⟨contents, always⟩ := reconcile lampsSwitched
  obtain ⟨others, reconciled⟩ := (reconciled_blank none).performAll lampsSwitched
  have lost : abandoned { backend := Medium.blank none : Ledger Medium } lampsSwitched = [0] := by
    decide +kernel
  rw [lost] at reconciled
  exact absurd (always.lost_eq reconciled) (by decide)

end Ledger

end ObjectLedger
