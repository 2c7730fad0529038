/-
**Histories stay short.**

* `History.Condenses`: a history keeps the newest and the oldest reference of a log, and of those
  between them only some with a key that no newer entry has. **`History.Condenses.prolong`**: an
  extension keeps it so. `History.Condenses.length_le`: it has at most one entry more than there are
  keys.
* `Ledger.accepted`: the pushes that a store accepts along calls. `Contents.Logged`: contents that are
  made by pushes. **`Contents.Logged.push`**: one more push keeps them so.
* `Ledger.push_eq_of_intact`: over intact histories a push is refused only because its reference is
  taken, or the manifest cannot be named.
* **`Ledger.condensed_performAll`**: after any pushes, rejections and commits every history condenses
  the pushes about its object, and no push was refused because of a history.
-/
import Mathlib.Data.Finset.Card
import ObjectLedger.Proofs.Store.Catching
import ObjectLedger.Proofs.Store.Naming

namespace ObjectLedger

/-! ### Condensed logs -/

namespace History

variable {keys other : TransactionRef → List UpdateKey} {covered : List UpdateKey}
  {log history entries : List TransactionRef} {reference : TransactionRef}

/-- Each entry has a key that no newer entry has. -/
def Needed (keys : TransactionRef → List UpdateKey) (entries : List TransactionRef) : Prop :=
  ∀ newer entry older, entries = newer ++ entry :: older →
    ∃ key ∈ keys entry, ∀ other ∈ newer, key ∉ keys other

/-- The history keeps of the log, both with their newest entries first, the newest reference and the
oldest one, and others only if they have a key that no newer entry of the history has. -/
structure Condenses (keys : TransactionRef → List UpdateKey) (log history : List TransactionRef) :
    Prop where
  sublist : history.Sublist log
  newest : history.head? = log.head?
  oldest : history.getLast? = log.getLast?
  needed : Needed keys history.dropLast

/-- What is kept has a key that neither is covered nor is one of a newer entry. -/
theorem exists_key_of_kept {newer older : List TransactionRef} {entry : TransactionRef}
    (split : kept keys covered entries = newer ++ entry :: older) :
    ∃ key ∈ keys entry, key ∉ covered ∧ ∀ other ∈ newer, key ∉ keys other := by
  induction entries generalizing covered newer with
  | nil => exact absurd split (by simp [kept])
  | cons first rest ih =>
    rw [kept] at split
    split at split
    · obtain ⟨key, member, fresh, apart⟩ := ih split
      exact ⟨key, member, fun inside => fresh (List.mem_append_left _ inside), apart⟩
    · rename_i uncovered
      rcases List.cons_eq_append_iff.mp split with ⟨rfl, same⟩ | ⟨others, rfl, same⟩
      · obtain ⟨rfl, -⟩ := List.cons.inj same
        obtain ⟨key, member, fresh⟩ : ∃ key ∈ keys entry, key ∉ covered := by
          simpa using uncovered
        exact ⟨key, member, fresh, fun _ absurdity => by cases absurdity⟩
      · obtain ⟨key, member, fresh, apart⟩ := ih same
        rw [List.mem_append, not_or] at fresh
        refine ⟨key, member, fresh.1, fun other inside => ?_⟩
        rcases List.mem_cons.mp inside with rfl | inside
        · exact fresh.2
        · exact apart other inside

/-- Entries that are needed have as many keys at least. -/
theorem Needed.length_le (needed : Needed keys entries) :
    entries.length ≤ (entries.flatMap keys).toFinset.card := by
  induction entries using List.reverseRecOn with
  | nil => exact Nat.zero_le _
  | append_singleton entries entry ih =>
    have before : Needed keys entries := fun newer other older same =>
      needed newer other (older ++ [entry]) (by rw [same]; simp)
    obtain ⟨key, member, fresh⟩ := needed entries entry [] rfl
    have apart : key ∉ (entries.flatMap keys).toFinset := by simpa using fresh
    have inside : insert key (entries.flatMap keys).toFinset ⊆
        ((entries ++ [entry]).flatMap keys).toFinset := by
      intro other found
      rcases Finset.mem_insert.mp found with rfl | found
      · simpa using Or.inr member
      · rw [List.mem_toFinset] at found ⊢
        rw [List.flatMap_append]
        exact List.mem_append_left _ found
    calc (entries ++ [entry]).length = entries.length + 1 := List.length_append
      _ ≤ (entries.flatMap keys).toFinset.card + 1 := Nat.succ_le_succ (ih before)
      _ = (insert key (entries.flatMap keys).toFinset).card :=
        (Finset.card_insert_of_notMem apart).symm
      _ ≤ _ := Finset.card_le_card inside

namespace Condenses

theorem nil (keys : TransactionRef → List UpdateKey) : Condenses keys [] [] where
  sublist := List.Sublist.refl _
  newest := rfl
  oldest := rfl
  needed _ _ _ split := absurd split (by simp)

theorem congr (condenses : Condenses keys log history)
    (same : ∀ entry ∈ log, other entry = keys entry) : Condenses other log history where
  sublist := condenses.sublist
  newest := condenses.newest
  oldest := condenses.oldest
  needed newer entry older split := by
    have inside : ∀ earlier ∈ newer ++ entry :: older, other earlier = keys earlier :=
      fun earlier member =>
        same earlier (condenses.sublist.subset (List.dropLast_subset _ (split ▸ member)))
    obtain ⟨key, member, fresh⟩ := condenses.needed newer entry older split
    refine ⟨key, (inside entry (by simp)).symm ▸ member, fun earlier before => ?_⟩
    rw [inside earlier (List.mem_append_left _ before)]
    exact fresh earlier before

/-- **An extension condenses one reference more.** -/
theorem prolong (condenses : Condenses keys log history) (some : keys reference ≠ []) :
    Condenses keys (reference :: log) (History.prolong keys reference history) := by
  obtain ⟨key, member⟩ := List.exists_mem_of_ne_nil _ some
  rcases List.eq_nil_or_concat' history with rfl | ⟨newer, oldest, rfl⟩
  · have nothing : log = [] := by
      have last := condenses.oldest
      rw [List.getLast?_nil] at last
      exact List.getLast?_eq_none_iff.mp last.symm
    subst nothing
    exact ⟨List.Sublist.refl _, rfl, rfl, fun _ _ _ split =>
      absurd split (by simp [History.prolong, kept])⟩
  · rw [prolong_concat]
    refine ⟨?_, rfl, ?_, ?_⟩
    · refine List.Sublist.cons_cons _ (List.Sublist.trans ?_ condenses.sublist)
      exact kept_sublist.append_right [oldest]
    · have last := condenses.oldest
      rw [List.getLast?_concat] at last
      rw [List.getLast?_concat, List.getLast?_cons, ← last]
      rfl
    · rw [List.dropLast_concat]
      intro before entry older split
      rcases List.cons_eq_append_iff.mp split with ⟨rfl, same⟩ | ⟨others, rfl, same⟩
      · obtain ⟨rfl, -⟩ := List.cons.inj same
        exact ⟨key, member, fun _ absurdity => by cases absurdity⟩
      · obtain ⟨key, member, fresh, apart⟩ := exists_key_of_kept same
        exact ⟨key, member, List.forall_mem_cons.mpr ⟨fresh, apart⟩⟩

/-- **A condensed history has at most one entry more than there are keys.** -/
theorem length_le (condenses : Condenses keys log history) :
    history.length ≤ (log.flatMap keys).toFinset.card + 1 := by
  have short : history.dropLast.length ≤ (history.dropLast.flatMap keys).toFinset.card :=
    condenses.needed.length_le
  have inside : (history.dropLast.flatMap keys).toFinset ⊆ (log.flatMap keys).toFinset := by
    intro key found
    simp only [List.mem_toFinset, List.mem_flatMap] at found ⊢
    obtain ⟨entry, member, provided⟩ := found
    exact ⟨entry, condenses.sublist.subset (List.dropLast_subset _ member), provided⟩
  have fewer := Finset.card_le_card inside
  rw [List.length_dropLast] at short
  omega

end Condenses

end History

/-! ### Accepted pushes -/

/-- A push of a response. -/
structure Push where
  reference : TransactionRef
  response : Response

namespace Push

/-- The push that a call with a result has made. -/
def of? : Ledger.Call × Except StoreError Unit → Option Push
  | (.push reference _ response, .ok ()) => some ⟨reference, response⟩
  | _ => none

/-- The response that was pushed under a reference. -/
def responseOf (pushes : List Push) (reference : TransactionRef) : Option Response :=
  (pushes.find? fun push => push.reference = reference).map Push.response

/-- The references of the pushes that update an object. -/
def about (object : ObjectRef) (pushes : List Push) : List TransactionRef :=
  (pushes.filter fun push => push.response.updatesOf object ≠ []).map Push.reference

variable {pushes : List Push} {reference : TransactionRef} {response : Response}
  {object : ObjectRef}

theorem responseOf_cons (reference : TransactionRef) (response : Response) (pushes : List Push) :
    responseOf (⟨reference, response⟩ :: pushes) =
      Function.update (responseOf pushes) reference (some response) := by
  funext other
  unfold responseOf
  rw [List.find?_cons]
  by_cases same : other = reference
  · simp [same]
  · simp [same, Ne.symm same]

theorem about_cons (reference : TransactionRef) (response : Response) (pushes : List Push)
    (object : ObjectRef) :
    about object (⟨reference, response⟩ :: pushes) =
      if response.updatesOf object = [] then about object pushes
      else reference :: about object pushes := by
  unfold about
  rw [List.filter_cons]
  by_cases untouched : response.updatesOf object = [] <;> simp [untouched]

theorem not_mem_of_responseOf (absent : responseOf pushes reference = none) :
    reference ∉ pushes.map Push.reference := by
  simpa [responseOf] using absent

theorem about_sublist (object : ObjectRef) (pushes : List Push) :
    (about object pushes).Sublist (pushes.map Push.reference) :=
  List.filter_sublist.map Push.reference

/-- Where references are taken once, each of those about an object has a response that updates it. -/
theorem exists_response_of_about (once : (pushes.map Push.reference).Nodup)
    (member : reference ∈ about object pushes) :
    ∃ response, responseOf pushes reference = some response ∧ response.updatesOf object ≠ [] := by
  induction pushes with
  | nil => cases member
  | cons push rest ih =>
    obtain ⟨absent, once⟩ := List.nodup_cons.mp once
    have later : reference ∈ about object rest → ∃ response,
        responseOf (push :: rest) reference = some response ∧ response.updatesOf object ≠ [] := by
      intro member
      obtain ⟨response, found, updates⟩ := ih once member
      have apart : reference ≠ push.reference := by
        rintro rfl
        exact absent ((about_sublist object rest).subset member)
      refine ⟨response, ?_, updates⟩
      rw [responseOf_cons, Function.update_of_ne apart, found]
    rw [about_cons] at member
    split at member
    · exact later member
    · rename_i updates
      rcases List.mem_cons.mp member with rfl | member
      · refine ⟨push.response, ?_, updates⟩
        rw [responseOf_cons, Function.update_self]
      · exact later member

end Push

/-! ### Contents made by pushes -/

namespace Contents

open History

variable {before after contents : Contents} {pushes : List Push} {reference : TransactionRef}
  {response : Response}

/-- The contents are what pushes, the newest first, make of empty ones. -/
structure Logged (contents : Contents) (pushes : List Push) : Prop where
  responses : contents.responses = Push.responseOf pushes
  once : (pushes.map Push.reference).Nodup
  condenses : ∀ object, Condenses (keysIn (Push.responseOf pushes) object)
    (Push.about object pushes) (contents.histories object)

theorem logged_empty : empty.Logged [] where
  responses := rfl
  once := List.nodup_nil
  condenses _ := Condenses.nil _

theorem Logged.intact (logged : contents.Logged pushes) : contents.Intact := by
  intro object entry member
  rw [logged.responses]
  exact Push.exists_response_of_about logged.once ((logged.condenses object).sublist.subset member)

/-- **One more push keeps contents made by pushes.** -/
theorem Logged.push (logged : before.Logged pushes)
    (pushed : before.Pushed reference response after) :
    after.Logged (⟨reference, response⟩ :: pushes) := by
  have absent : Push.responseOf pushes reference = none := by
    rw [← logged.responses]
    exact pushed.fresh
  have recorded : before.Recorded := logged.intact.isSome_responses
  refine ⟨?_, List.nodup_cons.mpr ⟨Push.not_mem_of_responseOf absent, logged.once⟩,
    fun object => ?_⟩
  · rw [pushed.responses, logged.responses, Push.responseOf_cons]
  · let keys := keysIn (Push.responseOf (⟨reference, response⟩ :: pushes)) object
    have given : keysOf response object = keys reference := by
      simp only [keys, keysIn, Push.responseOf_cons, Function.update_self]
      rfl
    have known : ∀ entry, entry ≠ reference →
        keys entry = keysIn (Push.responseOf pushes) object entry := by
      intro entry apart
      simp only [keys, keysIn, Push.responseOf_cons, Function.update_of_ne apart]
    have earlier : Condenses keys (Push.about object pushes) (before.histories object) :=
      (logged.condenses object).congr fun entry member => known entry fun same =>
        Push.not_mem_of_responseOf absent
          (same ▸ (Push.about_sublist object pushes).subset member)
    have shape : after.histories object = if response.updatesOf object = [] then
        before.histories object else prolong keys reference (before.histories object) :=
      pushed.histories_eq recorded given fun entry old found => by
        have apart : entry ≠ reference := by
          rintro rfl
          rw [pushed.fresh] at found
          cases found
        rw [known entry apart, keysIn, ← logged.responses, found]
        rfl
    rw [Push.about_cons, shape]
    split
    · exact earlier
    · rename_i updates
      exact earlier.prolong (given ▸ fun nothing => updates (keysOf_eq_nil.mp nothing))

end Contents

/-! ### Pushes that are refused -/

namespace Ledger

open History

section Refusals

variable {σ : Type} [Backend σ] [LawfulBackend σ] {ledger : Ledger σ} {contents : Contents}

/-- **Over intact histories a push is refused only because its reference is taken, or because the
manifest cannot be named.** -/
theorem push_eq_of_intact (holds : ledger.Holds contents) (intact : contents.Intact)
    (reference : TransactionRef) (request : Request) (response : Response) :
    (ledger.push reference request response).1 =
      if (contents.responses reference).isSome then .error (.alreadyPushed reference)
      else (newManifest ledger.backend reference request response).map fun _ => () := by
  cases found : contents.responses reference with
  | some earlier =>
    simp only [push, holds.response_eq, Contents.look, found]
    rfl
  | none =>
    cases named : newManifest ledger.backend reference request response with
    | error cause =>
      simp only [push, holds.response_eq, Contents.look, found, named]
      rfl
    | ok manifest =>
      obtain ⟨pushed, accepted⟩ := exists_push holds intact found named
      rw [accepted]
      rfl

end Refusals

/-- Over intact histories, where the manifest can be read, these are the errors of a push. -/
theorem refused_of_intact {ledger : Ledger Medium} {contents : Contents}
    (holds : ledger.Holds contents) (intact : contents.Intact) {manifest : Option ObjectRef}
    (readable : Backend.manifest ledger.backend .uncommitted = .ok manifest)
    {reference : TransactionRef} {request : Request} {response : Response} {cause : StoreError}
    (refused : (ledger.push reference request response).1 = .error cause) :
    cause = .alreadyPushed reference ∧ (contents.responses reference).isSome ∨
      cause = .mismatchedInitialization reference ∨
      ∃ earlier, manifest = some earlier ∧ cause = .manifestAlreadySet earlier reference := by
  rw [push_eq_of_intact holds intact] at refused
  split at refused
  · rename_i taken
    cases refused
    exact Or.inl ⟨rfl, taken⟩
  · cases naming : newManifest ledger.backend reference request response with
    | ok named =>
      rw [naming] at refused
      cases refused
    | error reason =>
      rw [naming] at refused
      cases refused
      unfold newManifest at naming
      rw [readable] at naming
      split at naming
      · split at naming
        · cases manifest with
          | none => cases naming
          | some earlier =>
            cases naming
            exact Or.inr (Or.inr ⟨earlier, rfl, rfl⟩)
        · cases naming
          exact Or.inr (Or.inl rfl)
      · cases naming

/-! ### Runs -/

section Runs

variable {σ : Type} [Backend σ]

/-- The calls of a run with their results. -/
def outcomes (ledger : Ledger σ) (calls : List Call) : List (Call × Except StoreError Unit) :=
  calls.zip (ledger.performAll calls).1

/-- The pushes that were accepted along calls, the newest first. -/
def accepted (ledger : Ledger σ) (calls : List Call) : List Push :=
  ((ledger.outcomes calls).filterMap Push.of?).reverse

theorem outcomes_concat (ledger : Ledger σ) (calls : List Call) (call : Call) :
    ledger.outcomes (calls ++ [call]) =
      ledger.outcomes calls ++ [(call, ((ledger.performAll calls).2.perform call).1)] := by
  induction calls generalizing ledger with
  | nil => rfl
  | cons first rest ih => exact congrArg _ (ih _)

theorem accepted_concat (ledger : Ledger σ) (calls : List Call) (call : Call) :
    ledger.accepted (calls ++ [call]) =
      (Push.of? (call, ((ledger.performAll calls).2.perform call).1)).toList ++
        ledger.accepted calls := by
  unfold accepted
  rw [outcomes_concat, List.filterMap_append, List.reverse_append]
  cases found : Push.of? (call, ((ledger.performAll calls).2.perform call).1) <;> simp [found]

end Runs

/-- **One call after others keeps contents made by the accepted pushes**, unless it replaces. -/
theorem logged_perform {σ : Type} [Backend σ] [LawfulBackend σ] {ledger : Ledger σ}
    {contents : Contents} {pushes : List Push} (holds : ledger.Holds contents)
    (logged : contents.Logged pushes) {call : Call} (plain : call.isReplace = false) :
    ∃ after, (ledger.perform call).2.Holds after ∧
      after.Logged ((Push.of? (call, (ledger.perform call).1)).toList ++ pushes) := by
  cases call with
  | push reference request response =>
    have pushing := holds_push holds reference request response
    show ∃ after, (ledger.push reference request response).2.Holds after ∧
      after.Logged ((Push.of? (_, (ledger.push reference request response).1)).toList ++ pushes)
    generalize ledger.push reference request response = result at pushing ⊢
    obtain ⟨_ | ⟨⟨⟩⟩, last⟩ := result
    · exact ⟨contents, pushing, logged⟩
    · obtain ⟨after, holdsAfter, pushed⟩ := pushing
      exact ⟨after, holdsAfter, logged.push pushed⟩
  | replace reference request response => cases plain
  | pushError reference request reason =>
    exact ⟨contents, holds_pushError holds reference request reason, logged⟩
  | commit => exact ⟨contents, holds_commit holds, logged⟩

/-- A store that was empty, after pushes, rejections and commits. -/
structure Grown (ledger : Ledger Medium) (pushes : List Push) : Prop where
  contents : ∃ contents, ledger.Holds contents ∧ contents.Logged pushes
  intact : ledger.backend.Intact
  readable : ∃ manifest, Backend.manifest ledger.backend .uncommitted = .ok manifest

theorem grown_blank (root : Option String) : Grown { backend := Medium.blank root } [] where
  contents := ⟨.empty, Medium.holds_blank root, Contents.logged_empty⟩
  intact := (Medium.found_blank root).bounded.1
  readable := by
    cases root <;> exact ⟨none, rfl⟩

theorem Grown.perform {ledger : Ledger Medium} {pushes : List Push} (grown : ledger.Grown pushes)
    {call : Call} (plain : call.isReplace = false) :
    (ledger.perform call).2.Grown
      ((Push.of? (call, (ledger.perform call).1)).toList ++ pushes) where
  contents := by
    obtain ⟨contents, holds, logged⟩ := grown.contents
    exact logged_perform holds logged plain
  intact := Medium.retains.perform ledger grown.intact call
  readable := by
    obtain ⟨manifest, found⟩ := grown.readable
    rcases manifest_perform grown.intact call with same | ⟨-, _, _, named, _, -, -, found⟩
    · exact ⟨manifest, same.trans found⟩
    · exact ⟨some named, found⟩

theorem grown_performAll (root : Option String) {calls : List Call}
    (plain : ∀ call ∈ calls, call.isReplace = false) :
    (performAll { backend := Medium.blank root } calls).2.Grown
      (accepted { backend := Medium.blank root } calls) := by
  induction calls using List.reverseRecOn with
  | nil => exact grown_blank root
  | append_singleton calls call ih =>
    obtain ⟨earlier, last⟩ := List.forall_mem_append.mp plain
    rw [performAll_append, accepted_concat]
    exact (ih earlier).perform (last call List.mem_cons_self)

/-- A push that was refused in a run was not refused because of a history. -/
theorem refused_of_outcomes (root : Option String) {calls : List Call}
    (plain : ∀ call ∈ calls, call.isReplace = false) {reference : TransactionRef}
    {request : Request} {response : Response} {cause : StoreError}
    (refused : (.push reference request response, .error cause) ∈
      outcomes { backend := Medium.blank root } calls) :
    cause = .alreadyPushed reference ∨ cause = .mismatchedInitialization reference ∨
      ∃ earlier, cause = .manifestAlreadySet earlier reference := by
  induction calls using List.reverseRecOn with
  | nil => cases refused
  | append_singleton calls call ih =>
    obtain ⟨earlier, -⟩ := List.forall_mem_append.mp plain
    rw [outcomes_concat, List.mem_append, List.mem_singleton] at refused
    rcases refused with before | now
    · exact ih earlier before
    · obtain ⟨rfl, failed⟩ := Prod.mk.inj now
      have grown := grown_performAll root earlier
      obtain ⟨contents, holds, logged⟩ := grown.contents
      obtain ⟨manifest, readable⟩ := grown.readable
      exact (refused_of_intact holds logged.intact readable failed.symm).imp And.left
        (Or.imp id fun ⟨named, _, same⟩ => ⟨named, same⟩)

/-- **Histories stay short.** After any pushes, rejections and commits of an empty store the history
of each object condenses the references of the accepted pushes that update it, the newest first. It
holds no reference twice, and at most one more than there are keys that were written. No push is
refused because of a history. -/
theorem condensed_performAll (root : Option String) {calls : List Call}
    (plain : ∀ call ∈ calls, call.isReplace = false) :
    let store : Ledger Medium := { backend := Medium.blank root }
    let pushes := store.accepted calls
    let keys := Contents.keysIn (Push.responseOf pushes)
    (∀ object, ∃ history, (store.performAll calls).2.view.history object = .ok history ∧
      Condenses (keys object) (Push.about object pushes) history ∧ history.Nodup ∧
      history.length ≤ ((Push.about object pushes).flatMap (keys object)).toFinset.card + 1) ∧
    ∀ reference request response cause,
      (.push reference request response, .error cause) ∈ store.outcomes calls →
        cause = .alreadyPushed reference ∨ cause = .mismatchedInitialization reference ∨
          ∃ earlier, cause = .manifestAlreadySet earlier reference := by
  intro store pushes keys
  obtain ⟨contents, holds, logged⟩ := (grown_performAll root plain).contents
  refine ⟨fun object => ?_, fun reference request response cause refused =>
    refused_of_outcomes root plain refused⟩
  have condenses := logged.condenses object
  have once : (Push.about object pushes).Nodup :=
    logged.once.sublist (Push.about_sublist object pushes)
  exact ⟨contents.histories object, holds.history_eq object, condenses,
    once.sublist condenses.sublist, condenses.length_le⟩

/-- A lamp is switched on and off and, after a commit, on again; the second time off is refused. -/
def lampSwitches : List Call :=
  let switched (state : String) : Response :=
    .gameteCreation [.field lamp ⟨"Lamp", "state", .string⟩ (.string state)] lamp
  [.push ⟨1⟩ lampRequest (lampResponse "off"), .push ⟨2⟩ lampRequest (switched "on"),
    .push ⟨3⟩ lampRequest (switched "off"), .pushError ⟨4⟩ lampRequest "refused", .commit,
    .push ⟨5⟩ lampRequest (switched "on"), .push ⟨3⟩ lampRequest (switched "off")]

/-- Of the four accepted pushes about the lamp its history has the last and the first one. -/
theorem condensed_lampSwitches :
    let store : Ledger Medium := { backend := Medium.blank none }
    (∀ call ∈ lampSwitches, call.isReplace = false) ∧
      Push.about lamp (store.accepted lampSwitches) = [⟨5⟩, ⟨3⟩, ⟨2⟩, ⟨1⟩] ∧
      ∃ history, (store.performAll lampSwitches).2.view.history lamp = .ok history ∧
        history.Nodup ∧ history = [⟨5⟩, ⟨1⟩] := by
  intro store
  have plain : ∀ call ∈ lampSwitches, call.isReplace = false := by decide +kernel
  obtain ⟨history, found, -, once, -⟩ := (condensed_performAll none plain).1 lamp
  have same : (store.performAll lampSwitches).2.view.history lamp = .ok [⟨5⟩, ⟨1⟩] := by
    decide +kernel
  exact ⟨plain, by decide +kernel, history, found, once, Except.ok.inj (found.symm.trans same)⟩

end Ledger

end ObjectLedger
