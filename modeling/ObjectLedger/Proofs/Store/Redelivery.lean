/-
**Transactions that are delivered again to a store.**

* `Ledger.deliver`: a known transaction is overwritten, a new one is pushed.
* `Memory.CatchesUp`: records that catch up with those of another store, whatever is committed.
* **`Memory.CatchesUp.deliver`**: what the other store accepted as new is accepted, and the records go
  on catching up.
-/
import ObjectLedger.Proofs.Store.Arising

namespace ObjectLedger

/-! ### Deliveries -/

/-- A transaction that was run elsewhere. -/
structure Delivery where
  reference : TransactionRef
  request : Request
  response : Response

/-- The call that records a delivery, of a known transaction or of a new one. -/
def Delivery.call (delivery : Delivery) (known : Bool) : Ledger.Call :=
  if known then .replace delivery.reference delivery.request delivery.response
  else .push delivery.reference delivery.request delivery.response

/-- The binary forms of the request and of the response can be written. -/
def Delivery.Encodable (delivery : Delivery) : Prop :=
  Codec.request.oversize? delivery.request = none ∧
    Codec.response.oversize? delivery.response = none

theorem Delivery.Encodable.call {delivery : Delivery} (encodable : delivery.Encodable)
    (known : Bool) : (delivery.call known).Encodable := by
  cases known <;> exact encodable

namespace Ledger

section Deliver

variable {σ τ : Type} [Backend σ] [Backend τ] {ledger pushed first : Ledger σ} {second : Ledger τ}
  {reference : TransactionRef} {request : Request} {response : Response} {delivery : Delivery}

/-- Records a delivery: over the response of a known transaction, or as a new one. -/
def deliver (ledger : Ledger σ) (delivery : Delivery) : Except StoreError Unit × Ledger σ :=
  match Backend.response ledger.backend .uncommitted delivery.reference with
  | .error cause => (.error cause, ledger)
  | .ok found => ledger.perform (delivery.call found.isSome)

/-- Stores that give the same answers accept the same deliveries. -/
theorem deliver_related (first : Ledger σ) (second : Ledger τ) (related : σ → τ → Prop)
    (agree : Backend.answers first.backend .uncommitted =
      Backend.answers second.backend .uncommitted)
    (before : related first.backend second.backend)
    (write : ∀ known change, (delivery.call known).Writes change →
      related (Backend.write first.backend change) (Backend.write second.backend change)) :
    (first.deliver delivery).1 = (second.deliver delivery).1 ∧
      related (first.deliver delivery).2.backend (second.deliver delivery).2.backend := by
  have known : Backend.response first.backend .uncommitted =
      Backend.response second.backend .uncommitted := congrArg Answers.response agree
  unfold deliver
  rw [known]
  cases Backend.response second.backend .uncommitted delivery.reference with
  | error cause => exact ⟨rfl, before⟩
  | ok found =>
    refine perform_related first second related _ agree before (write found.isSome) fun commits => ?_
    unfold Delivery.call at commits
    split at commits <;> cases commits

/-- What a push that succeeds has found and written. -/
theorem push_eq_ok (ran : ledger.push reference request response = (.ok (), pushed)) :
    ∃ histories manifest, newManifest ledger.backend reference request response = .ok manifest ∧
      pushed.backend = Backend.write ledger.backend
        (writeTransaction reference request response histories manifest) := by
  rcases ledger.push_cases reference request response with
    ⟨_, _, -, refused⟩ | ⟨histories, manifest, _, accepts, accepted⟩
  · cases ran.symm.trans refused
  · cases ran.symm.trans accepted
    exact ⟨histories, manifest, accepts.named, rfl⟩

/-- A push that is refused changes nothing but counters. -/
theorem eq_of_refused {refused : Ledger σ} {cause : StoreError}
    (ran : ledger.push reference request response = (.error cause, refused)) :
    refused = { ledger with metrics := refused.metrics } := by
  rcases ledger.push_cases reference request response with
    ⟨_, _, -, same⟩ | ⟨_, _, _, -, accepted⟩
  · cases ran.symm.trans same
    rfl
  · cases ran.symm.trans accepted

/-- What can be named in one store can be named in another, if that one has no manifest either. -/
theorem newManifest_of_free {one : σ} (other : τ) {manifest : Option ObjectRef}
    (free : Backend.manifest one .uncommitted = .ok none →
      Backend.manifest other .uncommitted = .ok none)
    (named : newManifest one reference request response = .ok manifest) :
    newManifest other reference request response = .ok manifest := by
  unfold newManifest at named ⊢
  split at named
  · rename_i ends
    rw [if_pos ends]
    split at named
    · split at named
      · cases named
      · cases named
      · rename_i nothing
        rw [free nothing]
        exact named
    · cases named
  · rw [if_neg ‹_›]
    exact named

end Deliver

/-- Writing histories changes nothing else. -/
theorem foldl_putHistory (histories : List (ObjectRef × List TransactionRef)) (records : Records) :
    ∃ written, histories.foldl (fun records entry => records.putHistory entry.1 entry.2) records =
      { records with histories := written } := by
  induction histories generalizing records with
  | nil => exact ⟨_, rfl⟩
  | cons entry rest ih => exact ih (records.putHistory entry.1 entry.2)

theorem manifest_writeTransaction (reference : TransactionRef) (request : Request)
    (response : Response) (histories : List (ObjectRef × List TransactionRef))
    (manifest : Option ObjectRef) (records : Records) :
    (writeTransaction reference request response histories manifest records).manifest =
      manifest.or records.manifest := by
  obtain ⟨written, same⟩ := foldl_putHistory histories
    (records.putTransaction reference request response)
  cases manifest with
  | none => exact (congrArg Records.manifest same :)
  | some object => rfl

theorem requests_writeTransaction (reference : TransactionRef) (request : Request)
    (response : Response) (histories : List (ObjectRef × List TransactionRef))
    (manifest : Option ObjectRef) (records : Records) :
    (writeTransaction reference request response histories manifest records).requests =
      records.requests.insert reference request := by
  obtain ⟨written, same⟩ := foldl_putHistory histories
    (records.putTransaction reference request response)
  cases manifest with
  | none => exact (congrArg Records.requests same :)
  | some object => exact (congrArg Records.requests same :)

end Ledger

/-! ### Catching up -/

/-- No history is too long for its length to be written. -/
def Contents.Short (contents : Contents) : Prop :=
  ∀ object, (contents.histories object).length ≤ Codec.maxLength

theorem Contents.Short.encodable {memory : Memory} (short : memory.contents.Short)
    (writable : memory.pending.Writable) : Disk.Encodable memory.pending := by
  refine writable.encodable fun object history told => ?_
  obtain rfl : memory.contents.histories object = history := Except.ok.inj told
  exact short object

/-- No history that an interrupted commit leaves is too long. -/
theorem Contents.Between.short {before after left : Contents} (between : Between before after left)
    (shortBefore : before.Short) (shortAfter : after.Short) : left.Short := by
  intro object
  rcases between.histories object with same | ⟨same, -⟩
  · rw [same]
    exact shortBefore object
  · rw [same]
    exact shortAfter object

namespace Memory

variable {skipped : TransactionRef → Prop} {final : TransactionRef → Option Response}
  {tracked : ObjectRef → Prop} {early : Prop} {left : Contents}

/-- The manifest, a pending one included. -/
def named? (memory : Memory) : Option ObjectRef :=
  memory.lookup .uncommitted Records.manifest

theorem named?_commit (memory : Memory) : (Backend.commit memory).2.named? = memory.named? :=
  Except.ok.inj (congrArg Answers.manifest (memory.answers_commit .uncommitted))

/-- What a push that succeeds makes of the contents and of the manifest. -/
theorem pushed_of_push {ledger pushed : Ledger Memory} {reference : TransactionRef}
    {request : Request} {response : Response}
    (ran : ledger.push reference request response = (.ok (), pushed)) :
    ledger.backend.contents.Pushed reference response pushed.backend.contents ∧
      ∃ manifest, Ledger.newManifest ledger.backend reference request response = .ok manifest ∧
        pushed.backend.named? = manifest.or ledger.backend.named? := by
  obtain ⟨histories, manifest, named, wrote⟩ := Ledger.push_eq_ok ran
  have holds : ledger.Holds ledger.backend.contents := rfl
  have push := Ledger.holds_push holds reference request response
  rw [ran] at push
  obtain ⟨after, rfl, isPushed⟩ : ∃ after, pushed.backend.contents = after ∧ _ := push
  refine ⟨isPushed, manifest, named, ?_⟩
  rw [wrote]
  show ((Ledger.writeTransaction _ _ _ _ _ _).manifest <|> _) = _
  rw [Ledger.manifest_writeTransaction]
  cases manifest <;> rfl

/-- Records that catch up with other ones. Those that do so early must have no manifest before the
other ones have it. -/
structure CatchesUp (skipped : TransactionRef → Prop) (final : TransactionRef → Option Response)
    (tracked : ObjectRef → Prop) (early : Prop) (left : Contents) (plain again : Memory) :
    Prop where
  contents : Contents.CatchesUp skipped final tracked left plain.contents again.contents
  free : early → plain.named? = none → again.named? = none

namespace CatchesUp

variable {plain plain' again : Ledger Memory} {reference : TransactionRef} {request : Request}
  {response : Response} {delivery : Delivery}

theorem commit (catchesUp : CatchesUp skipped final tracked early left plain.backend again.backend) :
    CatchesUp skipped final tracked early left plain.backend (Backend.commit again.backend).2 where
  contents := by
    rw [contents_commit]
    exact catchesUp.contents
  free := by
    rw [named?_commit]
    exact catchesUp.free

/-- A response that was there is overwritten by itself. -/
theorem replace (catchesUp : CatchesUp skipped final tracked early left plain.backend again.backend)
    (accepted : plain.push reference request response = (.ok (), plain'))
    (told : final reference = some response) (isSkipped : skipped reference)
    (present : left.responses reference = some response) :
    ∃ again', again.replace reference request response = (.ok (), again') ∧
      CatchesUp skipped final tracked early left plain'.backend again'.backend ∧
      again'.backend.contents = again.backend.contents := by
  obtain ⟨pushed, manifest, -, named⟩ := pushed_of_push accepted
  have holds : again.Holds again.backend.contents := rfl
  have found : again.backend.contents.responses reference = some response := by
    rw [catchesUp.contents.responses, pushed.fresh, present]
    rfl
  have replaced := Ledger.holds_replace holds reference request response
  unfold Ledger.replace at replaced ⊢
  rw [holds.response_eq, Contents.look, found] at replaced ⊢
  have same : _ = again.backend.contents := replaced.2.trans (Contents.putResponse_self found)
  refine ⟨_, rfl, ⟨?_, fun isEarly nothing => ?_⟩, same⟩
  · rw [same]
    exact catchesUp.contents.skip pushed told isSkipped present
  · rw [named, Option.or_eq_none_iff] at nothing
    exact catchesUp.free isEarly nothing.2

/-- Another response is pushed. -/
theorem push (catchesUp : CatchesUp skipped final tracked early left plain.backend again.backend)
    (accepted : plain.push reference request response = (.ok (), plain'))
    (told : final reference = some response) (taken : ¬ skipped reference)
    (missing : left.responses reference = none) (isEarly : early) (all : ∀ object, tracked object) :
    ∃ again', again.push reference request response = (.ok (), again') ∧
      CatchesUp skipped final tracked early left plain'.backend again'.backend ∧
      again.backend.contents.Pushed reference response again'.backend.contents := by
  obtain ⟨pushed, manifest, names, named⟩ := pushed_of_push accepted
  have holds : again.Holds again.backend.contents := rfl
  have fresh : again.backend.contents.responses reference = none := by
    rw [catchesUp.contents.responses, pushed.fresh, missing]
    rfl
  have namesToo := Ledger.newManifest_of_free again.backend
    (fun nothing => congrArg Except.ok (catchesUp.free isEarly (Except.ok.inj nothing))) names
  have isOpen : ∀ object, response.updatesOf object ≠ [] → again.backend.contents.Open object :=
    fun object updated => catchesUp.contents.isOpen object (all object)
      (pushed.open_before catchesUp.contents.plain_recorded updated)
  obtain ⟨again', ran⟩ := Ledger.exists_push_of_open holds isOpen fresh namesToo
  obtain ⟨pushedToo, _, same, namedToo⟩ := pushed_of_push ran
  obtain rfl := Except.ok.inj (namesToo.symm.trans same)
  refine ⟨again', ran, ⟨catchesUp.contents.take pushed told taken all pushedToo,
    fun isEarly nothing => ?_⟩, pushedToo⟩
  rw [named, Option.or_eq_none_iff] at nothing
  rw [namedToo, Option.or_eq_none_iff]
  exact ⟨nothing.1, catchesUp.free isEarly nothing.2⟩

/-- **What the other store accepted as new is accepted again**, and the records go on catching up:
a response that was there leaves the contents as they are, and another one is pushed. -/
theorem deliver (again : Ledger Memory)
    (catchesUp : CatchesUp skipped final tracked early left plain.backend again.backend)
    (accepted : plain.perform (delivery.call false) = (.ok (), plain'))
    (told : final delivery.reference = some delivery.response)
    (known : skipped delivery.reference ↔ (left.responses delivery.reference).isSome)
    (whole : ¬ skipped delivery.reference → early ∧ ∀ object, tracked object) :
    ∃ again', again.deliver delivery = (.ok (), again') ∧
      CatchesUp skipped final tracked early left plain'.backend again'.backend ∧
      (again'.backend.contents = again.backend.contents ∨ ¬ skipped delivery.reference ∧
        again.backend.contents.Pushed delivery.reference delivery.response
          again'.backend.contents) := by
  obtain ⟨reference, request, response⟩ := delivery
  have accepted : plain.push reference request response = (.ok (), plain') := accepted
  have fresh := (pushed_of_push accepted).1.fresh
  have look : Backend.response again.backend .uncommitted reference =
      .ok (left.responses reference) := by
    refine congrArg Except.ok ((catchesUp.contents.responses reference).trans ?_)
    rw [fresh, Option.none_or]
  unfold Ledger.deliver
  rw [look]
  cases found : left.responses reference with
  | some earlier =>
    obtain rfl : earlier = response := Option.some.inj
      ((catchesUp.contents.left_final reference earlier found).symm.trans told)
    have isSkipped : skipped reference := known.mpr (Option.isSome_of_eq_some found)
    obtain ⟨again', ran, goesOn, same⟩ := catchesUp.replace accepted told isSkipped found
    exact ⟨again', ran, goesOn, Or.inl same⟩
  | none =>
    have taken : ¬ skipped reference := fun isSkipped =>
      Option.isSome_iff_ne_none.mp (known.mp isSkipped) found
    obtain ⟨isEarly, all⟩ := whole taken
    obtain ⟨again', ran, goesOn, pushed⟩ := catchesUp.push accepted told taken found isEarly all
    exact ⟨again', ran, goesOn, Or.inr ⟨taken, pushed⟩⟩

end CatchesUp

/-! ### After an interrupted commit -/

/-- All deliveries were pushed, and nothing else was done. -/
structure AllPushed (deliveries : List Delivery) (before after : Memory) : Prop where
  committed : after.committed = before.committed
  kept : ∀ entry response, before.contents.responses entry = some response →
    after.contents.responses entry = some response
  fresh : ∀ delivery ∈ deliveries, before.contents.responses delivery.reference = none
  pushed : ∀ delivery ∈ deliveries,
    after.contents.responses delivery.reference = some delivery.response
  recorded : before.contents.Recorded → after.contents.Recorded
  length_le : ∀ object, (after.contents.histories object).length ≤
    (before.contents.histories object).length + deliveries.length
  writable : (∀ delivery ∈ deliveries, delivery.Encodable) → before.pending.Writable →
    after.pending.Writable

theorem allPushed {ledger : Ledger Memory} {deliveries : List Delivery}
    (accepted : ∀ result ∈ (ledger.performAll (deliveries.map (·.call false))).1, result = .ok ()) :
    AllPushed deliveries ledger.backend
      (ledger.performAll (deliveries.map (·.call false))).2.backend := by
  induction deliveries generalizing ledger with
  | nil =>
    exact ⟨rfl, fun _ _ found => found, fun _ absent => (by cases absent),
      fun _ absent => (by cases absent), id, fun _ => Nat.le_refl _, fun _ => id⟩
  | cons delivery rest ih =>
    obtain ⟨headAccepted, restAccepted⟩ := List.forall_mem_cons.mp accepted
    have last := ih restAccepted
    have ran : ledger.perform (delivery.call false) =
        (.ok (), (ledger.perform (delivery.call false)).2) := Prod.ext headAccepted rfl
    obtain ⟨pushed, -⟩ := pushed_of_push ran
    have written : ledger.backend.pending.Writable → delivery.Encodable →
        (ledger.perform (delivery.call false)).2.backend.pending.Writable := fun writable fits =>
      (Ledger.perform_related ledger ledger (fun after _ => after.pending.Writable)
        (delivery.call false) rfl writable
        (fun change writes => writes.writable (fits.call false) writable)
        fun commits => by cases commits).2
    exact
      { committed := last.committed.trans (Ledger.committed_perform ledger rfl)
        kept := fun entry response found =>
          last.kept entry response (pushed.responses_of_some found)
        fresh := List.forall_mem_cons.mpr ⟨pushed.fresh, fun other member => by
          have absent := last.fresh other member
          by_contra present
          obtain ⟨response, found⟩ := Option.ne_none_iff_exists'.mp present
          rw [pushed.responses_of_some found] at absent
          cases absent⟩
        pushed := List.forall_mem_cons.mpr
          ⟨last.kept _ _ pushed.response_self, last.pushed⟩
        recorded := fun recorded => last.recorded (pushed.recorded recorded)
        length_le := fun object => by
          have more := pushed.length_histories_le object
          rw [List.length_cons, Nat.add_comm rest.length, ← Nat.add_assoc]
          exact (last.length_le object).trans (Nat.add_le_add_right more _)
        writable := fun fits writable =>
          last.writable (fun other member => fits other (List.mem_cons_of_mem _ member))
            (written writable (fits delivery List.mem_cons_self)) }

variable {memory after : Memory} {deliveries : List Delivery}

/-- The deliveries whose responses are left need not extend histories. -/
def Skips (deliveries : List Delivery) (left : Contents) (entry : TransactionRef) : Prop :=
  (∃ delivery ∈ deliveries, delivery.reference = entry) ∧ (left.responses entry).isSome

/-- Entries are not skipped if they are of no delivery whose response is left. -/
theorem forall_not_skips_iff {left : Contents} {entries : List TransactionRef} :
    (∀ entry ∈ entries, ¬ Skips deliveries left entry) ↔
      ∀ delivery ∈ deliveries, delivery.reference ∈ entries →
        left.responses delivery.reference = none := by
  constructor
  · intro taken delivery delivered member
    exact Option.not_isSome_iff_eq_none.mp fun present =>
      taken _ member ⟨⟨delivery, delivered, rfl⟩, present⟩
  · rintro missing _ member ⟨⟨delivery, delivered, rfl⟩, present⟩
    rw [missing delivery delivered member] at present
    cases present

namespace AllPushed

/-- The histories before the deliveries name none of them. -/
theorem not_skips (pushed : AllPushed deliveries memory after) (recorded : memory.contents.Recorded)
    {object : ObjectRef} {entry : TransactionRef} (member : entry ∈ memory.contents.histories object)
    (left : Contents) : ¬ Skips deliveries left entry := by
  rintro ⟨⟨delivery, delivered, rfl⟩, -⟩
  have known := recorded object _ member
  rw [pushed.fresh delivery delivered] at known
  cases known

/-- Contents between those before the deliveries and those after them catch up with the former. -/
theorem catchesUp_of_between (pushed : AllPushed deliveries memory after)
    (recorded : memory.contents.Recorded) {left : Contents}
    (between : memory.contents.Between after.contents left) :
    Contents.CatchesUp (Skips deliveries left) after.contents.responses
      (fun object => left.histories object = memory.contents.histories object) left memory.contents
      left := by
  have kept : ∀ entry response, memory.contents.responses entry = some response →
      left.responses entry = some response := by
    intro entry response found
    rcases between.responses entry with told | told
    · rw [told, pushed.kept entry response found]
    · rw [told, found]
  have grows : ∀ entry, (memory.contents.responses entry).isSome →
      (after.contents.responses entry).isSome := by
    intro entry known
    obtain ⟨response, found⟩ := Option.isSome_iff_exists.mp known
    rw [pushed.kept entry response found]
    rfl
  exact
    { plain_final := pushed.kept
      left_final := fun entry response found => by
        rcases between.responses entry with told | told
        · rw [← told, found]
        · exact pushed.kept entry response (told ▸ found)
      responses := fun entry => by
        cases found : memory.contents.responses entry with
        | none => rfl
        | some response => exact kept entry response found
      plain_recorded := recorded
      again_recorded := between.recorded grows recorded (pushed.recorded recorded)
      behind := fun object same => by
        rw [same]
        exact .refl fun entry member => pushed.not_skips recorded member left
      isOpen := fun object same isOpen entry member => by
        rw [same] at member
        obtain ⟨response, found, updates⟩ := isOpen entry member
        exact ⟨response, kept entry response found, updates⟩
      others := fun _ _ => rfl }

variable {files written : List (FilePath × Disk.Contents)}

theorem settled_eq (pushed : AllPushed deliveries memory after) (settled : memory.pending = {}) :
    after.settledContents = memory.contents := by
  rw [contents_eq_settled memory settled]
  unfold settledContents
  rw [pushed.committed]

/-- A commit that was interrupted before the last response has not come to the manifest. -/
theorem manifest_not_written (pushed : AllPushed deliveries memory after)
    (settled : memory.pending = {}) (inOrder : Disk.InOrder after.pending files)
    (start : written <+: files) {delivery : Delivery} (member : delivery ∈ deliveries)
    (absent : (after.interrupted (written.map Prod.fst)).contents.responses delivery.reference =
      none) : Layout.manifest ∉ written.map Prod.fst := by
  intro reached
  have present := pushed.pushed delivery member
  cases found : after.pending.responses.get? delivery.reference with
  | none =>
    rw [responses_eq_settled found, pushed.settled_eq settled, pushed.fresh delivery member]
      at present
    cases present
  | some response =>
    have place : Layout.response delivery.reference ∈ written.map Prod.fst :=
      inOrder.mem_written_of_manifest start reached .response found
    rw [responses_interrupted, if_pos place, present] at absent
    cases absent

/-- **What an interrupted commit of deliveries leaves catches up** with the store before them: each
history that was not written is as it was, and so are all if some response is missing. -/
theorem catchesUp (pushed : AllPushed deliveries memory after) (recorded : memory.Recorded)
    (settled : memory.pending = {}) (inOrder : Disk.InOrder after.pending files)
    (start : written <+: files) :
    let left := (after.interrupted (written.map Prod.fst)).contents
    let early := ∃ delivery ∈ deliveries, left.responses delivery.reference = none
    memory.contents.Between after.contents left ∧
      CatchesUp (Skips deliveries left) after.contents.responses
        (fun object => left.histories object = memory.contents.histories object) early left memory
        (after.interrupted (written.map Prod.fst)) ∧
      (early → ∀ object, left.histories object = memory.contents.histories object) := by
  intro left early
  have between := after.between_interrupted inOrder start
  rw [pushed.settled_eq settled] at between
  refine ⟨between, ⟨pushed.catchesUp_of_between recorded.all between, fun isEarly free => ?_⟩,
    fun ⟨delivery, member, absent⟩ object => ?_⟩
  · obtain ⟨delivery, member, absent⟩ := isEarly
    have early := pushed.manifest_not_written settled inOrder start member absent
    refine (after.lookup_interrupted _ .uncommitted .manifest ()).trans ?_
    rw [if_neg (show RecordKind.place .manifest () ∉ written.map Prod.fst from early)]
    obtain ⟨_, _⟩ := memory
    cases settled
    exact (congrArg Records.manifest pushed.committed).trans free
  · rcases between.histories object with told | ⟨-, whole⟩
    · exact told
    · rw [whole, pushed.pushed delivery member] at absent
      cases absent

/-- **The histories that a store that caught up has**: those of the store that it caught up with, if
they were there from the start, or name nothing that was skipped. -/
theorem histories_eq_iff (pushed : AllPushed deliveries memory after) {left : Contents}
    (between : memory.contents.Between after.contents left) {early : Prop} {last : Memory}
    (recorded : memory.contents.Recorded)
    (catchesUp : CatchesUp (Skips deliveries left) after.contents.responses
      (fun object => left.histories object = memory.contents.histories object) early left after last)
    (object : ObjectRef) :
    last.contents.histories object = after.contents.histories object ↔
      left.histories object = after.contents.histories object ∨
        ∀ entry ∈ after.contents.histories object, ¬ Skips deliveries left entry := by
  by_cases isTracked : left.histories object = memory.contents.histories object
  · have behind := catchesUp.contents.behind object isTracked
    rw [behind.eq_iff]
    refine (or_iff_right_of_imp fun same => ?_).symm
    rw [← same, isTracked]
    exact fun entry member => pushed.not_skips recorded member left
  · have whole := (between.histories object).resolve_left isTracked
    have others := catchesUp.contents.others object isTracked
    exact iff_of_true (others.trans whole.1) (Or.inl whole.1)

/-- A store that caught up has the same responses. -/
theorem responses_eq {left : Contents} {early : Prop} {last : Memory} {tracked : ObjectRef → Prop}
    {skipped : TransactionRef → Prop}
    (catchesUp : CatchesUp skipped after.contents.responses tracked early left after last) :
    last.contents.responses = after.contents.responses := by
  funext entry
  rw [catchesUp.contents.responses]
  cases found : after.contents.responses entry with
  | some response => rfl
  | none =>
    cases present : left.responses entry with
    | none => rfl
    | some response =>
      have told := catchesUp.contents.left_final entry response present
      rw [found] at told
      cases told

end AllPushed

end Memory

end ObjectLedger
