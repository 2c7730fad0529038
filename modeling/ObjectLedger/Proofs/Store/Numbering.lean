/-
**What is recorded under which reference.**

* `TransactionRef.greatest`: the one reference that is not followed by a greater one.
* `Backend.Free`: nothing is recorded under a reference. `Medium.free_write`,
  `Medium.answers_commit`: what calls make of it.
* `Medium.isLatest_write`, `Medium.lastReference_commit`: what they make of the last reference.
* `Medium.Found`: how a store can come about. **`Medium.Found.bounded`**: nothing is recorded under a
  reference above the last one.
-/
import ObjectLedger.Proofs.Except
import ObjectLedger.Proofs.Store.Retry

namespace ObjectLedger

/-! ### References in order -/

namespace TransactionRef

variable {first second third : TransactionRef}

theorem le_iff : first ≤ second ↔ first.value.toNat ≤ second.value.toNat :=
  UInt64.le_iff_toNat_le

theorem lt_iff : first < second ↔ first.value.toNat < second.value.toNat :=
  UInt64.lt_iff_toNat_lt

/-- The last reference that there is. -/
def greatest : TransactionRef := ⟨UInt64.ofNat maxWord⟩

theorem toNat_greatest : greatest.value.toNat = maxWord := rfl

theorem toNat_le (reference : TransactionRef) : reference.value.toNat ≤ maxWord :=
  Nat.le_of_lt_succ reference.value.toNat_lt

theorem toNat_next (reference : TransactionRef) :
    reference.next.value.toNat = min (reference.value.toNat + 1) maxWord :=
  toNat_saturatingAdd reference.value 1

theorem le_next (reference : TransactionRef) : reference ≤ reference.next := by
  have := reference.toNat_le
  rw [le_iff, toNat_next]
  omega

theorem next_le_next (below : first ≤ second) : first.next ≤ second.next := by
  rw [le_iff] at below ⊢
  rw [toNat_next, toNat_next]
  omega

theorem next_le_of_lt (below : first < second) : first.next ≤ second := by
  rw [lt_iff] at below
  rw [le_iff, toNat_next]
  omega

theorem le_trans (below : first ≤ second) (next : second ≤ third) : first ≤ third :=
  UInt64.le_trans below next

theorem eq_greatest (above : greatest ≤ first) : first = greatest := by
  have bound := first.toNat_le
  rw [le_iff, toNat_greatest] at above
  have same : first.value.toNat = greatest.value.toNat := Nat.le_antisymm bound above
  exact congrArg mk (UInt64.toNat_inj.mp same)

/-- Only the greatest reference is not before what is not before the next one. -/
theorem lt_of_next_le (below : first.next ≤ second) (room : second ≠ greatest) :
    first < second := by
  have := first.toNat_le
  have := second.toNat_le
  have last : second.value.toNat ≠ maxWord := fun same => room (eq_greatest (by
    rw [le_iff, toNat_greatest, same]))
  rw [le_iff, toNat_next] at below
  rw [lt_iff]
  omega

theorem not_lt_of_le (below : first ≤ second) : ¬ second < first := by
  rw [le_iff] at below
  rw [lt_iff]
  omega

theorem lt_or_le (first second : TransactionRef) : first < second ∨ second ≤ first := by
  rw [lt_iff, le_iff]
  omega

end TransactionRef

theorem IsLatest.single (last : Option TransactionRef) :
    IsLatest (fun reference => last = some reference) last := by
  cases last with
  | none => exact fun _ absent => by cases absent
  | some value => exact ⟨rfl, fun _ same => by cases same; exact UInt64.le_refl _⟩

/-- The greatest of many stands for them among others. -/
theorem IsLatest.condense {known others : TransactionRef → Prop}
    {first last : Option TransactionRef} (some_ : IsLatest known first)
    (whole : IsLatest (fun reference => known reference ∨ others reference) last) :
    IsLatest (fun reference => first = some reference ∨ others reference) last := by
  have inside : ∀ reference, first = some reference → known reference := by
    rintro reference rfl
    exact some_.1
  cases last with
  | none =>
    rintro reference (same | other)
    · exact whole reference (Or.inl (inside reference same))
    · exact whole reference (Or.inr other)
  | some value =>
    refine ⟨whole.1.imp (fun member => ?_) id, fun reference member =>
      whole.2 reference (member.imp (inside reference) id)⟩
    obtain ⟨greatest, rfl, below⟩ := some_.le member
    have above := whole.2 greatest (Or.inl some_.1)
    exact congrArg (fun word => some (TransactionRef.mk word)) (UInt64.le_antisymm above below)

namespace Records

variable {records : Records} {reference : TransactionRef}

theorem knows_put (records : Records) (put : Put) (reference : TransactionRef) :
    (records.put put).Knows reference ↔
      records.Knows reference ∨ put.reference? = some reference := by
  cases put with
  | transaction other request response =>
    simp only [Knows, Records.put, putTransaction, Table.get?_insert, Put.reference?,
      Option.some.injEq]
    by_cases same : reference = other
    · simp [same]
    · simp [same, Ne.symm same]
  | error other request reason =>
    simp only [Knows, Records.put, putError, Table.get?_insert, Put.reference?, Option.some.injEq]
    by_cases same : reference = other
    · simp [same]
    · simp [same, Ne.symm same]
  | history object history => simp [Knows, Records.put, putHistory, Put.reference?]
  | manifest object => simp [Knows, Records.put, putManifest, Put.reference?]

theorem knows_putAll (puts : List Put) (records : Records) (reference : TransactionRef) :
    (records.putAll puts).Knows reference ↔
      records.Knows reference ∨ ∃ put ∈ puts, put.reference? = some reference := by
  induction puts generalizing records with
  | nil => simp [putAll]
  | cons put rest ih =>
    show ((records.put put).putAll rest).Knows reference ↔ _
    rw [ih, knows_put, or_assoc, List.exists_mem_cons_iff]

end Records

/-! ### Free references -/

/-- Neither a response nor a rejection is recorded under the reference. -/
structure Backend.Free {σ : Type} [Backend σ] (store : σ) (reference : TransactionRef) : Prop where
  response : Backend.response store .uncommitted reference = .ok none
  error : Backend.error store .uncommitted reference = .ok none

theorem Backend.free_congr {σ τ : Type} [Backend σ] [Backend τ] {store : σ} {other : τ}
    (same : Backend.answers store .uncommitted = Backend.answers other .uncommitted)
    {reference : TransactionRef} : Free store reference ↔ Free other reference := by
  have responses : Backend.response store .uncommitted = Backend.response other .uncommitted :=
    congrArg Answers.response same
  have errors : Backend.error store .uncommitted = Backend.error other .uncommitted :=
    congrArg Answers.error same
  constructor
  · rintro ⟨response, error⟩
    exact ⟨responses ▸ response, errors ▸ error⟩
  · rintro ⟨response, error⟩
    exact ⟨responses.symm ▸ response, errors.symm ▸ error⟩

namespace Medium

variable {medium : Medium} {reference : TransactionRef}

/-- The records that are not committed. -/
def pending : Medium → Records
  | memory store => store.pending
  | disk store => store.pending

/-- The last of the committed references. -/
def lastSettled : Medium → Option TransactionRef
  | memory store => store.committed.lastReference
  | disk store => store.lastCommitted

theorem lastReference_eq (medium : Medium) : Backend.lastReference medium =
    latest medium.pending.lastReference medium.lastSettled := by
  cases medium <;> rfl

/-- **The last reference is the greatest one that is pending or settled.** -/
theorem isLatest_lastReference (medium : Medium) :
    IsLatest (fun reference => medium.pending.Knows reference ∨ medium.lastSettled = some reference)
      (Backend.lastReference medium) := by
  rw [lastReference_eq]
  exact medium.pending.isLatest_lastReference.latest (IsLatest.single _)

/-- **After writings the last reference is the greatest of the one before and those written.** -/
theorem isLatest_write (medium : Medium) (puts : List Records.Put) :
    IsLatest (fun reference => Backend.lastReference medium = some reference ∨
        ∃ put ∈ puts, put.reference? = some reference)
      (Backend.lastReference (Backend.write medium (Records.putAll puts))) := by
  refine medium.isLatest_lastReference.condense ?_
  refine (isLatest_lastReference (Backend.write medium (Records.putAll puts))).congr
    fun reference => ?_
  have pending : (Backend.write medium (Records.putAll puts)).pending =
      medium.pending.putAll puts := by
    cases medium <;> rfl
  have settled : (Backend.write medium (Records.putAll puts)).lastSettled = medium.lastSettled := by
    cases medium <;> rfl
  rw [pending, settled, Records.knows_putAll, or_right_comm]

/-- Nothing is recorded where nothing is pending and nothing is committed. -/
theorem free_iff : Backend.Free medium reference ↔
    ¬ medium.pending.Knows reference ∧
      Backend.response medium .committed reference = .ok none ∧
      Backend.error medium .committed reference = .ok none := by
  have responses : Backend.response medium .uncommitted reference = .ok none ↔
      medium.pending.responses.get? reference = none ∧
        Backend.response medium .committed reference = .ok none := by
    cases medium with
    | memory store =>
      show Except.ok (store.pending.responses.get? reference <|> _) = _ ↔
        store.pending.responses.get? reference = none ∧ _
      cases store.pending.responses.get? reference <;> simp [Backend.response, Memory.lookup]
    | disk store =>
      show Disk.overlay .uncommitted (store.pending.responses.get? reference) _ = _ ↔
        store.pending.responses.get? reference = none ∧ _
      cases store.pending.responses.get? reference <;> simp [Backend.response, Disk.overlay]
  have errors : Backend.error medium .uncommitted reference = .ok none ↔
      medium.pending.errors.get? reference = none ∧
        Backend.error medium .committed reference = .ok none := by
    cases medium with
    | memory store =>
      show Except.ok (store.pending.errors.get? reference <|> _) = _ ↔
        store.pending.errors.get? reference = none ∧ _
      cases store.pending.errors.get? reference <;> simp [Backend.error, Memory.lookup]
    | disk store =>
      show Disk.overlay .uncommitted (store.pending.errors.get? reference) _ = _ ↔
        store.pending.errors.get? reference = none ∧ _
      cases store.pending.errors.get? reference <;> simp [Backend.error, Disk.overlay]
  have unknown : ¬ medium.pending.Knows reference ↔
      medium.pending.responses.get? reference = none ∧
        medium.pending.errors.get? reference = none := by
    simp [Records.Knows]
  rw [unknown]
  constructor
  · rintro ⟨response, error⟩
    obtain ⟨one, two⟩ := responses.mp response
    obtain ⟨three, four⟩ := errors.mp error
    exact ⟨⟨one, three⟩, two, four⟩
  · rintro ⟨⟨one, three⟩, two, four⟩
    exact ⟨responses.mpr ⟨one, two⟩, errors.mpr ⟨three, four⟩⟩

/-- **After writings what was free and is not written is free.** -/
theorem free_write (medium : Medium) (puts : List Records.Put) :
    Backend.Free (Backend.write medium (Records.putAll puts)) reference ↔
      Backend.Free medium reference ∧ ¬ ∃ put ∈ puts, put.reference? = some reference := by
  have pending : (Backend.write medium (Records.putAll puts)).pending =
      medium.pending.putAll puts := by
    cases medium <;> rfl
  have responses : Backend.response (Backend.write medium (Records.putAll puts)) .committed reference =
      Backend.response medium .committed reference := by
    cases medium <;> rfl
  have errors : Backend.error (Backend.write medium (Records.putAll puts)) .committed reference =
      Backend.error medium .committed reference := by
    cases medium <;> rfl
  rw [free_iff, free_iff, pending, responses, errors, Records.knows_putAll, not_or, and_right_comm]

/-- A commit, successful or not, changes no answer about uncommitted records. -/
theorem answers_commit (intact : medium.Intact) :
    Backend.answers (Backend.commit medium).2 .uncommitted = Backend.answers medium .uncommitted := by
  cases medium with
  | memory store => exact store.answers_commit .uncommitted
  | disk store =>
    have intact : store.Intact := intact
    show Backend.answers store.commit.2 .uncommitted = Backend.answers store .uncommitted
    cases result : store.commit.1 with
    | ok done => exact (Disk.commits_of_ok result).answers_eq intact.tree intact.proper .uncommitted
    | error cause => exact Disk.retains.answers_eq intact (Prod.ext result rfl)

/-- A commit, successful or not, leaves the last reference. -/
theorem lastReference_commit (intact : medium.Intact) :
    Backend.lastReference (Backend.commit medium).2 = Backend.lastReference medium := by
  cases medium with
  | memory store => exact store.lastReference_commit
  | disk store =>
    have intact : store.Intact := intact
    show Backend.lastReference store.commit.2 = Backend.lastReference store
    cases result : store.commit.1 with
    | ok done =>
      obtain ⟨-, after⟩ := Disk.commit_eq_ok result
      rw [after]
      have single := (IsLatest.single store.lastCommitted).latest
        store.pending.isLatest_lastReference
      exact (single.congr fun _ => or_comm).unique
        (isLatest_lastReference (.disk store))
    | error cause => exact Disk.retains.lastReference_eq intact (Prod.ext result rfl)

/-- Nothing is recorded under a reference above the last one. -/
def Bounded (medium : Medium) : Prop :=
  ∀ reference, (∀ last, Backend.lastReference medium = some last → last < reference) →
    Backend.Free medium reference

theorem Bounded.write (bounded : medium.Bounded) (puts : List Records.Put) :
    Bounded (Backend.write medium (Records.putAll puts)) := by
  intro reference above
  have isLatest := medium.isLatest_write puts
  rw [free_write]
  refine ⟨bounded reference fun last same => ?_, fun ⟨put, member, same⟩ => ?_⟩
  · obtain ⟨greatest, found, below⟩ := isLatest.le (Or.inl same)
    exact UInt64.lt_of_le_of_lt below (above greatest found)
  · obtain ⟨greatest, found, below⟩ := isLatest.le (Or.inr ⟨put, member, same⟩)
    exact TransactionRef.not_lt_of_le below (above greatest found)

theorem Bounded.commit (bounded : medium.Bounded) (intact : medium.Intact) :
    Bounded (Backend.commit medium).2 := by
  intro reference above
  rw [lastReference_commit intact] at above
  exact (Backend.free_congr (answers_commit intact)).mpr (bounded reference above)

/-- In memory nothing is recorded above the last reference. -/
theorem bounded_memory (store : Memory) : Bounded (.memory store) := by
  intro reference above
  have isLatest := store.pending.isLatest_lastReference.latest store.committed.isLatest_lastReference
  have unknown : ¬ (store.pending.Knows reference ∨ store.committed.Knows reference) := by
    intro known
    obtain ⟨greatest, found, below⟩ := isLatest.le known
    exact TransactionRef.not_lt_of_le below (above greatest found)
  simp only [Records.Knows, not_or, Option.not_isSome_iff_eq_none] at unknown
  obtain ⟨⟨one, two⟩, three, four⟩ := unknown
  constructor
  · show Except.ok (store.pending.responses.get? reference <|>
      store.committed.responses.get? reference) = _
    rw [one, three]
    rfl
  · show Except.ok (store.pending.errors.get? reference <|>
      store.committed.errors.get? reference) = _
    rw [two, four]
    rfl

end Medium

/-! ### Opened directories -/

namespace Directory

variable {directory : Directory}

/-- Nothing is found below a folder that does not exist. -/
theorem IsTree.read_of_absent (tree : directory.IsTree) {reference : TransactionRef}
    (noFile : directory.isFile Layout.transactions = false)
    (absent : directory.isPresent (Layout.transaction reference) = false) (name : String) :
    directory.read (Layout.transaction reference ++ [name]) = .error .notFound := by
  have way : Directory.ancestry (Layout.transaction reference ++ [name]).dropLast =
      [Layout.transactions, Layout.transaction reference] := rfl
  obtain ⟨noFolder, noFileToo⟩ := Bool.or_eq_false_iff.mp absent
  have nothing : directory.isPresent (Layout.transaction reference ++ [name]) = false := by
    rw [Bool.eq_false_iff]
    intro present
    have above := tree.ancestry _ present (Layout.transaction reference) (by rw [way]; simp)
    rw [noFolder] at above
    cases above
  obtain ⟨noFolderThere, noFileThere⟩ := Bool.or_eq_false_iff.mp nothing
  have clear : directory.isBlocked (Layout.transaction reference ++ [name]) = false := by
    unfold isBlocked
    rw [way, noFolderThere]
    simp [noFile, noFileToo]
  have noBytes : directory.files.get? (Layout.transaction reference ++ [name]) = none := by
    simpa [isFile, Table.contains] using noFileThere
  rw [tree.read_eq, clear, noBytes]
  rfl

/-- A directory is opened only if there is no file in the place of the transactions, and the last
reference is not below that of anything among them. -/
theorem IsTree.absent_of_open (tree : directory.IsTree) {root : String} {disk : Disk}
    (opened : Disk.«open» root directory = .ok disk) :
    disk = { root, directory, lastCommitted := disk.lastCommitted } ∧
      directory.isFile Layout.transactions = false ∧
      ∀ reference, (∀ last, disk.lastCommitted = some last → last < reference) →
        directory.isPresent (Layout.transaction reference) = false := by
  obtain ⟨last, scanned, same⟩ := bind_eq_ok.mp opened
  cases same
  refine ⟨rfl, ?_⟩
  unfold Disk.scanLastReference at scanned
  split at scanned
  · rename_i missing
    have missing : directory.isPresent Layout.transactions = false := by simpa using missing
    obtain ⟨noFolder, noFile⟩ := Bool.or_eq_false_iff.mp missing
    refine ⟨noFile, fun _ _ => Bool.eq_false_iff.mpr fun present => ?_⟩
    have above := tree.ancestry _ present Layout.transactions List.mem_cons_self
    rw [noFolder] at above
    cases above
  · split at scanned
    · rename_i names listed
      cases scanned
      unfold entries? at listed
      split at listed
      · cases listed
      · split at listed
        · cases listed
        · rename_i noFile
          split at listed <;> cases listed
          refine ⟨Bool.eq_false_iff.mpr noFile, fun reference above =>
            Bool.eq_false_iff.mpr fun present => ?_⟩
          have inside : Layout.transaction reference ∈ directory.files.keys ++ directory.folders := by
            rw [List.mem_append, Table.mem_keys]
            rcases Bool.or_eq_true_iff.mp present with isFolder | isFile
            · exact Or.inr ((isFolder_iff.mp isFolder).resolve_left (List.cons_ne_nil _ _))
            · exact Or.inl isFile
          have listed : Layout.transaction reference ∈
              (directory.files.keys ++ directory.folders).filter fun candidate =>
                candidate.dropLast = Layout.transactions && !candidate.isEmpty :=
            List.mem_filter.mpr ⟨inside, rfl⟩
          have named := List.mem_filterMap.mpr ⟨_, listed,
            show List.getLast? _ = some reference.toText from List.getLast?_concat⟩
          obtain ⟨greatest, found, below⟩ := (Disk.isLatest_greatestReference _).le
            ⟨reference.toText, named, TransactionRef.parse_toText reference⟩
          exact TransactionRef.not_lt_of_le below (above greatest found)
    · cases scanned

end Directory

namespace Medium

/-- **In an opened directory nothing is recorded above the last reference.** -/
theorem bounded_open {root : String} {directory : Directory} {disk : Disk}
    (tree : directory.IsTree) (opened : Disk.«open» root directory = .ok disk) :
    Bounded (.disk disk) := by
  intro reference above
  obtain ⟨shape, noFile, absent⟩ := tree.absent_of_open opened
  have absent := absent reference fun last same => above last (by
    rw [lastReference_eq, shape]
    exact same)
  have nothing : ∀ name, Disk.readFile? root directory (Layout.transaction reference ++ [name]) =
      .ok none := fun name => by
    rw [Disk.readFile?, tree.read_of_absent noFile absent name]
  have responses : disk.readRecord? (Layout.response reference) Codec.response "response" =
      .ok none := by
    rw [shape]
    unfold Disk.readRecord?
    rw [show Disk.readFile? _ _ (Layout.response reference) = _ from nothing "response.bcs"]
    rfl
  have errors : disk.committedError reference = .ok none := by
    rw [shape]
    unfold Disk.committedError
    rw [show Disk.readFile? _ _ (Layout.error reference) = _ from nothing "error.txt"]
    rfl
  refine free_iff.mpr ⟨?_, responses, errors⟩
  show ¬ disk.pending.Knows reference
  rw [shape]
  rintro (known | known) <;> cases known

/-! ### How stores come about -/

/-- A store as a node can find it: any records in memory, or a directory that was opened, and
whatever calls make of it, also commits that fail. -/
inductive Found : Medium → Prop
  | memory (store : Memory) : Found (.memory store)
  | opened {root : String} {directory : Directory} {disk : Disk} (tree : directory.IsTree)
      (opened : Disk.«open» root directory = .ok disk) : Found (.disk disk)
  | called {medium : Medium} (earlier : Found medium) (call : Ledger.Call) :
      Found (Ledger.perform { backend := medium } call).2.backend

variable {medium : Medium}

/-- So an empty store can. -/
theorem found_blank (root : Option String) : Found (blank root) := by
  cases root with
  | none => exact .memory {}
  | some root => exact .opened Directory.isTree_empty rfl

/-- **Stores that come about are intact, and have nothing recorded above the last reference.** -/
theorem Found.bounded (found : Found medium) : medium.Intact ∧ medium.Bounded := by
  induction found with
  | memory store => exact ⟨trivial, bounded_memory store⟩
  | opened tree opened =>
    refine ⟨?_, bounded_open tree opened⟩
    obtain ⟨shape, -⟩ := tree.absent_of_open opened
    rw [shape]
    exact ⟨tree, Records.proper_empty⟩
  | @called medium earlier call ih =>
    obtain ⟨intact, bounded⟩ := ih
    refine (Ledger.perform_related { backend := medium } { backend := medium }
      (fun after _ => after.Intact ∧ after.Bounded) call rfl ⟨intact, bounded⟩
      (fun change writes => ?_) fun _ => ⟨rfl, retains.commit intact, bounded.commit intact⟩).2
    obtain ⟨puts, rfl, -⟩ := writes.exists_puts
    exact ⟨retains.write puts intact, bounded.write puts⟩

end Medium

end ObjectLedger
