/-
**Repairing an interrupted commit by delivering its transactions again.**

* `Node.Repaired`: responses are as they were, and so are the histories and states of objects, if their
  history was found to be so or names no transaction of which the response was found.
* `Node.Backed.exists_redelivered`: all deliveries are accepted again, and can be committed.
  **`Ledger.Arisen.repaired`**: this repairs the node.
* **`Lamp.lost_after_redelivery`**: a history that names such a transaction is not repaired.
-/
import ObjectLedger.Proofs.Node.Redelivery

namespace ObjectLedger

namespace Node

/-! ### Repair -/

/-- The settings of a node name the directory that it opens. -/
theorem opened_of_open {config : NodeConfig} {root : String} {directory : Directory} {disk : Disk}
    (place : config.storeDir = some root) (opened : Disk.«open» root directory = .ok disk) :
    Node.opened config directory = .ok (start config { backend := .disk disk }) := by
  unfold Node.opened Medium.opened
  rw [place]
  simp only [opened]
  rfl

/-- A node to which deliveries were made again, beside the store with all of them and the node as it
was found after an interruption. -/
structure Repaired (deliveries : List Delivery) (whole : Ledger Disk) (found repaired : Node Medium) :
    Prop where
  response : ∀ view reference, Backend.response repaired.ledger.backend view reference =
    Backend.response whole.backend view reference
  /-- A history is the same just if it was found to be so, or names no delivery of which the response
  was found. -/
  history : ∀ view object history, Backend.history whole.backend view object = .ok history →
    (Backend.history repaired.ledger.backend view object = .ok history ↔
      found.ledger.view.history object = .ok history ∨
        ∀ delivery ∈ deliveries, delivery.reference ∈ history →
          found.response delivery.reference = .ok none)
  /-- The state of an object with the same history is the same. -/
  state : ∀ object, repaired.ledger.view.history object = whole.view.history object →
    ∃ updates, repaired.state object = .ok updates ∧ whole.view.state object = .ok updates

/-- **Records that caught up with others and are committed repair the node.** -/
theorem repaired_of_catchesUp {deliveries : List Delivery} {whole : Ledger Disk}
    {found repaired : Node Medium} {memory after last : Memory} {written : List FilePath}
    {early : Prop} (pushed : Memory.AllPushed deliveries memory after)
    (recorded : memory.contents.Recorded)
    (between : memory.contents.Between after.contents (after.interrupted written).contents)
    (catchesUp : Memory.CatchesUp (Memory.Skips deliveries (after.interrupted written).contents)
      after.contents.responses (fun object => (after.interrupted written).contents.histories object =
        memory.contents.histories object) early (after.interrupted written).contents after last)
    (mirrorsWhole : whole.backend.Mirrors (Backend.commit after).2)
    (mirrorsFound : found.ledger.backend.Mirrors (after.interrupted written))
    (mirrorsRepaired : repaired.ledger.backend.Mirrors (Backend.commit last).2) :
    Repaired deliveries whole found repaired := by
  have wholeAnswers := fun view => (mirrorsWhole.answers_eq view).trans (after.answers_commit view)
  have repairedAnswers := fun view =>
    (mirrorsRepaired.answers_eq view).trans (last.answers_commit view)
  have foundAnswers := mirrorsFound.answers_eq .uncommitted
  have responses := Memory.AllPushed.responses_eq catchesUp
  have wholeHistory : ∀ view object, Backend.history whole.backend view object =
      .ok (after.contents.histories object) := fun view object =>
    congrFun (congrArg Answers.history (wholeAnswers view)) object
  have repairedHistory : ∀ view object, Backend.history repaired.ledger.backend view object =
      .ok (last.contents.histories object) := fun view object =>
    congrFun (congrArg Answers.history (repairedAnswers view)) object
  refine ⟨fun view reference => ?_, fun view object history told => ?_, fun object same => ?_⟩
  · have one := congrFun (congrArg Answers.response (repairedAnswers view)) reference
    have other := congrFun (congrArg Answers.response (wholeAnswers view)) reference
    refine one.trans (Eq.trans ?_ other.symm)
    exact congrArg Except.ok (congrFun responses reference)
  · have foundHistory : found.ledger.view.history object =
        .ok ((after.interrupted written).contents.histories object) :=
      congrFun (congrArg Answers.history foundAnswers) object
    have foundResponse : ∀ reference, found.response reference =
        .ok ((after.interrupted written).contents.responses reference) :=
      congrFun (congrArg Answers.response foundAnswers)
    rw [wholeHistory] at told
    cases told
    rw [repairedHistory, foundHistory, Except.ok.injEq, Except.ok.injEq,
      pushed.histories_eq_iff between recorded catchesUp object]
    simp only [foundResponse, Except.ok.injEq]
    exact or_congr_right Memory.forall_not_skips_iff
  · have same : Backend.history repaired.ledger.backend .uncommitted object =
        Backend.history whole.backend .uncommitted object := same
    rw [repairedHistory, wholeHistory, Except.ok.injEq] at same
    have shownRepaired := Ledger.shows_of_answers_eq repaired.ledger
      (repairedAnswers .uncommitted)
    have shownWhole := Ledger.shows_of_answers_eq whole (wholeAnswers .uncommitted)
    refine ⟨_, shownRepaired.state_ok (catchesUp.contents.again_recorded object),
      (shownWhole.state_ok (catchesUp.contents.plain_recorded object)).trans ?_⟩
    refine congrArg Except.ok (Contents.state_congr same.symm fun entry _ => ?_)
    rw [responses]

/-- **Deliveries are accepted again after an interrupted commit of them**, and what comes of it can be
committed. -/
theorem Backed.exists_redelivered {deliveries : List Delivery} {memory after : Memory}
    {found : Node Medium} {files written : List (FilePath × Disk.Contents)}
    (pushed : Memory.AllPushed deliveries memory after)
    (ran : (Ledger.performAll { backend := memory } (deliveries.map (·.call false))).2.backend = after)
    (accepted : ∀ result ∈
      (Ledger.performAll { backend := memory } (deliveries.map (·.call false))).1, result = .ok ())
    (encodable : ∀ delivery ∈ deliveries, delivery.Encodable)
    (recorded : memory.Recorded) (settled : memory.pending = {})
    (room : ∀ object,
      (memory.contents.histories object).length + deliveries.length ≤ Codec.maxLength)
    (inOrder : Disk.InOrder after.pending files) (start : written <+: files)
    (backed : found.Backed (after.interrupted (written.map Prod.fst))) :
    let left := (after.interrupted (written.map Prod.fst)).contents
    ∃ repaired last,
      (do redeliverAll deliveries; Node.commit : NodeAction Medium Unit) found = .ok () repaired ∧
      repaired.Backed (Backend.commit last).2 ∧
      Memory.CatchesUp (Memory.Skips deliveries left) after.contents.responses
        (fun object => left.histories object = memory.contents.histories object)
        (∃ delivery ∈ deliveries, left.responses delivery.reference = none) left after last := by
  intro left
  obtain ⟨between, catchesUp, unwritten⟩ := pushed.catchesUp recorded settled inOrder start
  have short : left.Short := between.short
    (fun object => Nat.le_of_add_right_le (room object))
    (fun object => (pushed.length_le object).trans (room object))
  have missing : ∀ delivery ∈ deliveries, ¬ Memory.Skips deliveries left delivery.reference →
      ∃ delivery ∈ deliveries, left.responses delivery.reference = none :=
    fun delivery member taken => ⟨delivery, member,
      Option.not_isSome_iff_eq_none.mp fun known => taken ⟨⟨delivery, member, rfl⟩, known⟩⟩
  obtain ⟨middle, last, ranAgain, backedMiddle, caughtUp, shortLast⟩ :=
    backed.exists_redeliverAll catchesUp accepted encodable pushed.pushed
      (fun delivery member => ⟨And.right, fun known => ⟨⟨delivery, member, rfl⟩, known⟩⟩)
      (fun delivery member taken =>
        ⟨missing delivery member taken, unwritten (missing delivery member taken)⟩)
      short fun early object => by
        rw [unwritten early object]
        exact room object
  obtain ⟨repaired, committed, backedLast⟩ := backedMiddle.commit shortLast
  rw [ran] at caughtUp
  exact ⟨repaired, last, (bind_of_ok ranAgain).trans committed, backedLast, caughtUp⟩

end Node

namespace Ledger

variable {root : String} {base : Ledger Disk}

/-- **An interrupted commit of transactions is repaired by delivering all of them again**, but for
histories that were not written and name a transaction of which the response was. -/
theorem Arisen.repaired (arisen : Arisen root base) (settled : base.backend.pending = {})
    (deliveries : List Delivery) (encodable : ∀ delivery ∈ deliveries, delivery.Encodable)
    (accepted : ∀ result ∈ (base.performAll (deliveries.map (·.call false))).1, result = .ok ())
    (room : ∀ object history, base.view.history object = .ok history →
      history.length + deliveries.length ≤ Codec.maxLength)
    (files : List (FilePath × Disk.Contents))
    (inOrder : Disk.InOrder (base.performAll (deliveries.map (·.call false))).2.backend.pending files)
    (count : Nat) (config : NodeConfig) (place : config.storeDir = some root) :
    let after := (base.performAll (deliveries.map (·.call false))).2
    after.commit.1 = .ok () ∧ ∃ found repaired,
      Node.opened config
        (Disk.writeFiles root after.backend.directory (files.take count)).2 = .ok found ∧
      (do Node.redeliverAll deliveries; Node.commit : NodeAction Medium Unit) found =
        .ok () repaired ∧
      Node.Repaired deliveries after.commit.2 found repaired := by
  intro whole
  obtain ⟨rootKept, memory, mirrors, recorded⟩ := arisen.mirrors
  obtain ⟨results, mirrorsWhole⟩ := performAll_mirrors base { backend := memory } mirrors
    fun before (start : before ++ [.commit] <+: deliveries.map (·.call false)) => by
      have member := start.subset (List.mem_append_right before (List.mem_singleton_self _))
      obtain ⟨delivery, -, same⟩ := List.mem_map.mp member
      cases same
  rw [results] at accepted
  have pushed := Memory.allPushed accepted
  have nothing : memory.pending = {} := mirrors.pending.symm.trans settled
  have writable := pushed.writable encodable (by rw [nothing]; exact Records.writable_empty)
  have rootToo : whole.backend.root = root := (root_performAll base _).trans rootKept
  generalize afterIs : (performAll { backend := memory } _).2.backend = after
    at pushed writable mirrorsWhole
  have enough : ∀ object,
      (memory.contents.histories object).length + deliveries.length ≤ Codec.maxLength :=
    fun object => room object _ ((shows_of_mirrors mirrors).history_eq object)
  have short : after.contents.Short := fun object =>
    (pushed.length_le object).trans (enough object)
  have success := mirrorsWhole.commit_ok (short.encodable writable)
  obtain ⟨written, disk, start, opened, -, left, -⟩ :=
    mirrorsWhole.exists_open_of_interrupted inOrder count
  rw [rootToo] at opened
  rw [mirrorsWhole.pending] at inOrder
  have between := (pushed.catchesUp recorded nothing inOrder start).1
  have backed : (Node.start config { backend := .disk disk }).Backed
      (after.interrupted (written.map Prod.fst)) := ⟨left, Records.writable_empty⟩
  obtain ⟨repaired, last, ran, backedLast, caughtUp⟩ := Node.Backed.exists_redelivered pushed afterIs
    accepted encodable recorded nothing enough inOrder start backed
  refine ⟨whole.commit_eq.1.trans success, _, repaired, Node.opened_of_open place opened, ran,
    Node.repaired_of_catchesUp pushed recorded.all between caughtUp ?_ left backedLast.mirrors⟩
  rw [whole.commit_eq.2]
  exact mirrorsWhole.commit success

end Ledger

/-! ### Short runs -/

namespace Lamp

open Ledger Node

/-- The lamp is made, and after a commit it is switched on and broken. -/
def made : Ledger Disk :=
  ((blankDisk "store").performAll [.push ⟨1⟩ lampRequest (lampResponse "off"), .commit]).2

def switches : List Delivery :=
  [⟨⟨2⟩, lampRequest, lampResponse "on"⟩, ⟨⟨3⟩, lampRequest, lampResponse "broken"⟩]

def switched : Ledger Disk := (made.performAll (switches.map (·.call false))).2

def config : NodeConfig := { storeDir := some "store" }

theorem encodable_switches : ∀ delivery ∈ switches, delivery.Encodable := by
  obtain ⟨asked, -, told⟩ := encodable_lamp
  simp only [List.forall_mem_cons] at told
  simp [switches, Delivery.Encodable, asked, told]

theorem pending_made : made.backend.pending = {} := by
  obtain ⟨asked, -, told⟩ := encodable_lamp
  simp only [List.forall_mem_cons] at told
  have encodable : ∀ call ∈ [Call.push ⟨1⟩ lampRequest (lampResponse "off")], call.Encodable := by
    simp [Call.Encodable, asked, told]
  have success := commit_ok_of_encodable "store" encodable (by decide)
  rw [(commit_eq _).1] at success
  show (Ledger.commit (_ : Ledger Disk)).2.backend.pending = {}
  rw [(commit_eq _).2]
  exact congrArg Disk.pending (Disk.commit_eq_ok success).2

/-- The commit is interrupted between the two responses, and all is repaired. -/
theorem repaired_switched :
    Arisen "store" made ∧ made.backend.pending = {} ∧
      (∀ result ∈ (made.performAll (switches.map (·.call false))).1, result = .ok ()) ∧
      switched.commit.1 = .ok () ∧ ∃ found repaired,
        Node.opened config (Disk.writeFiles "store" switched.backend.directory
          ((Disk.filesOf switched.backend.pending).take 4)).2 = .ok found ∧
        (do redeliverAll switches; Node.commit : NodeAction Medium Unit) found = .ok () repaired ∧
        Repaired switches switched.commit.2 found repaired := by
  have arisen : Arisen "store" made := .called (.called .blank _) .commit
  have accepted : ∀ result ∈ (made.performAll (switches.map (·.call false))).1,
      result = .ok () := by
    decide +kernel
  refine ⟨arisen, pending_made, accepted, Arisen.repaired arisen pending_made switches
    encodable_switches accepted (fun object history told => ?_) _ (Disk.inOrder_filesOf _) 4 config
    rfl⟩
  obtain ⟨after, holds, short⟩ := holds_performAll (blankDisk "store")
    (Disk.holds_empty "store") [.push ⟨1⟩ lampRequest (lampResponse "off"), .commit]
  rw [show made.view.history object = .ok (after.histories object) from holds.history_eq object]
    at told
  cases told
  have few : 0 + 2 + switches.length ≤ Codec.maxLength := by decide
  exact (Nat.add_le_add_right (short object) _).trans few

/-- The history and the state that a node reports of the lamp after deliveries and a commit. -/
def report? (directory : Directory) (deliveries : List Delivery) :
    Option (List TransactionRef × List Update) :=
  match Node.opened config directory with
  | .error _ => none
  | .ok found =>
    match (do redeliverAll deliveries; Node.commit : NodeAction Medium Unit) found with
    | .error _ _ => none
    | .ok () repaired =>
      match repaired.ledger.view.history lamp, repaired.state lamp with
      | .ok history, .ok updates => some (history, updates)
      | _, _ => none

theorem exists_of_report? {directory : Directory} {deliveries : List Delivery}
    {history : List TransactionRef} {updates : List Update}
    (told : report? directory deliveries = some (history, updates)) :
    ∃ found repaired, Node.opened config directory = .ok found ∧
      (do redeliverAll deliveries; Node.commit : NodeAction Medium Unit) found = .ok () repaired ∧
      repaired.ledger.view.history lamp = .ok history ∧ repaired.state lamp = .ok updates := by
  unfold report? at told
  split at told
  · cases told
  · rename_i found opened
    split at told
    · cases told
    · rename_i repaired ran
      split at told
      · rename_i known state
        cases told
        exact ⟨found, repaired, opened, ran, known, state⟩
      · cases told

/-- The lamp is made, and nothing was committed before. -/
def making : List Delivery := [⟨⟨1⟩, lampRequest, lampResponse "off"⟩]

def pendingLamp : Ledger Disk := ((blankDisk "store").performAll (making.map (·.call false))).2

/-- **An interrupted commit need not be repaired**: if the response of the lamp was written and its
history was not, then the lamp is gone for good. -/
theorem lost_after_redelivery :
    Arisen "store" (blankDisk "store") ∧
      ((blankDisk "store").performAll (making.map (·.call false))).1 = [.ok ()] ∧
      pendingLamp.commit.1 = .ok () ∧
      pendingLamp.commit.2.view.history lamp = .ok [⟨1⟩] ∧
      pendingLamp.commit.2.view.state lamp =
        .ok [.classTag lamp "Lamp" ⟨0⟩, .field lamp ⟨"Lamp", "state", .string⟩ (.string "off")] ∧
      ∃ found repaired,
        Node.opened config (Disk.writeFiles "store" pendingLamp.backend.directory
          ((Disk.filesOf pendingLamp.backend.pending).take 3)).2 = .ok found ∧
        (do redeliverAll making; Node.commit : NodeAction Medium Unit) found = .ok () repaired ∧
        repaired.ledger.view.history lamp = .ok [] ∧ repaired.state lamp = .ok [] :=
  ⟨.blank, by decide +kernel, by decide +kernel, by decide +kernel, by decide +kernel,
    exists_of_report? (by decide +kernel)⟩

end Lamp

end ObjectLedger
