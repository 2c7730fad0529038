/-
**Delivering transactions again: the one accepted last counts.**

* `Contents.Follows`: a history has the same provider of a key as the log of all accepted references.
* `Node.Delivered`: the nodes that submissions and deliveries lead to, with the references in the
  order in which they were accepted.
* **`Node.Delivered.reports_last`**: what a node reports about a key of an object is what the
  reference accepted last gives, which is the greatest one if they were accepted in their order.
* **`Deliveries.reports_other_than_greatest`**: otherwise it need not be the greatest one.
-/
import ObjectLedger.Proofs.Node.Memory

namespace ObjectLedger

open History

/-! ### One key of one object -/

namespace Contents

variable {before after contents : Contents} {object : ObjectRef} {key : UpdateKey}
  {log : List TransactionRef} {reference : TransactionRef} {response old : Response}

/-- The history of an object has the same provider of a key as the log of all references. -/
structure Follows (contents : Contents) (object : ObjectRef) (key : UpdateKey)
    (log : List TransactionRef) : Prop where
  recorded : ∀ entry ∈ contents.histories object, (contents.responses entry).isSome
  mem_log : ∀ entry, entry ∈ log ↔ (contents.responses entry).isSome
  provider?_eq : contents.provider? object key (contents.histories object) =
    contents.provider? object key log

theorem follows_empty (object : ObjectRef) (key : UpdateKey) : empty.Follows object key [] where
  recorded _ member := by cases member
  mem_log _ := by simp [empty]
  provider?_eq := rfl

theorem Follows.pushed (follows : before.Follows object key log)
    (pushed : before.Pushed reference response after) :
    after.Follows object key (reference :: log) := by
  have unrecorded : ¬ (before.responses reference).isSome := by
    rw [pushed.fresh]
    exact Bool.false_ne_true
  have absent : reference ∉ before.histories object :=
    fun member => unrecorded (follows.recorded reference member)
  have unlogged : reference ∉ log :=
    fun member => unrecorded ((follows.mem_log reference).mp member)
  refine ⟨fun entry member => (pushed.isSome_responses entry).mpr ?_, fun entry => ?_, ?_⟩
  · rcases pushed.histories_cases_of_not_mem absent with ⟨-, same⟩ | ⟨rest, -, shape, inside, -⟩
    · rw [same] at member
      exact Or.inr (follows.recorded entry member)
    · rw [shape] at member
      exact (List.mem_cons.mp member).imp id fun later =>
        follows.recorded entry (inside entry later)
  · rw [List.mem_cons, pushed.isSome_responses, follows.mem_log]
  · rw [pushed.provider?_extended absent, pushed.provider?_log unlogged, follows.provider?_eq]

/-- A response in the place of one that updates the key or not, as it does. -/
theorem Follows.replaced (follows : contents.Follows object key log)
    (found : contents.responses reference = some old)
    (same : key ∈ keysOf response object ↔ key ∈ keysOf old object) :
    (contents.putResponse reference response).Follows object key log := by
  have recorded := isSome_putResponse found response
  have unchanged := provides_putResponse found same
  refine ⟨fun entry member => (recorded entry).mpr (follows.recorded entry member),
    fun entry => (follows.mem_log entry).trans (recorded entry).symm, ?_⟩
  rw [provider?_congr fun entry _ => unchanged entry, provider?_congr fun entry _ => unchanged entry]
  exact follows.provider?_eq

end Contents

namespace Node

variable {σ : Type} [Backend σ] {first node after : Node σ} {log : List TransactionRef}
  {replaced : List (Response × Response)} {object : ObjectRef} {key : UpdateKey}

/-! ### Runs -/

/-- The nodes that submissions and deliveries lead to, with the references that were accepted, the
last one first, and the responses that were overwritten, each with the one in its place. -/
inductive Delivered (first : Node σ) :
    Node σ → List TransactionRef → List (Response × Response) → Prop
  | start : Delivered first first [] []
  | submitted {node : Node σ} {log : List TransactionRef} {replaced : List (Response × Response)}
      {request : Request} {response : Response} (earlier : Delivered first node log replaced)
      (accepts : node.accepted? request = some response) :
      Delivered first (node.submitted request) (node.next :: log) replaced
  | refused {node : Node σ} {log : List TransactionRef} {replaced : List (Response × Response)}
      {request : Request} (earlier : Delivered first node log replaced)
      (refuses : node.accepted? request = none) :
      Delivered first (node.submitted request) log replaced
  | delivered {node after : Node σ} {log : List TransactionRef}
      {replaced : List (Response × Response)} {reference : TransactionRef} {request : Request}
      {response : Response} (earlier : Delivered first node log replaced)
      (absent : node.response reference = .ok none)
      (ran : redeliver reference request response node = .ok () after) :
      Delivered first after (reference :: log) replaced
  | overwritten {node after : Node σ} {log : List TransactionRef}
      {replaced : List (Response × Response)} {reference : TransactionRef} {request : Request}
      {old response : Response} (earlier : Delivered first node log replaced)
      (known : node.response reference = .ok (some old))
      (ran : redeliver reference request response node = .ok () after) :
      Delivered first after log ((old, response) :: replaced)

variable [LawfulBackend σ] {contents : Contents} {request : Request} {response old : Response}
  {reference : TransactionRef}

/-- What a delivery does after its step of the store: it lets the contents be. -/
theorem holds_of_settled {keep : ClasspathCache → ClasspathCache}
    (holds : node.ledger.Holds contents)
    (ran : (do
      modify fun node => { node with cache := keep node.cache }
      autoCommit : NodeAction σ Unit) node = .ok () after) : after.ledger.Holds contents := by
  obtain ⟨_, middle, kept, ran⟩ := ok_of_bind ran
  cases kept
  rw [← stateAfter_ok ran]
  exact (maintains_autoCommit { node with cache := keep node.cache } ⟨rfl, rfl, holds⟩).2.2

/-- **A delivery puts the response in the place of another, or pushes it.** -/
theorem holds_redeliver (holds : node.ledger.Holds contents)
    (ran : redeliver reference request response node = .ok () after) :
    (∃ old, node.response reference = .ok (some old) ∧
        after.ledger.Holds (contents.putResponse reference response)) ∨
      (node.response reference = .ok none ∧ ∃ later, contents.Pushed reference response later ∧
        after.ledger.Holds later) := by
  obtain ⟨_, _, here, ran⟩ := ok_of_bind ran
  cases here
  cases known : node.response reference with
  | error cause =>
    rw [known] at ran
    cases ran
  | ok found =>
    rw [known] at ran
    cases found with
    | some old =>
      obtain ⟨_, middle, stored, ran⟩ := ok_of_bind ran
      have replace := Ledger.holds_replace holds reference request response
      unfold onLedger at stored
      split at stored
      · rename_i ledger replaced
        have replaced : node.ledger.replace reference request response = (.ok (), ledger) :=
          replaced
        rw [replaced] at replace
        cases stored
        exact Or.inl ⟨old, rfl, holds_of_settled replace.2 ran⟩
      · cases stored
    | none =>
      obtain ⟨_, middle, stored, ran⟩ := ok_of_bind ran
      have push := Ledger.holds_push holds reference request response
      unfold onLedger at stored
      split at stored
      · rename_i ledger pushed
        have pushed : node.ledger.push reference request response = (.ok (), ledger) := pushed
        rw [pushed] at push
        obtain ⟨later, holdsLater, pushed⟩ := push
        cases stored
        refine Or.inr ⟨rfl, later, pushed, ?_⟩
        split at ran
        · obtain ⟨_, _, gone, ran⟩ := ok_of_bind ran
          cases gone
          exact holds_of_settled holdsLater ran
        · exact holds_of_settled holdsLater ran
      · cases stored

/-- **Along a run a history keeps the same provider of a key as the log**, if overwriting a response
never changes whether it updates the key. -/
theorem Delivered.follows (run : Delivered first node log replaced)
    (blank : first.ledger.Holds Contents.empty)
    (steady : ∀ pair ∈ replaced, key ∈ keysOf pair.2 object ↔ key ∈ keysOf pair.1 object) :
    ∃ contents, node.ledger.Holds contents ∧ contents.Follows object key log := by
  induction run with
  | start => exact ⟨_, blank, Contents.follows_empty object key⟩
  | submitted _ accepts ih =>
    obtain ⟨contents, holds, follows⟩ := ih steady
    obtain ⟨later, pushed, holdsLater⟩ := holds_of_accepts holds accepts
    exact ⟨later, holdsLater, follows.pushed pushed⟩
  | refused _ refuses ih =>
    obtain ⟨contents, holds, follows⟩ := ih steady
    exact ⟨contents, holds_of_refuses holds refuses, follows⟩
  | delivered _ absent ran ih =>
    obtain ⟨contents, holds, follows⟩ := ih steady
    rcases holds_redeliver holds ran with ⟨old, known, -⟩ | ⟨-, later, pushed, holdsLater⟩
    · cases absent.symm.trans known
    · exact ⟨later, holdsLater, follows.pushed pushed⟩
  | overwritten _ known ran ih =>
    obtain ⟨contents, holds, follows⟩ :=
      ih fun pair member => steady pair (List.mem_cons_of_mem _ member)
    rcases holds_redeliver holds ran with ⟨old, _, replaced⟩ | ⟨absent, -⟩
    · have found := known
      rw [response, LawfulBackend.response_eq holds] at found
      exact ⟨_, replaced, follows.replaced (Except.ok.inj found)
        (steady _ List.mem_cons_self)⟩
    · cases absent.symm.trans known

/-! ### What a node reports -/

/-- What the reference accepted last gives, among those that update the key of the update. -/
def LastWord (node : Node σ) (log : List TransactionRef) (object : ObjectRef) (update : Update) :
    Prop :=
  ∃ newer reference older response, log = newer ++ reference :: older ∧
    node.response reference = .ok (some response) ∧
    (response.updatesOf object).find? (fun other => other.key = update.key) = some update ∧
    ∀ other ∈ newer, ∀ later, node.response other = .ok (some later) →
      update.key ∉ keysOf later object

/-- What the greatest reference gives, among those that update the key of the update. -/
def GreatestWord (node : Node σ) (object : ObjectRef) (update : Update) : Prop :=
  ∃ reference response, node.response reference = .ok (some response) ∧
    (response.updatesOf object).find? (fun other => other.key = update.key) = some update ∧
    ∀ other later, node.response other = .ok (some later) → update.key ∈ keysOf later object →
      other ≤ reference

/-- The state of an object has the updates of a key that a rule tells, and no others. -/
def Reports (node : Node σ) (object : ObjectRef) (key : UpdateKey) (word : Update → Prop) : Prop :=
  ∃ updates, node.state object = .ok updates ∧
    ∀ update, update.key = key → (update ∈ updates ↔ word update)

/-- The first entry of the log that provides a key has the last word about it. -/
theorem lastWord_iff (holds : node.ledger.Holds contents) {update : Update} :
    node.LastWord log object update ↔ contents.update? object update.key log = some update := by
  have look : ∀ reference, node.response reference = .ok (contents.responses reference) :=
    LawfulBackend.response_eq holds
  constructor
  · rintro ⟨newer, reference, older, response, rfl, found, gives, silent⟩
    rw [look] at found
    have told : contents.updateAt? object update.key reference = some update := by
      rw [Contents.updateAt?, Except.ok.inj found]
      exact gives
    have provided : contents.provides object update.key reference = true := by
      by_contra other
      rw [Bool.not_eq_true] at other
      rw [Contents.updateAt?_eq_none_iff.mpr other] at told
      cases told
    have provider : contents.provider? object update.key (newer ++ reference :: older) =
        some reference := by
      refine List.find?_eq_some_iff_append.mpr ⟨provided, newer, older, rfl, fun other member => ?_⟩
      rw [Bool.not_eq_true', Contents.provides]
      cases known : contents.responses other with
      | none => rfl
      | some later =>
        have missing := silent other member later ((look other).trans (congrArg Except.ok known))
        simpa using missing
    rw [Contents.update?, provider]
    exact told
  · intro told
    obtain ⟨reference, provider, gives⟩ := Option.bind_eq_some_iff.mp told
    obtain ⟨-, newer, older, rfl, silent⟩ := List.find?_eq_some_iff_append.mp provider
    obtain ⟨response, found, gives⟩ := Option.bind_eq_some_iff.mp gives
    refine ⟨newer, reference, older, response, rfl, (look reference).trans (congrArg _ found), gives,
      fun other member later known updates => ?_⟩
    rw [look] at known
    have quiet := silent other member
    rw [Contents.provides_of_some (Except.ok.inj known)] at quiet
    simp [updates] at quiet

omit [LawfulBackend σ] in
/-- In a log in the order of the references the last word is that of the greatest one. -/
theorem lastWord_iff_greatestWord
    (logged : ∀ reference, reference ∈ log ↔
      ∃ response, node.response reference = .ok (some response))
    (ordered : log.Pairwise (· > ·)) {update : Update} :
    node.LastWord log object update ↔ node.GreatestWord object update := by
  constructor
  · rintro ⟨newer, reference, older, response, rfl, found, gives, silent⟩
    refine ⟨reference, response, found, gives, fun other later known updates => ?_⟩
    have below := (List.pairwise_cons.mp (List.pairwise_append.mp ordered).2.1).1
    rcases List.mem_append.mp ((logged other).mpr ⟨later, known⟩) with new | old
    · exact absurd updates (silent other new later known)
    · rcases List.mem_cons.mp old with rfl | old
      · exact UInt64.le_refl _
      · exact UInt64.le_of_lt (below other old)
  · rintro ⟨reference, response, found, gives, greatest⟩
    obtain ⟨newer, older, rfl⟩ := List.append_of_mem ((logged reference).mpr ⟨response, found⟩)
    refine ⟨newer, reference, older, response, rfl, found, gives,
      fun other member later known updates => ?_⟩
    have above : reference < other :=
      (List.pairwise_append.mp ordered).2.2 other member reference List.mem_cons_self
    exact UInt64.lt_irrefl _ (UInt64.lt_of_lt_of_le above (greatest other later known updates))

theorem reports_of_follows (holds : node.ledger.Holds contents)
    (follows : contents.Follows object key log) :
    node.Reports object key (node.LastWord log object) := by
  obtain ⟨updates, told, exactly⟩ := holds.shows.state_eq follows.recorded
  refine ⟨updates, told, fun update about => ?_⟩
  subst about
  rw [exactly, lastWord_iff holds]
  unfold Contents.update?
  rw [follows.provider?_eq]

/-- **What a node reports about a key of an object is what the reference accepted last says**, if
overwriting a response never changes whether it updates the key. References that are accepted in
their order make it the greatest one; nodes that accepted the same references in the same order and
have the same responses report the same. -/
theorem Delivered.reports_last {settings : NodeConfig} {root : Option String} {node : Node Medium}
    (run : Delivered (Node.start settings { backend := Medium.blank root }) node log replaced)
    (object : ObjectRef) (key : UpdateKey)
    (steady : ∀ pair ∈ replaced, key ∈ keysOf pair.2 object ↔ key ∈ keysOf pair.1 object) :
    (∀ reference, reference ∈ log ↔ ∃ response, node.response reference = .ok (some response)) ∧
      node.Reports object key (node.LastWord log object) ∧
      (log.Pairwise (· > ·) → node.Reports object key (node.GreatestWord object)) ∧
      ∀ (others : NodeConfig) (place : Option String) (other : Node Medium)
        (overwritten : List (Response × Response)),
        Delivered (Node.start others { backend := Medium.blank place }) other log overwritten →
        (∀ pair ∈ overwritten, key ∈ keysOf pair.2 object ↔ key ∈ keysOf pair.1 object) →
        (∀ reference, other.response reference = node.response reference) →
        other.Reports object key (node.LastWord log object) := by
  obtain ⟨contents, holds, follows⟩ := run.follows (Medium.holds_blank root) steady
  have logged : ∀ reference, reference ∈ log ↔
      ∃ response, node.response reference = .ok (some response) := by
    intro reference
    have look : node.response reference = .ok (contents.responses reference) :=
      LawfulBackend.response_eq holds reference
    rw [follows.mem_log, look, Option.isSome_iff_exists]
    simp
  have reports := reports_of_follows holds follows
  refine ⟨logged, reports, fun ordered => ?_,
    fun others place other overwritten rerun again same => ?_⟩
  · obtain ⟨updates, told, exactly⟩ := reports
    exact ⟨updates, told, fun update about =>
      (exactly update about).trans (lastWord_iff_greatestWord logged ordered)⟩
  · obtain ⟨held, otherHolds, otherFollows⟩ := rerun.follows (Medium.holds_blank place) again
    have words : node.LastWord log object = other.LastWord log object := by
      unfold LastWord
      simp only [same]
    rw [words]
    exact reports_of_follows otherHolds otherFollows

end Node

/-! ### Short runs -/

namespace Deliveries

open Node

def purse : ObjectRef := ⟨⟨1⟩, 0⟩

def request : Request := .createGamete ⟨⟨0⟩, false⟩ 10 "key"

def response (updates : List Update) : Response := .gameteCreation updates purse

def tag : Update := .classTag purse ClassName.gamete ⟨0⟩

def balance (amount : Amount) : Update := .field purse .balance (.bigInteger amount)

def nonce : Update := .field purse .nonce (.bigInteger 1)

/-- The node after the delivery of a transaction with some updates, whatever the answer. -/
def given (node : Node Medium) (number : UInt64) (updates : List Update) : Node Medium :=
  stateAfter (redeliver ⟨number⟩ request (response updates)) node

/-- The delivery of a transaction with some updates succeeds. -/
def succeeds (node : Node Medium) (number : UInt64) (updates : List Update) : Bool :=
  match redeliver ⟨number⟩ request (response updates) node with
  | .ok _ _ => true
  | .error _ _ => false

theorem redeliver_eq_ok {node : Node Medium} {number : UInt64} {updates : List Update}
    (ends : succeeds node number updates = true) :
    redeliver ⟨number⟩ request (response updates) node = .ok () (given node number updates) := by
  unfold succeeds at ends
  unfold given stateAfter
  split at ends
  · rename_i after ran
    rw [ran]
  · cases ends

def begun : Node Medium := start {} { backend := Medium.blank none }

/-- The fifth transaction comes before the third one. -/
def late : Node Medium :=
  given (given (given begun 1 [tag, balance 10]) 5 [balance 50]) 3 [balance 30]

/-- The response of the fifth transaction is overwritten by one with another balance. -/
def settled : Node Medium := given late 5 [balance 55]

/-- The fifth transaction comes last, and is overwritten by one that leaves the balance alone. -/
def withdrawn : Node Medium :=
  given (given (given (given begun 1 [tag]) 2 [balance 20]) 5 [balance 50]) 5 [nonce]

theorem delivered_late : Delivered begun late [⟨3⟩, ⟨5⟩, ⟨1⟩] [] := by
  have made : Delivered begun (given begun 1 [tag, balance 10]) [⟨1⟩] [] :=
    .delivered .start (by decide +kernel) (redeliver_eq_ok (by decide +kernel))
  have paid : Delivered begun (given (given begun 1 [tag, balance 10]) 5 [balance 50])
      [⟨5⟩, ⟨1⟩] [] :=
    .delivered made (by decide +kernel) (redeliver_eq_ok (by decide +kernel))
  exact .delivered paid (by decide +kernel) (redeliver_eq_ok (by decide +kernel))

theorem delivered_settled : Delivered begun settled [⟨3⟩, ⟨5⟩, ⟨1⟩]
    [(response [balance 50], response [balance 55])] :=
  .overwritten delivered_late (by decide +kernel) (redeliver_eq_ok (by decide +kernel))

theorem delivered_withdrawn : Delivered begun withdrawn [⟨5⟩, ⟨2⟩, ⟨1⟩]
    [(response [balance 50], response [nonce])] := by
  have made : Delivered begun (given begun 1 [tag]) [⟨1⟩] [] :=
    .delivered .start (by decide +kernel) (redeliver_eq_ok (by decide +kernel))
  have funded : Delivered begun (given (given begun 1 [tag]) 2 [balance 20]) [⟨2⟩, ⟨1⟩] [] :=
    .delivered made (by decide +kernel) (redeliver_eq_ok (by decide +kernel))
  have paid : Delivered begun (given (given (given begun 1 [tag]) 2 [balance 20]) 5 [balance 50])
      [⟨5⟩, ⟨2⟩, ⟨1⟩] [] :=
    .delivered funded (by decide +kernel) (redeliver_eq_ok (by decide +kernel))
  exact .overwritten paid (by decide +kernel) (redeliver_eq_ok (by decide +kernel))

/-- A purse that was delivered out of order, and then with another balance. -/
theorem reports_last_settled :
    Delivered begun settled [⟨3⟩, ⟨5⟩, ⟨1⟩] [(response [balance 50], response [balance 55])] ∧
      (∀ pair ∈ [(response [balance 50], response [balance 55])],
        UpdateKey.field .balance ∈ keysOf pair.2 purse ↔
          UpdateKey.field .balance ∈ keysOf pair.1 purse) ∧
      settled.Reports purse (.field .balance) (settled.LastWord [⟨3⟩, ⟨5⟩, ⟨1⟩] purse) := by
  have steady : ∀ pair ∈ [(response [balance 50], response [balance 55])],
      UpdateKey.field .balance ∈ keysOf pair.2 purse ↔
        UpdateKey.field .balance ∈ keysOf pair.1 purse := by decide
  exact ⟨delivered_settled, steady,
    (Delivered.reports_last delivered_settled purse (.field .balance) steady).2.1⟩

/-- **A node need not report what the greatest reference says**, neither after deliveries out of
order nor after responses that are overwritten by others about other fields. -/
theorem reports_other_than_greatest :
    (Delivered begun late [⟨3⟩, ⟨5⟩, ⟨1⟩] [] ∧
      ¬ late.Reports purse (.field .balance) (late.GreatestWord purse)) ∧
    (Delivered begun withdrawn [⟨5⟩, ⟨2⟩, ⟨1⟩] [(response [balance 50], response [nonce])] ∧
      ¬ withdrawn.Reports purse (.field .balance) (withdrawn.GreatestWord purse)) := by
  refine ⟨⟨delivered_late, ?_⟩, delivered_withdrawn, ?_⟩
  · rintro ⟨updates, told, exactly⟩
    have state : late.state purse = .ok [tag, balance 30] := by decide +kernel
    have greatest : late.GreatestWord purse (balance 50) := by
      refine ⟨⟨5⟩, response [balance 50], by decide +kernel, by decide +kernel,
        fun other later known _ => ?_⟩
      have checked := @of_all_responses? late (fun entry => decide (entry.1 ≤ ⟨5⟩))
        (by decide +kernel) _ _ known
      exact of_decide_eq_true checked
    have member := (exactly (balance 50) rfl).mpr greatest
    cases told.symm.trans state
    revert member
    decide +kernel
  · rintro ⟨updates, told, exactly⟩
    have state : withdrawn.state purse = .ok [tag, nonce] := by decide +kernel
    have greatest : withdrawn.GreatestWord purse (balance 20) := by
      refine ⟨⟨2⟩, response [balance 20], by decide +kernel, by decide +kernel,
        fun other later known updated => ?_⟩
      have checked := @of_all_responses? withdrawn (fun entry =>
          decide (UpdateKey.field .balance ∈ keysOf entry.2 purse → entry.1 ≤ ⟨2⟩))
        (by decide +kernel) _ _ known
      exact of_decide_eq_true checked updated
    have member := (exactly (balance 20) rfl).mpr greatest
    cases told.symm.trans state
    revert member
    decide +kernel

end Deliveries

end ObjectLedger
