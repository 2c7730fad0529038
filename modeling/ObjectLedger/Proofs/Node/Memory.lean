/-
**Nodes that keep their records in memory.**

* `Node.entries?`: all that such a node has recorded of a kind.
* `Node.writesOnly_of_installs`, `Node.coins_eq_sum_of_histories`: what can be read off it.
* `Purses`: a node with a gamete, and code for purses.
-/
import ObjectLedger.Code.BaseLibrary
import ObjectLedger.Proofs.Node.Submission

namespace ObjectLedger

namespace Node

variable {κ ν : Type} [DecidableEq κ] {node : Node Medium}

/-- All that a node in memory has recorded of a kind. -/
def entries? (node : Node Medium) (select : Records → Table κ ν) : Option (List (κ × ν)) :=
  match node.ledger.backend with
  | .memory memory => some ((select memory.pending).entries ++ (select memory.committed).entries)
  | .disk _ => none

/-- What holds of all that is recorded holds of whatever is looked up. -/
theorem of_all_entries {memory : Memory} {select : Records → Table κ ν} {check : κ × ν → Bool}
    (all : ((select memory.pending).entries ++ (select memory.committed).entries).all check = true)
    {key : κ} {value : ν}
    (found : memory.lookup .uncommitted (fun records => (select records).get? key) = some value) :
    check (key, value) = true := by
  refine List.all_eq_true.mp all _ (List.mem_append.mpr ?_)
  cases pending : (select memory.pending).get? key with
  | some other =>
    have same : other = value := by
      rw [Memory.lookup, pending] at found
      exact Option.some.inj found
    exact Or.inl (Table.mem_entries_of_get? (same ▸ pending))
  | none =>
    rw [Memory.lookup, pending] at found
    exact Or.inr (Table.mem_entries_of_get? found)

/-! ### Responses -/

theorem of_all_responses? {check : TransactionRef × Response → Bool}
    (all : ((node.entries? Records.responses).any fun entries => entries.all check) = true)
    {reference : TransactionRef} {response : Response}
    (found : node.response reference = .ok (some response)) :
    check (reference, response) = true := by
  have found : Backend.response node.ledger.backend .uncommitted reference =
    .ok (some response) := found
  unfold entries? at all
  cases backend : node.ledger.backend with
  | disk disk =>
    rw [backend] at all
    cases all
  | memory memory =>
    rw [backend] at all found
    exact of_all_entries all (Except.ok.inj found)

/-- The code of a response writes only some fields. -/
def writesOnly (writable : FieldSignature → Prop) [DecidablePred writable] (response : Response) :
    Bool :=
  response.installed?.all fun code =>
    match CodeUnit.ofBytes code.1 with
    | .ok unit => decide (unit.WritesOnly writable)
    | .error _ => true

theorem writesOnly_of_installs {writable : FieldSignature → Prop} [DecidablePred writable]
    (all : ((node.entries? Records.responses).any fun entries =>
      entries.all fun entry => writesOnly writable entry.2) = true)
    {jar : TransactionRef} {unit : CodeUnit} (installs : node.ledger.view.Installs jar unit) :
    unit.WritesOnly writable := by
  obtain ⟨response, bytes, dependencies, found, code, decoded⟩ := installs
  have checked := of_all_responses? all found
  simp only [writesOnly, code, decoded, Option.all_some] at checked
  exact of_decide_eq_true checked

/-! ### Histories -/

/-- All coins are those of the objects whose histories are recorded. -/
theorem coins_eq_sum_of_histories (objects : List ObjectRef)
    (all : ((node.entries? Records.histories).any fun entries =>
      entries.all fun entry => entry.1 ∈ objects) = true) (distinct : objects.Nodup) :
    node.ledger.view.coins =
      (objects.map fun object => (node.ledger.view.value object .balance).coins).sum := by
  have known : ∀ object, node.ledger.view.knows object = true → object ∈ objects := by
    intro object knows
    unfold entries? at all
    cases backend : node.ledger.backend with
    | disk disk =>
      rw [backend] at all
      cases all
    | memory memory =>
      rw [backend] at all
      have history : node.ledger.view.history object = .ok ((memory.lookup .uncommitted
          fun records => records.histories.get? object).getD []) := by
        show Backend.history node.ledger.backend .uncommitted object = _
        rw [backend]
        rfl
      cases found : memory.lookup .uncommitted fun records => records.histories.get? object with
      | none =>
        rw [found] at history
        rw [LedgerView.knows, history] at knows
        cases knows
      | some entries => exact of_decide_eq_true (of_all_entries all found)
  rw [LedgerView.coins_eq_sum, ← List.sum_toFinset _ distinct]
  refine (Finset.sum_subset (Finset.subset_univ _) fun object _ outside => ?_).symm
  have unknown : ¬ node.ledger.view.knows object = true :=
    fun knows => outside (List.mem_toFinset.mpr (known object knows))
  rw [LedgerView.value_of_no_history (LedgerView.history_of_not_knows unknown)]
  rfl

end Node

/-! ### A short run -/

namespace Purses

open Node

/-- Accounts, and purses that lose some of the coins that they are made with. -/
def unit : CodeUnit :=
  ⟨[{ BaseLibrary.contract with superclass := none, constructors := [], methods := [] },
    { BaseLibrary.account with constructors := [], methods := [] },
    BaseLibrary.gamete,
    ⟨"Purse", some ClassName.contract, [],
      [⟨[.bigInteger], .receivesCoins, 0, [.ret]⟩,
        ⟨[.bigInteger, .bigInteger], .receivesCoins, 0,
          [.load 2, .new ⟨"Purse", [.bigInteger]⟩, .pop, .ret]⟩], []⟩]⟩

def gamete : ObjectRef := ⟨⟨1⟩, 0⟩

def installing : Request := .installInitialJar unit.toBytes []

def creation : Request := .createGamete ⟨⟨0⟩, false⟩ 1000000 "key"

def begun : Node Medium := start {} { backend := Medium.blank none }

def installed : Node Medium := begun.submitted installing

def funded : Node Medium := installed.submitted creation

/-- Another nonce is not that of the gamete yet, and a purse cannot lose more than it gets. -/
def header (nonce : Amount) : Header where
  caller := gamete
  nonce
  chainId := ""
  gasLimit := 5000
  gasPrice := 3
  classpath := ⟨⟨0⟩, false⟩
  signature := []

def making (amount lost : Amount) : Action :=
  .construct ⟨"Purse", [.bigInteger, .bigInteger]⟩ [.bigInteger amount, .bigInteger lost]

/-- The response of the first purse, of which five coins are lost. -/
def made : Response :=
  .constructorCall (.successful ⟨⟨2⟩, 0⟩
    ⟨[.field gamete .balance (.bigInteger 998412), .field gamete .nonce (.bigInteger 1),
      .classTag ⟨⟨2⟩, 0⟩ "Purse" ⟨0⟩, .field ⟨⟨2⟩, 0⟩ .balance (.bigInteger 95)], [], ⟨85, 49, 362⟩⟩)

/-- The response of a purse that cannot lose so many coins. -/
def refused : Response :=
  .constructorCall (.failed {
    updates := [.field gamete .balance (.bigInteger 985000), .field gamete .nonce (.bigInteger 1)]
    gas := ⟨72, 37, 104⟩
    penalty := 4787
    cause := ⟨"lang.InsufficientFundsError", "0000000000000002#0 cannot pay 500"⟩ })

theorem submitted_funded : Submitted begun funded [installing, creation] := by
  have code : Submitted begun installed [installing] :=
    Submitted.start.next (by decide +kernel)
  exact code.next (by decide +kernel)

/-- Two transactions are recorded at the node with the gamete. -/
theorem lt_two_of_response {reference : TransactionRef} {response : Response}
    (found : funded.response reference = .ok (some response)) : reference < ⟨2⟩ := by
  have bound : ((funded.entries? Records.responses).any fun entries =>
      entries.all fun entry => decide (entry.1 < (⟨2⟩ : TransactionRef))) = true := by decide +kernel
  exact of_decide_eq_true (of_all_responses? bound found)

theorem build_made :
    (Outcome.build {} funded.ledger.view funded.cache ⟨2⟩ (.paid (header 0) (making 100 5))).1 =
      .ok (.completed made) := by decide +kernel

theorem build_refused :
    (Outcome.build {} funded.ledger.view funded.cache ⟨2⟩ (.paid (header 0) (making 100 500))).1 =
      .ok (.failed refused) := by decide +kernel

end Purses

end ObjectLedger
