/-
**The minimal gas is exact, and enough to start.**

* `saturatingAdd_saturate`, `foldl_saturatingAdd`: sums that are cut at each step are the exact sum,
  cut once.
* `exactMinimum`: the minimal gas in natural numbers. **`minimalGas_eq`**: the minimal gas is this
  number, cut to a word.
* `LinkedClasspath.Grows`: units are added, or get larger; so it is where a unit is linked
  (`LinkedClasspath.grows_of_addInstalled`). **`exactMinimum_mono`**: the minimum never decreases.
* **`Paid.exists_chargeStart`**: a gas limit that covers the minimum covers the first charges.
* **`minimalGas_exact`**: all of this.
-/
import Mathlib.Algebra.BigOperators.Group.List.Basic
import Mathlib.Algebra.GroupWithZero.Nat
import Mathlib.Data.List.Forall2
import ObjectLedger.Proofs.Code.Linking
import ObjectLedger.Proofs.Codec.Length
import ObjectLedger.Proofs.Gas.Accounts
import ObjectLedger.Transaction.Paid

namespace ObjectLedger

/-! ### Sums that are cut -/

theorem saturate_toNat (word : UInt64) : saturate word.toNat = word := by
  rw [← UInt64.toNat_inj, toNat_saturate]
  exact Nat.min_eq_left (toNat_le_maxWord word)

theorem saturate_mono {first second : Nat} (le : first ≤ second) :
    saturate first ≤ saturate second := by
  rw [UInt64.le_iff_toNat_le, toNat_saturate, toNat_saturate]
  omega

/-- A sum of cut numbers is the cut sum. -/
theorem saturatingAdd_saturate (first second : Nat) :
    saturatingAdd (saturate first) (saturate second) = saturate (first + second) := by
  rw [← UInt64.toNat_inj, toNat_saturatingAdd, toNat_saturate, toNat_saturate, toNat_saturate]
  omega

/-- A product of a cut number is the cut product. -/
theorem saturatingMul_saturate (number : Nat) (word : UInt64) :
    saturatingMul (saturate number) word = saturate (number * word.toNat) := by
  rw [← UInt64.toNat_inj, toNat_saturatingMul, toNat_saturate, toNat_saturate]
  by_cases fits : number ≤ maxWord
  · rw [Nat.min_eq_left fits]
  · have long := Nat.le_of_not_le fits
    rw [Nat.min_eq_right long]
    -- a product with zero is zero, and with any other word it is at its greatest
    rcases Nat.eq_zero_or_pos word.toNat with zero | positive
    · rw [zero, Nat.mul_zero, Nat.mul_zero]
    · rw [Nat.min_eq_right (Nat.le_mul_of_pos_right _ positive),
        Nat.min_eq_right (Nat.le_trans long (Nat.le_mul_of_pos_right _ positive))]

/-- **A sum that is cut at each step is the exact sum, cut once.** -/
theorem foldl_saturatingAdd {α : Type} {cost : α → UInt64} {exact : α → Nat}
    (each : ∀ value, cost value = saturate (exact value)) (values : List α) (start : Nat) :
    values.foldl (fun total value => saturatingAdd total (cost value)) (saturate start) =
      saturate (start + (values.map exact).sum) := by
  induction values generalizing start with
  | nil => rfl
  | cons value rest ih =>
    rw [List.foldl_cons, each, saturatingAdd_saturate, ih, List.map_cons, List.sum_cons,
      Nat.add_assoc]

/-! ### Costs in natural numbers -/

namespace CostModel

variable (costs : CostModel)

/-- A fixed cost and one for so many bytes, in natural numbers; nothing is divided by zero. -/
theorem perUnit_eq (fixed length bytesPerUnit : UInt64) :
    perUnit fixed length bytesPerUnit =
      saturate (fixed.toNat + length.toNat / bytesPerUnit.toNat) := by
  unfold perUnit
  split
  · rename_i none
    rw [none]
    exact ((saturate_toNat fixed).symm.trans
      (congrArg saturate (congrArg (fixed.toNat + ·) (Nat.div_zero _).symm)))
  · rw [saturatingAdd, UInt64.toNat_div]

/-- The cost of storing so many bytes, in natural numbers. -/
def exactStorage (bytes : Nat) : Nat :=
  bytes * costs.storagePerByte.toNat

/-- The CPU cost of loading a classpath, in natural numbers. -/
def exactCpu (classes : LinkedClasspath) : Nat :=
  (classes.lengths.map fun length =>
    costs.loadingCpu.toNat + length.toNat / costs.loadingBytesPerCpu.toNat).sum +
      classes.transactions.length * costs.responseCpu.toNat

/-- The RAM cost of loading a classpath, in natural numbers. -/
def exactRam (classes : LinkedClasspath) : Nat :=
  (classes.lengths.map fun length =>
    costs.loadingRam.toNat + length.toNat / costs.loadingBytesPerRam.toNat).sum

theorem storageOfBytes_saturate (bytes : Nat) :
    costs.storageOfBytes (saturate bytes) = saturate (costs.exactStorage bytes) :=
  saturatingMul_saturate ..

theorem ramOfClasspath_eq (classes : LinkedClasspath) :
    costs.ramOfClasspath classes = saturate (costs.exactRam classes) := by
  have loading := foldl_saturatingAdd
    (fun length => perUnit_eq costs.loadingRam length costs.loadingBytesPerRam) classes.lengths 0
  rw [Nat.zero_add] at loading
  exact loading

theorem cpuOfClasspath_eq (classes : LinkedClasspath) :
    costs.cpuOfClasspath classes = saturate (costs.exactCpu classes) := by
  have loading := foldl_saturatingAdd
    (fun length => perUnit_eq costs.loadingCpu length costs.loadingBytesPerCpu) classes.lengths 0
  have looking := fun start => foldl_saturatingAdd
    (fun _ : TransactionRef => (saturate_toNat costs.responseCpu).symm) classes.transactions start
  rw [Nat.zero_add] at loading
  unfold cpuOfClasspath
  refine (congrArg (classes.transactions.foldl _) loading).trans ((looking _).trans ?_)
  rw [List.map_const', List.sum_replicate_nat]
  rfl

end CostModel

/-- The minimal gas in natural numbers. -/
def exactMinimum (costs : CostModel) (request : Request) (action : Action) (gasLimit : UInt64)
    (classes : LinkedClasspath) (extra : UInt64) : Nat :=
  costs.baseCpu.toNat + costs.exactStorage (Codec.request.encode request).length +
    costs.exactStorage (Codec.response.encode (placeholder action gasLimit)).length +
    costs.exactCpu classes + costs.exactRam classes + extra.toNat

variable {costs : CostModel} {request longer : Request} {action other : Action}
  {gasLimit otherLimit extra more : UInt64} {classes larger : LinkedClasspath}

/-- **The minimal gas is the exact minimum, cut to a word.** -/
theorem minimalGas_eq (costs : CostModel) (request : Request) (action : Action) (gasLimit : UInt64)
    (classes : LinkedClasspath) (extra : UInt64) :
    minimalGas costs request action gasLimit classes extra =
      saturate (exactMinimum costs request action gasLimit classes extra) := by
  unfold minimalGas Request.size Response.size Codec.size
  conv_lhs =>
    rw [costs.storageOfBytes_saturate, costs.storageOfBytes_saturate, costs.cpuOfClasspath_eq,
      costs.ramOfClasspath_eq, ← saturate_toNat costs.baseCpu, ← saturate_toNat extra]
  simp only [List.foldl_cons, List.foldl_nil, saturatingAdd_saturate]
  rfl

/-! ### Growing -/

/-- Units were added to a classpath, or got larger. -/
structure LinkedClasspath.Grows (classes larger : LinkedClasspath) : Prop where
  lengths : List.SublistForall₂ (· ≤ ·) classes.lengths larger.lengths
  transactions : classes.transactions.length ≤ larger.transactions.length

/-- A cost that grows with a length grows along a sublist of shorter lengths. -/
theorem sum_le_of_sublistForall₂ {cost : UInt64 → Nat} {few many : List UInt64}
    (mono : ∀ {first second : UInt64}, first ≤ second → cost first ≤ cost second)
    (inside : List.SublistForall₂ (· ≤ ·) few many) : (few.map cost).sum ≤ (many.map cost).sum := by
  induction inside with
  | nil => exact Nat.zero_le _
  | cons le _ ih =>
    rw [List.map_cons, List.map_cons, List.sum_cons, List.sum_cons]
    exact Nat.add_le_add (mono le) ih
  | cons_right _ ih =>
    rw [List.map_cons, List.sum_cons]
    exact Nat.le_add_left_of_le ih

/-- A unit that is linked makes a classpath larger. -/
theorem LinkedClasspath.grows_of_addInstalled {limits : ClasspathLimits} {jar : TransactionRef}
    {bytes : List UInt8} (added : classes.addInstalled limits jar bytes = .ok larger) :
    classes.Grows larger := by
  obtain ⟨-, -, -, -, -, lengths, transactions⟩ := addInstalled_eq_ok added
  refine ⟨?_, ?_⟩
  · rw [lengths]
    exact List.sublistForall₂_iff.mpr
      ⟨_, List.forall₂_refl _, List.sublist_append_left _ _⟩
  · rw [transactions, List.length_append]
    exact Nat.le_add_right _ _

/-- The failure of a placeholder: no updates, four amounts of gas, and the cause. -/
theorem length_failure (gasLimit : UInt64) :
    (Codec.failure.encode ⟨[], ⟨gasLimit, gasLimit, gasLimit⟩, gasLimit,
      ⟨"placeholder", "placeholder"⟩⟩).length = 57 := by
  have updates : (Codec.digitBytes 0).length = 1 := by decide +kernel
  have cause : (Codec.cause.encode ⟨"placeholder", "placeholder"⟩).length = 24 := by
    decide +kernel
  have gas : (Codec.gasConsumed.encode ⟨gasLimit, gasLimit, gasLimit⟩).length = 24 := by
    show (Codec.wordBytes 8 _ ++ (Codec.wordBytes 8 _ ++ Codec.wordBytes 8 _)).length = 24
    simp only [List.length_append, Codec.length_wordBytes]
  show (Codec.digitBytes 0 ++ [] ++ (Codec.gasConsumed.encode _ ++ (Codec.wordBytes 8 _ ++
    Codec.cause.encode ⟨"placeholder", "placeholder"⟩))).length = 57
  simp only [List.length_append, Codec.length_wordBytes, gas, cause, updates, List.length_nil]

/-- All placeholders are of the same size: two tags and a failure. -/
theorem length_placeholder (action : Action) (gasLimit : UInt64) :
    (Codec.response.encode (placeholder action gasLimit)).length = 59 := by
  have tagged : ∀ kind ∈ [3, 4, 5], ∀ outcome ∈ [1, 2, 3],
      (Codec.digitBytes kind).length + ((Codec.digitBytes outcome).length + 57) = 59 := by
    decide +kernel
  cases action with
  | installJar =>
    show (Codec.digitBytes 3 ++ (Codec.digitBytes 1 ++ Codec.failure.encode _)).length = 59
    rw [List.length_append, List.length_append, length_failure]
    exact tagged 3 (by simp) 1 (by simp)
  | construct =>
    show (Codec.digitBytes 4 ++ (Codec.digitBytes 2 ++ Codec.failure.encode _)).length = 59
    rw [List.length_append, List.length_append, length_failure]
    exact tagged 4 (by simp) 2 (by simp)
  | invoke | invokeStatic =>
    show (Codec.digitBytes 5 ++ (Codec.digitBytes 3 ++ Codec.failure.encode _)).length = 59
    rw [List.length_append, List.length_append, length_failure]
    exact tagged 5 (by simp) 3 (by simp)

theorem CostModel.exactCpu_mono (costs : CostModel) (grows : classes.Grows larger) :
    costs.exactCpu classes ≤ costs.exactCpu larger := by
  refine Nat.add_le_add (sum_le_of_sublistForall₂ (fun le => ?_) grows.lengths)
    (Nat.mul_le_mul_right _ grows.transactions)
  exact Nat.add_le_add_left (Nat.div_le_div_right (UInt64.le_iff_toNat_le.mp le)) _

theorem CostModel.exactRam_mono (costs : CostModel) (grows : classes.Grows larger) :
    costs.exactRam classes ≤ costs.exactRam larger := by
  refine sum_le_of_sublistForall₂ (fun le => ?_) grows.lengths
  exact Nat.add_le_add_left (Nat.div_le_div_right (UInt64.le_iff_toNat_le.mp le)) _

/-- **The minimum never decreases** when the classpath, the request or the extra grows. -/
theorem exactMinimum_mono (costs : CostModel) (action other : Action) (gasLimit otherLimit : UInt64)
    (grows : classes.Grows larger)
    (asks : (Codec.request.encode request).length ≤ (Codec.request.encode longer).length)
    (needs : extra ≤ more) :
    exactMinimum costs request action gasLimit classes extra ≤
      exactMinimum costs longer other otherLimit larger more := by
  have cpu := costs.exactCpu_mono grows
  have ram := costs.exactRam_mono grows
  have stored : costs.exactStorage (Codec.request.encode request).length ≤
      costs.exactStorage (Codec.request.encode longer).length := Nat.mul_le_mul_right _ asks
  have needs := UInt64.le_iff_toNat_le.mp needs
  unfold exactMinimum
  rw [length_placeholder, length_placeholder]
  omega

/-! ### Starting -/

/-- What the gas at hand covers together is paid one after the other. -/
theorem Charger.exists_charge {charger : Charger} (purpose : GasUse) {amount : UInt64} {rest : Nat}
    (metered : charger.metered = true) (enough : amount.toNat + rest ≤ charger.remaining.toNat) :
    ∃ after, charger.charge purpose amount = .ok after ∧ after.metered = true ∧
      rest ≤ after.remaining.toNat := by
  have le : amount ≤ charger.remaining :=
    UInt64.le_iff_toNat_le.mpr (Nat.le_trans (Nat.le_add_right _ _) enough)
  refine ⟨_, charge_of_le metered le, metered, ?_⟩
  show rest ≤ (charger.remaining - amount).toNat
  rw [UInt64.toNat_sub_of_le _ _ le]
  omega

/-- **A gas limit that covers the minimum covers the first charges.** -/
theorem Paid.exists_chargeStart
    (covered : exactMinimum costs request action gasLimit classes extra ≤ gasLimit.toNat) :
    ∃ charger, chargeStart costs request classes gasLimit = .ok charger := by
  have bound := toNat_le_maxWord gasLimit
  unfold exactMinimum at covered
  have cpu : (saturatingAdd costs.baseCpu (costs.cpuOfClasspath classes)).toNat =
      costs.baseCpu.toNat + costs.exactCpu classes := by
    rw [costs.cpuOfClasspath_eq, toNat_saturatingAdd, toNat_saturate]
    omega
  have ram : (costs.ramOfClasspath classes).toNat = costs.exactRam classes := by
    rw [costs.ramOfClasspath_eq, toNat_saturate]
    omega
  have storage : (costs.storageOfBytes request.size).toNat =
      costs.exactStorage (Codec.request.encode request).length := by
    unfold Request.size Codec.size
    rw [costs.storageOfBytes_saturate, toNat_saturate]
    omega
  have enough : (saturatingAdd costs.baseCpu (costs.cpuOfClasspath classes)).toNat +
      ((costs.ramOfClasspath classes).toNat + ((costs.storageOfBytes request.size).toNat + 0)) ≤
        (Charger.withLimit gasLimit).remaining.toNat := by
    show _ ≤ gasLimit.toNat
    omega
  obtain ⟨first, paidCpu, metered, enough⟩ := Charger.exists_charge .cpu rfl enough
  obtain ⟨second, paidRam, metered, enough⟩ := Charger.exists_charge .ram metered enough
  obtain ⟨last, paidStorage, -, -⟩ := Charger.exists_charge .storage metered enough
  exact ⟨last, bind_eq_ok.mpr ⟨first, paidCpu, bind_eq_ok.mpr ⟨second, paidRam, paidStorage⟩⟩⟩

/-- **The minimal gas is exact and enough.** It is the exact minimum, cut to a word; it never
decreases when the classpath, the request or the extra grows; and a gas limit that covers the exact
minimum is not refused, and pays the first charges. -/
theorem minimalGas_exact (costs : CostModel) (request : Request) (action : Action)
    (gasLimit : UInt64) (classes : LinkedClasspath) (extra : UInt64) :
    let minimal := minimalGas costs request action gasLimit classes extra
    let least := exactMinimum costs request action gasLimit classes extra
    minimal.toNat = min (2 ^ 64 - 1) least ∧
      (∀ longer larger more, classes.Grows larger →
        (Codec.request.encode request).length ≤ (Codec.request.encode longer).length →
        extra ≤ more → ∀ other otherLimit,
          minimal ≤ minimalGas costs longer other otherLimit larger more) ∧
      (least ≤ gasLimit.toNat → ¬ gasLimit < minimal ∧
        ∃ charger, Paid.chargeStart costs request classes gasLimit = .ok charger) := by
  intro minimal least
  have same : minimal = saturate least := minimalGas_eq ..
  refine ⟨?_, fun longer larger more grows asks needs other otherLimit => ?_, fun covered => ?_⟩
  · rw [same, toNat_saturate, Nat.min_comm]
    rfl
  · rw [same, minimalGas_eq]
    exact saturate_mono (exactMinimum_mono costs action other gasLimit otherLimit grows asks needs)
  · refine ⟨?_, Paid.exists_chargeStart covered⟩
    rw [same, UInt64.not_lt, ← saturate_toNat gasLimit]
    exact saturate_mono covered

/-! ### A knock on a door -/

namespace Knock

/-- A unit takes the same CPU to load, whatever its size. -/
def tariff : CostModel := { loadingBytesPerCpu := 0 }

def header : Header := ⟨⟨⟨1⟩, 0⟩, 0, "", 1000, 1, ⟨⟨0⟩, true⟩, []⟩

def once : Action := .invokeStatic ⟨"Door", "knock", [], none⟩ []

def thrice : Action := .invokeStatic ⟨"Door", "knock", [.int], none⟩ [.int 3]

def door : LinkedClasspath := { lengths := [400], transactions := [⟨0⟩] }

/-- A second unit was linked before the first one, which got larger. -/
def doors : LinkedClasspath := { lengths := [200, 440], transactions := [⟨2⟩, ⟨3⟩] }

/-- The minimal gas of one knock is below 1000, which covers the first charges, and three knocks
over the larger classpath take no less. -/
theorem minimalGas_exact_knock :
    door.Grows doors ∧
      (Codec.request.encode (.paid header once)).length ≤
        (Codec.request.encode (.paid header thrice)).length ∧
      exactMinimum tariff (.paid header once) once 1000 door 0 ≤ (1000 : UInt64).toNat ∧
      (minimalGas tariff (.paid header once) once 1000 door 0).toNat = 183 ∧
      minimalGas tariff (.paid header once) once 1000 door 0 ≤
        minimalGas tariff (.paid header thrice) thrice 1000 doors 0 ∧
      ∃ charger, Paid.chargeStart tariff (.paid header once) door 1000 = .ok charger := by
  obtain ⟨cut, grows, covers⟩ := minimalGas_exact tariff (.paid header once) once 1000 door 0
  have more : door.Grows doors := ⟨.cons_right (.cons (by decide) .nil), by decide⟩
  have asks : (Codec.request.encode (.paid header once)).length ≤
      (Codec.request.encode (.paid header thrice)).length := by decide +kernel
  have covered : exactMinimum tariff (.paid header once) once 1000 door 0 ≤
      (1000 : UInt64).toNat := by decide +kernel
  have least : exactMinimum tariff (.paid header once) once 1000 door 0 = 183 := by
    decide +kernel
  rw [least] at cut
  exact ⟨more, asks, covered, cut,
    grows (.paid header thrice) doors 0 more asks UInt64.le_rfl thrice 1000, (covers covered).2⟩

end Knock

end ObjectLedger
