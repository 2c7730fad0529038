/-
**Which units linking loads, and in which order.**

* `LinkedClasspath.InClosure`: the classpaths that are needed: the given ones and, with a recursive one,
  its dependencies.
* **`LinkedClasspath.Walks.inClosure`**, `LinkedClasspath.Walks.met`, **`LinkedClasspath.Walks.closed`**: a
  walk loads only what is needed, with all that was given and, for a unit that it first met through a
  recursive classpath, its dependencies.
* **`LinkedClasspath.Walks.ordered`**: these come before the unit, unless they depend on it.
* **`LinkedClasspath.link_loads`**: so does linking. Where no unit is needed both with and without its
  dependencies, all that is needed is loaded, in whatever order it is given. Otherwise the order
  decides: `LinkedClasspath.flat_first`.
-/
import Mathlib.Logic.Relation
import ObjectLedger.Proofs.Code.Loading

namespace ObjectLedger

namespace LinkedClasspath

open Relation

variable {view : LedgerView} {limits : ClasspathLimits} {linked : LinkedClasspath}
  {classpaths others loaded : List Classpath} {progress next : Progress}
  {classpath entry : Classpath} {jar : TransactionRef} {bytes : List UInt8}
  {dependencies : List Classpath}

/-! ### What is needed -/

/-- The least set of classpaths that contains the given ones and, with a recursive one, all the
dependencies recorded by its jar. -/
inductive InClosure (view : LedgerView) (classpaths : List Classpath) : Classpath → Prop
  | given {classpath : Classpath} (member : classpath ∈ classpaths) :
      InClosure view classpaths classpath
  | dependency {jar : TransactionRef} {bytes : List UInt8} {dependencies : List Classpath}
      {classpath : Classpath} (needed : InClosure view classpaths ⟨jar, true⟩)
      (code : view.HasCode jar bytes dependencies) (member : classpath ∈ dependencies) :
      InClosure view classpaths classpath

/-- The first unit has the second one as a dependency. -/
def DependsOn (view : LedgerView) (jar other : TransactionRef) : Prop :=
  ∃ bytes dependencies, view.HasCode jar bytes dependencies ∧
    ∃ classpath ∈ dependencies, classpath.jar = other

/-- What is needed for classpaths that are needed is needed. -/
theorem InClosure.trans (needed : InClosure view classpaths entry)
    (inside : ∀ classpath ∈ classpaths, InClosure view others classpath) :
    InClosure view others entry := by
  induction needed with
  | given member => exact inside _ member
  | dependency needed code member ih => exact .dependency ih code member

/-- It only matters which classpaths are given. -/
theorem inClosure_congr (same : ∀ classpath, classpath ∈ classpaths ↔ classpath ∈ others) :
    InClosure view classpaths entry ↔ InClosure view others entry :=
  ⟨fun needed => needed.trans fun classpath member => .given ((same classpath).mp member),
    fun needed => needed.trans fun classpath member => .given ((same classpath).mpr member)⟩

/-- Dependencies that are included are needed. -/
theorem InClosure.of_included (needed : InClosure view classpaths classpath)
    (code : view.HasCode classpath.jar bytes dependencies) :
    ∀ dependency ∈ included classpath dependencies, InClosure view classpaths dependency := by
  intro dependency member
  obtain ⟨jar, recursive⟩ := classpath
  cases recursive with
  | false => cases member
  | true => exact .dependency needed code member

/-! ### What a walk loads -/

/-- Where an entry can stand beside another one. -/
theorem cases_of_append_cons_eq {α : Type} {first second front back : List α} {here entry : α}
    (same : first ++ here :: second = front ++ entry :: back) :
    (∃ between, first = front ++ entry :: between) ∨ (front = first ∧ entry = here) ∨
      ∃ between, front = first ++ here :: between ∧ second = between ++ entry :: back := by
  rcases List.append_eq_append_iff.mp same with ⟨between, rfl, rest⟩ | ⟨between, rfl, rest⟩
  · rcases List.cons_eq_append_iff.mp rest with ⟨rfl, tail⟩ | ⟨between, rfl, tail⟩
    · exact Or.inr (Or.inl ⟨List.append_nil _, (List.cons.inj tail).1⟩)
    · exact Or.inr (Or.inr ⟨between, rfl, tail⟩)
  · rcases List.cons_eq_append_iff.mp rest with ⟨rfl, tail⟩ | ⟨between, rfl, tail⟩
    · exact Or.inr (Or.inl ⟨(List.append_nil _).symm, (List.cons.inj tail).1.symm⟩)
    · exact Or.inl ⟨between, rfl⟩

theorem mem_of_mem_included (member : entry ∈ included classpath dependencies) :
    entry ∈ dependencies := by
  unfold included at member
  split at member
  · exact member
  · cases member

namespace Walks

/-- **A walk loads only what is needed.** -/
theorem inClosure (walks : Walks view limits progress classpaths loaded next) :
    ∀ entry ∈ loaded, InClosure view classpaths entry := by
  induction walks with
  | nil progress => exact fun _ member => by cases member
  | @met progress next classpath rest loaded known later ih =>
    exact fun entry member => (ih entry member).trans fun other inside =>
      .given (List.mem_cons_of_mem _ inside)
  | @unit progress middle after next classpath rest dependencies first second bytes unmet code inside
      added later dependenciesNeeded restNeeded =>
    have here : InClosure view (classpath :: rest) classpath := .given List.mem_cons_self
    intro entry member
    rcases List.mem_append.mp member with before | member
    · exact (dependenciesNeeded entry before).trans (here.of_included code)
    · rcases List.mem_cons.mp member with rfl | behind
      · exact here
      · exact (restNeeded entry behind).trans fun other inside =>
          .given (List.mem_cons_of_mem _ inside)

/-- What was met stays met. -/
theorem visited_subset (walks : Walks view limits progress classpaths loaded next) :
    progress.visited ⊆ next.visited := fun _ member =>
  walks.visited_perm.mem_iff.mpr (List.mem_append_right _ member)

/-- All that is given is met. -/
theorem met_of_mem (walks : Walks view limits progress classpaths loaded next) :
    ∀ classpath ∈ classpaths, classpath.jar ∈ next.visited := by
  induction walks with
  | nil progress => exact fun _ member => by cases member
  | met known later ih => exact List.forall_mem_cons.mpr ⟨later.visited_subset known, ih⟩
  | unit unmet code inside added later dependencies rest =>
    refine List.forall_mem_cons.mpr ⟨later.visited_subset ?_, rest⟩
    rw [(Progress.add_eq_ok added).2.1]
    exact inside.visited_subset List.mem_cons_self

/-- **The dependencies of a unit that it first met through a recursive classpath are met.** -/
theorem closed (walks : Walks view limits progress classpaths loaded next) :
    ∀ entry ∈ loaded, entry.recursive = true → ∀ bytes dependencies,
      view.HasCode entry.jar bytes dependencies →
        ∀ dependency ∈ dependencies, dependency.jar ∈ next.visited := by
  induction walks with
  | nil progress => exact fun _ member => by cases member
  | met known later ih => exact ih
  | @unit progress middle after next classpath rest dependencies first second bytes unmet code inside
      added later dependenciesClosed restClosed =>
    have stays : middle.visited ⊆ next.visited := by
      rw [← (Progress.add_eq_ok added).2.1]
      exact later.visited_subset
    intro entry member recursive others more codeToo dependency among
    rcases List.mem_append.mp member with before | member
    · exact stays (dependenciesClosed entry before recursive _ _ codeToo dependency among)
    · rcases List.mem_cons.mp member with rfl | behind
      · obtain ⟨-, rfl⟩ := code.unique codeToo
        exact stays (inside.met_of_mem dependency (by rwa [included, if_pos recursive]))
      · exact restClosed entry behind recursive _ _ codeToo dependency among

/-- The units that were met and are not loaded yet. -/
theorem waiting (walks : Walks view limits progress classpaths loaded next)
    (met : jar ∈ next.visited) (unloaded : jar ∉ next.linked.transactions) :
    jar ∈ progress.visited ∧ jar ∉ progress.linked.transactions := by
  rw [walks.transactions_eq, List.mem_append, not_or] at unloaded
  refine ⟨?_, unloaded.1⟩
  rcases List.mem_append.mp (walks.visited_perm.mem_iff.mp met) with new | old
  · exact absurd new unloaded.2
  · exact old

/-- **The dependencies of a unit that it first met through a recursive classpath are loaded before it,
unless they depend on it**: what was met and is not loaded yet waits for what is visited. -/
theorem ordered (walks : Walks view limits progress classpaths loaded next)
    (waits : ∀ jar ∈ progress.visited, jar ∉ progress.linked.transactions →
      ∀ classpath ∈ classpaths, TransGen (DependsOn view) jar classpath.jar)
    {front back : List Classpath} (split : loaded = front ++ entry :: back)
    (recursive : entry.recursive = true) (code : view.HasCode entry.jar bytes dependencies)
    (member : classpath ∈ dependencies) :
    classpath.jar ∈ progress.linked.transactions ++ front.map Classpath.jar ∨
      ReflTransGen (DependsOn view) classpath.jar entry.jar := by
  induction walks generalizing front back with
  | nil progress => simp at split
  | met known later ih =>
    exact ih (fun jar met unloaded other inside =>
      waits jar met unloaded other (List.mem_cons_of_mem _ inside)) split
  | @unit progress middle after next here rest more first second bytesHere unmet codeHere inside
      added later dependenciesOrdered restOrdered =>
    obtain ⟨-, sameVisited, moreTransactions⟩ := Progress.add_eq_ok added
    have loadedInside : middle.linked.transactions =
        progress.linked.transactions ++ first.map Classpath.jar := inside.transactions_eq
    rcases cases_of_append_cons_eq split with
      ⟨between, early⟩ | ⟨rfl, rfl⟩ | ⟨between, rfl, late⟩
    · -- a dependency on the way: the unit itself waits for it as well
      refine dependenciesOrdered (fun jar met unloaded dependency among => ?_) early
      have below : DependsOn view here.jar dependency.jar :=
        ⟨_, _, codeHere, dependency, mem_of_mem_included among, rfl⟩
      rcases List.mem_cons.mp met with rfl | met
      · exact .single below
      · exact (waits jar met unloaded here List.mem_cons_self).tail below
    · -- the unit itself: a dependency that is not loaded was waiting for it, or is the unit
      obtain ⟨-, rfl⟩ := codeHere.unique code
      rw [← loadedInside]
      by_cases unloaded : classpath.jar ∈ middle.linked.transactions
      · exact Or.inl unloaded
      have met := inside.met_of_mem classpath (by rwa [included, if_pos recursive])
      obtain ⟨before, unloadedBefore⟩ := inside.waiting met unloaded
      rcases List.mem_cons.mp before with same | before
      · exact Or.inr (same ▸ .refl)
      · exact Or.inr (waits _ before unloadedBefore _ List.mem_cons_self).to_reflTransGen
    · -- a unit after it
      have kept : after.linked.transactions ++ between.map Classpath.jar =
          progress.linked.transactions ++ (first ++ here :: between).map Classpath.jar := by
        rw [moreTransactions, loadedInside]
        simp
      rw [← kept]
      refine restOrdered (fun jar met unloaded other among => ?_) late
      rw [moreTransactions, List.mem_append, not_or, List.mem_singleton] at unloaded
      obtain ⟨before, unloadedBefore⟩ := inside.waiting (sameVisited ▸ met) unloaded.1
      rcases List.mem_cons.mp before with same | before
      · exact absurd same unloaded.2
      · exact waits jar before unloadedBefore other (List.mem_cons_of_mem _ among)

end Walks

/-! ### Linking -/

/-- No unit is needed both with its dependencies and without them. -/
def Consistent (view : LedgerView) (classpaths : List Classpath) : Prop :=
  ∀ jar, InClosure view classpaths ⟨jar, true⟩ → ¬ InClosure view classpaths ⟨jar, false⟩

/-- **What linking loads, and in which order.** The units are those of the classpaths as they were first
met. These are needed; all that is given is among them and, with a recursive one, its dependencies,
which come before it unless they depend on it. All that is needed is loaded where no unit is needed both
with and without its dependencies. -/
theorem link_loads (links : link view classpaths limits = .ok linked) :
    ∃ loaded : List Classpath, linked.transactions = loaded.map Classpath.jar ∧
      linked.transactions.Nodup ∧
      (∀ entry ∈ loaded, InClosure view classpaths entry) ∧
      (∀ classpath ∈ classpaths, classpath.jar ∈ linked.transactions) ∧
      (∀ front entry back, loaded = front ++ entry :: back → entry.recursive = true →
        ∀ bytes dependencies, view.HasCode entry.jar bytes dependencies →
          ∀ dependency ∈ dependencies, dependency.jar ∈ linked.transactions ∧
            (dependency.jar ∈ front.map Classpath.jar ∨
              ReflTransGen (DependsOn view) dependency.jar entry.jar)) ∧
      (Consistent view classpaths → ∀ jar, jar ∈ linked.transactions ↔
        ∃ recursive, InClosure view classpaths ⟨jar, recursive⟩) := by
  obtain ⟨loaded, last, walks, rfl⟩ := walks_of_link links
  have transactions : last.linked.transactions = loaded.map Classpath.jar :=
    walks.transactions_eq.trans (List.nil_append _)
  have met : ∀ jar, jar ∈ last.visited ↔ jar ∈ last.linked.transactions := fun jar => by
    rw [transactions, walks.visited_perm.mem_iff, show ({} : Progress).visited = [] from rfl,
      List.append_nil]
  have needed := walks.inClosure
  have given : ∀ classpath ∈ classpaths, classpath.jar ∈ last.linked.transactions :=
    fun classpath member => (met _).mp (walks.met_of_mem classpath member)
  refine ⟨loaded, transactions, walks.transactions_nodup, needed, given, ?_,
    fun consistent jar => ⟨?_, ?_⟩⟩
  · intro front entry back split recursive bytes dependencies code dependency member
    have inside : entry ∈ loaded := split ▸ List.mem_append_right _ List.mem_cons_self
    refine ⟨(met _).mp (walks.closed entry inside recursive _ _ code dependency member), ?_⟩
    exact walks.ordered (fun _ never => by cases never) split recursive code member
  · intro among
    rw [transactions] at among
    obtain ⟨entry, inside, rfl⟩ := List.mem_map.mp among
    exact ⟨entry.recursive, needed entry inside⟩
  · have all : ∀ entry, InClosure view classpaths entry → entry.jar ∈ last.linked.transactions := by
      intro entry inClosure
      induction inClosure with
      | given member => exact given _ member
      | @dependency jar bytes dependencies classpath inClosure code member ih =>
        rw [transactions] at ih
        obtain ⟨⟨jar, recursive⟩, inside, rfl⟩ := List.mem_map.mp ih
        cases recursive with
        | true => exact (met _).mp (walks.closed _ inside rfl _ _ code classpath member)
        | false => exact absurd (needed _ inside) (consistent jar inClosure)
    exact fun ⟨recursive, inClosure⟩ => all _ inClosure

/-- The same is loaded in whatever order the classpaths are given. -/
theorem transactions_perm {after : LinkedClasspath} (same : classpaths.Perm others)
    (consistent : Consistent view classpaths) (links : link view classpaths limits = .ok linked)
    (linksToo : link view others limits = .ok after) :
    linked.transactions.Perm after.transactions := by
  have sameClosure : ∀ entry, InClosure view classpaths entry ↔ InClosure view others entry :=
    fun entry => inClosure_congr fun classpath => same.mem_iff
  obtain ⟨-, -, once, -, -, -, all⟩ := link_loads links
  obtain ⟨-, -, onceToo, -, -, -, allToo⟩ := link_loads linksToo
  refine (List.perm_ext_iff_of_nodup once onceToo).mpr fun jar => ?_
  rw [all consistent, allToo fun jar needed flat =>
    consistent jar ((sameClosure _).mpr needed) ((sameClosure _).mpr flat)]
  exact exists_congr fun recursive => sameClosure _

/-- A unit that depends on another one. -/
def pairView : LedgerView where
  response jar :=
    if jar = ⟨0⟩ then .ok (some (.initialJar (CodeUnit.toBytes ⟨[]⟩) []))
    else if jar = ⟨1⟩ then .ok (some (.initialJar (CodeUnit.toBytes ⟨[]⟩) [⟨⟨0⟩, false⟩]))
    else .ok none
  history _ := .ok []
  manifest := .ok none
  now := 0

/-- Given first without its dependencies and then with them, the unit is loaded without them, though
they are needed; the other way round they are loaded. -/
theorem flat_first :
    InClosure pairView [⟨⟨1⟩, false⟩, ⟨⟨1⟩, true⟩] ⟨⟨0⟩, false⟩ ∧
      (link pairView [⟨⟨1⟩, false⟩, ⟨⟨1⟩, true⟩] ⟨10, 1000⟩).map transactions = .ok [⟨1⟩] ∧
      (link pairView [⟨⟨1⟩, true⟩, ⟨⟨1⟩, false⟩] ⟨10, 1000⟩).map transactions =
        .ok [⟨0⟩, ⟨1⟩] := by
  refine ⟨?_, by decide +kernel, by decide +kernel⟩
  have code : pairView.HasCode ⟨1⟩ (CodeUnit.toBytes ⟨[]⟩) [⟨⟨0⟩, false⟩] :=
    ⟨_, rfl, rfl⟩
  exact .dependency (.given (by decide)) code List.mem_cons_self

end LinkedClasspath

end ObjectLedger
