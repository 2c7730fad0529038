/-
**Linking again, over a store that has grown.**

* `Progress.Retraced`: a walk over another store met the same units, and maybe some that the first
  store does not know, and has the same classes.
* **`LinkedClasspath.visit_again`**: a walk that succeeded succeeds again over a later store, also if
  such units were met before it. **`LinkedClasspath.link_again`**: so what was linked once can be
  linked again.
* `LinkedClasspath.Takes`: the checks of a unit that is to be installed.
  **`LinkedClasspath.Takes.provides`**: once it is installed, it can be linked after whatever was
  linked before its dependencies.
-/
import ObjectLedger.Proofs.Code.Classes
import ObjectLedger.Proofs.Transaction.Caching

namespace ObjectLedger

/-- Linking the classpaths gives the classes of a unit, as those of the jar that installed it. -/
def LedgerView.Provides (view : LedgerView) (limits : ClasspathLimits) (classpaths : List Classpath)
    (jar : TransactionRef) (bytes : List UInt8) : Prop :=
  ∃ unit linked, CodeUnit.ofBytes bytes = .ok unit ∧
    LinkedClasspath.link view classpaths limits = .ok linked ∧
    ∀ definition ∈ unit.classes,
      LinkedClasspath.linkedClass? linked.classes definition.name = some ⟨definition, some jar⟩

namespace LinkedClasspath

variable {view later : LedgerView} {limits : ClasspathLimits} {linked after : LinkedClasspath}
  {unit : CodeUnit} {bytes : List UInt8} {jar : TransactionRef} {classpath : Classpath}
  {classpaths dependencies : List Classpath} {extra : TransactionRef → Prop}
  {progress again next : Progress} {depth : Nat} {response : Response}

/-! ### Walking again -/

/-- A walk over another store met the same units, which the first store knows, and extra ones. Its
classes are the same. -/
structure Progress.Retraced (view : LedgerView) (extra : TransactionRef → Prop)
    (progress again : Progress) : Prop where
  known : ∀ jar ∈ progress.visited, ∃ response, view.response jar = .ok (some response)
  linked : again.linked = progress.linked
  visited : ∀ jar, jar ∈ again.visited ↔ extra jar ∨ jar ∈ progress.visited
  apart : again.visited.Nodup

theorem Progress.Retraced.enter (retraced : progress.Retraced view extra again)
    (found : view.response jar = .ok (some response)) (unmet : jar ∉ again.visited) :
    (progress.enter jar).Retraced view extra (again.enter jar) where
  known other met := by
    rcases List.mem_cons.mp met with rfl | before
    · exact ⟨response, found⟩
    · exact retraced.known other before
  linked := retraced.linked
  visited other := by
    show other ∈ jar :: again.visited ↔ extra other ∨ other ∈ jar :: progress.visited
    rw [List.mem_cons, List.mem_cons, retraced.visited]
    tauto
  apart := List.nodup_cons.mpr ⟨unmet, retraced.apart⟩

theorem Progress.Retraced.add (retraced : progress.Retraced view extra again)
    (added : progress.add limits jar bytes = .ok next) :
    ∃ last, again.add limits jar bytes = .ok last ∧ next.Retraced view extra last ∧
      last.visited = again.visited := by
  unfold Progress.add at added ⊢
  rw [retraced.linked]
  split at added
  · cases added
  · cases added
    exact ⟨_, rfl, ⟨retraced.known, rfl, retraced.visited, retraced.apart⟩, rfl⟩

/-- **A visit that succeeded succeeds again over a later store**, also after extra units that the
first store does not know, and with any bound on the nesting that is enough. -/
theorem visit_again (newer : later.Extends view)
    (unknown : ∀ jar, extra jar → view.response jar = .ok none)
    (ran : visit view limits depth progress classpath = .ok next)
    (retraced : progress.Retraced view extra again) (deeper : Nat)
    (deep : maxNesting ≤ deeper + again.visited.length) :
    ∃ last, visit later limits deeper again classpath = .ok last ∧
      next.Retraced view extra last ∧ again.visited.length ≤ last.visited.length := by
  induction depth generalizing deeper progress again next classpath with
  | zero => cases ran
  | succ depth ih =>
    obtain ⟨deeper, rfl⟩ : ∃ less, deeper = less + 1 := by
      have bound := length_lt_maxNesting retraced.apart
      exact Nat.exists_eq_succ_of_ne_zero (by omega)
    rcases visit_cases_of_ok ran with
      ⟨met, rfl⟩ | ⟨response, bytes, dependencies, middle, unmet, found, installed, walked, added⟩
    · exact ⟨again, visit_of_met ((retraced.visited _).mpr (Or.inr met)), retraced, Nat.le_refl _⟩
    -- a unit that the first store knows is none of the extra ones
    have unmet : classpath.jar ∉ again.visited := by
      rw [retraced.visited]
      rintro (additional | before)
      · rw [unknown _ additional] at found
        cases found
      · exact unmet before
    have entered := retraced.enter found unmet
    obtain ⟨reached, walkedAgain, same, longer⟩ : ∃ reached,
        (again.enter classpath.jar).walk later limits deeper classpath dependencies = .ok reached ∧
          middle.Retraced view extra reached ∧ again.visited.length < reached.visited.length := by
      unfold Progress.walk at walked ⊢
      split at walked
      · rename_i recursive
        rw [if_pos recursive]
        refine foldlM_alongside
          (fun state beside => state.Retraced view extra beside ∧
            again.visited.length < beside.visited.length)
          ?_ dependencies ⟨entered, Nat.lt_succ_self _⟩ walked
        rintro state beside dependency after ⟨same, longer⟩ visited
        obtain ⟨last, visitedAgain, sameLast, more⟩ := ih visited same deeper (by omega)
        exact ⟨last, visitedAgain, sameLast, by omega⟩
      · rename_i single
        cases walked
        exact ⟨_, if_neg single, entered, Nat.lt_succ_self _⟩
    obtain ⟨last, addedAgain, sameLast, visited⟩ := same.add added
    refine ⟨last, ?_, sameLast, visited ▸ Nat.le_of_lt longer⟩
    rw [visit_of_unmet unmet (newer _ response found) installed, walkedAgain]
    exact addedAgain

/-- The same of classpaths that are visited in order. -/
theorem visits_again (newer : later.Extends view)
    (unknown : ∀ jar, extra jar → view.response jar = .ok none)
    (ran : classpaths.foldlM (visit view limits depth) progress = .ok next)
    (retraced : progress.Retraced view extra again) (deeper : Nat)
    (deep : maxNesting ≤ deeper + again.visited.length) :
    ∃ last, classpaths.foldlM (visit later limits deeper) again = .ok last ∧
      next.Retraced view extra last := by
  obtain ⟨last, visited, same, -⟩ := foldlM_alongside
    (fun state beside => state.Retraced view extra beside ∧
      again.visited.length ≤ beside.visited.length)
    (fun state beside classpath after ⟨same, longer⟩ ran => by
      obtain ⟨last, visited, sameLast, more⟩ :=
        visit_again newer unknown ran same deeper (by omega)
      exact ⟨last, visited, sameLast, by omega⟩)
    classpaths ⟨retraced, Nat.le_refl _⟩ ran
  exact ⟨last, visited, same⟩

theorem retraced_start : Progress.Retraced view (fun _ => False) {} {} :=
  ⟨fun _ met => (nomatch met), rfl, fun _ => by simp, List.nodup_nil⟩

/-- **What was linked once can be linked again**, over any later store. -/
theorem link_again (newer : later.Extends view) (links : link view classpaths limits = .ok linked) :
    link later classpaths limits = .ok linked := by
  obtain ⟨progress, walked, same⟩ := bind_eq_ok.mp links
  cases same
  obtain ⟨last, walkedAgain, same⟩ := visits_again newer (fun _ never => never.elim) walked
    retraced_start maxNesting (Nat.le_add_right maxNesting 0)
  unfold link
  rw [walkedAgain]
  exact congrArg Except.ok same.linked

/-! ### Classpaths that are given twice -/

/-- The units that were met stay so, and the unit that is visited is one of them. -/
theorem mem_visited_of_visit (ran : visit view limits depth progress classpath = .ok next) :
    progress.visited ⊆ next.visited ∧ classpath.jar ∈ next.visited := by
  induction depth generalizing progress next classpath with
  | zero => cases ran
  | succ depth ih =>
    rcases visit_cases_of_ok ran with
      ⟨met, rfl⟩ | ⟨response, bytes, dependencies, middle, -, -, -, walked, added⟩
    · exact ⟨List.Subset.refl _, met⟩
    have kept : next.visited = middle.visited := by
      unfold Progress.add at added
      split at added <;> cases added
      rfl
    have more : (progress.enter classpath.jar).visited ⊆ middle.visited := by
      unfold Progress.walk at walked
      split at walked
      · have keeps : ∀ (state : Progress) dependency (after : Progress),
            (progress.enter classpath.jar).visited ⊆ state.visited →
              visit view limits depth state dependency = .ok after →
                (progress.enter classpath.jar).visited ⊆ after.visited :=
          fun state dependency after subset visited => List.Subset.trans subset (ih visited).1
        exact foldlM_ok_keeps keeps dependencies (List.Subset.refl _) walked
      · cases walked
        exact List.Subset.refl _
    rw [kept]
    exact ⟨fun jar met => more (List.mem_cons_of_mem _ met), more List.mem_cons_self⟩

/-- A classpath that is given twice in a row is visited once. -/
theorem link_cons_cons (links : link view (classpath :: classpath :: classpaths) limits = .ok linked) :
    link view (classpath :: classpaths) limits = .ok linked := by
  obtain ⟨progress, walked, same⟩ := bind_eq_ok.mp links
  rw [List.foldlM_cons] at walked
  obtain ⟨first, visited, walked⟩ := bind_eq_ok.mp walked
  rw [List.foldlM_cons, show maxNesting = maxNesting - 1 + 1 from rfl,
    visit_of_met (mem_visited_of_visit visited).2] at walked
  unfold link
  rw [List.foldlM_cons, visited]
  exact bind_eq_ok.mpr ⟨progress, walked, same⟩

/-! ### A unit that is installed -/

/-- The definitions of a table decide what a name leads to, whatever the jars. -/
theorem linkedClass?_congr {classes others : List LinkedClass}
    (same : classes.map LinkedClass.definition = others.map LinkedClass.definition) (name : String) :
    (linkedClass? classes name).map LinkedClass.definition =
      (linkedClass? others name).map LinkedClass.definition := by
  have looked : ∀ table : List LinkedClass, (linkedClass? table name).map LinkedClass.definition =
      (table.map LinkedClass.definition).find? fun definition => definition.name = name := by
    intro table
    rw [List.find?_map]
    rfl
  rw [looked, looked, same]

theorem climb_congr {classes others : List LinkedClass}
    (same : classes.map LinkedClass.definition = others.map LinkedClass.definition)
    (start : String) (count : Nat) (current : String) :
    climb classes start count current = climb others start count current := by
  induction count generalizing current with
  | zero => rfl
  | succ count ih =>
    have isNone : ∀ name, (linkedClass? classes name).isNone = (linkedClass? others name).isNone := by
      intro name
      rw [← Option.isNone_map (f := LinkedClass.definition), linkedClass?_congr same,
        Option.isNone_map]
    have known := linkedClass?_congr same current
    rw [climb, climb]
    cases found : linkedClass? classes current with
    | none =>
      cases foundToo : linkedClass? others current with
      | none => rfl
      | some other =>
        rw [found, foundToo] at known
        cases known
    | some member =>
      cases foundToo : linkedClass? others current with
      | none =>
        rw [found, foundToo] at known
        cases known
      | some other =>
        rw [found, foundToo] at known
        have known : member.definition = other.definition := Option.some.inj known
        simp only [known, isNone, ih]

theorem addClasses_congr {first : Option TransactionRef} (second : Option TransactionRef)
    {classes others extended : List LinkedClass} {definitions : List ClassDefinition}
    (same : classes.map LinkedClass.definition = others.map LinkedClass.definition)
    (added : addClasses first classes definitions = .ok extended) :
    ∃ extendedToo, addClasses second others definitions = .ok extendedToo ∧
      extended.map LinkedClass.definition = extendedToo.map LinkedClass.definition := by
  induction definitions generalizing classes others with
  | nil =>
    cases added
    exact ⟨others, rfl, same⟩
  | cons definition rest ih =>
    have isSome : (linkedClass? classes definition.name).isSome =
        (linkedClass? others definition.name).isSome := by
      rw [← Option.isSome_map (f := LinkedClass.definition), linkedClass?_congr same,
        Option.isSome_map]
    rw [addClasses] at added ⊢
    rw [← isSome]
    split at added
    · cases added
    · rename_i free
      rw [if_neg free]
      exact ih (by rw [List.map_append, List.map_append, same]; rfl) added

/-- A unit that can be added as one that is being installed can be added as that of a jar. -/
theorem exists_addUnit {extended : LinkedClasspath} (added : linked.addUnit unit none = .ok extended)
    (jar : TransactionRef) : ∃ after, linked.addUnit unit (some jar) = .ok after := by
  obtain ⟨classes, addedClasses, rest⟩ := bind_eq_ok.mp added
  obtain ⟨_, checked, -⟩ := bind_eq_ok.mp rest
  obtain ⟨others, addedOthers, same⟩ := addClasses_congr (some jar) rfl addedClasses
  have checks : (fun definition : ClassDefinition => checkHierarchy others definition.name) =
      fun definition => checkHierarchy classes definition.name := by
    funext definition
    have count : classes.length = others.length := by
      simpa using congrArg List.length same
    unfold checkHierarchy
    rw [count, climb_congr same]
  refine ⟨{ linked with classes := others }, ?_⟩
  unfold addUnit
  rw [addedOthers]
  show (unit.classes.forM fun definition => checkHierarchy others definition.name) >>= _ = _
  rw [checks, checked]
  rfl

/-- The classpath passes the checks of a unit that is to be installed. -/
structure Takes (linked : LinkedClasspath) (limits : ClasspathLimits) (bytes : List UInt8) :
    Prop where
  within : linked.checkLimits (some (saturate bytes.length)) limits = .ok ()
  extends_ok : ∃ extended, linked.extended bytes = .ok extended

theorem Takes.exists_unit (takes : linked.Takes limits bytes) :
    ∃ unit extended, CodeUnit.ofBytes bytes = .ok unit ∧
      linked.addUnit unit none = .ok extended := by
  obtain ⟨whole, extended⟩ := takes.extends_ok
  obtain ⟨unit, part, decoded, added, -⟩ := extended_eq_ok extended
  exact ⟨unit, part, decoded, added⟩

/-- A unit that passed the checks can be added once it is installed. -/
theorem Takes.exists_addInstalled (takes : linked.Takes limits bytes) (jar : TransactionRef) :
    ∃ after, linked.addInstalled limits jar bytes = .ok after ∧ jar ∈ after.transactions := by
  obtain ⟨unit, extended, decoded, added⟩ := takes.exists_unit
  obtain ⟨after, addedToo⟩ := exists_addUnit added jar
  refine ⟨{ after with
    lengths := after.lengths ++ [saturate bytes.length]
    transactions := after.transactions ++ [jar] }, ?_,
    List.mem_append_right _ (List.mem_singleton.mpr rfl)⟩
  unfold addInstalled
  rw [takes.within, decoded]
  show linked.addUnit unit (some jar) >>= _ = _
  rw [addedToo]
  rfl

/-- **A unit that passed the checks over classpaths that end with its dependencies can be linked once
it is installed**, with its dependencies, after the classpaths before these. -/
theorem Takes.provides {before : List Classpath} (takes : linked.Takes limits bytes)
    (links : link view (before ++ dependencies) limits = .ok linked) (newer : later.Extends view)
    (unrecorded : view.response jar = .ok none) (recorded : later.response jar = .ok (some response))
    (installed : response.installed? = some (bytes, dependencies)) :
    later.Provides limits (before ++ [⟨jar, true⟩]) jar bytes := by
  obtain ⟨progress, walked, same⟩ := bind_eq_ok.mp links
  cases same
  rw [List.foldlM_append] at walked
  obtain ⟨middle, walkedBefore, walked⟩ := bind_eq_ok.mp walked
  obtain ⟨reached, walkedAgain, same⟩ := visits_again newer (fun _ never => never.elim) walkedBefore
    retraced_start maxNesting (Nat.le_add_right maxNesting 0)
  -- the new unit is met first, and then its dependencies, none of which is the unit itself
  have unmet : jar ∉ reached.visited := by
    rw [same.visited]
    rintro (never | met)
    · exact never
    · obtain ⟨other, known⟩ := same.known jar met
      rw [unrecorded] at known
      cases known
  have entered : middle.Retraced view (· = jar) (reached.enter jar) := by
    refine ⟨same.known, same.linked, fun other => ?_, List.nodup_cons.mpr ⟨unmet, same.apart⟩⟩
    show other ∈ jar :: reached.visited ↔ _
    rw [List.mem_cons, same.visited]
    tauto
  obtain ⟨last, walkedDependencies, sameLast⟩ := visits_again newer
    (fun other (same : other = jar) => same ▸ unrecorded) walked entered (maxNesting - 1)
    (by show maxNesting ≤ maxNesting - 1 + (reached.visited.length + 1); omega)
  obtain ⟨whole, added, member⟩ := takes.exists_addInstalled jar
  have visited : visit later limits maxNesting reached ⟨jar, true⟩ =
      .ok { last with linked := whole } := by
    rw [show maxNesting = maxNesting - 1 + 1 from rfl,
      visit_of_unmet unmet recorded installed]
    unfold Progress.walk
    rw [if_pos rfl, walkedDependencies]
    show last.add limits jar bytes = _
    unfold Progress.add
    rw [sameLast.linked, added]
  have links : link later (before ++ [⟨jar, true⟩]) limits = .ok whole := by
    unfold link
    rw [List.foldlM_append, walkedAgain]
    show ([⟨jar, true⟩].foldlM (visit later limits maxNesting) reached) >>= _ = _
    rw [List.foldlM_cons, visited]
    rfl
  obtain ⟨unit, -, decoded, -⟩ := takes.exists_unit
  have complete := complete_of_link links
  refine ⟨unit, whole, decoded, links, fun definition defined => ?_⟩
  have installs : later.Installs jar unit :=
    ⟨response, bytes, dependencies, recorded, installed, decoded⟩
  have among : (⟨definition, some jar⟩ : LinkedClass) ∈ whole.classes :=
    complete.all jar member unit installs definition defined
  exact linkedClass?_of_mem complete.apart among

end LinkedClasspath

end ObjectLedger
