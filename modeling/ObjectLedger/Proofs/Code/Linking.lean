/-
**Linked classes come from installed units, and linking never fails for another reason.**

* `LinkedClasspath.From`: every class of the classpath is one of an installed unit.
* `LinkedClasspath.visit_of_met`, `LinkedClasspath.visit_of_unmet`, `LinkedClasspath.visit_of_missing`:
  what a visit does, step by step. `LinkedClasspath.visit_cases_of_ok`,
  `LinkedClasspath.visit_cases_of_error`: what a visit did that ended in the one way or the other.
  `LinkedClasspath.link_alone`: linking one unit adds its classes to an empty table.
* `LinkedClasspath.Allows`: what the units of a walk keep, and the errors that it may stop with.
  **`LinkedClasspath.Allows.link`**: linking keeps the one, or stops with one of the others: units that
  depend on one another are all different, so they are never nested too deep.
* **`LinkedClasspath.link_cases`**: over a store that can be read, linking succeeds with classes of
  installed units, or finds the classpath wrong.
-/
import Mathlib.Data.List.Nodup
import Mathlib.Data.List.Perm.Subperm
import ObjectLedger.Code.Linking
import ObjectLedger.Proofs.Except

namespace ObjectLedger

/-- Code and its dependencies were installed at a reference. -/
def LedgerView.HasCode (view : LedgerView) (jar : TransactionRef) (bytes : List UInt8)
    (dependencies : List Classpath) : Prop :=
  ∃ response, view.response jar = .ok (some response) ∧
    response.installed? = some (bytes, dependencies)

/-- The unit was installed at a reference. -/
def LedgerView.Installs (view : LedgerView) (jar : TransactionRef) (unit : CodeUnit) : Prop :=
  ∃ response bytes dependencies, view.response jar = .ok (some response) ∧
    response.installed? = some (bytes, dependencies) ∧ CodeUnit.ofBytes bytes = .ok unit

namespace LinkedClasspath

variable {view : LedgerView} {limits : ClasspathLimits} {linked after : LinkedClasspath}
  {unit : CodeUnit} {jar : TransactionRef} {bytes : List UInt8} {classpath : Classpath}
  {dependencies : List Classpath} {progress next : Progress} {depth : Nat} {response : Response}

/-! ### Adding a unit -/

/-- What the addition of the classes of a unit did. -/
theorem addUnit_eq_ok {source : Option TransactionRef}
    (added : linked.addUnit unit source = .ok after) :
    addClasses source linked.classes unit.classes = .ok after.classes ∧
      (∀ definition ∈ unit.classes, checkHierarchy after.classes definition.name = .ok ()) ∧
      after.lengths = linked.lengths ∧ after.transactions = linked.transactions := by
  obtain ⟨classes, extended, rest⟩ := bind_eq_ok.mp added
  obtain ⟨⟨⟩, checked, same⟩ := bind_eq_ok.mp rest
  cases same
  exact ⟨extended, forM_eq_ok.mp checked, rfl, rfl⟩

/-- What the addition of a unit that is being installed did. -/
theorem extended_eq_ok (extended : linked.extended bytes = .ok after) :
    ∃ unit middle, CodeUnit.ofBytes bytes = .ok unit ∧ linked.addUnit unit none = .ok middle ∧
      after = { middle with lengths := middle.lengths ++ [saturate bytes.length] } := by
  unfold LinkedClasspath.extended at extended
  cases decoded : CodeUnit.ofBytes bytes with
  | error cause =>
    rw [decoded] at extended
    cases extended
  | ok unit =>
    rw [decoded] at extended
    obtain ⟨middle, added, same⟩ := bind_eq_ok.mp extended
    cases same
    exact ⟨unit, middle, rfl, added, rfl⟩

/-- What the addition of an installed unit did. -/
theorem addInstalled_eq_ok (added : linked.addInstalled limits jar bytes = .ok after) :
    linked.checkLimits (some (saturate bytes.length)) limits = .ok () ∧
      ∃ unit, CodeUnit.ofBytes bytes = .ok unit ∧
        addClasses (some jar) linked.classes unit.classes = .ok after.classes ∧
        (∀ definition ∈ unit.classes, checkHierarchy after.classes definition.name = .ok ()) ∧
        after.lengths = linked.lengths ++ [saturate bytes.length] ∧
        after.transactions = linked.transactions ++ [jar] := by
  obtain ⟨⟨⟩, within, rest⟩ := bind_eq_ok.mp added
  cases decoded : CodeUnit.ofBytes bytes with
  | error cause =>
    rw [decoded] at rest
    cases rest
  | ok unit =>
    rw [decoded] at rest
    obtain ⟨extended, unitAdded, same⟩ := bind_eq_ok.mp rest
    cases same
    obtain ⟨classes, checked, lengths, transactions⟩ := addUnit_eq_ok unitAdded
    exact ⟨within, unit, rfl, classes, checked, congrArg (· ++ [saturate bytes.length]) lengths,
      congrArg (· ++ [jar]) transactions⟩

/-- Every class of the classpath is one of an installed unit. -/
def From (view : LedgerView) (linked : LinkedClasspath) : Prop :=
  ∀ member ∈ linked.classes, ∃ jar unit, member.jar = some jar ∧ view.Installs jar unit ∧
    member.definition ∈ unit.classes

theorem mem_of_addClasses {jar : Option TransactionRef} {classes extended : List LinkedClass}
    {definitions : List ClassDefinition}
    (added : addClasses jar classes definitions = .ok extended) :
    ∀ member ∈ extended,
      member ∈ classes ∨ (member.jar = jar ∧ member.definition ∈ definitions) := by
  induction definitions generalizing classes with
  | nil =>
    cases added
    exact fun _ member => Or.inl member
  | cons definition rest ih =>
    rw [addClasses] at added
    split at added
    · cases added
    · intro member inside
      rcases ih added member inside with older | ⟨same, later⟩
      · rcases List.mem_append.mp older with older | new
        · exact Or.inl older
        · obtain rfl := List.mem_singleton.mp new
          exact Or.inr ⟨rfl, List.mem_cons_self⟩
      · exact Or.inr ⟨same, List.mem_cons_of_mem _ later⟩

theorem From.addInstalled (source : linked.From view)
    (installed : ∀ unit, CodeUnit.ofBytes bytes = .ok unit → view.Installs jar unit)
    (added : linked.addInstalled limits jar bytes = .ok after) : after.From view := by
  obtain ⟨-, unit, decoded, classes, -⟩ := addInstalled_eq_ok added
  intro member inside
  rcases mem_of_addClasses classes member inside with older | ⟨sameJar, defined⟩
  · exact source member older
  · exact ⟨jar, unit, sameJar, installed unit decoded, defined⟩

/-! ### One visit -/

/-- A unit is met. -/
def Progress.enter (progress : Progress) (jar : TransactionRef) : Progress :=
  { progress with visited := jar :: progress.visited }

/-- The classes of a unit are added. -/
def Progress.add (progress : Progress) (limits : ClasspathLimits) (jar : TransactionRef)
    (bytes : List UInt8) : Except LinkError Progress :=
  match progress.linked.addInstalled limits jar bytes with
  | .error cause => .error (.classpath cause)
  | .ok linked => .ok { progress with linked }

/-- The dependencies of a unit are visited if they are included. -/
def Progress.walk (progress : Progress) (view : LedgerView) (limits : ClasspathLimits) (depth : Nat)
    (classpath : Classpath) (dependencies : List Classpath) : Except LinkError Progress :=
  if classpath.recursive then dependencies.foldlM (visit view limits depth) progress
  else .ok progress

/-- The dependencies that are included. -/
def included (classpath : Classpath) (dependencies : List Classpath) : List Classpath :=
  if classpath.recursive then dependencies else []

theorem walk_eq : progress.walk view limits depth classpath dependencies =
    (included classpath dependencies).foldlM (visit view limits depth) progress := by
  unfold Progress.walk included
  split <;> rfl

theorem visit_of_met (met : classpath.jar ∈ progress.visited) :
    visit view limits (depth + 1) progress classpath = .ok progress := by
  rw [visit, if_pos (by simpa using met)]

theorem visit_of_unmet (unmet : classpath.jar ∉ progress.visited)
    (found : view.response classpath.jar = .ok (some response))
    (installed : response.installed? = some (bytes, dependencies)) :
    visit view limits (depth + 1) progress classpath =
      (progress.enter classpath.jar).walk view limits depth classpath dependencies >>=
        fun progress => progress.add limits classpath.jar bytes := by
  rw [visit, if_neg (by simpa using unmet), found]
  simp only [installed]
  unfold Progress.walk
  split <;> rfl

/-- Linking one unit without its dependencies adds its classes to an empty table. -/
theorem link_alone (code : view.HasCode jar bytes dependencies)
    (within : checkLimits {} (some (saturate bytes.length)) limits = .ok ())
    (decoded : CodeUnit.ofBytes bytes = .ok unit)
    (added : addUnit {} unit (some jar) = .ok linked) :
    link view [⟨jar, false⟩] limits =
      .ok { linked with lengths := [saturate bytes.length], transactions := [jar] } := by
  obtain ⟨response, found, installs⟩ := code
  obtain ⟨-, -, lengths, transactions⟩ := addUnit_eq_ok added
  have installed : addInstalled {} limits jar bytes =
      .ok { linked with lengths := [saturate bytes.length], transactions := [jar] } := by
    unfold addInstalled
    rw [within, decoded]
    show (addUnit {} unit (some jar) >>= _ : Except ClasspathError LinkedClasspath) = _
    rw [added]
    show Except.ok _ = _
    rw [lengths, transactions]
    rfl
  have visited : visit view limits maxNesting {} ⟨jar, false⟩ = .ok
      ⟨{ linked with lengths := [saturate bytes.length], transactions := [jar] }, [jar]⟩ := by
    refine (visit_of_unmet (List.not_mem_nil) found installs).trans ?_
    show Progress.add (Progress.enter {} jar) limits jar bytes = _
    unfold Progress.add
    rw [show (Progress.enter {} jar).linked = {} from rfl, installed]
    rfl
  unfold link
  rw [List.foldlM_cons, visited]
  rfl

/-- There is no code at a reference, and the error says why. -/
inductive Missing (view : LedgerView) (jar : TransactionRef) : LinkError → Prop
  | unreadable {cause : StoreError} (failed : view.response jar = .error cause) :
      Missing view jar (.store cause)
  | unknown (absent : view.response jar = .ok none) :
      Missing view jar (.classpath (.unknownJar jar))
  | notAJar {response : Response} (found : view.response jar = .ok (some response))
      (other : response.installed? = none) : Missing view jar (.classpath (.notAJar jar))

theorem hasCode_or_missing (view : LedgerView) (jar : TransactionRef) :
    (∃ bytes dependencies, view.HasCode jar bytes dependencies) ∨
      ∃ error, Missing view jar error := by
  cases found : view.response jar with
  | error cause => exact Or.inr ⟨_, .unreadable found⟩
  | ok stored =>
    cases stored with
    | none => exact Or.inr ⟨_, .unknown found⟩
    | some response =>
      cases installed : response.installed? with
      | none => exact Or.inr ⟨_, .notAJar found installed⟩
      | some code => exact Or.inl ⟨code.1, code.2, response, found, installed⟩

theorem visit_of_missing {error : LinkError} (unmet : classpath.jar ∉ progress.visited)
    (missing : Missing view classpath.jar error) :
    visit view limits (depth + 1) progress classpath = .error error := by
  rw [visit, if_neg (by simpa using unmet)]
  cases missing with
  | unreadable failed => rw [failed]
  | unknown absent => rw [absent]
  | notAJar found other => simp only [found, other]

/-- What a visit that succeeded did. -/
theorem visit_cases_of_ok (ran : visit view limits (depth + 1) progress classpath = .ok next) :
    classpath.jar ∈ progress.visited ∧ next = progress ∨
      ∃ response bytes dependencies middle, classpath.jar ∉ progress.visited ∧
        view.response classpath.jar = .ok (some response) ∧
        response.installed? = some (bytes, dependencies) ∧
        (progress.enter classpath.jar).walk view limits depth classpath dependencies =
          .ok middle ∧
        middle.add limits classpath.jar bytes = .ok next := by
  by_cases met : classpath.jar ∈ progress.visited
  · rw [visit_of_met met] at ran
    cases ran
    exact Or.inl ⟨met, rfl⟩
  rcases hasCode_or_missing view classpath.jar with
    ⟨bytes, dependencies, response, found, installed⟩ | ⟨error, missing⟩
  · rw [visit_of_unmet met found installed] at ran
    obtain ⟨middle, walked, added⟩ := bind_eq_ok.mp ran
    exact Or.inr ⟨response, bytes, dependencies, middle, met, found, installed, walked, added⟩
  · rw [visit_of_missing met missing] at ran
    cases ran

/-- Where a visit that found the classpath wrong stopped: there is no code, or its dependencies were
found wrong, or it could not be added after them. -/
theorem visit_cases_of_error {cause : ClasspathError}
    (stopped : visit view limits (depth + 1) progress classpath = .error (.classpath cause)) :
    Missing view classpath.jar (.classpath cause) ∨
      ∃ bytes dependencies, classpath.jar ∉ progress.visited ∧
        view.HasCode classpath.jar bytes dependencies ∧
        ((included classpath dependencies).foldlM (visit view limits depth)
            (progress.enter classpath.jar) = .error (.classpath cause) ∨
          ∃ middle, (included classpath dependencies).foldlM (visit view limits depth)
              (progress.enter classpath.jar) = .ok middle ∧
            middle.linked.addInstalled limits classpath.jar bytes = .error cause) := by
  by_cases met : classpath.jar ∈ progress.visited
  · rw [visit_of_met met] at stopped
    cases stopped
  rcases hasCode_or_missing view classpath.jar with
    ⟨bytes, dependencies, response, found, installed⟩ | ⟨error, missing⟩
  · rw [visit_of_unmet met found installed, walk_eq] at stopped
    refine Or.inr ⟨bytes, dependencies, met, ⟨response, found, installed⟩, ?_⟩
    rcases cases_of_bind_eq_error stopped with inside | ⟨middle, walked, refused⟩
    · exact Or.inl inside
    · refine Or.inr ⟨middle, walked, ?_⟩
      unfold Progress.add at refused
      split at refused
      · cases refused
        assumption
      · cases refused
  · rw [visit_of_missing met missing] at stopped
    cases stopped
    exact Or.inl missing

/-! ### Whole walks -/

/-- There are not so many references that all are different. -/
theorem length_lt_maxNesting {references : List TransactionRef} (apart : references.Nodup) :
    references.length < maxNesting := by
  have numbers : (references.map fun reference => reference.value.toNat).Nodup := by
    refine apart.map ?_
    rintro ⟨first⟩ ⟨second⟩ same
    exact congrArg TransactionRef.mk (UInt64.toNat_inj.mp same)
  have small : references.map (fun reference => reference.value.toNat) ⊆
      List.range (2 ^ 64) := by
    intro number member
    obtain ⟨reference, _, rfl⟩ := List.mem_map.mp member
    exact List.mem_range.mpr reference.value.toNat_lt
  have bound := (numbers.subperm small).length_le
  rw [List.length_map, List.length_range] at bound
  unfold maxNesting maxWord
  omega

/-- What the units of a walk keep, and the errors that the walk may stop with. -/
structure Allows (view : LedgerView) (limits : ClasspathLimits) (kept : LinkedClasspath → Prop)
    (stops : LinkError → Prop) : Prop where
  unreadable : ∀ reference cause, view.response reference = .error cause → stops (.store cause)
  unknown : ∀ jar, view.response jar = .ok none → stops (.classpath (.unknownJar jar))
  notAJar : ∀ jar response, view.response jar = .ok (some response) → response.installed? = none →
    stops (.classpath (.notAJar jar))
  added : ∀ linked after jar bytes dependencies, kept linked →
    view.HasCode jar bytes dependencies → linked.addInstalled limits jar bytes = .ok after →
      kept after
  refused : ∀ linked jar bytes dependencies cause, kept linked →
    view.HasCode jar bytes dependencies → linked.addInstalled limits jar bytes = .error cause →
      stops (.classpath cause)

namespace Allows

variable {kept : LinkedClasspath → Prop} {stops : LinkError → Prop}

theorem missing {error : LinkError} (allows : Allows view limits kept stops)
    (missing : Missing view jar error) : stops error := by
  cases missing with
  | unreadable failed => exact allows.unreadable _ _ failed
  | unknown absent => exact allows.unknown _ absent
  | notAJar found other => exact allows.notAJar _ _ found other

/-- The last part of a visit: the unit itself, after its dependencies. -/
theorem add (allows : Allows view limits kept stops) (code : view.HasCode jar bytes dependencies)
    (holds : kept progress.linked) :
    (∃ after, progress.add limits jar bytes = .ok after ∧ kept after.linked ∧
      after.visited = progress.visited) ∨
      ∃ error, progress.add limits jar bytes = .error error ∧ stops error := by
  unfold Progress.add
  cases added : progress.linked.addInstalled limits jar bytes with
  | error cause => exact Or.inr ⟨_, rfl, allows.refused _ _ _ _ _ holds code added⟩
  | ok linked => exact Or.inl ⟨_, rfl, allows.added _ _ _ _ _ holds code added, rfl⟩

/-- **A visit keeps what its units keep, or stops with an error that it may stop with**, as long as
all units met so far and those still to be met are fewer than there are references. -/
theorem visit (allows : Allows view limits kept stops) (depth : Nat) (progress : Progress)
    (classpath : Classpath) (holds : kept progress.linked) (apart : progress.visited.Nodup)
    (deep : maxNesting ≤ depth + progress.visited.length) :
    (∃ after, visit view limits depth progress classpath = .ok after ∧ kept after.linked ∧
      after.visited.Nodup ∧ progress.visited.length ≤ after.visited.length) ∨
      ∃ error, visit view limits depth progress classpath = .error error ∧ stops error := by
  induction depth generalizing progress classpath with
  | zero =>
    have bound := length_lt_maxNesting apart
    omega
  | succ depth ih =>
    by_cases met : classpath.jar ∈ progress.visited
    · exact Or.inl ⟨progress, visit_of_met met, holds, apart, Nat.le_refl _⟩
    rcases hasCode_or_missing view classpath.jar with
      ⟨bytes, dependencies, response, found, installed⟩ | ⟨error, missing⟩
    · rw [visit_of_unmet met found installed, walk_eq]
      -- the dependencies, each of which keeps what was reached so far
      have walked : (∃ middle, (included classpath dependencies).foldlM
            (LinkedClasspath.visit view limits depth) (progress.enter classpath.jar) =
              .ok middle ∧
          kept middle.linked ∧ middle.visited.Nodup ∧
            progress.visited.length < middle.visited.length) ∨
          ∃ error, (included classpath dependencies).foldlM
            (LinkedClasspath.visit view limits depth) (progress.enter classpath.jar) =
              .error error ∧ stops error := by
        refine foldlM_keeps ?_ _ ⟨holds, List.nodup_cons.mpr ⟨met, apart⟩, Nat.lt_succ_self _⟩
        rintro state dependency ⟨holds, apart, more⟩
        exact (ih state dependency holds apart (by omega)).imp_left
          fun ⟨after, same, holds, apart, longer⟩ =>
            ⟨after, same, holds, apart, Nat.lt_of_lt_of_le more longer⟩
      rcases walked with ⟨middle, same, holds, apart, more⟩ | ⟨error, same, stop⟩
      · rw [same]
        refine (allows.add ⟨response, found, installed⟩ holds).imp_left
          fun ⟨after, added, holds, visited⟩ => ⟨after, added, holds, ?_⟩
        rw [visited]
        exact ⟨apart, Nat.le_of_lt more⟩
      · rw [same]
        exact Or.inr ⟨error, rfl, stop⟩
    · exact Or.inr ⟨error, visit_of_missing met missing, allows.missing missing⟩

/-- **Linking keeps what its units keep, or stops with an error that it may stop with.** -/
theorem link (allows : Allows view limits kept stops) (begins : kept {})
    (classpaths : List Classpath) :
    (∃ linked, link view classpaths limits = .ok linked ∧ kept linked) ∨
      ∃ error, link view classpaths limits = .error error ∧ stops error := by
  have walked : (∃ after, classpaths.foldlM (LinkedClasspath.visit view limits maxNesting) {} =
        .ok after ∧ kept after.linked ∧ after.visited.Nodup) ∨
      ∃ error, classpaths.foldlM (LinkedClasspath.visit view limits maxNesting) {} =
        .error error ∧ stops error := by
    refine foldlM_keeps ?_ classpaths ⟨begins, List.nodup_nil⟩
    rintro state classpath ⟨holds, apart⟩
    exact (allows.visit maxNesting state classpath holds apart (Nat.le_add_right _ _)).imp_left
      fun ⟨after, same, holds, apart, _⟩ => ⟨after, same, holds, apart⟩
  unfold LinkedClasspath.link
  rcases walked with ⟨after, same, holds, -⟩ | ⟨error, same, stop⟩
  · rw [same]
    exact Or.inl ⟨after.linked, rfl, holds⟩
  · rw [same]
    exact Or.inr ⟨error, rfl, stop⟩

end Allows

/-! ### Stores that can be read -/

/-- The error is about the classpath. -/
def BlamesClasspath (error : LinkError) : Prop :=
  ∃ cause, error = .classpath cause

/-- **Linking succeeds with classes of installed units, or finds the classpath wrong.** -/
theorem link_cases (readable : ∀ reference, ∃ found, view.response reference = .ok found)
    (classpaths : List Classpath) (limits : ClasspathLimits) :
    (∃ linked, link view classpaths limits = .ok linked ∧ linked.From view) ∨
      ∃ error, link view classpaths limits = .error error ∧ BlamesClasspath error := by
  have allows : Allows view limits (From view) BlamesClasspath :=
    { unreadable := fun reference cause failed => by
        obtain ⟨found, known⟩ := readable reference
        cases failed.symm.trans known
      unknown := fun jar _ => ⟨_, rfl⟩
      notAJar := fun jar response _ _ => ⟨_, rfl⟩
      added := fun linked after jar bytes dependencies source ⟨response, known, code⟩ added =>
        source.addInstalled (fun unit decoded =>
          ⟨response, bytes, dependencies, known, code, decoded⟩) added
      refused := fun linked jar bytes dependencies cause _ _ _ => ⟨cause, rfl⟩ }
  exact allows.link (fun _ member => (nomatch member)) classpaths

theorem from_of_link (readable : ∀ reference, ∃ found, view.response reference = .ok found)
    {classpaths : List Classpath} {limits : ClasspathLimits} {linked : LinkedClasspath}
    (links : link view classpaths limits = .ok linked) : linked.From view := by
  rcases link_cases readable classpaths limits with ⟨other, same, source⟩ | ⟨error, failed, -⟩
  · cases links.symm.trans same
    exact source
  · cases links.symm.trans failed

end LinkedClasspath

end ObjectLedger
