/-
**What it takes to install a unit.**

* `ClasspathCache.Current`: whatever is kept is what linking gives; `Build.maintains_current`: it
  stays so. `Build.link_of_current`: so a request gets what linking gives, kept or not, and
  `Build.alongside_link`: which classpaths are kept does not show.
* **`Outcome.takes_of_installed`**: a unit that is installed passed the checks over the classpath of
  its header, if it has one, and its dependencies.
-/
import ObjectLedger.Proofs.Code.Relinking
import ObjectLedger.Proofs.Transaction.Answers

namespace ObjectLedger

variable {view later : LedgerView} {limits : ClasspathLimits} {config : NodeConfig}
  {cache after : ClasspathCache} {classpaths dependencies : List Classpath}
  {linked : LinkedClasspath} {bytes : List UInt8} {outcome : Outcome} {response : Response}

/-! ### Kept classpaths -/

/-- Whatever is kept is what linking gives. -/
def ClasspathCache.Current (view : LedgerView) (limits : ClasspathLimits) (cache : ClasspathCache) :
    Prop :=
  ∀ key linked, cache.entries.get? key = some linked →
    LinkedClasspath.link view key limits = .ok linked

theorem ClasspathCache.Current.extends (current : ClasspathCache.Current view limits cache)
    (newer : later.Extends view) : ClasspathCache.Current later limits cache :=
  fun key linked found => LinkedClasspath.link_again newer (current key linked found)

theorem ClasspathCache.Current.keep (current : ClasspathCache.Current view limits cache)
    (links : LinkedClasspath.link view classpaths limits = .ok linked) :
    ClasspathCache.Current view limits (cache.keep classpaths linked) := by
  intro key other found
  unfold Cache.keep at found
  split at found
  · exact current key other found
  · simp only [Table.get?_insert] at found
    split at found
    · rename_i same
      cases found
      rw [same]
      exact links
    · split at found
      · cases found
      · exact current key other found

/-- Whatever is kept in either cache is what linking gives. -/
def ClasspathCache.BothCurrent (view : LedgerView) (limits : ClasspathLimits)
    (cache other : ClasspathCache) : Prop :=
  ClasspathCache.Current view limits cache ∧ ClasspathCache.Current view limits other

namespace Build

/-- **A request gets what linking gives**, kept or not. -/
theorem link_of_current (current : ClasspathCache.Current view (Build.limits config) cache)
    (classpaths : List Classpath) :
    (∃ linked after, LinkedClasspath.link view classpaths (Build.limits config) = .ok linked ∧
      link config view classpaths cache = .ok linked after ∧
      ClasspathCache.Current view (Build.limits config) after) ∨
    ∃ cause, LinkedClasspath.link view classpaths (Build.limits config) = .error cause ∧
      link config view classpaths cache = .error (stopOfLink cause) cache := by
  unfold link Cache.fetch
  cases known : cache.entries.get? classpaths with
  | some kept => exact Or.inl ⟨kept, cache, current classpaths kept known, rfl, current⟩
  | none =>
    cases links : LinkedClasspath.link view classpaths (Build.limits config) with
    | ok made => exact Or.inl ⟨made, _, rfl, rfl, current.keep links⟩
    | error cause => exact Or.inr ⟨cause, rfl, rfl⟩

theorem link_eq_of_current (current : ClasspathCache.Current view (Build.limits config) cache)
    (ran : link config view classpaths cache = .ok linked after) :
    LinkedClasspath.link view classpaths (Build.limits config) = .ok linked := by
  rcases link_of_current current classpaths with ⟨made, last, links, same, -⟩ | ⟨cause, -, same⟩
  · cases ran.symm.trans same
    exact links
  · cases ran.symm.trans same

/-- Linking keeps what linking gives. -/
theorem maintains_current (classpaths : List Classpath) :
    Maintains (ClasspathCache.Current view (Build.limits config)) (link config view classpaths) := by
  intro cache current
  rcases link_of_current current classpaths with ⟨made, last, -, same, kept⟩ | ⟨cause, -, same⟩
  · rw [stateAfter_ok same]
    exact kept
  · rw [stateAfter_error same]
    exact current

/-- **Which classpaths are kept does not show**, as long as they are what linking gives. -/
theorem alongside_link (config : NodeConfig) (view : LedgerView) (allowed : Stop → Prop)
    (classpaths : List Classpath) :
    Alongside (ClasspathCache.BothCurrent view (Build.limits config)) allowed
      (link config view classpaths) := by
  rintro cache other ⟨current, currentToo⟩ -
  rcases link_of_current current classpaths with
    ⟨made, last, links, same, kept⟩ | ⟨cause, links, same⟩
  · rcases link_of_current currentToo classpaths with
      ⟨madeToo, lastToo, linksToo, sameToo, keptToo⟩ | ⟨cause, linksToo, -⟩
    · cases links.symm.trans linksToo
      rw [same, sameToo]
      exact .ok ⟨kept, keptToo⟩
    · cases links.symm.trans linksToo
  · rcases link_of_current currentToo classpaths with
      ⟨madeToo, lastToo, linksToo, -⟩ | ⟨causeToo, linksToo, sameToo⟩
    · cases links.symm.trans linksToo
    · cases links.symm.trans linksToo
      rw [same, sameToo]
      exact .error ⟨current, currentToo⟩

end Build

/-! ### Installations -/

/-- A failed transaction installs nothing. -/
theorem Action.installed?_failed (action : Action) (failure : Failure) :
    (action.failed failure).installed? = none := by
  cases action <;> rfl

/-- A unit that is installed for free passed the checks over its dependencies. -/
theorem Initial.takes_of_installJar
    (built : Initial.installJar config view bytes dependencies cache = .ok outcome after) :
    ∃ classes middle, Build.link config view dependencies cache = .ok classes middle ∧
      classes.Takes (Build.limits config) bytes := by
  obtain ⟨_, _, free, built⟩ := ok_of_bind built
  rw [Initial.eq_of_rejectIfSetUp free] at built
  obtain ⟨classes, middle, link, built⟩ := ok_of_bind built
  obtain ⟨_, _, within, built⟩ := ok_of_bind built
  obtain ⟨_, _, adding, -⟩ := ok_of_bind built
  obtain ⟨extended, _, added, -⟩ := ok_of_bind adding
  exact ⟨classes, middle, link, (Build.eq_ok_of_ofClasspath within).1, extended,
    (Build.eq_ok_of_ofClasspath added).1⟩

/-- A unit that is installed for gas passed the checks over the classpath of its header and its
dependencies. -/
theorem Paid.takes_of_installJar {reference : TransactionRef} {header : Header}
    {code : List UInt8 × List Classpath}
    (built : Paid.installJar config view reference header bytes dependencies cache =
      .ok outcome after)
    (given : outcome.response? = some response) (installed : response.installed? = some code) :
    code = (bytes, dependencies) ∧ ∃ classes middle,
      Build.link config view (header.classpath :: dependencies) cache = .ok classes middle ∧
        classes.Takes (Build.limits config) bytes := by
  have failed : ∀ (paid : Paid) cause, (paid.fail cause).response? ≠ some response := by
    intro paid cause same
    cases same
    rw [Action.installed?_failed] at installed
    cases installed
  obtain ⟨classes, middle, link, built⟩ := ok_of_bind built
  obtain ⟨_, _, within, built⟩ := ok_of_bind built
  obtain ⟨paid, _, -, built⟩ := ok_of_bind built
  have within := (Build.eq_ok_of_ofClasspath within).1
  cases charged : (do
      Run.charge .cpu (config.gas.cpuOfInstalling (saturate bytes.length))
      Run.charge .ram (config.gas.ramOfInstalling (saturate bytes.length)) : Run Unit) paid.heap with
  | error fault heap =>
    rw [charged] at built
    cases fault <;> cases built
    exact absurd given (failed _ _)
  | ok _ heap =>
    rw [charged] at built
    simp only [] at built
    cases extended : classes.extended bytes with
    | error cause =>
      rw [extended] at built
      cases built
      exact absurd given (failed _ _)
    | ok whole =>
      rw [extended] at built
      have completes := (Build.eq_ok_of_ofExcept built).1
      rcases Paid.response_of_complete completes with ⟨failure, told⟩ | ⟨effects, told⟩
      · cases given.symm.trans told
        rw [Action.installed?_failed] at installed
        cases installed
      · cases given.symm.trans told
        cases installed
        exact ⟨rfl, classes, middle, link, within, whole, extended⟩

/-- The code that a request asks to install, and its dependencies. -/
def Request.code? : Request → Option (List UInt8 × List Classpath)
  | .installInitialJar jar dependencies => some (jar, dependencies)
  | .paid _ (.installJar jar dependencies) => some (jar, dependencies)
  | _ => none

/-- The classpath under which a paid request runs. -/
def Request.ownClasspaths (request : Request) : List Classpath :=
  (request.header?.map Header.classpath).toList

/-- **A unit that is installed is the one that the request asks for, and passed the checks** over the
classpath of the request, if it has one, and its dependencies. -/
theorem Outcome.takes_of_installed {reference : TransactionRef} {request : Request}
    (built : ofRequest config view reference request cache = .ok outcome after)
    (given : outcome.response? = some response)
    (installed : response.installed? = some (bytes, dependencies)) :
    request.code? = some (bytes, dependencies) ∧ ∃ classes middle,
      Build.link config view (request.ownClasspaths ++ dependencies) cache = .ok classes middle ∧
        classes.Takes (Build.limits config) bytes := by
  cases answered_of_ofRequest built given with
  | installedInitially =>
    cases installed
    exact ⟨rfl, Initial.takes_of_installJar built⟩
  | createdGamete | namedManifest => cases installed
  | paid answered =>
    cases answered with
    | installed =>
      obtain ⟨same, takes⟩ := Paid.takes_of_installJar built given installed
      cases same
      exact ⟨rfl, takes⟩
    | constructed | invoked | invokedStatic => cases installed

end ObjectLedger
