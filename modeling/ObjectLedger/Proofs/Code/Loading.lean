/-
**What a walk over classpaths loads.**

* `LinkedClasspath.Walks`: the walks that succeed, however deep. `LinkedClasspath.walks_of_visits`:
  visits that succeed are one.
* **`LinkedClasspath.Walks.transactions_eq`**, **`LinkedClasspath.Walks.visited_perm`**: a walk loads just
  the units that it meets, each of them once. `LinkedClasspath.walks_of_link`: linking is a walk.
* `LinkedClasspath.Arrives`: a walk that gets as far as the addition of a unit.
  **`LinkedClasspath.arrives_of_link`**: linking stops at the addition of a unit, or because it does not
  find one.
* **`LinkedClasspath.visits_of_deeper`**: the bound on the nesting does not show, in a result or in an
  error.
-/
import ObjectLedger.Proofs.Code.Linking

namespace ObjectLedger

theorem LedgerView.HasCode.unique {view : LedgerView} {jar : TransactionRef}
    {bytes others : List UInt8} {dependencies more : List Classpath}
    (code : view.HasCode jar bytes dependencies) (again : view.HasCode jar others more) :
    bytes = others ∧ dependencies = more := by
  obtain ⟨response, known, installed⟩ := code
  obtain ⟨other, knownToo, installedToo⟩ := again
  cases known.symm.trans knownToo
  cases installed.symm.trans installedToo
  exact ⟨rfl, rfl⟩

namespace LinkedClasspath

variable {view : LedgerView} {limits : ClasspathLimits} {linked : LinkedClasspath}
  {classpaths loaded : List Classpath} {progress next : Progress} {depth : Nat}

/-! ### Walks that succeed -/

/-- The classpaths are visited in order: a unit that was met is passed by, and another one is loaded
after the dependencies that are included. The second list are the classpaths of the loaded units, as
they were met, in the order of loading. -/
inductive Walks (view : LedgerView) (limits : ClasspathLimits) :
    Progress → List Classpath → List Classpath → Progress → Prop
  | nil (progress : Progress) : Walks view limits progress [] [] progress
  | met {progress next : Progress} {classpath : Classpath} {rest loaded : List Classpath}
      (known : classpath.jar ∈ progress.visited)
      (later : Walks view limits progress rest loaded next) :
      Walks view limits progress (classpath :: rest) loaded next
  | unit {progress middle after next : Progress} {classpath : Classpath}
      {rest dependencies first second : List Classpath} {bytes : List UInt8}
      (unmet : classpath.jar ∉ progress.visited)
      (code : view.HasCode classpath.jar bytes dependencies)
      (inside : Walks view limits (progress.enter classpath.jar) (included classpath dependencies)
        first middle)
      (added : middle.add limits classpath.jar bytes = .ok after)
      (later : Walks view limits after rest second next) :
      Walks view limits progress (classpath :: rest) (first ++ classpath :: second) next

/-- Visits that succeed are a walk. -/
theorem walks_of_visits
    (ran : classpaths.foldlM (visit view limits depth) progress = .ok next) :
    ∃ loaded, Walks view limits progress classpaths loaded next := by
  induction depth generalizing progress classpaths next with
  | zero =>
    cases classpaths with
    | nil =>
      cases ran
      exact ⟨[], .nil _⟩
    | cons classpath rest =>
      rw [List.foldlM_cons] at ran
      obtain ⟨middle, visited, -⟩ := bind_eq_ok.mp ran
      cases visited
  | succ depth ih =>
    induction classpaths generalizing progress with
    | nil =>
      cases ran
      exact ⟨[], .nil _⟩
    | cons classpath rest others =>
      rw [List.foldlM_cons] at ran
      obtain ⟨after, visited, later⟩ := bind_eq_ok.mp ran
      obtain ⟨second, later⟩ := others later
      rcases visit_cases_of_ok visited with
        ⟨known, rfl⟩ | ⟨response, bytes, dependencies, middle, unmet, found, code, walked, added⟩
      · exact ⟨second, .met known later⟩
      · rw [walk_eq] at walked
        obtain ⟨first, inside⟩ := ih walked
        exact ⟨_, .unit unmet ⟨response, found, code⟩ inside added later⟩

theorem walks_of_visit {classpath : Classpath}
    (ran : visit view limits depth progress classpath = .ok next) :
    ∃ loaded, Walks view limits progress [classpath] loaded next := by
  have visits : [classpath].foldlM (visit view limits depth) progress = .ok next := by
    rw [List.foldlM_cons, ran]
    rfl
  exact walks_of_visits visits

/-- Linking is a walk from the start. -/
theorem walks_of_link (links : link view classpaths limits = .ok linked) :
    ∃ loaded last, Walks view limits {} classpaths loaded last ∧ last.linked = linked := by
  obtain ⟨last, walked, same⟩ := bind_eq_ok.mp links
  cases same
  obtain ⟨loaded, walks⟩ := walks_of_visits walked
  exact ⟨loaded, last, walks, rfl⟩

/-- The addition of a unit meets nothing more, and loads the unit. -/
theorem Progress.add_eq_ok {jar : TransactionRef} {bytes : List UInt8}
    (added : progress.add limits jar bytes = .ok next) :
    progress.linked.addInstalled limits jar bytes = .ok next.linked ∧
      next.visited = progress.visited ∧
      next.linked.transactions = progress.linked.transactions ++ [jar] := by
  unfold add at added
  split at added
  · cases added
  · rename_i linked extended
    cases added
    obtain ⟨-, -, -, -, -, -, transactions⟩ := addInstalled_eq_ok extended
    exact ⟨extended, rfl, transactions⟩

namespace Walks

/-- **A walk loads its units, in order.** -/
theorem transactions_eq (walks : Walks view limits progress classpaths loaded next) :
    next.linked.transactions =
      progress.linked.transactions ++ loaded.map Classpath.jar := by
  induction walks with
  | nil progress => exact (List.append_nil _).symm
  | met known later ih => exact ih
  | unit unmet code inside added later first second =>
    rw [second, (Progress.add_eq_ok added).2.2, first]
    simp [Progress.enter]

/-- **The units that it meets are those that it loads.** -/
theorem visited_perm (walks : Walks view limits progress classpaths loaded next) :
    next.visited.Perm (loaded.map Classpath.jar ++ progress.visited) := by
  induction walks with
  | nil progress => exact List.Perm.refl _
  | met known later ih => exact ih
  | unit unmet code inside added later first second =>
    rw [(Progress.add_eq_ok added).2.1] at second
    refine List.perm_iff_count.mpr fun jar => ?_
    have inner := first.count_eq jar
    have outer := second.count_eq jar
    simp only [Progress.enter, List.map_append, List.map_cons, List.count_append,
      List.count_cons] at inner outer ⊢
    omega

/-- **What the addition of each unit keeps the walk keeps.** -/
theorem keeps {kept : LinkedClasspath → Prop}
    (step : ∀ linked after jar bytes dependencies, kept linked → view.HasCode jar bytes dependencies →
      linked.addInstalled limits jar bytes = .ok after → kept after)
    (walks : Walks view limits progress classpaths loaded next) (begins : kept progress.linked) :
    kept next.linked := by
  induction walks with
  | nil progress => exact begins
  | met known later ih => exact ih begins
  | unit unmet code inside added later dependencies rest =>
    exact rest (step _ _ _ _ _ (dependencies begins) code (Progress.add_eq_ok added).1)

/-- No unit is met twice. -/
theorem apart (walks : Walks view limits progress classpaths loaded next)
    (begins : progress.visited.Nodup) : next.visited.Nodup := by
  induction walks with
  | nil progress => exact begins
  | met known later ih => exact ih begins
  | unit unmet code inside added later dependencies rest =>
    refine rest ?_
    rw [(Progress.add_eq_ok added).2.1]
    exact dependencies (List.nodup_cons.mpr ⟨unmet, begins⟩)

/-- A walk from the start loads each of its units once. -/
theorem transactions_nodup (walks : Walks view limits {} classpaths loaded next) :
    next.linked.transactions.Nodup := by
  have met : (loaded.map Classpath.jar ++ []).Nodup :=
    walks.visited_perm.nodup_iff.mp (walks.apart List.nodup_nil)
  rw [walks.transactions_eq]
  rwa [List.append_nil] at met

/-- The units that are met get more. -/
theorem longer (walks : Walks view limits progress classpaths loaded next) :
    progress.visited.length ≤ next.visited.length := by
  rw [walks.visited_perm.length_eq, List.length_append]
  omega

end Walks

/-! ### Walks that stop -/

/-- A walk gets as far as the addition of a unit. -/
inductive Arrives (view : LedgerView) (limits : ClasspathLimits) (jar : TransactionRef)
    (bytes : List UInt8) : Progress → List Classpath → Progress → Prop
  | here {progress middle : Progress} {classpath : Classpath}
      {rest dependencies loaded : List Classpath} (unmet : classpath.jar ∉ progress.visited)
      (same : classpath.jar = jar)
      (code : view.HasCode classpath.jar bytes dependencies)
      (inside : Walks view limits (progress.enter classpath.jar) (included classpath dependencies)
        loaded middle) :
      Arrives view limits jar bytes progress (classpath :: rest) middle
  | inside {progress last : Progress} {classpath : Classpath} {rest dependencies : List Classpath}
      {others : List UInt8} (unmet : classpath.jar ∉ progress.visited)
      (code : view.HasCode classpath.jar others dependencies)
      (arrives : Arrives view limits jar bytes (progress.enter classpath.jar)
        (included classpath dependencies) last) :
      Arrives view limits jar bytes progress (classpath :: rest) last
  | later {progress middle last : Progress} {classpath : Classpath} {rest loaded : List Classpath}
      (walks : Walks view limits progress [classpath] loaded middle)
      (arrives : Arrives view limits jar bytes middle rest last) :
      Arrives view limits jar bytes progress (classpath :: rest) last

namespace Arrives

variable {jar : TransactionRef} {bytes : List UInt8}

/-- What the addition of each unit keeps is kept up to there. -/
theorem keeps {kept : LinkedClasspath → Prop}
    (step : ∀ linked after jar bytes dependencies, kept linked → view.HasCode jar bytes dependencies →
      linked.addInstalled limits jar bytes = .ok after → kept after)
    (arrives : Arrives view limits jar bytes progress classpaths next)
    (begins : kept progress.linked) : kept next.linked := by
  induction arrives with
  | here unmet same code inside => exact inside.keeps step begins
  | inside unmet code arrives ih => exact ih begins
  | later walks arrives ih => exact ih (walks.keeps step begins)

end Arrives

/-- Visits that find the classpath wrong miss code, or cannot add a unit that they arrive at. -/
theorem arrives_of_visits {cause : ClasspathError}
    (stopped : classpaths.foldlM (visit view limits depth) progress = .error (.classpath cause)) :
    (∃ jar, Missing view jar (.classpath cause)) ∨
      ∃ jar bytes last, Arrives view limits jar bytes progress classpaths last ∧
        last.linked.addInstalled limits jar bytes = .error cause := by
  induction depth generalizing progress classpaths with
  | zero =>
    cases classpaths with
    | nil => cases stopped
    | cons classpath rest =>
      rw [List.foldlM_cons] at stopped
      cases stopped
  | succ depth ih =>
    induction classpaths generalizing progress with
    | nil => cases stopped
    | cons classpath rest others =>
      rw [List.foldlM_cons] at stopped
      rcases cases_of_bind_eq_error stopped with here | ⟨middle, visited, later⟩
      · rcases visit_cases_of_error here with missing | ⟨bytes, dependencies, met, code, wrong⟩
        · exact Or.inl ⟨_, missing⟩
        rcases wrong with inside | ⟨middle, walked, refused⟩
        · exact (ih inside).imp_right fun ⟨jar, others, last, arrives, refused⟩ =>
            ⟨jar, others, last, .inside met code arrives, refused⟩
        · obtain ⟨loaded, inside⟩ := walks_of_visits walked
          exact Or.inr ⟨_, _, middle, .here met rfl code inside, refused⟩
      · obtain ⟨loaded, walks⟩ := walks_of_visit visited
        exact (others later).imp_right fun ⟨jar, bytes, last, arrives, refused⟩ =>
          ⟨jar, bytes, last, .later walks arrives, refused⟩

/-- **Linking that finds the classpath wrong misses code, or cannot add a unit that it arrives at.** -/
theorem arrives_of_link {cause : ClasspathError}
    (stopped : link view classpaths limits = .error (.classpath cause)) :
    (∃ jar, Missing view jar (.classpath cause)) ∨
      ∃ jar bytes last, Arrives view limits jar bytes {} classpaths last ∧
        last.linked.addInstalled limits jar bytes = .error cause := by
  unfold link at stopped
  cases walked : classpaths.foldlM (visit view limits maxNesting) {} with
  | ok last =>
    rw [walked] at stopped
    cases stopped
  | error error =>
    rw [walked] at stopped
    cases stopped
    exact arrives_of_visits walked

/-! ### Nesting -/

/-- A deeper bound on the nesting does not show in a visit. -/
theorem visit_of_deeper {classpath : Classpath} {deeper : Nat} (apart : progress.visited.Nodup)
    (deep : maxNesting ≤ depth + progress.visited.length) (more : depth ≤ deeper) :
    visit view limits deeper progress classpath = visit view limits depth progress classpath := by
  induction depth generalizing progress classpath deeper with
  | zero =>
    have bound := length_lt_maxNesting apart
    omega
  | succ depth ih =>
    obtain ⟨deeper, rfl⟩ : ∃ less, deeper = less + 1 := Nat.exists_eq_succ_of_ne_zero (by omega)
    by_cases met : classpath.jar ∈ progress.visited
    · rw [visit_of_met met, visit_of_met met]
    rcases hasCode_or_missing view classpath.jar with
      ⟨bytes, dependencies, response, known, installed⟩ | ⟨error, missing⟩
    · rw [visit_of_unmet met known installed, visit_of_unmet met known installed, walk_eq, walk_eq]
      -- no fewer units are met along the dependencies, and still each of them once
      have same : ∀ (state : Progress) dependency,
          (state.visited.Nodup ∧ maxNesting ≤ depth + state.visited.length) →
            visit view limits deeper state dependency =
              visit view limits depth state dependency :=
        fun state dependency kept => ih kept.1 kept.2 (Nat.le_of_succ_le_succ more)
      have keeps : ∀ (state : Progress) dependency (after : Progress),
          (state.visited.Nodup ∧ maxNesting ≤ depth + state.visited.length) →
            visit view limits depth state dependency = .ok after →
              after.visited.Nodup ∧ maxNesting ≤ depth + after.visited.length := by
        rintro state dependency after ⟨apart, deep⟩ visited
        obtain ⟨loaded, walks⟩ := walks_of_visit visited
        exact ⟨walks.apart apart, Nat.le_trans deep (Nat.add_le_add_left walks.longer depth)⟩
      rw [foldlM_congr_of_keeps same keeps _ ⟨List.nodup_cons.mpr ⟨met, apart⟩, ?_⟩]
      show maxNesting ≤ depth + (progress.visited.length + 1)
      omega
    · rw [visit_of_missing met missing, visit_of_missing met missing]

/-- **A deeper bound on the nesting does not show**, in a result or in an error. -/
theorem visits_of_deeper {deeper : Nat} (more : maxNesting ≤ deeper) :
    classpaths.foldlM (visit view limits deeper) {} =
      classpaths.foldlM (visit view limits maxNesting) {} := by
  have keeps : ∀ (state : Progress) classpath (after : Progress), state.visited.Nodup →
      visit view limits maxNesting state classpath = .ok after → after.visited.Nodup :=
    fun state classpath after apart visited =>
      let ⟨_, walks⟩ := walks_of_visit visited
      walks.apart apart
  have same : ∀ (state : Progress) classpath, state.visited.Nodup →
      visit view limits deeper state classpath = visit view limits maxNesting state classpath :=
    fun state classpath apart => visit_of_deeper apart (Nat.le_add_right _ _) more
  exact foldlM_congr_of_keeps same keeps classpaths List.nodup_nil

/-- Units are never nested too deep. -/
theorem link_ne_tooDeep (view : LedgerView) (classpaths : List Classpath)
    (limits : ClasspathLimits) : link view classpaths limits ≠ .error .tooDeep := by
  have allows : Allows view limits (fun _ => True) (· ≠ .tooDeep) :=
    { unreadable := fun _ _ _ same => by cases same
      unknown := fun _ _ same => by cases same
      notAJar := fun _ _ _ _ same => by cases same
      added := fun _ _ _ _ _ _ _ _ => trivial
      refused := fun _ _ _ _ _ _ _ _ same => by cases same }
  intro stopped
  rcases allows.link trivial classpaths with ⟨linked, same, -⟩ | ⟨error, same, other⟩
  · cases stopped.symm.trans same
  · cases stopped.symm.trans same
    exact other rfl

end LinkedClasspath

end ObjectLedger
