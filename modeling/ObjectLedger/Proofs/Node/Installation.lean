/-
**Code that was installed can be linked from then on.**

* `Node.Sound.continues`, `Node.Submitted.continues`: submissions forget no response and leave the
  settings as they are.
* `Node.Submitted.current`: wherever submissions lead to, the classpaths that are kept are what linking
  gives.
* **`Node.Submitted.links_installed`**: an installed unit can be linked after the classpath of its
  request, and alone if it passes the checks over its dependencies alone.
* `Heirs`: a unit that only its request's classpath has a superclass for.
-/
import ObjectLedger.Proofs.Node.Memory
import ObjectLedger.Proofs.Transaction.Installing

namespace ObjectLedger

theorem LedgerView.Extends.trans {view later last : LedgerView} (newest : last.Extends later)
    (newer : later.Extends view) : last.Extends view :=
  fun reference response found => newest reference response (newer reference response found)

namespace Node

variable {σ : Type} [Backend σ] [LawfulBackend σ] {first node later : Node σ} {contents : Contents}
  {request : Request} {requests : List Request} {response : Response} {jar : List UInt8}
  {dependencies : List Classpath}

/-! ### What a submission keeps -/

/-- **A submission forgets no response**, and the settings stay as they are. -/
theorem Sound.continues (sound : node.Sound contents) (request : Request) :
    (node.submitted request).config = node.config ∧
      (node.submitted request).ledger.view.Extends node.ledger.view := by
  rcases has_submitted sound.holds request with
    ⟨configured, -, holds⟩ | ⟨outcome, response, later, -, -, pushed, configured, -, holds⟩
  · exact ⟨configured, sound.holds.shows.extends holds.shows⟩
  · exact ⟨configured, pushed.extends sound.holds.shows holds.shows⟩

/-- The classpaths that the node keeps are what linking gives. -/
def Current (node : Node σ) : Prop :=
  ClasspathCache.Current node.ledger.view (Build.limits node.config) node.cache

/-- A submission keeps what linking gives. -/
theorem Sound.current (sound : node.Sound contents) (current : node.Current) (request : Request) :
    (node.submitted request).Current := by
  have links : ∀ classpaths, Maintains
      (ClasspathCache.Current node.ledger.view (Build.limits node.config))
      (Build.link node.config node.ledger.view classpaths) := fun _ => Build.maintains_current _
  have kept := Outcome.maintains_ofRequest_of_links links node.next request node.cache current
  rw [← Build.settle_snd] at kept
  obtain ⟨configured, newer⟩ := sound.continues request
  have cached : (node.submitted request).cache =
      (Outcome.build node.config node.ledger.view node.cache node.next request).2 := by
    rcases has_submitted sound.holds request with
      ⟨-, cached, -⟩ | ⟨-, -, -, -, -, -, -, cached, -⟩
    · exact cached
    · exact cached
  unfold Current
  rw [configured, cached]
  exact kept.extends newer

/-- **Submissions forget no response**, and the settings stay as they are. -/
theorem Submitted.continues (reached : Submitted first node requests)
    (begins : first.Sound contents) :
    node.config = first.config ∧ node.ledger.view.Extends first.ledger.view := by
  induction reached with
  | start => exact ⟨rfl, fun _ _ found => found⟩
  | accepted earlier accepts ih | refused earlier refuses ih =>
    obtain ⟨_, sound⟩ := earlier.sound begins
    obtain ⟨configured, newer⟩ := sound.continues _
    exact ⟨configured.trans ih.1, newer.trans ih.2⟩

/-- **Wherever submissions lead to, the classpaths that are kept are what linking gives.** -/
theorem Submitted.current (reached : Submitted first node requests) (begins : first.Sound contents)
    (current : first.Current) : node.Current := by
  induction reached with
  | start => exact current
  | accepted earlier accepts ih | refused earlier refuses ih =>
    obtain ⟨_, sound⟩ := earlier.sound begins
    exact sound.current ih _

theorem current_start (config : NodeConfig) (root : Option String) :
    (start config { backend := Medium.blank root }).Current :=
  fun _ _ found => by cases found

/-! ### Installations -/

/-- An installation that is accepted passed the checks over the classpath of its request and its
dependencies. -/
theorem Sound.takes_of_accepts (sound : node.Sound contents) (current : node.Current)
    (accepts : node.accepted? request = some response)
    (installs : response.installed? = some (jar, dependencies)) :
    request.code? = some (jar, dependencies) ∧ ∃ classes,
      LinkedClasspath.link node.ledger.view (request.ownClasspaths ++ dependencies)
          (Build.limits node.config) = .ok classes ∧
        classes.Takes (Build.limits node.config) jar := by
  obtain ⟨later, recorded⟩ := sound.recorded accepts
  obtain ⟨outcome, after, built, given⟩ := recorded.built
  obtain ⟨asked, classes, middle, link, takes⟩ := Outcome.takes_of_installed built given installs
  exact ⟨asked, classes, Build.link_eq_of_current current link, takes⟩

/-- What the dependencies of an accepted installation take, alone or after other classpaths, can be
linked in every later state. -/
theorem Sound.provides_of_takes (sound : node.Sound contents)
    (accepts : node.accepted? request = some response)
    (installs : response.installed? = some (jar, dependencies))
    (goesOn : Submitted (node.submitted request) later requests) {limits : ClasspathLimits}
    {before : List Classpath} {classes : LinkedClasspath}
    (links : LinkedClasspath.link node.ledger.view (before ++ dependencies) limits = .ok classes)
    (takes : classes.Takes limits jar) :
    later.ledger.view.Provides limits (before ++ [⟨node.next, true⟩]) node.next jar := by
  obtain ⟨last, recorded⟩ := sound.recorded accepts
  obtain ⟨-, newer⟩ := goesOn.continues recorded.sound
  obtain ⟨absent, present⟩ := accepted?_eq_some.mp accepts
  exact takes.provides links (newer.trans recorded.keeps) absent (newer _ _ present) installs

variable {settings : NodeConfig} {root : Option String}

/-- **A unit whose installation was accepted can be linked from then on**, under the same settings:
after the classpath of its request, if that has one, and alone if it passes the checks over its
dependencies alone, in particular if these begin with the classpath of the request. Its classes are
among those that are linked. -/
theorem Submitted.links_installed {node later : Node Medium} {requests others : List Request}
    (reached : Submitted (Node.start settings { backend := Medium.blank root }) node requests)
    (accepts : node.accepted? request = some response)
    (installs : response.installed? = some (jar, dependencies))
    (goesOn : Submitted (node.submitted request) later others) :
    request.code? = some (jar, dependencies) ∧
      later.ledger.view.Provides (Build.limits settings)
        (request.ownClasspaths ++ [⟨node.next, true⟩]) node.next jar ∧
      ((∃ classes, LinkedClasspath.link node.ledger.view dependencies (Build.limits settings) =
          .ok classes ∧ classes.Takes (Build.limits settings) jar) →
        later.ledger.view.Provides (Build.limits settings) [⟨node.next, true⟩] node.next jar) ∧
      ((∃ rest, dependencies = request.ownClasspaths ++ rest) →
        later.ledger.view.Provides (Build.limits settings) [⟨node.next, true⟩] node.next jar) := by
  have begins := sound_start settings root
  obtain ⟨contents, sound⟩ := reached.sound begins
  have current := reached.current begins (current_start settings root)
  have configured : node.config = settings := (reached.continues begins).1
  obtain ⟨asked, classes, links, takes⟩ := sound.takes_of_accepts current accepts installs
  rw [configured] at links takes
  have alone : (∃ classes, LinkedClasspath.link node.ledger.view dependencies
      (Build.limits settings) = .ok classes ∧ classes.Takes (Build.limits settings) jar) →
      later.ledger.view.Provides (Build.limits settings) [⟨node.next, true⟩] node.next jar := by
    rintro ⟨classes, links, takes⟩
    rw [← List.nil_append dependencies] at links
    exact sound.provides_of_takes accepts installs goesOn links takes
  refine ⟨asked, sound.provides_of_takes accepts installs goesOn links takes, alone, ?_⟩
  rintro ⟨rest, same⟩
  refine alone ⟨classes, ?_, takes⟩
  -- the classpath of the request is visited once, whether it is given once or twice
  rw [same] at links ⊢
  unfold Request.ownClasspaths at links ⊢
  cases known : request.header? with
  | none =>
    rw [known] at links
    exact links
  | some header =>
    rw [known] at links
    exact LinkedClasspath.link_cons_cons links

end Node

/-! ### Units that need the classpath of their request -/

namespace Heirs

open Node Purses

/-- A class without a superclass, which depends on the accounts. -/
def founding : Request :=
  .installInitialJar (CodeUnit.toBytes ⟨[⟨"Founder", none, [], [], []⟩]⟩) [⟨⟨0⟩, false⟩]

/-- The node with the accounts, the gamete and the founder. -/
def founded : Node Medium := funded.submitted founding

/-- A class whose superclass is the founder. -/
def unit : CodeUnit :=
  ⟨[⟨"Heir", some "Founder", [], [],
    [⟨"answer", [], some .int, true, .changesNothing, 0, [.push (.int 7), .ret]⟩]⟩]⟩

/-- The heir is installed under a classpath with the founder, and depends on the accounts only. -/
def inheriting : Request :=
  .paid { header 0 with gasLimit := 10000, classpath := ⟨⟨2⟩, true⟩ }
    (.installJar unit.toBytes [⟨⟨0⟩, false⟩])

/-- The response that installs the heir. -/
def inherited : Response :=
  (founded.accepted? inheriting).getD .initialization

def after : Node Medium := founded.submitted inheriting

theorem submitted_founded : Submitted begun founded [installing, creation, founding] :=
  submitted_funded.next (by decide +kernel)

theorem accepts_inheriting : founded.accepted? inheriting = some inherited := by
  have accepts : (founded.accepted? inheriting).isSome = true := by decide +kernel
  obtain ⟨response, same⟩ := Option.isSome_iff_exists.mp accepts
  rw [inherited, same]
  rfl

theorem installed?_inherited :
    inherited.installed? = some (unit.toBytes, [⟨⟨0⟩, false⟩]) := by decide +kernel

/-- The heir can be linked after the classpath of its request. -/
theorem links_installed_heir :
    Submitted begun founded [installing, creation, founding] ∧
      founded.accepted? inheriting = some inherited ∧
      inherited.installed? = some (unit.toBytes, [⟨⟨0⟩, false⟩]) ∧
      after.ledger.view.Provides (Build.limits {}) [⟨⟨2⟩, true⟩, ⟨⟨3⟩, true⟩] ⟨3⟩ unit.toBytes := by
  have next : founded.next = ⟨3⟩ := by decide +kernel
  obtain ⟨-, provides, -⟩ := Submitted.links_installed submitted_founded accepts_inheriting
    installed?_inherited .start
  rw [next] at provides
  exact ⟨submitted_founded, accepts_inheriting, installed?_inherited, provides⟩

/-- **A unit whose installation was accepted need not link alone**: only the classpath of the request
for the heir has its superclass. -/
theorem heir_without_founder :
    Submitted begun founded [installing, creation, founding] ∧
      founded.accepted? inheriting = some inherited ∧
      inherited.installed? = some (unit.toBytes, [⟨⟨0⟩, false⟩]) ∧ founded.next = ⟨3⟩ ∧
      LinkedClasspath.link after.ledger.view [⟨⟨3⟩, true⟩] (Build.limits after.config) =
        .error (.classpath (.unknownSuperclass "Heir" "Founder")) :=
  ⟨submitted_founded, accepts_inheriting, installed?_inherited, by decide +kernel,
    by decide +kernel⟩

end Heirs

end ObjectLedger
