/-
**A linked table of classes is sound.**

* `LinkedClasspath.Climbs`: a class and the classes above it, up to one without a superclass.
  `LinkedClasspath.Climbs.nodup`, `LinkedClasspath.Climbs.ancestors_eq`: none of them comes twice, and
  they are the ancestors, however far one looks.
* `LinkedClasspath.Broken`: the chain of a class leaves the table, or comes back to where it was.
  **`LinkedClasspath.climbs_of_checkHierarchy`**, **`LinkedClasspath.broken_of_checkHierarchy`**: the
  check of a class finds the one or the other.
* `LinkedClasspath.Made`: a table that is made of units. **`LinkedClasspath.Made.add`**: one more unit
  keeps it so. `LinkedClasspath.Made.sound`: what it says about its classes.
* **`LinkedClasspath.link_sound`**: linking ends; what it links is sound, and so is what a unit that is
  being installed makes of it; it finds a hierarchy broken only in a table with a broken one.
-/
import Mathlib.Algebra.GroupWithZero.Nat
import Mathlib.Data.List.Duplicate
import Mathlib.Data.List.Pairwise
import Mathlib.Logic.Relation
import ObjectLedger.Proofs.Code.Classes

namespace ObjectLedger

namespace LinkedClasspath

open Relation

variable {classes more : List LinkedClass} {name superclass start : String}
  {chain other : List ClassDefinition} {member : LinkedClass} {linked after : LinkedClasspath}

/-! ### Chains of superclasses -/

/-- A class of the table and the classes above it, all of them in the table, up to one that has no
superclass. -/
inductive Climbs (classes : List LinkedClass) : String → List ClassDefinition → Prop
  | top {name : String} {member : LinkedClass} (known : linkedClass? classes name = some member)
      (ends : member.definition.superclass = none) : Climbs classes name [member.definition]
  | up {name superclass : String} {member : LinkedClass} {above : List ClassDefinition}
      (known : linkedClass? classes name = some member)
      (extends_ : member.definition.superclass = some superclass)
      (climbs : Climbs classes superclass above) :
      Climbs classes name (member.definition :: above)

theorem name_of_linkedClass? (known : linkedClass? classes name = some member) :
    member.definition.name = name := by
  simpa using List.find?_some known

theorem mem_of_linkedClass? (known : linkedClass? classes name = some member) : member ∈ classes :=
  List.mem_of_find?_eq_some known

theorem linkedClass?_append (known : linkedClass? classes name = some member) :
    linkedClass? (classes ++ more) name = some member := by
  rw [linkedClass?, List.find?_append, show classes.find? _ = some member from known]
  rfl

namespace Climbs

/-- Each class has one chain. -/
theorem unique (climbs : Climbs classes name chain) (again : Climbs classes name other) :
    chain = other := by
  induction climbs generalizing other with
  | top known ends =>
    cases again with
    | top knownToo endsToo => rw [Option.some.inj (known.symm.trans knownToo)]
    | up knownToo extendsToo climbsToo =>
      cases Option.some.inj (known.symm.trans knownToo)
      rw [ends] at extendsToo
      cases extendsToo
  | up known extends_ climbs ih =>
    cases again with
    | top knownToo endsToo =>
      cases Option.some.inj (known.symm.trans knownToo)
      rw [extends_] at endsToo
      cases endsToo
    | up knownToo extendsToo climbsToo =>
      cases Option.some.inj (known.symm.trans knownToo)
      cases Option.some.inj (extends_.symm.trans extendsToo)
      rw [ih climbsToo]

/-- The classes of a chain are in the table, and each has the rest of the chain as its own. -/
theorem exists_above (climbs : Climbs classes name chain) {definition : ClassDefinition}
    (inside : definition ∈ chain) :
    (∃ member ∈ classes, member.definition = definition) ∧
      ∃ above, definition :: above <:+ chain ∧ Climbs classes definition.name (definition :: above) := by
  induction climbs with
  | top known ends =>
    obtain rfl := List.mem_singleton.mp inside
    have named := name_of_linkedClass? known
    refine ⟨⟨_, mem_of_linkedClass? known, rfl⟩, [], List.suffix_rfl, ?_⟩
    exact .top (named ▸ known) ends
  | up known extends_ climbs ih =>
    rcases List.mem_cons.mp inside with rfl | inside
    · have named := name_of_linkedClass? known
      refine ⟨⟨_, mem_of_linkedClass? known, rfl⟩, _, List.suffix_rfl, ?_⟩
      exact .up (named ▸ known) extends_ climbs
    · obtain ⟨known, above, suffix, climbsAbove⟩ := ih inside
      exact ⟨known, above, suffix.trans (List.suffix_cons _ _), climbsAbove⟩

/-- **No class comes twice in a chain.** -/
theorem nodup (climbs : Climbs classes name chain) : (chain.map ClassDefinition.name).Nodup := by
  induction climbs with
  | top known ends => exact List.nodup_singleton _
  | @up name superclass member above known extends_ climbs ih =>
    refine List.nodup_cons.mpr ⟨fun again => ?_, ih⟩
    -- a class of the name above would have the whole chain above it
    obtain ⟨definition, inside, same⟩ := List.mem_map.mp again
    obtain ⟨-, rest, suffix, climbsAgain⟩ := climbs.exists_above inside
    rw [same, name_of_linkedClass? known] at climbsAgain
    have whole := (Climbs.up known extends_ climbs).unique climbsAgain
    have shorter := suffix.length_le
    rw [← whole, List.length_cons] at shorter
    omega

theorem length_le (climbs : Climbs classes name chain) : chain.length ≤ classes.length := by
  have inside : chain.map ClassDefinition.name ⊆
      classes.map fun member => member.definition.name := by
    intro name among
    obtain ⟨definition, member, rfl⟩ := List.mem_map.mp among
    obtain ⟨⟨linkedClass, known, rfl⟩, -⟩ := climbs.exists_above member
    exact List.mem_map_of_mem known
  simpa using (climbs.nodup.subperm inside).length_le

theorem append (climbs : Climbs classes name chain) (more : List LinkedClass) :
    Climbs (classes ++ more) name chain := by
  induction climbs with
  | top known ends => exact .top (linkedClass?_append known) ends
  | up known extends_ climbs ih => exact .up (linkedClass?_append known) extends_ ih

/-- However far one looks, from the length of a chain on, one finds the chain. -/
theorem chain_eq (climbs : Climbs linked.classes name chain) {count : Nat}
    (far : chain.length ≤ count) : linked.chain count name = chain := by
  induction climbs generalizing count with
  | top known ends =>
    obtain ⟨count, rfl⟩ := Nat.exists_eq_succ_of_ne_zero (Nat.ne_of_gt far)
    rw [LinkedClasspath.chain, class?, known]
    simp only [Option.map_some, ends]
  | up known extends_ climbs ih =>
    obtain ⟨count, rfl⟩ := Nat.exists_eq_succ_of_ne_zero (Nat.ne_of_gt (Nat.lt_of_lt_of_le
      (Nat.succ_pos _) far))
    rw [LinkedClasspath.chain, class?, known]
    simp only [Option.map_some, extends_]
    rw [ih (Nat.le_of_succ_le_succ far)]

end Climbs

/-! ### Checks of the hierarchy -/

/-- The second class is the superclass of the first one. -/
def IsBelow (classes : List LinkedClass) (name superclass : String) : Prop :=
  ∃ member, linkedClass? classes name = some member ∧ member.definition.superclass = some superclass

/-- The chain of a class of the table leaves the table, or comes back to a class where it was, as the
error says. -/
inductive Broken (classes : List LinkedClass) : ClasspathError → Prop
  | leaves {start name superclass : String} (known : (linkedClass? classes start).isSome)
      (above : ReflTransGen (IsBelow classes) start name) (below : IsBelow classes name superclass)
      (unknown : linkedClass? classes superclass = none) :
      Broken classes (.unknownSuperclass name superclass)
  | cycles {start returning : String} (known : (linkedClass? classes start).isSome)
      (above : ReflTransGen (IsBelow classes) start returning)
      (returns : TransGen (IsBelow classes) returning returning) :
      Broken classes (.cyclicHierarchy start)

/-- A climb that ends goes up a chain. -/
theorem exists_climbs_of_climb {count : Nat} {current : String}
    (ends : climb classes start count current = .ok ())
    (known : linkedClass? classes current = some member) : ∃ chain, Climbs classes current chain := by
  induction count generalizing current member with
  | zero => cases ends
  | succ count ih =>
    rw [climb, known] at ends
    simp only [] at ends
    split at ends
    · exact ⟨_, .top known ‹_›⟩
    · rename_i superclass extends_
      split at ends
      · cases ends
      · rename_i present
        rw [Option.isNone_iff_eq_none, ← Ne, Option.ne_none_iff_exists'] at present
        obtain ⟨above, found⟩ := present
        obtain ⟨chain, climbs⟩ := ih ends found
        exact ⟨_, .up known extends_ climbs⟩

/-- A climb that does not end leaves the table, or has gone up all its steps. -/
theorem cases_of_climb {count : Nat} {current : String} {cause : ClasspathError}
    (stopped : climb classes start count current = .error cause) :
    (∃ name superclass, cause = .unknownSuperclass name superclass ∧
      ReflTransGen (IsBelow classes) current name ∧ IsBelow classes name superclass ∧
        linkedClass? classes superclass = none) ∨
      cause = .cyclicHierarchy start ∧ ∃ path : List String, path.length = count ∧
        List.IsChain (IsBelow classes) (current :: path) ∧
          ∀ name ∈ path, (linkedClass? classes name).isSome := by
  induction count generalizing current with
  | zero =>
    cases stopped
    exact Or.inr ⟨rfl, [], rfl, List.IsChain.singleton _, fun _ member => by cases member⟩
  | succ count ih =>
    rw [climb] at stopped
    split at stopped
    · cases stopped
    · rename_i member known
      split at stopped
      · cases stopped
      · rename_i superclass extends_
        have below : IsBelow classes current superclass := ⟨member, known, extends_⟩
        split at stopped
        · rename_i absent
          cases stopped
          exact Or.inl ⟨current, superclass, rfl, .refl, below, Option.isNone_iff_eq_none.mp absent⟩
        · rename_i present
          rcases ih stopped with
            ⟨name, outside, same, above, leaves, unknown⟩ | ⟨same, path, length, goes, inside⟩
          · exact Or.inl ⟨name, outside, same, .head below above, leaves, unknown⟩
          · refine Or.inr ⟨same, superclass :: path, congrArg Nat.succ length, ?_, ?_⟩
            · exact List.isChain_cons_cons.mpr ⟨below, goes⟩
            · refine List.forall_mem_cons.mpr ⟨?_, inside⟩
              simpa [Option.isSome_iff_ne_none] using present

/-- **The check of a class that succeeds goes up its chain.** -/
theorem climbs_of_checkHierarchy (ends : checkHierarchy classes name = .ok ())
    (known : (linkedClass? classes name).isSome) : ∃ chain, Climbs classes name chain := by
  obtain ⟨member, found⟩ := Option.isSome_iff_exists.mp known
  exact exists_climbs_of_climb ends found

/-- **The check of a class that fails has found its chain broken.** -/
theorem broken_of_checkHierarchy {cause : ClasspathError}
    (stopped : checkHierarchy classes name = .error cause)
    (known : (linkedClass? classes name).isSome) : Broken classes cause := by
  rcases cases_of_climb stopped with
    ⟨last, outside, rfl, above, leaves, unknown⟩ | ⟨rfl, path, length, goes, inside⟩
  · exact .leaves known above leaves unknown
  · -- there are more steps than classes, so some class comes twice
    have repeats : ¬ path.Nodup := by
      intro apart
      have among : path ⊆ classes.map fun member => member.definition.name := by
        intro name member
        obtain ⟨linkedClass, found⟩ := Option.isSome_iff_exists.mp (inside name member)
        exact List.mem_map.mpr ⟨linkedClass, mem_of_linkedClass? found, name_of_linkedClass? found⟩
      have bound := (apart.subperm among).length_le
      rw [List.length_map] at bound
      omega
    obtain ⟨returning, twice⟩ := List.exists_duplicate_iff_not_nodup.mpr repeats
    have ordered : List.Pairwise (TransGen (IsBelow classes)) (name :: path) :=
      List.isChain_iff_pairwise.mp (goes.imp fun _ _ below => .single below)
    obtain ⟨above, apart⟩ := List.pairwise_cons.mp ordered
    have returns : TransGen (IsBelow classes) returning returning := by
      have both := apart.sublist (List.duplicate_iff_sublist.mp twice)
      exact (List.pairwise_cons.mp both).1 returning List.mem_cons_self
    exact .cycles known (above returning twice.mem).to_reflTransGen returns

/-! ### Tables made of units -/

/-- A unit and where it comes from. -/
structure LoadedUnit where
  /-- The transaction that installed the unit, none while it is being installed. -/
  jar : Option TransactionRef
  bytes : List UInt8
  unit : CodeUnit

/-- The classes of the unit in a table. -/
def LoadedUnit.members (loaded : LoadedUnit) : List LinkedClass :=
  loaded.unit.classes.map fun definition => ⟨definition, loaded.jar⟩

/-- The unit defines a class of the name. -/
def LoadedUnit.Defines (loaded : LoadedUnit) (name : String) : Prop :=
  ∃ definition ∈ loaded.unit.classes, definition.name = name

/-- The classpath is made of units, in the order of loading, and every class has a chain. -/
structure Made (linked : LinkedClasspath) (units : List LoadedUnit) : Prop where
  decoded : ∀ loaded ∈ units, CodeUnit.ofBytes loaded.bytes = .ok loaded.unit
  classes : linked.classes = units.flatMap LoadedUnit.members
  lengths : linked.lengths = units.map fun loaded => saturate loaded.bytes.length
  transactions : linked.transactions = units.filterMap LoadedUnit.jar
  apart : (linked.classes.map fun member => member.definition.name).Nodup
  rooted : ∀ member ∈ linked.classes, ∃ chain,
    Climbs linked.classes member.definition.name chain

/-- **What a classpath that is made of units says about its classes.** -/
structure Sound (linked : LinkedClasspath) (units : List LoadedUnit) : Prop where
  decoded : ∀ loaded ∈ units, CodeUnit.ofBytes loaded.bytes = .ok loaded.unit
  /-- The lengths and the transactions are those of the units, in the order of loading. -/
  lengths : linked.lengths = units.map fun loaded => saturate loaded.bytes.length
  transactions : linked.transactions = units.filterMap LoadedUnit.jar
  /-- Every class of a unit is there, under the jar of the unit. -/
  defined : ∀ loaded ∈ units, ∀ definition ∈ loaded.unit.classes,
    linked.class? definition.name = some definition ∧ linked.jarOf? definition.name = loaded.jar
  /-- Every name is defined by exactly one of the units. -/
  once : ∀ name, linked.contains name = true → ∃! loaded, loaded ∈ units ∧ loaded.Defines name
  /-- Every class has a chain of superclasses that stays in the table and ends, in which no class comes
  twice, and the look-ups find this chain, however far they go. -/
  hierarchy : ∀ name, linked.contains name = true → ∃ chain, Climbs linked.classes name chain ∧
    (chain.map ClassDefinition.name).Nodup ∧ linked.ancestors name = chain ∧
      ∀ count, linked.classes.length ≤ count → linked.chain count name = chain

theorem made_empty : Made {} [] where
  decoded _ member := by cases member
  classes := rfl
  lengths := rfl
  transactions := rfl
  apart := List.nodup_nil
  rooted _ member := by cases member

/-- A table to which the classes of a unit were added has the unit's classes at its end. -/
theorem exists_of_defined {source : Option TransactionRef} {unit : CodeUnit}
    (apart : (classes.map fun member => member.definition.name).Nodup)
    (added : addClasses source classes unit.classes = .ok more) {definition : ClassDefinition}
    (defined : definition ∈ unit.classes) :
    linkedClass? more definition.name = some ⟨definition, source⟩ := by
  obtain ⟨shape, apart⟩ := addClasses_spec apart added
  have among : (⟨definition, source⟩ : LinkedClass) ∈ more :=
    shape ▸ List.mem_append_right _ (List.mem_map_of_mem defined)
  exact linkedClass?_of_mem apart among

namespace Made

variable {units : List LoadedUnit} {limits : ClasspathLimits}

/-- **One more unit keeps the classpath made of units**, if the hierarchy of its classes is checked. -/
theorem add (made : linked.Made units) (loaded : LoadedUnit)
    (decoded : CodeUnit.ofBytes loaded.bytes = .ok loaded.unit)
    (added : addClasses loaded.jar linked.classes loaded.unit.classes = .ok after.classes)
    (checked : ∀ definition ∈ loaded.unit.classes,
      checkHierarchy after.classes definition.name = .ok ())
    (lengths : after.lengths = linked.lengths ++ [saturate loaded.bytes.length])
    (transactions : after.transactions = linked.transactions ++ loaded.jar.toList) :
    after.Made (units ++ [loaded]) := by
  obtain ⟨shape, apart⟩ := addClasses_spec made.apart added
  refine ⟨?_, ?_, ?_, ?_, apart, fun member inside => ?_⟩
  · exact List.forall_mem_append.mpr ⟨made.decoded, List.forall_mem_singleton.mpr decoded⟩
  · rw [shape, made.classes, List.flatMap_append]
    simp [LoadedUnit.members]
  · rw [lengths, made.lengths, List.map_append]
    rfl
  · rw [transactions, made.transactions, List.filterMap_append]
    cases jar : loaded.jar <;> simp [jar]
  · rw [shape] at inside
    rcases List.mem_append.mp inside with older | new
    · obtain ⟨chain, climbs⟩ := made.rooted member older
      exact ⟨chain, shape ▸ climbs.append _⟩
    · obtain ⟨definition, defined, rfl⟩ := List.mem_map.mp new
      refine climbs_of_checkHierarchy (checked definition defined) ?_
      rw [exists_of_defined made.apart added defined]
      rfl

/-- An installed unit that is added. -/
theorem addInstalled (made : linked.Made units) {jar : TransactionRef} {bytes : List UInt8}
    (added : linked.addInstalled limits jar bytes = .ok after) :
    ∃ unit, after.Made (units ++ [⟨some jar, bytes, unit⟩]) := by
  obtain ⟨-, unit, decoded, classes, checked, lengths, transactions⟩ := addInstalled_eq_ok added
  exact ⟨unit, made.add ⟨some jar, bytes, unit⟩ decoded classes checked lengths transactions⟩

/-- A unit that is being installed. -/
theorem extended (made : linked.Made units) {bytes : List UInt8}
    (extended : linked.extended bytes = .ok after) :
    ∃ unit, after.Made (units ++ [⟨none, bytes, unit⟩]) := by
  obtain ⟨unit, middle, decoded, added, rfl⟩ := extended_eq_ok extended
  obtain ⟨classes, checked, lengths, transactions⟩ := addUnit_eq_ok added
  refine ⟨unit, made.add ⟨none, bytes, unit⟩ decoded classes checked ?_ ?_⟩
  · exact congrArg (· ++ [saturate bytes.length]) lengths
  · exact transactions.trans (List.append_nil _).symm

/-- Two units do not define the same name. -/
theorem eq_of_defines (made : linked.Made units) {first second : LoadedUnit} (one : first ∈ units)
    (two : second ∈ units) (defines : first.Defines name) (definesToo : second.Defines name) :
    first = second := by
  by_contra different
  have names : (units.flatMap fun loaded =>
      loaded.unit.classes.map ClassDefinition.name).Nodup := by
    have shape : linked.classes.map (fun member => member.definition.name) =
        units.flatMap fun loaded => loaded.unit.classes.map ClassDefinition.name := by
      rw [made.classes, List.map_flatMap]
      simp [LoadedUnit.members, Function.comp_def]
    exact shape ▸ made.apart
  have apart := (List.nodup_flatMap.mp names).2
  have symmetric : Std.Symm (Function.onFun List.Disjoint fun loaded : LoadedUnit =>
      loaded.unit.classes.map ClassDefinition.name) :=
    ⟨fun _ _ disjoint _ inSecond inFirst => disjoint inFirst inSecond⟩
  exact apart.forall one two different (List.mem_map.mpr defines) (List.mem_map.mpr definesToo)

theorem sound (made : linked.Made units) : Sound linked units where
  decoded := made.decoded
  lengths := made.lengths
  transactions := made.transactions
  defined loaded member definition defined := by
    have among : (⟨definition, loaded.jar⟩ : LinkedClass) ∈ linked.classes := by
      rw [made.classes]
      exact List.mem_flatMap.mpr ⟨loaded, member, List.mem_map_of_mem defined⟩
    have known := linkedClass?_of_mem made.apart among
    exact ⟨by rw [class?, known]; rfl, by rw [jarOf?, known]; rfl⟩
  once name there := by
    obtain ⟨definition, found⟩ := Option.isSome_iff_exists.mp there
    obtain ⟨member, known, rfl⟩ := Option.map_eq_some_iff.mp found
    have inside := mem_of_linkedClass? known
    rw [made.classes] at inside
    obtain ⟨loaded, among, inside⟩ := List.mem_flatMap.mp inside
    obtain ⟨definition, defined, rfl⟩ := List.mem_map.mp inside
    have named := name_of_linkedClass? known
    refine ⟨loaded, ⟨among, definition, defined, named⟩, ?_⟩
    rintro other ⟨amongToo, definitionToo, definedToo, namedToo⟩
    exact made.eq_of_defines amongToo among ⟨definitionToo, definedToo, namedToo⟩
      ⟨definition, defined, named⟩
  hierarchy name there := by
    obtain ⟨definition, found⟩ := Option.isSome_iff_exists.mp there
    obtain ⟨member, known, -⟩ := Option.map_eq_some_iff.mp found
    obtain ⟨chain, climbs⟩ := made.rooted member (mem_of_linkedClass? known)
    rw [name_of_linkedClass? known] at climbs
    exact ⟨chain, climbs, climbs.nodup, climbs.chain_eq climbs.length_le, fun count far =>
      climbs.chain_eq (Nat.le_trans climbs.length_le far)⟩

end Made

/-! ### Errors about the hierarchy -/

/-- The error is about the chain of a class. -/
def IsOfHierarchy : ClasspathError → Prop
  | .unknownSuperclass _ _ | .cyclicHierarchy _ => True
  | _ => False

/-- Names that are taken do not break a hierarchy. -/
theorem not_isOfHierarchy_of_addClasses {source : Option TransactionRef}
    {definitions : List ClassDefinition} {cause : ClasspathError}
    (refused : addClasses source classes definitions = .error cause) : ¬ IsOfHierarchy cause := by
  induction definitions generalizing classes with
  | nil => cases refused
  | cons definition rest ih =>
    rw [addClasses] at refused
    split at refused
    · cases refused
      exact id
    · exact ih refused

/-- A unit whose classes are refused for their hierarchy has broken it. -/
theorem broken_of_addUnit {source : Option TransactionRef} {unit : CodeUnit}
    {cause : ClasspathError} (apart : (linked.classes.map fun member => member.definition.name).Nodup)
    (refused : linked.addUnit unit source = .error cause) (ofHierarchy : IsOfHierarchy cause) :
    ∃ classes, addClasses source linked.classes unit.classes = .ok classes ∧
      Broken classes cause := by
  rcases cases_of_bind_eq_error refused with taken | ⟨classes, added, refused⟩
  · exact absurd ofHierarchy (not_isOfHierarchy_of_addClasses taken)
  · rcases cases_of_bind_eq_error refused with stopped | ⟨_, _, never⟩
    · obtain ⟨definition, defined, failed⟩ := exists_of_forM_eq_error stopped
      refine ⟨classes, added, broken_of_checkHierarchy failed ?_⟩
      rw [exists_of_defined apart added defined]
      rfl
    · cases never

/-- Bytes whose classes are refused for their hierarchy are a unit that has broken it. -/
theorem broken_of_bytes {source : Option TransactionRef} {bytes : List UInt8}
    {finish : LinkedClasspath → LinkedClasspath} {cause : ClasspathError}
    (apart : (linked.classes.map fun member => member.definition.name).Nodup)
    (refused : (match CodeUnit.ofBytes bytes with
      | .error other => .error (.undecodable source other)
      | .ok unit => linked.addUnit unit source >>= fun added => pure (finish added)) =
        Except.error cause)
    (ofHierarchy : IsOfHierarchy cause) :
    ∃ unit classes, CodeUnit.ofBytes bytes = .ok unit ∧
      addClasses source linked.classes unit.classes = .ok classes ∧ Broken classes cause := by
  cases decoded : CodeUnit.ofBytes bytes with
  | error other =>
    rw [decoded] at refused
    cases refused
    exact ofHierarchy.elim
  | ok unit =>
    rw [decoded] at refused
    rcases cases_of_bind_eq_error refused with failed | ⟨_, _, never⟩
    · obtain ⟨classes, added, broken⟩ := broken_of_addUnit apart failed ofHierarchy
      exact ⟨unit, classes, rfl, added, broken⟩
    · cases never

/-- A unit that is being installed breaks a hierarchy. -/
theorem broken_of_extended {bytes : List UInt8} {cause : ClasspathError}
    (apart : (linked.classes.map fun member => member.definition.name).Nodup)
    (refused : linked.extended bytes = .error cause) (ofHierarchy : IsOfHierarchy cause) :
    ∃ unit classes, CodeUnit.ofBytes bytes = .ok unit ∧
      addClasses none linked.classes unit.classes = .ok classes ∧ Broken classes cause :=
  broken_of_bytes apart refused ofHierarchy

/-- A limit that is exceeded is no fault of a hierarchy. -/
theorem not_isOfHierarchy_of_checkLimits {extra : Option UInt64} {limits : ClasspathLimits}
    {cause : ClasspathError} (exceeded : linked.checkLimits extra limits = .error cause) :
    ¬ IsOfHierarchy cause := by
  unfold checkLimits at exceeded
  dsimp only at exceeded
  split at exceeded
  · cases exceeded
    exact False.elim
  · split at exceeded
    · cases exceeded
      exact False.elim
    · cases exceeded

/-- An installed unit that cannot be added breaks a hierarchy. -/
theorem broken_of_addInstalled {limits : ClasspathLimits} {jar : TransactionRef}
    {bytes : List UInt8} {cause : ClasspathError}
    (apart : (linked.classes.map fun member => member.definition.name).Nodup)
    (refused : linked.addInstalled limits jar bytes = .error cause)
    (ofHierarchy : IsOfHierarchy cause) :
    ∃ unit classes, CodeUnit.ofBytes bytes = .ok unit ∧
      addClasses (some jar) linked.classes unit.classes = .ok classes ∧ Broken classes cause := by
  rcases cases_of_bind_eq_error refused with exceeded | ⟨_, _, refused⟩
  · exact absurd ofHierarchy (not_isOfHierarchy_of_checkLimits exceeded)
  · exact broken_of_bytes apart refused ofHierarchy

/-! ### Limits -/

/-- The limits hold. -/
structure Within (limits : ClasspathLimits) (linked : LinkedClasspath) : Prop where
  count : linked.lengths.length ≤ limits.maxDependencies.toNat
  size : linked.lengths.foldl saturatingAdd 0 ≤ limits.maxDependenciesSize

theorem within_empty (limits : ClasspathLimits) : Within limits {} :=
  ⟨Nat.zero_le _, UInt64.zero_le⟩

/-- The limits are checked before a unit is added. -/
theorem within_of_addInstalled {limits : ClasspathLimits} {jar : TransactionRef}
    {bytes : List UInt8} (added : linked.addInstalled limits jar bytes = .ok after) :
    after.Within limits := by
  obtain ⟨checked, -, -, -, -, lengths, -⟩ := addInstalled_eq_ok added
  unfold checkLimits at checked
  dsimp only at checked
  split at checked
  · cases checked
  · rename_i few
    split at checked
    · cases checked
    · rename_i small
      rw [Option.toList_some, ← lengths] at few small
      exact ⟨Nat.le_of_not_gt few, UInt64.not_lt.mp small⟩

/-- Sizes are added up to the greatest word. -/
theorem toNat_foldl_saturatingAdd_eq_min (sizes : List UInt64) (start : UInt64) :
    (sizes.foldl saturatingAdd start).toNat =
      min (start.toNat + (sizes.map UInt64.toNat).sum) maxWord := by
  induction sizes generalizing start with
  | nil =>
    have bound : start.toNat ≤ maxWord := Nat.le_of_lt_succ start.toNat_lt
    simp only [List.foldl_nil, List.map_nil, List.sum_nil, Nat.add_zero]
    omega
  | cons size rest ih =>
    rw [List.foldl_cons, ih, toNat_saturatingAdd, List.map_cons, List.sum_cons]
    omega

/-- Where there is a limit, the units are together no larger in bytes. -/
theorem sum_le_of_size_le {limit : UInt64} {units : List LoadedUnit}
    (small : (units.map fun loaded => saturate loaded.bytes.length).foldl saturatingAdd 0 ≤ limit)
    (bounded : limit.toNat < maxWord) :
    (units.map fun loaded => loaded.bytes.length).sum ≤ limit.toNat := by
  rw [UInt64.le_iff_toNat_le, toNat_foldl_saturatingAdd_eq_min, List.map_map] at small
  have exact_ : ∀ others : List LoadedUnit,
      (others.map (UInt64.toNat ∘ fun loaded => saturate loaded.bytes.length)).sum < maxWord →
        (others.map fun loaded => loaded.bytes.length).sum =
          (others.map (UInt64.toNat ∘ fun loaded => saturate loaded.bytes.length)).sum := by
    intro others few
    induction others with
    | nil => rfl
    | cons loaded rest ih =>
      simp only [List.map_cons, List.sum_cons, Function.comp_apply, toNat_saturate] at few ⊢
      have tail := ih (by simpa only [Function.comp_def, toNat_saturate] using
        Nat.lt_of_le_of_lt (Nat.le_add_left _ _) few)
      simp only [Function.comp_def, toNat_saturate] at tail few ⊢
      omega
  have zero : (0 : UInt64).toNat = 0 := rfl
  rw [exact_ units (by omega)]
  omega

/-! ### Linking -/

/-- The units are installed ones. -/
def AllInstalled (view : LedgerView) (units : List LoadedUnit) : Prop :=
  ∀ loaded ∈ units, ∃ jar dependencies, loaded.jar = some jar ∧
    view.HasCode jar loaded.bytes dependencies

/-- A classpath that is being linked is made of installed units, within the limits. -/
def Assembled (view : LedgerView) (limits : ClasspathLimits) (linked : LinkedClasspath) : Prop :=
  linked.Within limits ∧ ∃ units, linked.Made units ∧ AllInstalled view units

/-- **One more installed unit keeps it so.** -/
theorem Assembled.step {view : LedgerView} {limits : ClasspathLimits} :
    ∀ linked after jar bytes dependencies, Assembled view limits linked →
      view.HasCode jar bytes dependencies → linked.addInstalled limits jar bytes = .ok after →
        Assembled view limits after := by
  rintro linked after jar bytes dependencies ⟨-, units, made, installed⟩ code added
  obtain ⟨unit, madeToo⟩ := made.addInstalled added
  exact ⟨within_of_addInstalled added, _, madeToo, List.forall_mem_append.mpr
    ⟨installed, List.forall_mem_singleton.mpr ⟨jar, dependencies, rfl, code⟩⟩⟩

theorem assembled_empty (view : LedgerView) (limits : ClasspathLimits) :
    Assembled view limits {} :=
  ⟨within_empty limits, [], made_empty, fun _ member => by cases member⟩

/-- **Linking ends, and what it links is sound.** A deeper bound on the nesting does not show. What is
linked is made of installed units, each loaded once and within the limits, and so is what a unit that is
being installed makes of it. An error about the hierarchy is found only in a table with a class whose
chain is broken: that of the units loaded so far and of the one that is added. -/
theorem link_sound (view : LedgerView) (classpaths : List Classpath) (limits : ClasspathLimits) :
    (∀ deeper, maxNesting ≤ deeper → classpaths.foldlM (visit view limits deeper) {} =
        classpaths.foldlM (visit view limits maxNesting) {}) ∧
      link view classpaths limits ≠ .error .tooDeep ∧
      (∀ linked, link view classpaths limits = .ok linked → ∃ units, linked.Sound units ∧
        AllInstalled view units ∧ linked.transactions.Nodup ∧ linked.Within limits ∧
        (limits.maxDependenciesSize.toNat < maxWord →
          (units.map fun loaded => loaded.bytes.length).sum ≤ limits.maxDependenciesSize.toNat) ∧
        (∀ bytes extended, linked.extended bytes = .ok extended → ∃ unit,
          extended.Sound (units ++ [⟨none, bytes, unit⟩])) ∧
        ∀ bytes cause, linked.extended bytes = .error cause → IsOfHierarchy cause →
          ∃ unit classes, CodeUnit.ofBytes bytes = .ok unit ∧
            addClasses none linked.classes unit.classes = .ok classes ∧ Broken classes cause) ∧
      ∀ cause, link view classpaths limits = .error (.classpath cause) → IsOfHierarchy cause →
        ∃ jar bytes last unit classes, Arrives view limits jar bytes {} classpaths last ∧
          CodeUnit.ofBytes bytes = .ok unit ∧
          addClasses (some jar) last.linked.classes unit.classes = .ok classes ∧
          Broken classes cause := by
  refine ⟨fun deeper => visits_of_deeper, link_ne_tooDeep view classpaths limits,
    fun linked links => ?_, fun cause stopped ofHierarchy => ?_⟩
  · obtain ⟨loaded, last, walks, rfl⟩ := walks_of_link links
    obtain ⟨within, units, made, installed⟩ :=
      walks.keeps Assembled.step (assembled_empty view limits)
    refine ⟨units, made.sound, installed, walks.transactions_nodup, within, ?_,
      fun bytes extended added => ?_, fun bytes cause => broken_of_extended made.apart⟩
    · exact sum_le_of_size_le (made.lengths ▸ within.size)
    · obtain ⟨unit, madeToo⟩ := made.extended added
      exact ⟨unit, madeToo.sound⟩
  · rcases arrives_of_link stopped with ⟨jar, missing⟩ | ⟨jar, bytes, last, arrives, refused⟩
    · cases missing <;> exact ofHierarchy.elim
    · obtain ⟨-, units, made, -⟩ := arrives.keeps Assembled.step (assembled_empty view limits)
      obtain ⟨unit, classes, decoded, added, broken⟩ :=
        broken_of_addInstalled made.apart refused ofHierarchy
      exact ⟨jar, bytes, last, unit, classes, arrives, decoded, added, broken⟩

end LinkedClasspath

end ObjectLedger
