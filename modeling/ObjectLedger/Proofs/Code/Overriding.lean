/-
**The two look-ups of a method: from the class of a signature, and from the class of the receiver.**

* `LinkedClasspath.Rooted`: every class has a chain of superclasses.
  `LinkedClasspath.rooted_of_link`: so it is after linking.
* `LinkedClasspath.exists_below`: the chain of a class ends with that of each class above it.
* `LinkedClasspath.Overridden`: a class between the two declares the method.
  **`LinkedClasspath.resolveMethod?_eq_iff`**: only then the two look-ups find different declarations.
* `LinkedClasspath.KeepsMark`: a declaration has a mark where the one that it overrides in the class
  right above has it. **`LinkedClasspath.keepsMark_iff`**: only then all look-ups of one method agree
  about the mark.
-/
import ObjectLedger.Proofs.Code.Fields
import ObjectLedger.Proofs.Code.Hierarchy

namespace ObjectLedger

namespace LinkedClasspath

variable {linked : LinkedClasspath} {name ancestor superclass : String} {method : MethodSignature}
  {definition : ClassDefinition} {lower : List ClassDefinition}

/-! ### Chains below a class -/

/-- Every class has a chain of superclasses. -/
def Rooted (linked : LinkedClasspath) : Prop :=
  ∀ name, linked.contains name = true → ∃ chain, Climbs linked.classes name chain

/-- After linking every class has a chain. -/
theorem rooted_of_link {view : LedgerView} {classpaths : List Classpath} {limits : ClasspathLimits}
    (links : link view classpaths limits = .ok linked) : linked.Rooted := by
  intro name known
  obtain ⟨units, sound, -⟩ := (link_sound view classpaths limits).2.2.1 linked links
  obtain ⟨chain, climbs, -⟩ := sound.hierarchy name known
  exact ⟨chain, climbs⟩

theorem Climbs.ancestors_eq {chain : List ClassDefinition}
    (climbs : Climbs linked.classes name chain) : linked.ancestors name = chain :=
  climbs.chain_eq climbs.length_le

theorem contains_of_mem_ancestors (inside : definition ∈ linked.ancestors name) :
    linked.contains name = true := by
  unfold ancestors at inside
  cases found : linked.class? name with
  | some first => rw [contains, found]; rfl
  | none =>
    cases count : linked.classes.length with
    | zero =>
      rw [count] at inside
      cases inside
    | succ count =>
      rw [‹linked.classes.length = _›, chain, found] at inside
      cases inside

theorem Rooted.exists_climbs (rooted : linked.Rooted) (inside : definition ∈ linked.ancestors name) :
    Climbs linked.classes name (linked.ancestors name) := by
  obtain ⟨chain, climbs⟩ := rooted name (contains_of_mem_ancestors inside)
  rwa [climbs.ancestors_eq]

/-- The chain of a class ends with that of each class above it, and no class comes twice. -/
theorem Rooted.exists_below (rooted : linked.Rooted)
    (below : linked.isSubclass name ancestor = true) :
    ∃ lower, linked.ancestors name = lower ++ linked.ancestors ancestor ∧
      (linked.ancestors name).Nodup := by
  obtain ⟨definition, inside, named⟩ := List.any_eq_true.mp below
  obtain rfl : definition.name = ancestor := of_decide_eq_true named
  have climbs := rooted.exists_climbs inside
  obtain ⟨-, above, ⟨lower, split⟩, climbsAbove⟩ := climbs.exists_above inside
  exact ⟨lower, by rw [climbsAbove.ancestors_eq, split], .of_map _ climbs.nodup⟩

/-! ### Declarations in between -/

/-- The declaration of the method that the class itself has, with the class. -/
def own? (method : MethodSignature) (definition : ClassDefinition) :
    Option (ClassDefinition × MethodDefinition) :=
  (definition.method? method).map fun found => (definition, found)

/-- A class from the first one up to the second one, but not that one, declares the method. -/
def Overridden (linked : LinkedClasspath) (name ancestor : String) (method : MethodSignature) : Prop :=
  ∃ definition ∈ linked.ancestors name, definition ∉ linked.ancestors ancestor ∧
    (definition.method? method).isSome

instance (linked : LinkedClasspath) (name ancestor : String) (method : MethodSignature) :
    Decidable (linked.Overridden name ancestor method) :=
  inferInstanceAs (Decidable (∃ definition ∈ linked.ancestors name,
    definition ∉ linked.ancestors ancestor ∧ (definition.method? method).isSome))

/-- A declaration further down counts first. -/
theorem resolveMethod?_of_append (split : linked.ancestors name = lower ++ linked.ancestors ancestor) :
    linked.resolveMethod? name method =
      (lower.findSome? (own? method)).or (linked.resolveMethod? ancestor method) := by
  unfold resolveMethod?
  rw [split, List.findSome?_append]
  rfl

/-- The declaration that is found is one of a class of the chain. -/
theorem mem_of_resolveMethod? {owner : ClassDefinition} {declared : MethodDefinition}
    (found : linked.resolveMethod? name method = some (owner, declared)) :
    owner ∈ linked.ancestors name ∧ owner.method? method = some declared := by
  obtain ⟨definition, inside, here⟩ := List.exists_of_findSome?_eq_some found
  obtain ⟨other, own, same⟩ := Option.map_eq_some_iff.mp here
  obtain ⟨rfl, rfl⟩ := Prod.mk.inj same
  exact ⟨inside, own⟩

/-- **The two look-ups find the same declaration where no class in between declares the method, and
nowhere else.** -/
theorem Rooted.resolveMethod?_eq_iff (rooted : linked.Rooted)
    (below : linked.isSubclass name ancestor = true) :
    linked.resolveMethod? name method = linked.resolveMethod? ancestor method ↔
      ¬ linked.Overridden name ancestor method := by
  obtain ⟨lower, split, once⟩ := rooted.exists_below below
  rw [split] at once
  have apart := List.disjoint_of_nodup_append once
  rw [resolveMethod?_of_append split]
  constructor
  · rintro same ⟨definition, inside, outside, declares⟩
    rw [split] at inside
    have among := (List.mem_append.mp inside).resolve_right outside
    -- the first declaration further down is found, and it is none of a class above
    have overrides : (lower.findSome? (own? method)).isSome := by
      rw [List.findSome?_isSome_iff]
      exact ⟨definition, among, by simpa [own?] using declares⟩
    obtain ⟨⟨owner, declared⟩, found⟩ := Option.isSome_iff_exists.mp overrides
    rw [found, Option.some_or] at same
    obtain ⟨holder, held, here⟩ := List.exists_of_findSome?_eq_some found
    obtain ⟨other, -, pair⟩ := Option.map_eq_some_iff.mp here
    obtain ⟨rfl, -⟩ := Prod.mk.inj pair
    exact apart held (mem_of_resolveMethod? same.symm).1
  · intro plain
    have inherits : lower.findSome? (own? method) = none := by
      refine List.findSome?_eq_none_iff.mpr fun definition among => ?_
      rw [own?, Option.map_eq_none_iff]
      by_contra declares
      exact plain ⟨definition, split ▸ List.mem_append_left _ among, fun above => apart among above,
        Option.isSome_iff_ne_none.mpr declares⟩
    rw [inherits, Option.none_or]

/-! ### Marks -/

/-- The annotations of the declaration that is found. -/
def annotationsOf? (linked : LinkedClasspath) (name : String) (method : MethodSignature) :
    Option Annotations :=
  (linked.resolveMethod? name method).map fun found => found.2.annotations

/-- A declaration has the mark where the one that it overrides in the class right above has it. -/
def KeepsMark (linked : LinkedClasspath) (mark : Annotations → Bool) : Prop :=
  ∀ name superclass method own above, IsBelow linked.classes name superclass →
    linked.annotationsOf? name method = some own →
    linked.annotationsOf? superclass method = some above → mark own = mark above

/-- What is found for a class is there for each class below it, maybe overridden. -/
theorem Rooted.exists_annotationsOf? (rooted : linked.Rooted) {above : Annotations}
    (below : linked.isSubclass name ancestor = true)
    (found : linked.annotationsOf? ancestor method = some above) :
    ∃ own, linked.annotationsOf? name method = some own := by
  obtain ⟨lower, split, -⟩ := rooted.exists_below below
  obtain ⟨inherited, resolved, -⟩ := Option.map_eq_some_iff.mp found
  unfold annotationsOf?
  rw [resolveMethod?_of_append split, resolved]
  cases lower.findSome? (own? method) <;> exact ⟨_, rfl⟩

/-- The class right above is above. -/
theorem Rooted.isSubclass_of_isBelow (rooted : linked.Rooted)
    (below : IsBelow linked.classes name superclass) :
    linked.isSubclass name superclass = true := by
  obtain ⟨member, known, extends_⟩ := below
  have contained : linked.contains name = true := by
    rw [contains, class?, known]
    rfl
  obtain ⟨chain, climbs⟩ := rooted name contained
  unfold isSubclass
  rw [climbs.ancestors_eq, List.any_eq_true]
  cases climbs with
  | top knownToo ends =>
    cases Option.some.inj (known.symm.trans knownToo)
    rw [ends] at extends_
    cases extends_
  | up knownToo extendsToo climbs =>
    cases Option.some.inj (known.symm.trans knownToo)
    cases Option.some.inj (extends_.symm.trans extendsToo)
    cases climbs with
    | top first _ | up first _ _ =>
      exact ⟨_, List.mem_cons_of_mem _ List.mem_cons_self,
        decide_eq_true (name_of_linkedClass? first)⟩

/-- **All look-ups of one method agree about a mark where each declaration has the mark of the one that
it overrides in the class right above, and nowhere else.** -/
theorem Rooted.keepsMark_iff (rooted : linked.Rooted) {mark : Annotations → Bool} :
    (∀ name ancestor method own above, linked.isSubclass name ancestor = true →
        linked.annotationsOf? name method = some own →
        linked.annotationsOf? ancestor method = some above → mark own = mark above) ↔
      linked.KeepsMark mark := by
  constructor
  · intro agree name superclass method own above below
    exact agree name superclass method own above (rooted.isSubclass_of_isBelow below)
  · intro keeps name ancestor method own above below found foundAbove
    obtain ⟨definition, inside, named⟩ := List.any_eq_true.mp below
    have named : definition.name = ancestor := of_decide_eq_true named
    have climbs := rooted.exists_climbs inside
    -- one class after the other, up to the ancestor
    generalize linked.ancestors name = chain at inside climbs
    induction climbs generalizing own with
    | @top name member known ends =>
      obtain rfl := List.mem_singleton.mp inside
      rw [name_of_linkedClass? known] at named
      subst named
      rw [Option.some.inj (found.symm.trans foundAbove)]
    | @up name superclass member rest known extends_ climbs ih =>
      rcases List.mem_cons.mp inside with rfl | higher
      · rw [name_of_linkedClass? known] at named
        subst named
        rw [Option.some.inj (found.symm.trans foundAbove)]
      · have belowToo : linked.isSubclass superclass ancestor = true := by
          rw [isSubclass, climbs.ancestors_eq, List.any_eq_true]
          exact ⟨definition, higher, decide_eq_true named⟩
        obtain ⟨middle, foundMiddle⟩ := rooted.exists_annotationsOf? belowToo foundAbove
        calc mark own
          _ = mark middle :=
            keeps name superclass method own middle ⟨member, known, extends_⟩ found foundMiddle
          _ = mark above := ih middle belowToo foundMiddle higher

end LinkedClasspath

end ObjectLedger
