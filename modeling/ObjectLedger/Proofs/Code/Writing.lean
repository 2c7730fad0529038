/-
**The fields that code writes.**

* `WritesOnly`: code that writes no fields but the given ones; also said of classes, units and
  classpaths.
* `LinkedClasspath.WritesOnly.constructor`, `LinkedClasspath.WritesOnly.method`: so does whatever a
  call finds in such a classpath.
-/
import ObjectLedger.Code.Linking

namespace ObjectLedger

variable {writable : FieldSignature → Prop}

/-- The code writes no other fields. -/
def WritesOnly (writable : FieldSignature → Prop) (code : List Instruction) : Prop :=
  ∀ field, .putField field ∈ code → writable field

theorem writesOnly_iff [DecidablePred writable] (code : List Instruction) :
    (code.all fun
      | .putField field => decide (writable field)
      | _ => true) = true ↔ WritesOnly writable code := by
  rw [List.all_eq_true]
  refine ⟨fun all field member => of_decide_eq_true (all _ member), fun only => ?_⟩
  intro instruction member
  cases instruction with
  | putField field => exact decide_eq_true (only field member)
  | _ => rfl

instance [DecidablePred writable] (code : List Instruction) : Decidable (WritesOnly writable code) :=
  decidable_of_iff _ (writesOnly_iff code)

/-- The constructors and methods of the class write no other fields. -/
structure ClassDefinition.WritesOnly (writable : FieldSignature → Prop)
    (definition : ClassDefinition) : Prop where
  constructors : ∀ constructor ∈ definition.constructors,
    ObjectLedger.WritesOnly writable constructor.code
  methods : ∀ method ∈ definition.methods, ObjectLedger.WritesOnly writable method.code

instance [DecidablePred writable] (definition : ClassDefinition) :
    Decidable (definition.WritesOnly writable) :=
  decidable_of_iff
    ((∀ constructor ∈ definition.constructors, ObjectLedger.WritesOnly writable constructor.code) ∧
      ∀ method ∈ definition.methods, ObjectLedger.WritesOnly writable method.code)
    ⟨fun both => ⟨both.1, both.2⟩, fun only => ⟨only.constructors, only.methods⟩⟩

/-- The classes of the unit write no other fields. -/
def CodeUnit.WritesOnly (writable : FieldSignature → Prop) (unit : CodeUnit) : Prop :=
  ∀ definition ∈ unit.classes, definition.WritesOnly writable

instance [DecidablePred writable] (unit : CodeUnit) : Decidable (unit.WritesOnly writable) :=
  inferInstanceAs (Decidable (∀ definition ∈ unit.classes, definition.WritesOnly writable))

namespace LinkedClasspath

variable {linked : LinkedClasspath} {name : String} {definition : ClassDefinition}

/-- The classes of the classpath write no other fields. -/
def WritesOnly (writable : FieldSignature → Prop) (linked : LinkedClasspath) : Prop :=
  ∀ member ∈ linked.classes, member.definition.WritesOnly writable

theorem mem_of_class? (found : linked.class? name = some definition) :
    ∃ member ∈ linked.classes, member.definition = definition := by
  obtain ⟨member, looked, rfl⟩ := Option.map_eq_some_iff.mp found
  exact ⟨member, List.mem_of_find?_eq_some looked, rfl⟩

theorem mem_of_chain {count : Nat} (member : definition ∈ linked.chain count name) :
    ∃ other, linked.class? other = some definition := by
  induction count generalizing name with
  | zero => cases member
  | succ count ih =>
    rw [chain] at member
    cases found : linked.class? name with
    | none =>
      rw [found] at member
      cases member
    | some first =>
      rw [found] at member
      rcases List.mem_cons.mp member with rfl | above
      · exact ⟨name, found⟩
      · cases named : first.superclass with
        | none =>
          rw [named] at above
          cases above
        | some superclass =>
          rw [named] at above
          exact ih above

theorem WritesOnly.constructor (restricted : linked.WritesOnly writable)
    {signature : ConstructorSignature} {constructor : ConstructorDefinition}
    (found : linked.resolveConstructor? signature = some constructor) :
    ObjectLedger.WritesOnly writable constructor.code := by
  obtain ⟨definition, known, declared⟩ := Option.bind_eq_some_iff.mp found
  obtain ⟨member, inside, rfl⟩ := mem_of_class? known
  exact (restricted member inside).constructors constructor (List.mem_of_find?_eq_some declared)

theorem WritesOnly.method (restricted : linked.WritesOnly writable)
    {signature : MethodSignature} {method : MethodDefinition}
    (found : linked.resolveMethod? name signature = some (definition, method)) :
    ObjectLedger.WritesOnly writable method.code := by
  obtain ⟨candidate, ancestor, found⟩ := List.exists_of_findSome?_eq_some found
  obtain ⟨declared, looked, same⟩ := Option.map_eq_some_iff.mp found
  obtain ⟨rfl, rfl⟩ := Prod.mk.inj same
  obtain ⟨other, known⟩ := mem_of_chain ancestor
  obtain ⟨member, inside, rfl⟩ := mem_of_class? known
  exact (restricted member inside).methods declared (List.mem_of_find?_eq_some looked)

end LinkedClasspath

end ObjectLedger
