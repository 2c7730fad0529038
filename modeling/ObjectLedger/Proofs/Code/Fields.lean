/-
**The fields of a class: all of them, and one by its signature.**

* `ClassDefinition.OneType`: the class declares no name with two types.
  `ClassDefinition.oneType_iff`: only then each field that it declares is the one that its name leads
  to.
* `LinkedClasspath.mem_fieldsOf_iff`, `LinkedClasspath.hasField_iff`: the fields that the classes above
  declare, and those that are the first of their name in their class.
* **`LinkedClasspath.hasField_agrees_iff`**: the instances of a class have just the fields that are
  listed for it where no class above declares a name with two types, and nowhere else.
* **`LinkedClasspath.not_hasField_agrees`**: linking lets such a class pass.
-/
import ObjectLedger.Proofs.Code.Classes
import ObjectLedger.Proofs.Codec.Units

namespace ObjectLedger

variable {name : String} {field : FieldSignature} {definition : ClassDefinition}

/-! ### Declarations -/

namespace ClassDefinition

theorem mem_fieldSignatures : field ∈ definition.fieldSignatures ↔
    field.definingClass = definition.name ∧ ⟨field.name, field.type⟩ ∈ definition.fields := by
  obtain ⟨definingClass, name, type⟩ := field
  refine List.mem_map.trans ⟨?_, fun declared => ⟨_, declared.2, by rw [← declared.1]⟩⟩
  rintro ⟨declared, member, same⟩
  cases same
  exact ⟨rfl, member⟩

/-- The field that a name leads to is declared under the name. -/
theorem of_field? (found : definition.field? name = some field) :
    field ∈ definition.fieldSignatures ∧ field.name = name := by
  obtain ⟨declared, looked, rfl⟩ := Option.map_eq_some_iff.mp found
  exact ⟨List.mem_map_of_mem (List.mem_of_find?_eq_some looked), by
    simpa using List.find?_some looked⟩

/-- The name of a field that is declared leads to a field. -/
theorem exists_field? (declared : field ∈ definition.fieldSignatures) :
    ∃ first, definition.field? field.name = some first := by
  have named : (definition.fields.find? fun other => other.name = field.name).isSome :=
    List.find?_isSome.mpr ⟨_, (mem_fieldSignatures.mp declared).2, decide_eq_true rfl⟩
  obtain ⟨first, looked⟩ := Option.isSome_iff_exists.mp named
  exact ⟨_, Option.map_eq_some_iff.mpr ⟨first, looked, rfl⟩⟩

/-- No name is declared with two types. -/
def OneType (definition : ClassDefinition) : Prop :=
  ∀ first ∈ definition.fieldSignatures, ∀ second ∈ definition.fieldSignatures,
    first.name = second.name → first.type = second.type

instance (definition : ClassDefinition) : Decidable definition.OneType :=
  inferInstanceAs (Decidable (∀ first ∈ definition.fieldSignatures,
    ∀ second ∈ definition.fieldSignatures, first.name = second.name → first.type = second.type))

/-- Only then each field that is declared is the one that its name leads to. -/
theorem oneType_iff : definition.OneType ↔
    ∀ field ∈ definition.fieldSignatures, definition.field? field.name = some field := by
  constructor
  · intro oneType field declared
    obtain ⟨first, found⟩ := exists_field? declared
    obtain ⟨member, named⟩ := of_field? found
    rw [found, Option.some.injEq]
    have owner : first.definingClass = field.definingClass :=
      (mem_fieldSignatures.mp member).1.trans (mem_fieldSignatures.mp declared).1.symm
    have type : first.type = field.type := oneType first member field declared named
    cases first
    cases field
    simp_all
  · intro leads first member second declared named
    have same : some first = some second :=
      (leads first member).symm.trans ((congrArg _ named).trans (leads second declared))
    rw [Option.some.inj same]

end ClassDefinition

namespace LinkedClasspath

open ClassDefinition

variable {linked : LinkedClasspath}

/-! ### The two tables -/

theorem mem_fieldsOf_iff : field ∈ linked.fieldsOf name ↔
    ∃ definition ∈ linked.ancestors name, field ∈ definition.fieldSignatures := by
  simp only [fieldsOf, List.mem_flatMap, List.mem_reverse]

/-- Its name leads to a class above. -/
theorem class?_of_mem_ancestors (above : definition ∈ linked.ancestors name) :
    linked.class? definition.name = some definition := by
  obtain ⟨other, found⟩ := mem_of_chain above
  rwa [name_of_class? found]

/-- A field that the instances have is the first of its name in a class above. -/
theorem hasField_iff : linked.hasField name field = true ↔
    ∃ definition ∈ linked.ancestors name, definition.field? field.name = some field := by
  rw [hasField, Bool.and_eq_true, isSubclass, List.any_eq_true]
  constructor
  · rintro ⟨⟨definition, above, named⟩, declared⟩
    rw [← of_decide_eq_true named, class?_of_mem_ancestors above, Option.bind_some,
      beq_iff_eq] at declared
    exact ⟨definition, above, declared⟩
  · rintro ⟨definition, above, found⟩
    have owner : field.definingClass = definition.name :=
      (mem_fieldSignatures.mp (of_field? found).1).1
    refine ⟨⟨definition, above, decide_eq_true owner.symm⟩, ?_⟩
    rw [owner, class?_of_mem_ancestors above, Option.bind_some, found, beq_iff_eq]

/-- A field that the instances of a class have is one of all their fields. -/
theorem mem_fieldsOf_of_hasField (has : linked.hasField name field = true) :
    field ∈ linked.fieldsOf name := by
  obtain ⟨definition, above, found⟩ := hasField_iff.mp has
  exact mem_fieldsOf_iff.mpr ⟨definition, above, (of_field? found).1⟩

/-- **The instances of a class have just the fields that are listed for it where no class above
declares a name with two types, and nowhere else.** -/
theorem hasField_agrees_iff :
    (∀ field, linked.hasField name field = true ↔ field ∈ linked.fieldsOf name) ↔
      ∀ definition ∈ linked.ancestors name, definition.OneType := by
  constructor
  · intro agrees definition above
    refine oneType_iff.mpr fun field declared => ?_
    have has := (agrees field).mpr (mem_fieldsOf_iff.mpr ⟨definition, above, declared⟩)
    obtain ⟨other, otherAbove, found⟩ := hasField_iff.mp has
    -- both classes have the name that the field gives
    have same : other.name = definition.name :=
      (mem_fieldSignatures.mp (of_field? found).1).1.symm.trans (mem_fieldSignatures.mp declared).1
    have known := class?_of_mem_ancestors otherAbove
    rw [same, class?_of_mem_ancestors above, Option.some.injEq] at known
    rwa [known]
  · intro oneType field
    refine ⟨mem_fieldsOf_of_hasField, fun listed => ?_⟩
    obtain ⟨definition, above, declared⟩ := mem_fieldsOf_iff.mp listed
    exact hasField_iff.mpr
      ⟨definition, above, oneType_iff.mp (oneType definition above) field declared⟩

/-- A class that declares a name with two types. -/
def twin : CodeUnit :=
  ⟨[⟨"Twin", none, [⟨"x", .int⟩, ⟨"x", .boolean⟩], [], []⟩]⟩

/-- A store where it is installed. -/
def twinView : LedgerView where
  response jar := .ok (if jar = ⟨0⟩ then some (.initialJar twin.toBytes []) else none)
  history _ := .ok []
  manifest := .ok none
  now := 0

theorem ofBytes_twin : CodeUnit.ofBytes twin.toBytes = .ok twin := by
  refine Codec.decodeRecord_encodeRecord Codec.codeUnit_roundTrips "code unit" ?_
  rw [Codec.encodeRecord, show Codec.codeUnit.oversize? twin = none by decide +kernel]
  rfl

/-- **Linking lets such a class pass:** both fields are listed for it, but the instances have only the
first one. -/
theorem not_hasField_agrees :
    ∃ linked, link twinView [⟨⟨0⟩, false⟩] ⟨1, .ofNat maxWord⟩ = .ok linked ∧
      linked.fieldsOf "Twin" = [⟨"Twin", "x", .int⟩, ⟨"Twin", "x", .boolean⟩] ∧
        linked.hasField "Twin" ⟨"Twin", "x", .int⟩ = true ∧
          linked.hasField "Twin" ⟨"Twin", "x", .boolean⟩ = false := by
  have within : checkLimits {} (some (saturate twin.toBytes.length)) ⟨1, .ofNat maxWord⟩ =
      .ok () := by
    unfold checkLimits
    rw [if_neg (by decide), if_neg]
    exact UInt64.not_lt.mpr ((UInt64.le_ofNat_iff (by decide)).mpr
      (Nat.le_of_lt_succ (UInt64.toNat_lt _)))
  have added : addUnit {} twin (some ⟨0⟩) =
      .ok { classes := twin.classes.map fun definition => ⟨definition, some ⟨0⟩⟩ } := by
    decide +kernel
  exact ⟨_, link_alone ⟨_, rfl, rfl⟩ within ofBytes_twin added, by decide +kernel⟩

end LinkedClasspath

end ObjectLedger
