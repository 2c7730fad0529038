/-
**What a linked classpath says about its classes.**

* `LinkedClasspath.Complete`: no name is taken twice, and every class of a loaded unit is there, under
  the jar of the unit. **`LinkedClasspath.complete_of_link`**: so it is after linking.
* **`LinkedClasspath.Complete.jarOf?_eq`**: a loaded unit that defines a class is the one that its
  name leads to.
-/
import ObjectLedger.Proofs.Code.Loading
import ObjectLedger.Proofs.Code.Writing

namespace ObjectLedger

/-- The unit installed at a reference defines a class of the name. -/
def LedgerView.Defines (view : LedgerView) (jar : TransactionRef) (name : String) : Prop :=
  ∃ unit definition, view.Installs jar unit ∧ definition ∈ unit.classes ∧ definition.name = name

namespace LinkedClasspath

variable {view : LedgerView} {limits : ClasspathLimits} {linked after : LinkedClasspath}
  {name : String} {definition : ClassDefinition} {jar : TransactionRef}

/-! ### Look-ups -/

theorem name_of_class? (found : linked.class? name = some definition) : definition.name = name := by
  obtain ⟨member, looked, rfl⟩ := Option.map_eq_some_iff.mp found
  simpa using List.find?_some looked

theorem contains_of_jarOf? (found : linked.jarOf? name = some jar) :
    linked.contains name = true := by
  obtain ⟨member, looked, -⟩ := Option.bind_eq_some_iff.mp found
  rw [contains, class?, looked]
  rfl

/-! ### All classes of the loaded units -/

/-- No name is taken twice, and every class of a loaded unit is there, under the jar of the unit. -/
structure Complete (view : LedgerView) (linked : LinkedClasspath) : Prop where
  apart : (linked.classes.map fun member => member.definition.name).Nodup
  all : ∀ jar ∈ linked.transactions, ∀ unit, view.Installs jar unit →
    ∀ definition ∈ unit.classes, ⟨definition, some jar⟩ ∈ linked.classes

/-- A member is found by its name, which is not taken twice. -/
theorem linkedClass?_of_mem {classes : List LinkedClass} {member : LinkedClass}
    (apart : (classes.map fun member => member.definition.name).Nodup) (inside : member ∈ classes) :
    linkedClass? classes member.definition.name = some member := by
  induction classes with
  | nil => cases inside
  | cons first rest ih =>
    rw [List.map_cons, List.nodup_cons] at apart
    rw [linkedClass?, List.find?_cons]
    rcases List.mem_cons.mp inside with rfl | later
    · simp
    · have different : first.definition.name ≠ member.definition.name := by
        intro same
        exact apart.1 (same ▸ List.mem_map_of_mem later)
      rw [decide_eq_false different]
      exact ih apart.2 later

/-- **A loaded unit that defines a class is the one that the name of the class leads to.** -/
theorem Complete.jarOf?_eq (complete : linked.Complete view) (loaded : jar ∈ linked.transactions)
    (defines : view.Defines jar name) : linked.jarOf? name = some jar := by
  obtain ⟨unit, definition, installs, defined, rfl⟩ := defines
  have member := complete.all jar loaded unit installs definition defined
  rw [jarOf?, linkedClass?_of_mem complete.apart member]
  rfl

/-- The classes of a unit are added after those that are there, and no name is taken twice. -/
theorem addClasses_spec {source : Option TransactionRef} {classes extended : List LinkedClass}
    {definitions : List ClassDefinition}
    (apart : (classes.map fun member => member.definition.name).Nodup)
    (added : addClasses source classes definitions = .ok extended) :
    extended = classes ++ definitions.map (fun definition => ⟨definition, source⟩) ∧
      (extended.map fun member => member.definition.name).Nodup := by
  induction definitions generalizing classes with
  | nil =>
    cases added
    exact ⟨(List.append_nil _).symm, apart⟩
  | cons definition rest ih =>
    rw [addClasses] at added
    split at added
    · cases added
    · rename_i free
      have untaken : definition.name ∉ classes.map fun member => member.definition.name := by
        intro taken
        obtain ⟨member, inside, same⟩ := List.mem_map.mp taken
        exact free (List.find?_isSome.mpr ⟨member, inside, by simpa using same⟩)
      have grown : ((classes ++ [(⟨definition, source⟩ : LinkedClass)]).map fun member =>
          member.definition.name).Nodup := by
        rw [List.map_append, List.nodup_append]
        refine ⟨apart, List.nodup_singleton _, fun name there other here same => untaken ?_⟩
        rw [List.map_singleton, List.mem_singleton] at here
        exact here ▸ same ▸ there
      obtain ⟨shape, all⟩ := ih grown added
      exact ⟨by rw [shape, List.append_assoc]; rfl, all⟩

theorem Complete.addInstalled {bytes : List UInt8} (complete : linked.Complete view)
    (decodes : ∀ unit, view.Installs jar unit → CodeUnit.ofBytes bytes = .ok unit)
    (added : linked.addInstalled limits jar bytes = .ok after) : after.Complete view := by
  obtain ⟨-, unit, decoded, classes, -, -, transactions⟩ := addInstalled_eq_ok added
  obtain ⟨shape, apart⟩ := addClasses_spec complete.apart classes
  refine ⟨apart, fun other loaded given installs definition defined => ?_⟩
  rw [shape]
  rw [transactions] at loaded
  rcases List.mem_append.mp loaded with older | new
  · exact List.mem_append_left _ (complete.all other older given installs definition defined)
  · obtain rfl := List.mem_singleton.mp new
    cases decoded.symm.trans (decodes given installs)
    exact List.mem_append_right _ (List.mem_map_of_mem defined)

/-- **After linking every class of a loaded unit is there.** -/
theorem complete_of_link {classpaths : List Classpath}
    (links : link view classpaths limits = .ok linked) : linked.Complete view := by
  obtain ⟨loaded, last, walks, rfl⟩ := walks_of_link links
  have begins : Complete view {} := ⟨List.nodup_nil, fun _ loaded => by cases loaded⟩
  refine walks.keeps (fun linked after jar bytes dependencies complete code added =>
    complete.addInstalled (fun unit installs => ?_) added) begins
  obtain ⟨other, others, more, known, installed, decoded⟩ := installs
  obtain ⟨rfl, -⟩ := code.unique ⟨other, known, installed⟩
  exact decoded

end LinkedClasspath

end ObjectLedger
