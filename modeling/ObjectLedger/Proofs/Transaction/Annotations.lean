/-
**The annotations that are looked at, and the code that runs.**

* `Action.Enters`: an instance call starts to run a method of the class of its receiver.
  `Action.exists_enters`: whatever code it starts is that of such a method.
* **`Action.Enters.declared_iff`**: the annotations that are looked at are of the declaration that runs
  where no class between that of the signature and that of the receiver declares the method, and
  nowhere else.
* `LinkedClasspath.HandsDown`: a mark is kept in between, because there is no override, or because all
  overrides keep it. **`Paid.marked_of_invoke`**: there a view runs views only, and a checked throwable
  becomes an exception only if the code that runs may throw it.
* **`Vaults.not_marked`**: elsewhere a view runs a method that is none.
-/
import ObjectLedger.Proofs.Code.Overriding
import ObjectLedger.Proofs.Transaction.Installing
import ObjectLedger.Proofs.Transaction.Viewing

namespace ObjectLedger

open Run Heap

variable {context : Context} {heap after : Heap} {frame : Frame} {account receiver : ObjectRef}
  {actuals : List Value} {method : MethodSignature} {activation : Run Frame} {className : String}
  {body : MethodDefinition}

/-! ### The code of an activation -/

namespace Machine

theorem code_of_enter {depth : Nat} {code : List Instruction} {locals : List Value}
    {extraLocals : UInt16} {this caller : Option ObjectRef} {yields : Yield} {bounded : Bool}
    (ran : enter context depth code locals extraLocals this caller yields bounded heap =
      .ok frame after) : frame.code = code := by
  unfold enter at ran
  split at ran
  · obtain ⟨_, _, failed, -⟩ := ok_of_bind ran
    cases failed
  · obtain ⟨_, _, -, ran⟩ := ok_of_bind ran
    obtain ⟨_, _, -, ran⟩ := ok_of_bind ran
    cases ran
    rfl

theorem code_of_callMethod {depth : Nat} {this caller : Option ObjectRef} {bounded : Bool}
    (ran : callMethod context depth body this actuals caller bounded heap = .ok frame after) :
    frame.code = body.code := by
  unfold callMethod at ran
  obtain ⟨_, _, -, ran⟩ := ok_of_bind ran
  obtain ⟨_, _, -, ran⟩ := ok_of_bind ran
  simp only [] at ran
  split at ran
  · obtain ⟨_, _, -, ran⟩ := ok_of_bind ran
    exact code_of_enter ran
  · exact code_of_enter ran

end Machine

/-! ### The declaration that runs -/

/-- A mark is kept from the class of a signature down to a class: no class in between declares the
method, or the class of the signature has it and every override keeps the mark. -/
def LinkedClasspath.HandsDown (classes : LinkedClasspath) (method : MethodSignature)
    (className : String) (mark : Annotations → Bool) : Prop :=
  ¬ classes.Overridden className method.definingClass method ∨
    (Paid.declaredAnnotations classes method).isSome ∧ classes.KeepsMark mark

namespace Action

/-- An instance call starts to run the code of a method: the one that the class of its receiver leads
to, which is the class of the signature or one below it. -/
structure Enters (context : Context) (heap : Heap) (method : MethodSignature) (receiver : ObjectRef)
    (frame : Frame) (className : String) (body : MethodDefinition) : Prop where
  ofClass : ∃ after, classOf context receiver heap = .ok className after
  below : context.classes.isSubclass className method.definingClass = true
  resolved : ∃ owner, context.classes.resolveMethod? className method = some (owner, body)
  code_eq : frame.code = body.code

/-- **Whatever code an instance call starts is that of a method of the class of its receiver.** -/
theorem exists_enters
    (calls : (invoke method receiver actuals).activation? context account = some activation)
    (opened : activation heap = .ok frame after) :
    ∃ className body, Enters context heap method receiver frame className body := by
  cases calls
  obtain ⟨answer, middle, asked, opened⟩ := ok_of_bind opened
  obtain ⟨className, _, named, answered⟩ := ok_of_bind asked
  cases answered
  split at opened
  · obtain ⟨_, _, failed, -⟩ := ok_of_bind opened
    cases failed
  rename_i below
  obtain ⟨again, _, namedAgain, resolving⟩ := ok_of_bind opened
  obtain ⟨body, _, found, called⟩ := ok_of_bind resolving
  -- the class of the receiver is looked up once more, and is the same
  obtain ⟨-, loaded, there, rfl⟩ := (reads_classOf context receiver).ends named
  have same : classOf context receiver middle = .ok loaded.className middle :=
    bind_of_ok (load_of_present context there)
  cases same.symm.trans namedAgain
  have leads : Leads context anything (ofThrowing (Machine.findInstanceMethod context loaded.className
      method)) middle _ := leads_ofThrowing
  obtain ⟨-, known, -⟩ := leads.ends found
  obtain ⟨owner, resolved, -⟩ := Machine.resolved_of_findInstanceMethod known
  exact ⟨_, body, ⟨middle, named⟩, by simpa using below, ⟨owner, resolved⟩,
    Machine.code_of_callMethod called⟩

namespace Enters

/-- **The annotations that are looked at are of the declaration that runs where no class in between
declares the method, and nowhere else.** -/
theorem declared_iff (enters : Enters context heap method receiver frame className body)
    (rooted : context.classes.Rooted) :
    context.classes.resolveMethod? method.definingClass method =
        context.classes.resolveMethod? className method ↔
      ¬ context.classes.Overridden className method.definingClass method :=
  eq_comm.trans (rooted.resolveMethod?_eq_iff enters.below)

theorem annotationsOf?_eq (enters : Enters context heap method receiver frame className body) :
    context.classes.annotationsOf? className method = some body.annotations := by
  obtain ⟨owner, resolved⟩ := enters.resolved
  rw [LinkedClasspath.annotationsOf?, resolved]
  rfl

/-- A mark that is kept is looked at as it is on the code that runs. -/
theorem mark_eq (enters : Enters context heap method receiver frame className body)
    (rooted : context.classes.Rooted) {mark : Annotations → Bool}
    (kept : context.classes.HandsDown method className mark) :
    (Paid.declaredAnnotations context.classes method).any mark = mark body.annotations := by
  have shown : Paid.declaredAnnotations context.classes method =
      context.classes.annotationsOf? method.definingClass method := rfl
  have own := enters.annotationsOf?_eq
  rcases kept with plain | ⟨declared, keeps⟩
  · rw [shown, LinkedClasspath.annotationsOf?, (enters.declared_iff rooted).mpr plain]
    rw [LinkedClasspath.annotationsOf?] at own
    rw [own]
    rfl
  · obtain ⟨above, found⟩ := Option.isSome_iff_exists.mp declared
    rw [found]
    exact (rooted.keepsMark_iff.mpr keeps className method.definingClass method body.annotations
      above enters.below own (shown ▸ found)).symm

end Enters

end Action

/-! ### Calls -/

namespace Paid

variable {config : NodeConfig} {view : LedgerView} {cache last : ClasspathCache}
  {reference : TransactionRef} {header : Header} {isView : Bool} {outcome : Outcome}

/-- **An instance call is settled by the annotations of the method that its signature leads to, and runs
the one that the class of its receiver leads to.** A view whose method is not annotated fails before
its code runs. Otherwise, where the marks are kept in between, the code that a view starts is annotated
as a view, and a fault of the code is settled by its own annotations. -/
theorem marked_of_invoke
    (current : ClasspathCache.Current view (Build.limits config) cache)
    (built : invoke config view reference header method receiver actuals isView cache =
      .ok outcome last) :
    ∃ classes paid, Build.link config view [header.classpath] cache = .ok classes last ∧
      start config view reference header (.invoke method receiver actuals) classes 0 isView =
        .ok paid ∧
      ((∃ cause, outcome = paid.fail cause) ∧ isView = true ∧
          (declaredAnnotations classes method).any Annotations.view = false ∨
        ∀ activation frame begun,
          paid.action.activation? paid.context paid.caller = some activation →
          activation paid.heap = .ok frame begun →
          ∃ className body,
            Action.Enters paid.context paid.heap method receiver frame className body ∧
            (classes.HandsDown method className Annotations.view →
              isView = true → body.annotations.view = true) ∧
            (classes.HandsDown method className Annotations.throwsExceptions →
              ∀ fault heap, Machine.invoke paid.context paid.caller method receiver actuals
                  paid.heap = .error fault heap →
                { paid with heap }.settleFault fault body.annotations.throwsExceptions
                  (referencesIn actuals ++ [receiver])
                  (fun cause effects => .methodCall (.exception cause effects)) = .ok outcome)) := by
  obtain ⟨classes, paid, link, started, ending⟩ := steps_of_callMethod built
  refine ⟨classes, paid, link, started, ?_⟩
  have rooted := LinkedClasspath.rooted_of_link (Build.link_eq_of_current current link)
  have ready := ready_of_start started
  have same : paid.context.classes = classes := by rw [ready.context_eq]
  rcases ending with ⟨viewing, unmarked, failed⟩ | ⟨marked, ends⟩
  · exact Or.inl ⟨⟨_, failed⟩, viewing, unmarked⟩
  refine Or.inr fun activation frame begun calls opened => ?_
  rw [ready.action_eq] at calls
  obtain ⟨className, body, enters⟩ := Action.exists_enters calls opened
  subst same
  refine ⟨className, body, enters, fun kept viewing => ?_, fun kept fault heap ran => ?_⟩
  · rw [← enters.mark_eq rooted kept]
    exact marked viewing
  · rw [← enters.mark_eq rooted kept]
    rcases ends with ⟨result, other, ranToo, -⟩ | ⟨other, heapToo, ranToo, settles⟩
    · cases ran.symm.trans ranToo
    · cases ran.symm.trans ranToo
      exact settles

end Paid

/-! ### Views of overridden methods -/

namespace Vaults

/-- A method that gives a number. -/
def stating (number : Int64) (annotations : Annotations) : MethodDefinition :=
  ⟨"state", [], some .int, false, annotations, 0, [.push (.int number), .ret]⟩

/-- The state of a door is a view; vaults override it by a method that is none. -/
def unit : CodeUnit :=
  ⟨[⟨"Door", none, [], [], [stating 1 .changesNothing]⟩,
    ⟨"Vault", some "Door", [], [], [stating 2 .none]⟩]⟩

def vault : ObjectRef := ⟨⟨1⟩, 0⟩

def house : Context where
  view := {
    response reference := .ok
      (if reference = ⟨1⟩ then some (.gameteCreation [.classTag vault "Vault" ⟨0⟩] vault) else none)
    history object := .ok (if object = vault then [⟨1⟩] else [])
    manifest := .ok none
    now := 0 }
  classes := { classes := unit.classes.map fun definition => ⟨definition, some ⟨0⟩⟩ }
  costs := {}
  transaction := ⟨2⟩
  maxCallDepth := 16

/-- The state of a door. -/
def asked : MethodSignature := ⟨"Door", "state", [], some .int⟩

def begun : Heap := { charger := .withLimit 1000 }

/-- **A view runs a method that is none:** the state of a door is asked of a vault. -/
theorem not_marked :
    (Paid.declaredAnnotations house.classes asked).any Annotations.view = true ∧
      house.classes.Overridden "Vault" asked.definingClass asked ∧
      ∃ activation frame entered,
        (Action.invoke asked vault []).activation? house vault = some activation ∧
        activation begun = .ok frame entered ∧
        Action.Enters house begun asked vault frame "Vault" (stating 2 .none) ∧
        ∃ after, Machine.invoke house vault asked vault [] begun = .ok (some (.int 2)) after := by
  refine ⟨by decide +kernel, by decide +kernel, ?_⟩
  obtain ⟨activation, calls⟩ : ∃ activation,
      (Action.invoke asked vault []).activation? house vault = some activation := ⟨_, rfl⟩
  have opens : ((Action.invoke asked vault []).activation? house vault).any
      (fun activation => (resultOf? activation begun).isSome) = true := by decide +kernel
  rw [calls, Option.any_some] at opens
  obtain ⟨frame, opened⟩ := Option.isSome_iff_exists.mp opens
  obtain ⟨entered, opened⟩ := ok_of_resultOf? opened
  obtain ⟨className, body, enters⟩ := Action.exists_enters calls opened
  -- the class of the vault is looked up as it is in the store
  have named : resultOf? (classOf house vault) begun = some "Vault" := by decide +kernel
  obtain ⟨_, named⟩ := ok_of_resultOf? named
  obtain ⟨_, namedToo⟩ := enters.ofClass
  cases named.symm.trans namedToo
  have resolved : (house.classes.resolveMethod? "Vault" asked).map Prod.snd =
      some (stating 2 .none) := by decide +kernel
  obtain ⟨owner, found⟩ := enters.resolved
  rw [found, Option.map_some, Option.some.injEq] at resolved
  subst resolved
  have ended : resultOf? (Machine.invoke house vault asked vault []) begun = some (some (.int 2)) := by
    decide +kernel
  exact ⟨activation, frame, entered, calls, opened, enters, ok_of_resultOf? ended⟩

end Vaults

end ObjectLedger
