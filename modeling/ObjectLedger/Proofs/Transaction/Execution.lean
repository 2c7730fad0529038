/-
**The four kinds of paid transactions, as one.**

* `Action.perform`: what the code of an action does. `Paid.left`: the heap that it leaves.
* `Paid.moves_left`: what the code of an action can do to the heap. `Run.Executes.perform`: what holds
  of it because it holds of the pieces of the machine.
* `Action.Succeeds`, `Action.Throws`: the response of an action, from what its code gave back or
  threw. `Response.Carries`: it carries the effects.
* `Paid.steps_of_callMethod`: what the call of a method goes through, also as a view.
* **`Paid.finished_of_ofRequest`**: a paid request that comes to an end fails, or its response tells
  what its code gave back or threw. `Paid.finished_of_built`: so does a view, whose code may not run.
* **`Paid.ended_of_ofRequest`**: so it bought its gas, and fails or completes over the heap that its
  code left.
-/
import ObjectLedger.Proofs.Machine.Executing
import ObjectLedger.Proofs.Machine.Running
import ObjectLedger.Proofs.Transaction.Settlement
import ObjectLedger.Transaction.Build

namespace ObjectLedger

namespace Action

/-- The classpaths that an action needs. -/
def classpaths (header : Header) : Action → List Classpath
  | installJar _ dependencies => header.classpath :: dependencies
  | construct _ _ | invoke _ _ _ | invokeStatic _ _ => [header.classpath]

/-- The gas that an action needs beyond what every transaction does. -/
def extra (costs : CostModel) : Action → UInt64
  | installJar jar _ =>
    saturatingAdd (costs.cpuOfInstalling (saturate jar.length))
      (costs.ramOfInstalling (saturate jar.length))
  | construct _ _ | invoke _ _ _ | invokeStatic _ _ => 0

/-- What the code of an action does, and what it gives back. -/
def perform (context : Context) (caller : ObjectRef) : Action → Run (Option Value)
  | installJar jar _ => do
    Run.charge .cpu (context.costs.cpuOfInstalling (saturate jar.length))
    Run.charge .ram (context.costs.ramOfInstalling (saturate jar.length))
    match context.classes.extended jar with
    | .error cause => Run.fail (.malformedCode cause.message)
    | .ok _ => return none
  | construct constructor actuals => do
    let object ← Machine.construct context caller constructor actuals
    return some (.reference object)
  | invoke method receiver actuals => Machine.invoke context caller method receiver actuals
  | invokeStatic method actuals => Machine.invokeStatic context caller method actuals

variable {context : Context} {writable : FieldSignature → Prop} {heap : Heap}

/-- **An action only moves the heap.** -/
theorem leads_perform (restricted : context.classes.WritesOnly writable) (caller : ObjectRef)
    (action : Action) :
    Run.Leads context writable (action.perform context caller) heap fun _ _ => True := by
  cases action with
  | installJar jar dependencies =>
    refine (Run.reads_charge ..).leads.bind fun _ _ _ => ?_
    refine (Run.reads_charge ..).leads.bind fun _ _ _ => ?_
    cases context.classes.extended jar with
    | error cause => exact Run.Leads.fail
    | ok classes => exact Run.Leads.pure trivial
  | construct constructor actuals =>
    exact (Machine.leads_construct restricted ..).bind fun _ _ _ => Run.Leads.pure trivial
  | invoke method receiver actuals => exact Machine.leads_invoke restricted ..
  | invokeStatic method actuals => exact Machine.leads_invokeStatic restricted ..

end Action

/-- What holds of the pieces of the machine holds of what an action does. -/
theorem Run.Executes.perform {holds : ∀ {α : Type}, Run α → Prop} (executes : Executes holds)
    (context : Context) (caller : ObjectRef) (action : Action) :
    holds (action.perform context caller) := by
  cases action with
  | installJar jar dependencies =>
    refine executes.pay fun _ =>
      executes.bind (executes.charge .ram _ (by decide)) fun _ => ?_
    cases context.classes.extended jar with
    | error cause => exact executes.fail _
    | ok classes => exact executes.pure none
  | construct constructor actuals =>
    exact executes.bind (executes.construct ..) fun _ => executes.pure _
  | invoke method receiver actuals => exact executes.invoke ..
  | invokeStatic method actuals => exact executes.invokeStatic ..

/-! ### Responses -/

/-- The response to an action, from what its code gave back. -/
inductive Action.Succeeds : Action → Option Value → (Effects → Response) → Prop
  | installed {jar : List UInt8} {dependencies : List Classpath} :
      Succeeds (.installJar jar dependencies) none fun effects =>
        .jar (.successful jar dependencies effects.updates effects.gas)
  | constructed {constructor : ConstructorSignature} {actuals : List Value} {object : ObjectRef} :
      Succeeds (.construct constructor actuals) (some (.reference object)) fun effects =>
        .constructorCall (.successful object effects)
  | invoked {method : MethodSignature} {receiver : ObjectRef} {actuals : List Value}
      {result : Option Value} :
      Succeeds (.invoke method receiver actuals) result fun effects =>
        .methodCall (.successful result effects)
  | invokedStatic {method : MethodSignature} {actuals : List Value} {result : Option Value} :
      Succeeds (.invokeStatic method actuals) result fun effects =>
        .methodCall (.successful result effects)

/-- The response to an action whose code threw an exception. -/
inductive Action.Throws (cause : Cause) : Action → (Effects → Response) → Prop
  | constructed {constructor : ConstructorSignature} {actuals : List Value} :
      Throws cause (.construct constructor actuals) fun effects =>
        .constructorCall (.exception cause effects)
  | invoked {method : MethodSignature} {receiver : ObjectRef} {actuals : List Value} :
      Throws cause (.invoke method receiver actuals) fun effects =>
        .methodCall (.exception cause effects)
  | invokedStatic {method : MethodSignature} {actuals : List Value} :
      Throws cause (.invokeStatic method actuals) fun effects =>
        .methodCall (.exception cause effects)

/-- The response of a transaction that completed carries its effects. -/
structure Response.Carries (response : Response) (effects : Effects) : Prop where
  updates_eq : response.updates = effects.updates
  gas?_eq : response.gas? = some effects.gas
  penalty?_eq : response.penalty? = none
  ending_ne : response.ending ≠ .failed

theorem Action.Succeeds.carries {action : Action} {result : Option Value}
    {respond : Effects → Response} (succeeds : action.Succeeds result respond) (effects : Effects) :
    (respond effects).Carries effects := by
  cases succeeds <;> exact ⟨rfl, rfl, rfl, fun same => by cases same⟩

theorem Action.Throws.carries {action : Action} {cause : Cause} {respond : Effects → Response}
    (throws : action.Throws cause respond) (effects : Effects) :
    (respond effects).Carries effects := by
  cases throws <;> exact ⟨rfl, rfl, rfl, fun same => by cases same⟩

namespace Build

variable {α : Type} {value : α} {cache after : ClasspathCache}

theorem eq_ok_of_ofExcept {look : Except Stop α} (ran : ofExcept look cache = .ok value after) :
    look = .ok value ∧ after = cache := by
  cases look <;> cases ran
  exact ⟨rfl, rfl⟩

theorem eq_ok_of_ofClasspath {look : Except ClasspathError α}
    (ran : ofClasspath look cache = .ok value after) : look = .ok value ∧ after = cache := by
  cases look <;> cases ran
  exact ⟨rfl, rfl⟩

end Build

namespace Paid

open Run Heap

/-- The heap that the code of a paid transaction leaves, whether it ends or faults. -/
def left (paid : Paid) : Heap :=
  stateAfter (paid.action.perform paid.context paid.caller) paid.heap

/-- The code of a paid transaction runs to its end or throws something checked. -/
def EndsOrThrows (paid : Paid) : Prop :=
  ∀ fault heap, paid.action.perform paid.context paid.caller paid.heap = .error fault heap →
    fault.isChecked = true

variable {config : NodeConfig} {view : LedgerView} {reference : TransactionRef} {header : Header}
  {action : Action} {cache after : ClasspathCache} {outcome : Outcome} {paid : Paid}
  {writable : FieldSignature → Prop}

theorem moves_left (paid : Paid) : Moves paid.context anything paid.heap paid.left := by
  have leads : Leads paid.context anything (paid.action.perform paid.context paid.caller) paid.heap
      fun _ _ => True :=
    paid.action.leads_perform (Machine.writesOnly_anything _) paid.caller
  unfold left
  cases ran : paid.action.perform paid.context paid.caller paid.heap with
  | ok value heap => exact stateAfter_ok ran ▸ (leads.ends ran).1
  | error fault heap => exact stateAfter_error ran ▸ (leads.faults ran).1

/-- Code that ends or throws something checked writes only what its classes write. -/
theorem moves_left_of_writesOnly (restricted : paid.context.classes.WritesOnly writable)
    (ends : paid.EndsOrThrows) : Moves paid.context writable paid.heap paid.left := by
  have leads : Leads paid.context writable (paid.action.perform paid.context paid.caller) paid.heap
      fun _ _ => True := paid.action.leads_perform restricted paid.caller
  unfold left
  cases ran : paid.action.perform paid.context paid.caller paid.heap with
  | ok value heap => exact stateAfter_ok ran ▸ (leads.ends ran).1
  | error fault heap => exact stateAfter_error ran ▸ (leads.faults ran).2 (ends fault heap ran)

/-! ### From requests to endings -/

/-- The paid transaction of a request when its code starts, if it does. -/
def started? (config : NodeConfig) (view : LedgerView) (cache : ClasspathCache)
    (reference : TransactionRef) (header : Header) (action : Action) : Option Paid :=
  match Build.link config view (action.classpaths header) cache with
  | .ok classes _ =>
    (start config view reference header action classes (action.extra config.gas) false).toOption
  | .error _ _ => none

/-- How a paid transaction ends, once its code has left a heap. -/
inductive Ended (paid : Paid) : Outcome → Prop
  | failed (cause : Cause) : Ended paid ({ paid with heap := paid.left }.fail cause)
  | completed {outcome : Outcome} {roots : List ObjectRef} {respond : Effects → Response}
      (ends : paid.EndsOrThrows) (carries : ∀ effects, (respond effects).Carries effects)
      (completes : { paid with heap := paid.left }.complete roots respond = .ok outcome) :
      Ended paid outcome

/-- How a paid transaction ends, from how its code does. An object that code gives back is a root. -/
inductive Finished (paid : Paid) : Outcome → Prop
  | failed (cause : Cause) : Finished paid ({ paid with heap := paid.left }.fail cause)
  | succeeded {outcome : Outcome} {result : Option Value} {heap : Heap} {roots : List ObjectRef}
      {respond : Effects → Response}
      (ran : paid.action.perform paid.context paid.caller paid.heap = .ok result heap)
      (succeeds : paid.action.Succeeds result respond)
      (rooted : ∀ object, result = some (.reference object) → object ∈ roots)
      (completes : { paid with heap }.complete roots respond = .ok outcome) : Finished paid outcome
  | threw {outcome : Outcome} {fault : Fault} {heap : Heap} {cause : Cause} {roots : List ObjectRef}
      {respond : Effects → Response}
      (ran : paid.action.perform paid.context paid.caller paid.heap = .error fault heap)
      (checked : fault.isChecked = true) (throws : paid.action.Throws cause respond)
      (completes : { paid with heap }.complete roots respond = .ok outcome) : Finished paid outcome

theorem Finished.ended (finished : paid.Finished outcome) : paid.Ended outcome := by
  cases finished with
  | failed cause => exact .failed cause
  | succeeded ran succeeds rooted completes =>
    refine .completed (fun fault last faulted => ?_) succeeds.carries
      (stateAfter_ok ran ▸ completes)
    rw [ran] at faulted
    cases faulted
  | threw ran checked throws completes =>
    refine .completed (fun fault last faulted => ?_) throws.carries
      (stateAfter_error ran ▸ completes)
    rw [ran] at faulted
    cases faulted
    exact checked

theorem finished_of_failure {heap : Heap} {fault : Fault} {cause : Cause}
    (ran : paid.action.perform paid.context paid.caller paid.heap = .error fault heap) :
    paid.Finished ({ paid with heap }.fail cause) := by
  have same : paid.left = heap := stateAfter_error ran
  exact same ▸ .failed cause

theorem finished_of_error {heap : Heap} {fault : Fault} {throwsExceptions : Bool}
    {roots : List ObjectRef} {exception : Cause → Effects → Response}
    (ran : paid.action.perform paid.context paid.caller paid.heap = .error fault heap)
    (throws : ∀ cause, paid.action.Throws cause (exception cause))
    (settles : { paid with heap }.settleFault fault throwsExceptions roots exception =
      .ok outcome) : paid.Finished outcome := by
  rcases settleFault_cases settles with ⟨cause, rfl⟩ | ⟨checked, cause, completes⟩
  · exact finished_of_failure ran
  · exact .threw ran checked (throws cause) completes

/-- Installing a jar takes its gas and then looks whether its classes can be added. -/
theorem perform_installJar (context : Context) (caller : ObjectRef) (jar : List UInt8)
    (dependencies : List Classpath) (heap : Heap) :
    (Action.installJar jar dependencies).perform context caller heap =
      match (do
          Run.charge .cpu (context.costs.cpuOfInstalling (saturate jar.length))
          Run.charge .ram (context.costs.ramOfInstalling (saturate jar.length)) : Run Unit) heap with
      | .error fault heap => .error fault heap
      | .ok _ heap =>
        match context.classes.extended jar with
        | .error cause => .error (.thrown (.malformedCode cause.message)) heap
        | .ok _ => .ok none heap := by
  show EStateM.bind (Run.charge .cpu _) (fun _ => EStateM.bind (Run.charge .ram _) _) heap =
    match EStateM.bind (Run.charge .cpu _) (fun _ => Run.charge .ram _) heap with
    | .error fault heap => _
    | .ok _ heap => _
  unfold EStateM.bind
  cases Run.charge .cpu (context.costs.cpuOfInstalling (saturate jar.length)) heap with
  | error fault heap => rfl
  | ok _ middle =>
    cases charged : Run.charge .ram (context.costs.ramOfInstalling (saturate jar.length)) middle with
    | error fault heap => simp only [charged]
    | ok _ last =>
      simp only [charged]
      cases context.classes.extended jar <;> rfl

theorem finished_of_installJar {jar : List UInt8} {dependencies : List Classpath}
    (built : installJar config view reference header jar dependencies cache = .ok outcome after) :
    ∃ classes paid, Build.link config view (header.classpath :: dependencies) cache =
        .ok classes after ∧
      start config view reference header (.installJar jar dependencies) classes
        ((Action.installJar jar dependencies).extra config.gas) false = .ok paid ∧
      paid.Finished outcome := by
  obtain ⟨classes, _, link, limiting⟩ := ok_of_bind built
  obtain ⟨_, _, limits, starting⟩ := ok_of_bind limiting
  obtain ⟨-, rfl⟩ := Build.eq_ok_of_ofClasspath limits
  obtain ⟨paid, _, starts, ending⟩ := ok_of_bind starting
  obtain ⟨started, rfl⟩ := Build.eq_ok_of_ofExcept starts
  obtain ⟨balance, bought⟩ := bought_of_start started
  have performs := perform_installJar paid.context paid.caller jar dependencies paid.heap
  have sameCosts : paid.context.costs = config.gas := by rw [bought.context_eq]
  have sameClasses : paid.context.classes = classes := by rw [bought.context_eq]
  rw [← bought.action_eq, sameCosts, sameClasses] at performs
  cases charged : (do
      Run.charge .cpu (config.gas.cpuOfInstalling (saturate jar.length))
      Run.charge .ram (config.gas.ramOfInstalling (saturate jar.length)) : Run Unit) paid.heap with
  | error fault heap =>
    rw [charged] at performs ending
    cases fault with
    | thrown throwable =>
      cases ending
      exact ⟨classes, paid, link, started, finished_of_failure performs⟩
    | internal cause => cases ending
    | unfinished => cases ending
  | ok _ heap =>
    rw [charged] at performs ending
    simp only [] at performs ending
    cases extended : classes.extended jar with
    | error cause =>
      rw [extended] at performs ending
      cases ending
      exact ⟨classes, paid, link, started, finished_of_failure performs⟩
    | ok others =>
      rw [extended] at performs ending
      obtain ⟨completes, rfl⟩ := Build.eq_ok_of_ofExcept ending
      have succeeds : (Action.installJar jar dependencies).Succeeds none _ := .installed
      rw [← bought.action_eq] at succeeds
      exact ⟨classes, paid, link, started,
        .succeeded performs succeeds (fun object same => by cases same) completes⟩

theorem finished_of_construct {constructor : ConstructorSignature} {actuals : List Value}
    (built : construct config view reference header constructor actuals cache =
      .ok outcome after) :
    ∃ classes paid, Build.link config view [header.classpath] cache = .ok classes after ∧
      start config view reference header (.construct constructor actuals) classes 0 false =
        .ok paid ∧ paid.Finished outcome := by
  obtain ⟨classes, _, link, starting⟩ := ok_of_bind built
  obtain ⟨paid, _, starts, ending⟩ := ok_of_bind starting
  obtain ⟨started, rfl⟩ := Build.eq_ok_of_ofExcept starts
  obtain ⟨balance, bought⟩ := bought_of_start started
  cases ran : Machine.construct paid.context paid.caller constructor actuals paid.heap with
  | ok object heap =>
    have performs : paid.action.perform paid.context paid.caller paid.heap =
        .ok (some (.reference object)) heap := by
      rw [bought.action_eq]
      exact bind_of_ok ran
    rw [ran] at ending
    obtain ⟨completes, rfl⟩ := Build.eq_ok_of_ofExcept ending
    have succeeds : (Action.construct constructor actuals).Succeeds (some (.reference object)) _ :=
      .constructed
    rw [← bought.action_eq] at succeeds
    refine ⟨classes, paid, link, started,
      .succeeded performs succeeds (fun other same => ?_) completes⟩
    cases same
    exact List.mem_append_right _ List.mem_cons_self
  | error fault heap =>
    have performs : paid.action.perform paid.context paid.caller paid.heap = .error fault heap := by
      rw [bought.action_eq]
      exact bind_of_error ran
    rw [ran] at ending
    obtain ⟨settles, rfl⟩ := Build.eq_ok_of_ofExcept ending
    have throws : ∀ cause, (Action.construct constructor actuals).Throws cause _ :=
      fun _ => .constructed
    rw [← bought.action_eq] at throws
    exact ⟨classes, paid, link, started, finished_of_error performs throws settles⟩

/-- A view of a method without the annotation fails before its code runs. Otherwise the code runs, and
its end is settled by the annotations of the method. -/
theorem steps_of_callMethod {method : MethodSignature} {roots : List ObjectRef} {isView : Bool}
    {run : Context → ObjectRef → Run (Option Value)}
    (built : callMethod config view reference header action method roots isView run cache =
      .ok outcome after) :
    ∃ classes paid, Build.link config view [header.classpath] cache = .ok classes after ∧
      start config view reference header action classes 0 isView = .ok paid ∧
      (isView = true ∧ (declaredAnnotations classes method).any Annotations.view = false ∧
          outcome = paid.fail (Throwable.noSuchMethod ("no view method " ++ method.toText)).cause ∨
        (isView = true → (declaredAnnotations classes method).any Annotations.view = true) ∧
          ((∃ result heap, run paid.context paid.caller paid.heap = .ok result heap ∧
              { paid with heap }.complete (roots ++ (result.bind Value.reference?).toList)
                (fun effects => .methodCall (.successful result effects)) = .ok outcome) ∨
            ∃ fault heap, run paid.context paid.caller paid.heap = .error fault heap ∧
              { paid with heap }.settleFault fault
                ((declaredAnnotations classes method).any Annotations.throwsExceptions) roots
                (fun cause effects => .methodCall (.exception cause effects)) = .ok outcome)) := by
  obtain ⟨classes, _, link, starting⟩ := ok_of_bind built
  obtain ⟨paid, _, starts, ending⟩ := ok_of_bind starting
  obtain ⟨started, rfl⟩ := Build.eq_ok_of_ofExcept starts
  simp only [] at ending
  split at ending
  · rename_i barred
    obtain ⟨viewing, unmarked⟩ := (Bool.and_eq_true _ _).mp barred
    cases ending
    exact ⟨classes, paid, link, started, Or.inl ⟨viewing, by simpa using unmarked, rfl⟩⟩
  rename_i allowed
  have marked : isView = true →
      (declaredAnnotations classes method).any Annotations.view = true := by
    rintro rfl
    simpa using allowed
  cases ran : run paid.context paid.caller paid.heap with
  | ok result heap =>
    rw [ran] at ending
    obtain ⟨completes, rfl⟩ := Build.eq_ok_of_ofExcept ending
    exact ⟨classes, paid, link, started, Or.inr ⟨marked, Or.inl ⟨result, heap, ran, completes⟩⟩⟩
  | error fault heap =>
    rw [ran] at ending
    obtain ⟨settles, rfl⟩ := Build.eq_ok_of_ofExcept ending
    exact ⟨classes, paid, link, started, Or.inr ⟨marked, Or.inr ⟨fault, heap, ran, settles⟩⟩⟩

/-- A method that comes to an end, as a transaction or as a view. A method that is no view does not run
as one. -/
theorem finished_of_callMethod {method : MethodSignature} {roots : List ObjectRef} {isView : Bool}
    {run : Context → ObjectRef → Run (Option Value)}
    (performs : ∀ context caller, action.perform context caller = run context caller)
    (succeeds : ∀ result, action.Succeeds result fun effects =>
      .methodCall (.successful result effects))
    (throws : ∀ cause, action.Throws cause fun effects => .methodCall (.exception cause effects))
    (built : callMethod config view reference header action method roots isView run cache =
      .ok outcome after) :
    ∃ classes paid, Build.link config view [header.classpath] cache = .ok classes after ∧
      start config view reference header action classes 0 isView = .ok paid ∧
      (paid.Finished outcome ∨ isView = true ∧ ∃ cause, outcome = paid.fail cause) := by
  obtain ⟨classes, paid, link, started, ending⟩ := steps_of_callMethod built
  have performs := performs paid.context paid.caller
  rw [← (begun_of_start started).action_eq] at performs succeeds throws
  refine ⟨classes, paid, link, started, ?_⟩
  rcases ending with ⟨viewing, -, rfl⟩ |
    ⟨-, ⟨result, heap, ran, completes⟩ | ⟨fault, heap, ran, settles⟩⟩
  · exact Or.inr ⟨viewing, _, rfl⟩
  · refine Or.inl (.succeeded (by rw [performs, ran]) (succeeds result) (fun object same => ?_)
      completes)
    subst same
    exact List.mem_append_right _ List.mem_cons_self
  · exact Or.inl (finished_of_error (by rw [performs, ran]) throws settles)

/-- **A paid request that comes to an end fails, or its response tells what its code gave back or
threw.** -/
theorem finished_of_ofRequest
    (built : Outcome.ofRequest config view reference (.paid header action) cache =
      .ok outcome after) :
    ∃ classes paid, Build.link config view (action.classpaths header) cache = .ok classes after ∧
      start config view reference header action classes (action.extra config.gas) false =
        .ok paid ∧ paid.Finished outcome := by
  cases action with
  | installJar jar dependencies => exact finished_of_installJar built
  | construct constructor actuals => exact finished_of_construct built
  | invoke method receiver actuals =>
    obtain ⟨classes, paid, link, started, finished | ⟨impossible, -⟩⟩ :=
      finished_of_callMethod (fun _ _ => rfl) (fun _ => .invoked) (fun _ => .invoked) built
    · exact ⟨classes, paid, link, started, finished⟩
    · cases impossible
  | invokeStatic method actuals =>
    obtain ⟨classes, paid, link, started, finished | ⟨impossible, -⟩⟩ :=
      finished_of_callMethod (fun _ _ => rfl) (fun _ => .invokedStatic) (fun _ => .invokedStatic)
        built
    · exact ⟨classes, paid, link, started, finished⟩
    · cases impossible

/-- **A request that comes to an end, as a transaction or as a view, fails before its code runs, or
fails after it, or its response tells what its code gave back or threw.** -/
theorem finished_of_built
    (built : Outcome.ofRequest config view reference (.paid header action) cache =
        .ok outcome after ∨
      Outcome.ofView config view reference (.paid header action) cache = .ok outcome after) :
    ∃ classes paid isView, Build.link config view (action.classpaths header) cache =
        .ok classes after ∧
      start config view reference header action classes (action.extra config.gas) isView =
        .ok paid ∧ (paid.Finished outcome ∨ ∃ cause, outcome = paid.fail cause) := by
  rcases built with built | built
  · obtain ⟨classes, paid, link, started, finished⟩ := finished_of_ofRequest built
    exact ⟨classes, paid, false, link, started, Or.inl finished⟩
  · cases action with
    | installJar | construct => cases built
    | invoke method receiver actuals =>
      obtain ⟨classes, paid, link, started, ended⟩ :=
        finished_of_callMethod (fun _ _ => rfl) (fun _ => .invoked) (fun _ => .invoked) built
      exact ⟨classes, paid, true, link, started, ended.imp id And.right⟩
    | invokeStatic method actuals =>
      obtain ⟨classes, paid, link, started, ended⟩ :=
        finished_of_callMethod (fun _ _ => rfl) (fun _ => .invokedStatic) (fun _ => .invokedStatic)
          built
      exact ⟨classes, paid, true, link, started, ended.imp id And.right⟩

theorem start_of_ofRequest
    (built : Outcome.ofRequest config view reference (.paid header action) cache =
      .ok outcome after) :
    ∃ classes paid, Build.link config view (action.classpaths header) cache = .ok classes after ∧
      start config view reference header action classes (action.extra config.gas) false =
        .ok paid ∧ paid.Ended outcome := by
  obtain ⟨classes, paid, link, started, finished⟩ := finished_of_ofRequest built
  exact ⟨classes, paid, link, started, finished.ended⟩

/-- **A paid request that comes to an end bought its gas, and its code left a heap over which it
ended.** -/
theorem ended_of_ofRequest
    (built : Outcome.ofRequest config view reference (.paid header action) cache =
      .ok outcome after) :
    ∃ classes paid balance, Build.link config view (action.classpaths header) cache =
        .ok classes after ∧
      started? config view cache reference header action = some paid ∧
      Bought config view reference header action classes balance paid ∧
      paid.Ended outcome := by
  obtain ⟨classes, paid, link, started, ended⟩ := start_of_ofRequest built
  obtain ⟨balance, bought⟩ := bought_of_start started
  refine ⟨classes, paid, balance, link, ?_, bought, ended⟩
  rw [started?, link]
  simp only [started]
  rfl

end Paid

end ObjectLedger
