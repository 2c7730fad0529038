/-
**Kept classpaths come from installed units as well.**

* `ClasspathCache.From`: whatever is kept is made of installed units.
* `Build.maintains_link`: linking keeps it so.
* **`Outcome.alongside_ofRequest`**, `Outcome.alongside_ofView`: building an outcome goes alongside
  wherever linking does. `Outcome.maintains_ofRequest_of_links`: so what linking keeps, building an
  outcome keeps; `Outcome.maintains_ofRequest`, `Outcome.maintains_ofView`: `ClasspathCache.From`.
* `Build.from_of_link`: so what is linked for a request always comes from installed units, and
  `LinkedClasspath.From.writesOnly`: writes only what these write.
-/
import ObjectLedger.Proofs.Code.Linking
import ObjectLedger.Proofs.Code.Writing
import ObjectLedger.Transaction.Build

namespace ObjectLedger

variable {view later : LedgerView} {linked : LinkedClasspath}

/-! ### Installed units -/

/-- Every response of the earlier view is there in the later one. -/
def LedgerView.Extends (later view : LedgerView) : Prop :=
  ∀ reference response, view.response reference = .ok (some response) →
    later.response reference = .ok (some response)

theorem LedgerView.Installs.extends {jar : TransactionRef} {unit : CodeUnit}
    (installs : view.Installs jar unit) (newer : later.Extends view) :
    later.Installs jar unit := by
  obtain ⟨response, bytes, dependencies, found, code, decoded⟩ := installs
  exact ⟨response, bytes, dependencies, newer jar response found, code, decoded⟩

namespace LinkedClasspath

theorem From.extends (source : linked.From view) (newer : later.Extends view) :
    linked.From later := by
  intro member inside
  obtain ⟨jar, unit, same, installs, defined⟩ := source member inside
  exact ⟨jar, unit, same, installs.extends newer, defined⟩

/-- Classes of installed units write only what the units write. -/
theorem From.writesOnly {writable : FieldSignature → Prop} (source : linked.From view)
    (units : ∀ jar unit, view.Installs jar unit → unit.WritesOnly writable) :
    linked.WritesOnly writable := by
  intro member inside
  obtain ⟨jar, unit, -, installs, defined⟩ := source member inside
  exact units jar unit installs member.definition defined

end LinkedClasspath

/-! ### Kept classpaths -/

/-- Whatever is kept is made of installed units. -/
def ClasspathCache.From (view : LedgerView) (cache : ClasspathCache) : Prop :=
  ∀ key linked, cache.entries.get? key = some linked → linked.From view

theorem ClasspathCache.From.extends {cache : ClasspathCache}
    (source : ClasspathCache.From view cache) (newer : later.Extends view) :
    ClasspathCache.From later cache :=
  fun key linked found => (source key linked found).extends newer

namespace Build

variable {α : Type} {related : ClasspathCache → ClasspathCache → Prop} {allowed : Stop → Prop}
  {config : NodeConfig} {cache after : ClasspathCache} {classpaths : List Classpath}

theorem alongside_reject (reason : String) : Alongside related allowed (reject reason : Build α) :=
  alongside_throw _

theorem alongside_ofExcept (look : Except Stop α) : Alongside related allowed (ofExcept look) := by
  cases look with
  | ok value => exact alongside_pure value
  | error stop => exact alongside_throw stop

theorem alongside_ofStore (look : Except StoreError α) : Alongside related allowed (ofStore look) := by
  cases look with
  | ok value => exact alongside_pure value
  | error cause => exact alongside_throw _

theorem alongside_ofClasspath (look : Except ClasspathError α) :
    Alongside related allowed (ofClasspath look) := by
  cases look with
  | ok value => exact alongside_pure value
  | error cause => exact alongside_reject _

/-- A classpath that cannot be linked is not kept. -/
theorem cache_of_link_error {stop : Stop}
    (stopped : Build.link config view classpaths cache = .error stop after) : after = cache := by
  unfold Build.link Cache.fetch at stopped
  split at stopped
  · cases stopped
  · rename_i found
    cases stopped
    split at found
    · cases found
    · split at found
      · cases found
      · exact (Prod.mk.inj found).2.symm

/-- What is linked, now or earlier, comes from installed units. -/
theorem link_cases (readable : ∀ reference, ∃ found, view.response reference = .ok found)
    (source : ClasspathCache.From view cache) :
    (∃ linked after, link config view classpaths cache = .ok linked after ∧ linked.From view ∧
      ClasspathCache.From view after) ∨
      ∃ reason, link config view classpaths cache = .error (.rejected reason) cache := by
  unfold link Cache.fetch
  cases known : cache.entries.get? classpaths with
  | some linked => exact Or.inl ⟨linked, cache, rfl, source classpaths linked known, source⟩
  | none =>
    rcases LinkedClasspath.link_cases readable classpaths (limits config) with
      ⟨linked, same, made⟩ | ⟨error, same, cause, rfl⟩
    · refine Or.inl ⟨linked, cache.keep classpaths linked, ?_, made, ?_⟩
      · simp only [same]
      · intro key other found
        unfold Cache.keep at found
        split at found
        · exact source key other found
        · simp only [Table.get?_insert] at found
          split at found
          · cases found
            exact made
          · split at found
            · cases found
            · exact source key other found
    · refine Or.inr ⟨cause.message, ?_⟩
      simp only [same]
      rfl

theorem maintains_link (readable : ∀ reference, ∃ found, view.response reference = .ok found) :
    Maintains (ClasspathCache.From view) (link config view classpaths) := by
  intro cache source
  rcases link_cases readable source with ⟨linked, after, ran, -, holds⟩ | ⟨reason, ran⟩
  · exact stateAfter_ok ran ▸ holds
  · rw [stateAfter_error ran]
    exact source

theorem from_of_link (readable : ∀ reference, ∃ found, view.response reference = .ok found)
    (source : ClasspathCache.From view cache)
    (ran : link config view classpaths cache = .ok linked after) : linked.From view := by
  rcases link_cases readable source with ⟨other, last, same, made, -⟩ | ⟨reason, same⟩
  · cases ran.symm.trans same
    exact made
  · cases ran.symm.trans same

end Build

/-! ### Requests -/

namespace Initial

open Build

variable {config : NodeConfig} {related : ClasspathCache → ClasspathCache → Prop}
  {allowed : Stop → Prop}

theorem alongside_rejectIfSetUp : Alongside related allowed (rejectIfSetUp view) := by
  unfold rejectIfSetUp
  refine (alongside_ofStore _).bind fun manifest => ?_
  cases manifest with
  | none => exact alongside_pure ()
  | some manifest => exact alongside_reject _

theorem alongside_installJar
    (links : ∀ classpaths, Alongside related allowed (Build.link config view classpaths))
    (jar : List UInt8) (dependencies : List Classpath) :
    Alongside related allowed (installJar config view jar dependencies) := by
  unfold installJar
  refine alongside_rejectIfSetUp.bind fun _ => (links _).bind fun classes => ?_
  refine (alongside_ofClasspath _).bind fun _ => ?_
  exact ((alongside_ofClasspath _).bind fun _ => alongside_pure ()).bind fun _ => alongside_pure _

theorem alongside_createGamete
    (links : ∀ classpaths, Alongside related allowed (Build.link config view classpaths))
    (reference : TransactionRef) (classpath : Classpath) (amount : Amount) (publicKey : String) :
    Alongside related allowed (createGamete config view reference classpath amount publicKey) := by
  unfold createGamete
  refine alongside_rejectIfSetUp.bind fun _ => (links _).bind fun classes => ?_
  simp only []
  split
  · exact (alongside_reject _).bind fun _ => by
      split
      · exact alongside_pure _
      · exact alongside_reject _
      · exact alongside_throw _
      · exact alongside_throw _
  · split
    · exact alongside_pure _
    · exact alongside_reject _
    · exact alongside_throw _
    · exact alongside_throw _

theorem alongside_nameManifest
    (links : ∀ classpaths, Alongside related allowed (Build.link config view classpaths))
    (classpath : Classpath) (manifest : ObjectRef) :
    Alongside related allowed (nameManifest config view classpath manifest) := by
  unfold nameManifest
  refine alongside_rejectIfSetUp.bind fun _ => (links _).bind fun classes => ?_
  refine (alongside_ofStore _).bind fun tag => ?_
  split
  · exact alongside_reject _
  · split
    · exact alongside_pure _
    · exact alongside_reject _
  · exact alongside_reject _

end Initial

namespace Paid

open Build

variable {config : NodeConfig} {related : ClasspathCache → ClasspathCache → Prop}
  {allowed : Stop → Prop}

theorem alongside_installJar
    (links : ∀ classpaths, Alongside related allowed (Build.link config view classpaths))
    (reference : TransactionRef) (header : Header) (jar : List UInt8)
    (dependencies : List Classpath) :
    Alongside related allowed (installJar config view reference header jar dependencies) := by
  unfold installJar
  refine (links _).bind fun classes => (alongside_ofClasspath _).bind fun _ => ?_
  refine (alongside_ofExcept _).bind fun paid => ?_
  split
  · exact alongside_pure _
  · exact alongside_throw _
  · simp only []
    split
    · exact alongside_pure _
    · exact alongside_ofExcept _

theorem alongside_construct
    (links : ∀ classpaths, Alongside related allowed (Build.link config view classpaths))
    (reference : TransactionRef) (header : Header) (constructor : ConstructorSignature)
    (actuals : List Value) :
    Alongside related allowed (construct config view reference header constructor actuals) := by
  unfold construct
  refine (links _).bind fun classes => (alongside_ofExcept _).bind fun paid => ?_
  simp only []
  split
  · exact alongside_ofExcept _
  · exact alongside_ofExcept _

theorem alongside_callMethod
    (links : ∀ classpaths, Alongside related allowed (Build.link config view classpaths))
    (reference : TransactionRef) (header : Header) (action : Action) (method : MethodSignature)
    (roots : List ObjectRef) (isView : Bool) (run : Context → ObjectRef → Run (Option Value)) :
    Alongside related allowed (callMethod config view reference header action method roots isView run) := by
  unfold callMethod
  refine (links _).bind fun classes => (alongside_ofExcept _).bind fun paid => ?_
  simp only []
  split
  · exact alongside_pure _
  · split
    · exact alongside_ofExcept _
    · exact alongside_ofExcept _

end Paid

namespace Outcome

variable {config : NodeConfig} {related : ClasspathCache → ClasspathCache → Prop}
  {allowed : Stop → Prop} {kept : ClasspathCache → Prop}

/-- **Wherever linking goes alongside, building an outcome does.** -/
theorem alongside_ofRequest
    (links : ∀ classpaths, Alongside related allowed (Build.link config view classpaths))
    (reference : TransactionRef) (request : Request) :
    Alongside related allowed (ofRequest config view reference request) := by
  cases request with
  | installInitialJar jar dependencies => exact Initial.alongside_installJar links jar dependencies
  | createGamete classpath amount publicKey =>
    exact Initial.alongside_createGamete links reference classpath amount publicKey
  | nameManifest classpath manifest => exact Initial.alongside_nameManifest links classpath manifest
  | paid header action =>
    cases action with
    | installJar jar dependencies => exact Paid.alongside_installJar links _ _ _ _
    | construct constructor actuals => exact Paid.alongside_construct links _ _ _ _
    | invoke method receiver actuals =>
      simp only [ofRequest, Paid.invoke]
      apply Paid.alongside_callMethod links
    | invokeStatic method actuals =>
      simp only [ofRequest, Paid.invokeStatic]
      apply Paid.alongside_callMethod links

/-- The same of a view. -/
theorem alongside_ofView
    (links : ∀ classpaths, Alongside related allowed (Build.link config view classpaths))
    (reference : TransactionRef) (request : Request) :
    Alongside related allowed (ofView config view reference request) := by
  cases request with
  | paid header action =>
    cases action with
    | invoke method receiver actuals =>
      simp only [ofView, Paid.invoke]
      apply Paid.alongside_callMethod links
    | invokeStatic method actuals =>
      simp only [ofView, Paid.invokeStatic]
      apply Paid.alongside_callMethod links
    | _ => exact Build.alongside_reject _
  | _ => exact Build.alongside_reject _

/-- What linking keeps, building an outcome keeps. -/
theorem maintains_ofRequest_of_links
    (links : ∀ classpaths, Maintains kept (Build.link config view classpaths))
    (reference : TransactionRef) (request : Request) :
    Maintains kept (ofRequest config view reference request) :=
  (alongside_ofRequest (fun classpaths => (links classpaths).alongside) reference request).maintains

/-- **Building an outcome keeps classpaths that come from installed units.** -/
theorem maintains_ofRequest
    (readable : ∀ reference, ∃ found, view.response reference = .ok found)
    (reference : TransactionRef) (request : Request) :
    Maintains (ClasspathCache.From view) (ofRequest config view reference request) :=
  maintains_ofRequest_of_links (fun _ => Build.maintains_link readable) reference request

/-- The same of a view. -/
theorem maintains_ofView
    (readable : ∀ reference, ∃ found, view.response reference = .ok found)
    (reference : TransactionRef) (request : Request) :
    Maintains (ClasspathCache.From view) (ofView config view reference request) :=
  (alongside_ofView (fun _ => (Build.maintains_link readable).alongside) reference request).maintains

end Outcome

end ObjectLedger
