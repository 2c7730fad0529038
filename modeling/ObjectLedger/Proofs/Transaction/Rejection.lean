/-
**A paid request with another nonce than its caller's is rejected.**

* `Paid.Rejects`: the checks of a request end with a rejection.
* `Paid.encodable_of_start`: a request that started once can be written, whatever the store.
* **`Paid.rejects_start`**: over a store that can be read, a request that can be written is rejected
  if it carries another nonce than that of its caller.
* **`Outcome.rejected_of_nonce`**: so its outcome is a rejection, and no internal fault.
-/
import ObjectLedger.Proofs.Machine.Throwing
import ObjectLedger.Proofs.Transaction.Caching
import ObjectLedger.Proofs.Transaction.Execution

namespace ObjectLedger

namespace Paid

open Run Heap

variable {α β : Type} {part : Except Stop α} {next : α → Except Stop β} {config : NodeConfig}
  {view : LedgerView} {reference : TransactionRef} {header : Header} {action : Action}
  {classes : LinkedClasspath} {extra : UInt64} {paid : Paid}

/-! ### Rejections -/

/-- The computation ends with a rejection. -/
def Rejects (part : Except Stop α) : Prop :=
  ∃ reason, part = .error (.rejected reason)

/-- The computation ends with a result or with a rejection. -/
def EndsOrRejects (part : Except Stop α) : Prop :=
  (∃ value, part = .ok value) ∨ Rejects part

theorem Rejects.bind (rejects : Rejects part) : Rejects (part >>= next) := by
  obtain ⟨reason, rfl⟩ := rejects
  exact ⟨reason, rfl⟩

/-- A sequence rejects where what follows its first part does. -/
theorem EndsOrRejects.rejects_bind (first : EndsOrRejects part)
    (rest : ∀ value, part = .ok value → Rejects (next value)) : Rejects (part >>= next) := by
  rcases first with ⟨value, rfl⟩ | rejects
  · exact rest value rfl
  · exact rejects.bind

theorem eq_none_of_checkEncodable {codec : Codec α} {what : String} {value : α}
    (checked : checkEncodable codec what value = .ok ()) : codec.oversize? value = none := by
  unfold checkEncodable at checked
  split at checked
  · assumption
  · cases checked

/-- A request that starts can be written, with and without its signature. -/
theorem encodable_of_start {isView : Bool}
    (started : start config view reference header action classes extra isView = .ok paid) :
    Codec.request.oversize? (.paid header action) = none ∧
      Codec.request.oversize? (Request.paid header action).withoutSignature = none := by
  obtain ⟨admits, -⟩ := start_eq_ok_iff.mp started
  refine ⟨eq_none_of_checkEncodable admits.encodable, ?_⟩
  obtain ⟨key, -, rest⟩ := bind_eq_ok.mp admits.signature
  split at rest
  · obtain ⟨_, bare, -⟩ := bind_eq_ok.mp rest
    exact eq_none_of_checkEncodable bare
  · cases rest

/-! ### Checks -/

theorem endsOrRejects_checkChain : EndsOrRejects (checkChain config header) := by
  unfold checkChain
  split
  · exact Or.inl ⟨(), rfl⟩
  · exact Or.inr ⟨_, rfl⟩

theorem endsOrRejects_checkCaller (readable : view.Readable) (caller : ObjectRef) :
    EndsOrRejects (checkCaller view classes caller) := by
  obtain ⟨tag, known⟩ := readable.exists_classTag caller
  unfold checkCaller
  rw [known]
  cases tag with
  | none => exact Or.inr ⟨_, rfl⟩
  | some tag =>
    cases tag with
    | field => exact Or.inr ⟨_, rfl⟩
    | classTag object className jar =>
      show EndsOrRejects (if classes.isSubclass className ClassName.account = true then .ok ()
        else _)
      split
      · exact Or.inl ⟨(), rfl⟩
      · exact Or.inr ⟨_, rfl⟩

theorem checkEncodable_eq_ok {codec : Codec α} {value : α} (what : String)
    (short : codec.oversize? value = none) : checkEncodable codec what value = .ok () := by
  unfold checkEncodable
  rw [short]

/-- The signature is checked once the request without it can be written. -/
theorem checkSignature_cases (readable : view.Readable) (request : Request) :
    Rejects (checkSignature config.signature view request header) ∨
      ∃ verdict, EndsOrRejects verdict ∧
        checkSignature config.signature view request header =
          (checkEncodable Codec.request "request for signing" request.withoutSignature >>=
            fun _ => verdict) := by
  obtain ⟨found, known⟩ := readable.exists_field header.caller .publicKey
  unfold checkSignature
  rw [known]
  cases found with
  | none => exact Or.inl ⟨_, rfl⟩
  | some value =>
    cases value with
    | string key =>
      refine Or.inr ⟨_, ?_, rfl⟩
      cases config.signature.verify request.signedBytes header.signature key with
      | error cause => exact Or.inr ⟨_, rfl⟩
      | ok valid =>
        cases valid with
        | true => exact Or.inl ⟨(), rfl⟩
        | false => exact Or.inr ⟨_, rfl⟩
    | _ => exact Or.inl ⟨_, rfl⟩

theorem endsOrRejects_checkSignature (readable : view.Readable) {request : Request}
    (bare : Codec.request.oversize? request.withoutSignature = none) :
    EndsOrRejects (checkSignature config.signature view request header) := by
  rcases checkSignature_cases readable request with rejects | ⟨verdict, ends, same⟩
  · exact Or.inr rejects
  · rw [same, checkEncodable_eq_ok _ bare]
    exact ends

theorem endsOrRejects_mapError {ε : Type} {charged : Except ε α} (message : ε → String) :
    EndsOrRejects (charged.mapError fun refusal => Stop.rejected (message refusal)) := by
  cases charged with
  | ok value => exact Or.inl ⟨value, rfl⟩
  | error refusal => exact Or.inr ⟨_, rfl⟩

theorem endsOrRejects_callerAccount {context : Context} (readable : context.view.Readable)
    (caller : ObjectRef) (heap : Heap) : EndsOrRejects (callerAccount context caller heap) := by
  have throws : StopsByThrowing (loadAccount context caller) heap := by
    unfold loadAccount getBalance getNonce
    exact (stopsByThrowing_getAmount readable).bind fun _ _ _ =>
      (stopsByThrowing_getAmount readable).bind fun _ _ _ => stopsByThrowing_pure _
  unfold callerAccount
  cases loaded : loadAccount context caller heap with
  | ok account after => exact Or.inl ⟨_, rfl⟩
  | error fault after =>
    obtain ⟨throwable, rfl⟩ := throws fault after loaded
    exact Or.inr ⟨_, rfl⟩

theorem rejects_checkNonce {nonce : Amount} (different : nonce ≠ header.nonce) :
    Rejects (checkNonce false header nonce) := by
  unfold checkNonce
  rw [if_neg (by simpa using different)]
  exact ⟨_, rfl⟩

/-- **A request with another nonce than that of its caller is rejected.** -/
theorem rejects_start (readable : view.Readable)
    (whole : Codec.request.oversize? (.paid header action) = none)
    (bare : Codec.request.oversize? (Request.paid header action).withoutSignature = none)
    (other : view.value header.caller .nonce ≠ .bigInteger header.nonce) :
    Rejects (start config view reference header action classes extra false) := by
  unfold start
  simp only []
  refine endsOrRejects_checkChain.rejects_bind fun _ _ => ?_
  refine (endsOrRejects_checkCaller readable _).rejects_bind fun _ _ => ?_
  refine (endsOrRejects_checkSignature readable bare).rejects_bind fun _ _ => ?_
  rw [checkEncodable_eq_ok _ whole]
  show Rejects (if _ then _ else _)
  split
  · exact ⟨_, rfl⟩
  refine (endsOrRejects_mapError _).rejects_bind fun charger _ => ?_
  refine (endsOrRejects_callerAccount readable _ _).rejects_bind fun loaded ran => ?_
  obtain ⟨⟨balance, nonce⟩, ready⟩ := loaded
  obtain ⟨reading, -, -, counted⟩ :=
    (reads_loadAccount header.caller).ends (callerAccount_eq_ok.mp ran)
  have different : nonce ≠ header.nonce := by
    rintro rfl
    rw [Reading.value_eq reading] at counted
    exact other counted
  exact (rejects_checkNonce different).bind

end Paid

namespace Build

variable {α β : Type} {part : Build α} {next : α → Build β} {cache : ClasspathCache}

/-- The part ends with a rejection. -/
def Rejects (part : Build α) (cache : ClasspathCache) : Prop :=
  ∃ reason after, part cache = .error (.rejected reason) after

theorem Rejects.bind (rejects : Rejects part cache) : Rejects (part >>= next) cache := by
  obtain ⟨reason, after, ran⟩ := rejects
  refine ⟨reason, after, ?_⟩
  show EStateM.bind part next cache = _
  unfold EStateM.bind
  rw [ran]

/-- A sequence rejects where its first part does, or what follows. -/
theorem rejects_bind (first : (∃ value after, part cache = .ok value after) ∨ Rejects part cache)
    (rest : ∀ value after, part cache = .ok value after → Rejects (next value) after) :
    Rejects (part >>= next) cache := by
  rcases first with ⟨value, after, ran⟩ | rejects
  · show Rejects (EStateM.bind part next) cache
    unfold Rejects EStateM.bind
    rw [ran]
    exact rest value after ran
  · exact rejects.bind

theorem rejects_ofExcept {look : Except Stop α} (rejects : Paid.Rejects look) :
    Rejects (ofExcept look) cache := by
  obtain ⟨reason, rfl⟩ := rejects
  exact ⟨reason, cache, rfl⟩

theorem ofClasspath_cases (look : Except ClasspathError α) :
    (∃ value after, ofClasspath look cache = .ok value after) ∨
      Rejects (ofClasspath look) cache := by
  cases look with
  | ok value => exact Or.inl ⟨value, cache, rfl⟩
  | error cause => exact Or.inr ⟨_, cache, rfl⟩

/-- Linking over a store that can be read ends or rejects. -/
theorem link_ends_or_rejects {config : NodeConfig} {view : LedgerView}
    {classpaths : List Classpath}
    (readable : ∀ reference, ∃ found, view.response reference = .ok found)
    (source : ClasspathCache.From view cache) :
    (∃ linked after, link config view classpaths cache = .ok linked after) ∨
      Rejects (link config view classpaths) cache := by
  rcases link_cases readable source with ⟨linked, after, ran, -⟩ | ⟨reason, ran⟩
  · exact Or.inl ⟨linked, after, ran⟩
  · exact Or.inr ⟨reason, cache, ran⟩

end Build

namespace Outcome

variable {config : NodeConfig} {view : LedgerView} {cache : ClasspathCache}
  {reference : TransactionRef} {header : Header} {action : Action}

/-- A paid request is rejected if linking ends or rejects and every start rejects. -/
theorem rejects_ofRequest
    (links : ∀ classpaths, (∃ linked after, Build.link config view classpaths cache =
      .ok linked after) ∨ Build.Rejects (Build.link config view classpaths) cache)
    (starts : ∀ classes extra,
      Paid.Rejects (Paid.start config view reference header action classes extra false)) :
    Build.Rejects (ofRequest config view reference (.paid header action)) cache := by
  cases action with
  | installJar jar dependencies =>
    refine Build.rejects_bind (links _) fun _ _ _ => ?_
    refine Build.rejects_bind (Build.ofClasspath_cases _) fun _ _ _ => ?_
    exact (Build.rejects_ofExcept (starts _ _)).bind
  | construct constructor actuals =>
    refine Build.rejects_bind (links _) fun _ _ _ => ?_
    exact (Build.rejects_ofExcept (starts _ _)).bind
  | invoke method receiver actuals =>
    refine Build.rejects_bind (links _) fun _ _ _ => ?_
    exact (Build.rejects_ofExcept (starts _ _)).bind
  | invokeStatic method actuals =>
    refine Build.rejects_bind (links _) fun _ _ _ => ?_
    exact (Build.rejects_ofExcept (starts _ _)).bind

/-- **A request with another nonce than that of its caller is rejected**, where the store can be
read, the kept classpaths come from installed units, and the request can be written. -/
theorem rejected_of_nonce (readable : view.Readable)
    (responses : ∀ reference, ∃ found, view.response reference = .ok found)
    (source : ClasspathCache.From view cache)
    (whole : Codec.request.oversize? (.paid header action) = none)
    (bare : Codec.request.oversize? (Request.paid header action).withoutSignature = none)
    (other : view.value header.caller .nonce ≠ .bigInteger header.nonce) :
    ∃ reason, (build config view cache reference (.paid header action)).1 =
      .ok (.rejected reason) := by
  have links : ∀ classpaths, (∃ linked after, Build.link config view classpaths cache =
      .ok linked after) ∨ Build.Rejects (Build.link config view classpaths) cache :=
    fun _ => Build.link_ends_or_rejects responses source
  have rejects : Build.Rejects (ofRequest config view reference (.paid header action)) cache :=
    rejects_ofRequest links fun _ _ => Paid.rejects_start readable whole bare other
  obtain ⟨reason, after, ran⟩ := rejects
  refine ⟨reason, ?_⟩
  unfold build Build.settle
  rw [ran]

end Outcome

end ObjectLedger
