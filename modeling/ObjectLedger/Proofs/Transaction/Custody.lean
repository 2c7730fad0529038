/-
**Nobody spends the coins of another.**

* `Action.entry?`: the activation that the code of an action starts with. `Action.Runs`: the
  activations that run while the action is performed.
* `Action.sparing_perform`: performing an action takes coins from another object than the account only
  where an activation on it pays.
* **`Action.no_theft`**: code learns no other callers than the account that the action is performed
  for and the contract that called it, and an object loses coins only if an activation on it pays
  for a call.
-/
import ObjectLedger.Proofs.Machine.Calling
import ObjectLedger.Proofs.Transaction.Viewing

namespace ObjectLedger

open Run Heap

variable {context : Context} {account : ObjectRef} {action : Action} {entry : Run Frame}
  {heap : Heap} {spared : ObjectRef → Prop}

/-- A transaction above all objects of the store has created none of them. -/
theorem Context.fresh_of_above (above : ∀ object, context.view.knows object = true →
    object.transaction < context.transaction) : context.Fresh :=
  fun _ => LedgerView.history_of_not_knows fun known => UInt64.lt_irrefl _ (above _ known)

/-- The object that a constructor makes for an account, and the activation on it. -/
def Machine.making (context : Context) (account : ObjectRef) (constructor : ConstructorSignature)
    (actuals : List Value) : Run (ObjectRef × Frame) := do
  let definition ← Run.ofThrowing (findConstructor context constructor)
  callConstructor context 0 constructor.definingClass definition actuals (some account)

namespace Action

/-! ### The code of an action -/

/-- The activation that the code of an action starts with, none for an action that runs no code. -/
def entry? (context : Context) (account : ObjectRef) : Action → Option (Run Frame)
  | construct constructor actuals => some do
    let made ← Machine.making context account constructor actuals
    return made.2
  | action => action.activation? context account

/-- While the action is performed for an account, an activation runs above others. -/
def Runs (context : Context) (account : ObjectRef) (action : Action) (heap : Heap) (frame : Frame)
    (callers : List Frame) (now : Heap) : Prop :=
  ∃ entry first begun, action.entry? context account = some entry ∧
    entry heap = .ok first begun ∧
    Machine.Reaches context (.running first []) begun (.running frame callers) now

theorem perform_construct (constructor : ConstructorSignature) (actuals : List Value) :
    (construct constructor actuals).perform context account = (do
      let made ← Machine.making context account constructor actuals
      discard (Machine.runFrame context made.2)
      return some (.reference made.1)) := by
  show Machine.construct context account constructor actuals >>= _ = _
  simp only [Machine.construct, Machine.making, bind_assoc, pure_bind]

/-- Performing an action leaves what its first activation leaves when it runs to its end. -/
theorem stateAfter_perform (entered : action.entry? context account = some entry) :
    stateAfter (action.perform context account) heap =
      stateAfter (entry >>= Machine.runFrame context) heap := by
  cases action with
  | installJar => cases entered
  | invoke method receiver actuals =>
    have calls : (invoke method receiver actuals).activation? context account = some entry := entered
    rw [perform_eq_of_activation? calls]
  | invokeStatic method actuals =>
    have calls : (invokeStatic method actuals).activation? context account = some entry := entered
    rw [perform_eq_of_activation? calls]
  | construct constructor actuals =>
    cases entered
    simp only [perform_construct, bind_assoc, pure_bind]
    cases begun : Machine.making context account constructor actuals heap with
    | error fault after => rw [stateAfter_bind_of_error begun, stateAfter_bind_of_error begun]
    | ok made after =>
      rw [stateAfter_bind_of_ok begun, stateAfter_bind_of_ok begun, stateAfter_bind_pure]
      exact stateAfter_bind_pure fun _ => ()

theorem spares_entry (fresh : context.Fresh) (sound : Sound context heap)
    (entered : action.entry? context account = some entry) :
    Spares context (· ≠ account) entry heap fun frame _ =>
      ∀ who, frame.caller = some who → who = account := by
  have others : ∀ annotations, Machine.PaysNobody (· ≠ account) annotations (some account) :=
    fun _ _ _ object different same => different (Option.some.inj same).symm
  have alone : ∀ {caller who : ObjectRef}, some caller = some who → who = caller :=
    fun same => (Option.some.inj same).symm
  cases action with
  | installJar => cases entered
  | construct constructor actuals =>
    cases entered
    have makes : Spares context (· ≠ account)
        (Machine.making context account constructor actuals) heap fun made _ =>
          ∀ who, made.2.caller = some who → some account = some who := by
      refine spares_ofThrowing.bind fun definition _ found => ?_
      obtain ⟨-, rfl⟩ := found
      exact Machine.spares_callConstructor fresh sound _ _ _ (others _)
    exact makes.bind fun made _ known => Spares.pure fun who same => alone (known who same)
  | invoke method receiver actuals =>
    cases entered
    refine (reads_isInstance context _ _).spares.bind fun answer _ _ => ?_
    split
    · exact Spares.fail_bind
    · refine (reads_classOf context receiver).spares.bind fun className _ _ => ?_
      refine spares_ofThrowing.bind fun definition _ _ => ?_
      exact (Machine.spares_callMethod _ _ _ _ (others _)).imp fun frame _ known who same =>
        alone (known who same)
  | invokeStatic method actuals =>
    cases entered
    refine spares_ofThrowing.bind fun definition _ _ => ?_
    exact (Machine.spares_callMethod _ _ _ _ (others _)).imp fun frame _ known who same =>
      alone (known who same)

theorem leads_entry {writable : FieldSignature → Prop}
    (restricted : context.classes.WritesOnly writable)
    (entered : action.entry? context account = some entry) :
    Leads context writable entry heap fun frame _ => WritesOnly writable frame.code := by
  cases action with
  | installJar => cases entered
  | construct constructor actuals =>
    cases entered
    have makes : Leads context writable (Machine.making context account constructor actuals) heap
        fun made _ => WritesOnly writable made.2.code :=
      leads_ofThrowing.bind fun definition _ found => Machine.leads_callConstructor _ _
        (Machine.writesOnly_of_findConstructor restricted found.1) _ _
    exact makes.bind fun made _ code => Leads.pure code
  | invoke method receiver actuals =>
    cases entered
    refine (reads_isInstance context _ _).leads.bind fun answer _ _ => ?_
    split
    · exact Leads.fail_bind
    · refine (reads_classOf context receiver).leads.bind fun className _ _ => ?_
      refine leads_ofThrowing.bind fun definition _ found => ?_
      exact Machine.leads_callMethod _
        (Machine.writesOnly_of_findInstanceMethod restricted found.1) ..
  | invokeStatic method actuals =>
    cases entered
    refine leads_ofThrowing.bind fun definition _ found => ?_
    exact Machine.leads_callMethod _ (Machine.writesOnly_of_findStaticMethod restricted found.1) ..

theorem writesOnly_of_entry {writable : FieldSignature → Prop}
    (restricted : context.classes.WritesOnly writable)
    (entered : action.entry? context account = some entry) {first : Frame} {begun : Heap}
    (ran : entry heap = .ok first begun) :
    (Machine.Status.running first []).WritesOnly writable := by
  intro activation member
  obtain rfl := List.mem_singleton.mp member
  exact ((leads_entry restricted entered).ends ran).2

/-! ### Coins -/

/-- **Performing an action for an account takes coins from another object only where an activation on
it pays.** -/
theorem sparing_perform (fresh : context.Fresh)
    (closed : context.classes.WritesOnly (· ≠ .balance)) (sound : Sound context heap)
    (others : ∀ object, spared object → object ≠ account)
    (unpaid : ∀ frame callers now, action.Runs context account heap frame callers now →
      ∀ object, spared object → frame.PaysFrom context now object →
        now.coinsOf context.view object ≤
          (stateAfter (Machine.step context frame callers) now).coinsOf context.view object) :
    heap.Sparing context spared (stateAfter (action.perform context account) heap) := by
  cases entered : action.entry? context account with
  | none =>
    cases action with
    | construct | invoke | invokeStatic => cases entered
    | installJar jar dependencies =>
      have spares : Spares context spared ((installJar jar dependencies).perform context account)
          heap fun _ _ => True := by
        refine (reads_charge ..).spares.bind fun _ _ _ => ?_
        refine (reads_charge ..).spares.bind fun _ _ _ => ?_
        cases context.classes.extended jar with
        | error cause => exact Spares.fail
        | ok classes => exact Spares.pure trivial
      exact spares.sparing_stateAfter
  | some entry =>
    rw [stateAfter_perform entered]
    have enters := spares_entry fresh sound entered
    cases ran : entry heap with
    | error fault begun =>
      rw [stateAfter_bind_of_error ran]
      exact (enters.faults ran).mono others
    | ok first begun =>
      rw [stateAfter_bind_of_ok ran]
      obtain ⟨sparing, -⟩ := enters.ends ran
      have runs : Spares context spared (Machine.runFrame context first) begun fun _ _ => True :=
        Machine.spares_run fresh closed _ (sparing.moves.sound sound)
          (writesOnly_of_entry closed entered ran) fun frame callers now reaches =>
            unpaid frame callers now ⟨entry, first, begun, entered, ran, reaches⟩
      exact (sparing.mono others).trans runs.sparing_stateAfter

/-- **Nobody spends the coins of another.** In a transaction above all objects of the store, whatever
was done to its heap before, and where code writes no balance: code that asks for its caller learns
the account that the action is performed for, if no code called it, and else the contract that the
activation below works on. An object other than that account ends with fewer coins only if an
activation on it called payable code and that took some of them. -/
theorem no_theft {charger : Charger}
    (above : ∀ object, context.view.knows object = true → object.transaction < context.transaction)
    (closed : context.classes.WritesOnly (· ≠ .balance))
    (made : Moves context anything { charger } heap) :
    (∀ frame callers now name arity status after,
      action.Runs context account heap frame callers now →
      frame.code[frame.position]? = some (.native name arity) →
      Primitive.resolve name arity = .ok .caller →
      Machine.step context frame callers now = .ok status after →
      ∃ who later, Machine.Attributes context account now callers who ∧
        status = .running later callers ∧ later.stack.head? = some (.reference who)) ∧
    ∀ object, object ≠ account →
      (stateAfter (action.perform context account) heap).coinsOf context.view object <
        heap.coinsOf context.view object →
      ∃ frame callers now, action.Runs context account heap frame callers now ∧
        frame.PaysFrom context now object ∧
        (stateAfter (Machine.step context frame callers) now).coinsOf context.view object <
          now.coinsOf context.view object := by
  have fresh := Context.fresh_of_above above
  have sound := made.sound (sound_start context charger)
  constructor
  · rintro frame callers now name arity status after ⟨entry, first, begun, entered, ran, reaches⟩
      next named stepped
    obtain ⟨who, later, known, shape, top⟩ := Machine.exists_caller_of_step next named stepped
    obtain ⟨sparing, alone⟩ := (spares_entry fresh sound entered).ends ran
    have attributed := Machine.attributed_of_reaches fresh closed (sparing.moves.sound sound)
      (writesOnly_of_entry closed entered ran) ⟨alone, trivial⟩ reaches
    exact ⟨who, later, attributed.1 who known, shape, top⟩
  · intro object different loses
    by_contra unpaid
    have sparing : heap.Sparing context (· = object)
        (stateAfter (action.perform context account) heap) :=
      sparing_perform fresh closed sound (fun other same => same ▸ different)
        fun frame callers now runs other same pays => Nat.not_lt.mp fun less =>
          unpaid ⟨frame, callers, now, runs, same ▸ pays, same ▸ less⟩
    exact absurd (sparing.coinsOf_le object rfl) (Nat.not_le.mpr loses)

end Action

/-! ### A wallet that pays into a till -/

/-- The activations that run after so many steps. -/
def Machine.follow (context : Context) :
    Nat → Frame → List Frame → Heap → Option (Frame × List Frame × Heap)
  | 0, frame, callers, heap => some (frame, callers, heap)
  | count + 1, frame, callers, heap =>
    match step context frame callers heap with
    | .ok (.running next rest) after => follow context count next rest after
    | _ => none

theorem Machine.reaches_of_follow {count : Nat} {frame last : Frame} {callers rest : List Frame}
    {now : Heap} (follows : follow context count frame callers heap = some (last, rest, now)) :
    Reaches context (.running frame callers) heap (.running last rest) now := by
  induction count generalizing frame callers heap with
  | zero =>
    cases follows
    exact .refl
  | succ count ih =>
    unfold follow at follows
    split at follows
    · rename_i ran
      exact .step ran (ih follows)
    · cases follows

namespace Wallets

/-- Tills learn who pays into them; wallets pay into tills. -/
def unit : CodeUnit :=
  ⟨[⟨ClassName.contract, none, [⟨"balance", .bigInteger⟩], [], []⟩,
    ⟨"Till", some ClassName.contract, [], [],
      [⟨"deposit", [.bigInteger], none, false, .receivesCoins, 0,
        [.native "lang.caller" 0, .pop, .ret]⟩]⟩,
    ⟨"Wallet", some ClassName.contract, [], [],
      [⟨"pay", [.object "Till", .bigInteger], none, false, .none, 0,
        [.load 1, .load 2, .invoke ⟨"Till", "deposit", [.bigInteger], none⟩ .virtual, .ret]⟩]⟩]⟩

def owner : ObjectRef := ⟨⟨1⟩, 0⟩

def wallet : ObjectRef := ⟨⟨1⟩, 1⟩

def till : ObjectRef := ⟨⟨1⟩, 2⟩

/-- The response that made an account, a wallet with 50 coins and a till. -/
def made : Response :=
  .gameteCreation [.classTag owner ClassName.contract ⟨0⟩, .classTag wallet "Wallet" ⟨0⟩,
    .field wallet .balance (.bigInteger 50), .classTag till "Till" ⟨0⟩] owner

def shop : Context where
  view := {
    response reference := .ok (if reference = ⟨1⟩ then some made else none)
    history object := .ok (if object ∈ [owner, wallet, till] then [⟨1⟩] else [])
    manifest := .ok none
    now := 0 }
  classes := { classes := unit.classes.map fun definition => ⟨definition, some ⟨0⟩⟩ }
  costs := {}
  transaction := ⟨2⟩
  maxCallDepth := 16

def paying : Action :=
  .invoke ⟨"Wallet", "pay", [.object "Till", .bigInteger], none⟩ wallet
    [.reference till, .bigInteger 30]

def begun : Heap := { charger := .withLimit 1000 }

/-- Three steps later an activation is about to ask for its caller, right above one on the wallet. -/
def asksForWallet (entry : Run Frame) : Bool :=
  match entry begun with
  | .error _ _ => false
  | .ok frame heap =>
    match Machine.follow shop 3 frame [] heap with
    | none => false
    | some (running, callers, now) =>
      decide (running.code[running.position]? = some (.native "lang.caller" 0) ∧
        callers.map Frame.this = [some wallet]) &&
        (resultOf? (Machine.step shop running callers) now).isSome

theorem exists_asking : ∃ running callers now status after,
    paying.Runs shop owner begun running callers now ∧
    running.code[running.position]? = some (.native "lang.caller" 0) ∧
    callers.map Frame.this = [some wallet] ∧
    Machine.step shop running callers now = .ok status after := by
  have asks : (paying.entry? shop owner).any asksForWallet = true := by decide +kernel
  obtain ⟨entry, entered, asks⟩ := (Option.any_eq_true ..).mp asks
  unfold asksForWallet at asks
  split at asks
  · cases asks
  · rename_i frame heap ran
    split at asks
    · cases asks
    · rename_i running callers now follows
      obtain ⟨shape, ends⟩ := Bool.and_eq_true_iff.mp asks
      obtain ⟨next, below⟩ := of_decide_eq_true shape
      obtain ⟨status, ended⟩ := Option.isSome_iff_exists.mp ends
      obtain ⟨after, stepped⟩ := ok_of_resultOf? ended
      exact ⟨running, callers, now, status, after,
        ⟨entry, frame, heap, entered, ran, Machine.reaches_of_follow follows⟩, next, below, stepped⟩

/-- The till learns that the wallet pays, and the wallet loses what it pays. -/
theorem no_theft_wallet :
    (∀ object, shop.view.knows object = true → object.transaction < shop.transaction) ∧
    shop.classes.WritesOnly (· ≠ .balance) ∧
    (∃ running callers now status after later,
      paying.Runs shop owner begun running callers now ∧
      running.code[running.position]? = some (.native "lang.caller" 0) ∧
      Machine.step shop running callers now = .ok status after ∧
      status = .running later callers ∧ later.stack.head? = some (.reference wallet) ∧
      Machine.Attributes shop owner now callers wallet) ∧
    begun.coinsOf shop.view wallet = 50 ∧
    (stateAfter (paying.perform shop owner) begun).coinsOf shop.view wallet = 20 ∧
    ∃ frame callers now, paying.Runs shop owner begun frame callers now ∧
      frame.PaysFrom shop now wallet ∧
      (stateAfter (Machine.step shop frame callers) now).coinsOf shop.view wallet <
        now.coinsOf shop.view wallet := by
  have above : ∀ object, shop.view.knows object = true → object.transaction < shop.transaction := by
    intro object known
    have member : object ∈ [owner, wallet, till] := by
      by_contra absent
      have none : shop.view.history object = .ok [] := congrArg Except.ok (if_neg absent)
      rw [LedgerView.knows, none] at known
      cases known
    have all : [owner, wallet, till].all (·.transaction < shop.transaction) = true := by decide
    exact of_decide_eq_true (List.all_eq_true.mp all object member)
  have closed : shop.classes.WritesOnly (· ≠ .balance) := by
    show ∀ member ∈ shop.classes.classes, member.definition.WritesOnly (· ≠ .balance)
    decide +kernel
  have before : begun.coinsOf shop.view wallet = 50 := by decide +kernel
  have left : (stateAfter (paying.perform shop owner) begun).coinsOf shop.view wallet = 20 := by
    decide +kernel
  have loses : (stateAfter (paying.perform shop owner) begun).coinsOf shop.view wallet <
      begun.coinsOf shop.view wallet := by
    rw [before, left]
    decide
  obtain ⟨learns, pays⟩ :=
    @Action.no_theft shop owner paying begun (.withLimit 1000) above closed .refl
  refine ⟨above, closed, ?_, before, left, pays wallet (by decide) loses⟩
  obtain ⟨running, callers, now, status, after, runs, next, below, stepped⟩ := exists_asking
  obtain ⟨who, later, knows, shape, top⟩ :=
    learns running callers now _ _ status after runs next rfl stepped
  obtain ⟨first, rfl, same⟩ := List.map_eq_singleton_iff.mp below
  have called : who = wallet := Option.some.inj (knows.1.symm.trans same)
  exact ⟨running, [first], now, status, after, later, runs, next, stepped, shape, called ▸ top,
    called ▸ knows⟩

end Wallets

end ObjectLedger
