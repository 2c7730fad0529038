/-
**Initial transactions, which set up a ledger.**

They are free and have no events. All of them are refused once the ledger has a manifest.
-/
import ObjectLedger.Machine.Heap
import ObjectLedger.Transaction.Outcome

namespace ObjectLedger.Initial

variable (config : NodeConfig) (view : LedgerView)

/-- Refuses to go on if the ledger has a manifest. -/
def rejectIfSetUp : Build Unit := do
  match ← Build.ofStore view.manifest with
  | none => return ()
  | some manifest =>
    Build.reject
      ("cannot run an initial transaction: the node is already initialized with manifest " ++
        manifest.toText)

/-- Installs a jar for free. -/
def installJar (jar : List UInt8) (dependencies : List Classpath) : Build Outcome := do
  rejectIfSetUp view
  let classes ← Build.link config view dependencies
  Build.ofClasspath (classes.checkLimits (some (saturate jar.length)) (Build.limits config))
  discard (Build.ofClasspath (classes.extended jar))
  return .completed (.initialJar jar dependencies)

/-- Makes the account that holds all coins. -/
def allocateGamete (context : Context) (amount : Amount) (publicKey : String) :
    Run ObjectRef := do
  let gamete ← Heap.allocate context ClassName.gamete
  Heap.setBalance context gamete amount
  Heap.setNonce context gamete 0
  Heap.setField context gamete .publicKey (.string publicKey)
  return gamete

/-- Makes the account that holds all coins, in a ledger. -/
def createGamete (reference : TransactionRef) (classpath : Classpath) (amount : Amount)
    (publicKey : String) : Build Outcome := do
  rejectIfSetUp view
  let classes ← Build.link config view [classpath]
  if !classes.contains ClassName.gamete then
    Build.reject ("class " ++ ClassName.gamete ++ " is not in the classpath")
  let context : Context := ⟨view, classes, config.gas, reference, config.maxCallDepth⟩
  match allocateGamete context amount publicKey { charger := .unmetered } with
  | .ok gamete heap => return .completed (.gameteCreation (heap.updates [gamete]) gamete)
  | .error (.thrown throwable) _ =>
    Build.reject ("cannot create the gamete: " ++ throwable.cause.toText)
  | .error (.internal cause) _ => throw (.internal (.store cause))
  | .error .unfinished _ => throw (.internal .unfinished)

/-- Names the manifest, which ends the set-up. -/
def nameManifest (classpath : Classpath) (manifest : ObjectRef) : Build Outcome := do
  rejectIfSetUp view
  let classes ← Build.link config view [classpath]
  match ← Build.ofStore (view.classTag? manifest) with
  | none => Build.reject ("unknown manifest " ++ manifest.toText)
  | some (.classTag _ className _) =>
    if classes.isSubclass className ClassName.manifest then return .completed .initialization
    else Build.reject (manifest.toText ++ " is not a " ++ ClassName.manifest)
  | some (.field _ _ _) =>
    Build.reject (manifest.toText ++ " is not a " ++ ClassName.manifest)

end ObjectLedger.Initial
