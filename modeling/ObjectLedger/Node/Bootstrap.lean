/-
**The first transactions of a ledger.**

* `Node.bootstrap`: installs the base library, makes the account that holds all coins, lets it
  create the manifest, and names the manifest, which ends the set-up.
-/
import ObjectLedger.Code.BaseLibrary
import ObjectLedger.Codec.Record
import ObjectLedger.Node.Basic

namespace ObjectLedger

/-- What the first transactions created. -/
structure Bootstrap where
  /-- The transaction that installed the base library. -/
  base : TransactionRef
  gamete : ObjectRef
  manifest : ObjectRef
  deriving DecidableEq, Repr

namespace Bootstrap

/-- The classpath of the base library. -/
def classpath (bootstrap : Bootstrap) : Classpath :=
  ⟨bootstrap.base, true⟩

/-- The gas limit of the creation of the manifest. -/
def gasLimit : UInt64 := 100000

/-- The request, still unsigned, by which the gamete creates the manifest. -/
def manifestCreation (chainId : String) (gamete : ObjectRef) (classpath : Classpath) : Request :=
  .paid
    { caller := gamete
      nonce := 0
      chainId
      gasLimit
      gasPrice := 1
      classpath
      signature := [] }
    (.construct ⟨ClassName.manifest, [.string]⟩ [.string chainId])

end Bootstrap

/-- The manifest that was created; whatever else became of the transaction, it failed. -/
def Response.manifestResult (reference : TransactionRef) :
    Response → Except NodeError ObjectRef
  | constructorCall (.successful object _) => .ok object
  | other =>
    match other.cause? with
    | some cause => .error (.failed reference cause)
    | none => .error (.unexpected reference other)

namespace Node

variable {σ : Type} [Backend σ]

/-- Sets up a ledger: the gamete gets an amount and a public key, and signs the creation of the
manifest. -/
def bootstrap (amount : Amount) (publicKey : String) (sign : List UInt8 → List UInt8) :
    NodeAction σ Bootstrap := do
  let (base, _) ← submit (.installInitialJar BaseLibrary.unit.toBytes [])
  let classpath : Classpath := ⟨base, true⟩
  let (reference, response) ← submit (.createGamete classpath amount publicKey)
  let gamete ← NodeAction.ofExcept (response.gameteResult reference)
  let creation := Bootstrap.manifestCreation (← get).config.chainId gamete classpath
  let (reference, response) ← submit (creation.withSignature (sign creation.signedBytes))
  let manifest ← NodeAction.ofExcept (response.manifestResult reference)
  discard (submit (.nameManifest classpath manifest))
  return { base, gamete, manifest }

end Node

end ObjectLedger
