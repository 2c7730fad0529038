/-
**Requests of transactions.**

* `Request`: an initial request is free and unsigned; a paid one is an action under the header of
  the account that pays for it.
* `Header`: who pays, with which nonce, on which chain, for how much gas, running which code.
* `Request.withoutSignature`: the part of a request that its signature covers.
-/
import ObjectLedger.Signature

namespace ObjectLedger

/-- What all paid requests have in common. -/
structure Header where
  /-- The account that pays. -/
  caller : ObjectRef
  /-- The number of transactions that the account has paid for so far. -/
  nonce : Amount
  chainId : String
  gasLimit : UInt64
  gasPrice : UInt64
  /-- The code that the transaction can use. -/
  classpath : Classpath
  /-- The signature of the rest of the request with the key of the caller. -/
  signature : List UInt8
  deriving DecidableEq, Repr

/-- What a paid request asks for. -/
inductive Action where
  | installJar (jar : List UInt8) (dependencies : List Classpath)
  | construct (constructor : ConstructorSignature) (actuals : List Value)
  | invoke (method : MethodSignature) (receiver : ObjectRef) (actuals : List Value)
  | invokeStatic (method : MethodSignature) (actuals : List Value)
  deriving DecidableEq, Repr

/-- The request of a transaction. -/
inductive Request where
  | installInitialJar (jar : List UInt8) (dependencies : List Classpath)
  | createGamete (classpath : Classpath) (amount : Amount) (publicKey : String)
  | nameManifest (classpath : Classpath) (manifest : ObjectRef)
  | paid (header : Header) (action : Action)
  deriving DecidableEq, Repr

namespace Request

/-- The request is one of those that set up a ledger. -/
def isInitial : Request → Bool
  | paid _ _ => false
  | _ => true

/-- The header of a paid request. -/
def header? : Request → Option Header
  | paid header _ => some header
  | _ => none

/-- The kind of request, by name. -/
def kind : Request → String
  | installInitialJar _ _ => "jar_store_initial"
  | createGamete _ _ _ => "gamete_creation"
  | nameManifest _ _ => "initialization"
  | paid _ (.installJar _ _) => "jar_store"
  | paid _ (.construct _ _) => "constructor_call"
  | paid _ (.invoke _ _ _) => "instance_method_call"
  | paid _ (.invokeStatic _ _) => "static_method_call"

/-- The request under another signature; an initial request has none. -/
def withSignature (request : Request) (signature : List UInt8) : Request :=
  match request with
  | paid header action => paid { header with signature } action
  | other => other

/-- The part of the request that its signature covers. -/
def withoutSignature (request : Request) : Request :=
  request.withSignature []

end Request

end ObjectLedger
