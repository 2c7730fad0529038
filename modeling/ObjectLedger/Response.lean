/-
**Responses of transactions.**

* `Response`: what a transaction did to the ledger, by the kind of its request.
* `CallOutcome`, `JarOutcome`: a paid transaction is successful, ends in an exception, or fails; a
  failure also charges a penalty, so that all figures sum up to the gas limit.
* `Response.updates?`, `Response.updatesOf`: the facts that the response records.
-/
import ObjectLedger.Update

namespace ObjectLedger

/-- The gas consumed by a transaction, by its use. -/
structure GasConsumed where
  cpu : UInt64
  ram : UInt64
  storage : UInt64
  deriving DecidableEq, Repr, Inhabited

/-- All gas consumed, whatever its use. -/
def GasConsumed.total (gas : GasConsumed) : UInt64 :=
  saturatingAdd (saturatingAdd gas.cpu gas.ram) gas.storage

/-- The throwable behind an exception or a failure. -/
structure Cause where
  className : String
  message : String
  deriving DecidableEq, Repr

/-- The class, and the message if there is one. -/
def Cause.toText (cause : Cause) : String :=
  if cause.message.isEmpty then cause.className else cause.className ++ ": " ++ cause.message

/-- What code that ran to its end or to an exception did. -/
structure Effects where
  updates : List Update
  events : List ObjectRef
  gas : GasConsumed
  deriving DecidableEq, Repr

/-- What is left of a transaction that failed. -/
structure Failure where
  updates : List Update
  gas : GasConsumed
  /-- The gas taken beyond the gas consumed. -/
  penalty : UInt64
  cause : Cause
  deriving DecidableEq, Repr

/-- How the call of a constructor or a method ended. -/
inductive CallOutcome (Result : Type) where
  | successful (result : Result) (effects : Effects)
  | exception (cause : Cause) (effects : Effects)
  | failed (failure : Failure)
  deriving DecidableEq, Repr

/-- How the installation of a jar ended. -/
inductive JarOutcome where
  | successful (jar : List UInt8) (dependencies : List Classpath) (updates : List Update)
      (gas : GasConsumed)
  | failed (failure : Failure)
  deriving DecidableEq, Repr

/-- The response of a transaction. -/
inductive Response where
  | initialJar (jar : List UInt8) (dependencies : List Classpath)
  | gameteCreation (updates : List Update) (gamete : ObjectRef)
  | initialization
  | jar (outcome : JarOutcome)
  /-- The result is the new object. -/
  | constructorCall (outcome : CallOutcome ObjectRef)
  /-- The result is that of the method, none for a method without one. -/
  | methodCall (outcome : CallOutcome (Option Value))
  deriving DecidableEq, Repr

/-- How a transaction that took effect ended. -/
inductive Ending where
  | successful
  | exception
  | failed
  deriving DecidableEq, Repr

namespace CallOutcome

variable {Result : Type}

/-- The updates of the outcome. -/
def updates : CallOutcome Result → List Update
  | successful _ effects => effects.updates
  | exception _ effects => effects.updates
  | failed failure => failure.updates

/-- The events of the outcome; a failure has none. -/
def events : CallOutcome Result → List ObjectRef
  | successful _ effects => effects.events
  | exception _ effects => effects.events
  | failed _ => []

/-- The gas consumed. -/
def gas : CallOutcome Result → GasConsumed
  | successful _ effects => effects.gas
  | exception _ effects => effects.gas
  | failed failure => failure.gas

/-- The penalty of a failure. -/
def penalty? : CallOutcome Result → Option UInt64
  | failed failure => some failure.penalty
  | _ => none

/-- The cause of an exception or a failure. -/
def cause? : CallOutcome Result → Option Cause
  | successful _ _ => none
  | exception cause _ => some cause
  | failed failure => some failure.cause

/-- How the call ended. -/
def ending : CallOutcome Result → Ending
  | successful _ _ => .successful
  | exception _ _ => .exception
  | failed _ => .failed

end CallOutcome

namespace JarOutcome

/-- The updates of the outcome. -/
def updates : JarOutcome → List Update
  | successful _ _ updates _ => updates
  | failed failure => failure.updates

/-- The gas consumed. -/
def gas : JarOutcome → GasConsumed
  | successful _ _ _ gas => gas
  | failed failure => failure.gas

/-- The failure, if the installation failed. -/
def failure? : JarOutcome → Option Failure
  | successful _ _ _ _ => none
  | failed failure => some failure

end JarOutcome

namespace Response

/-- The updates of the response, if its kind carries updates. -/
def updates? : Response → Option (List Update)
  | initialJar _ _ => none
  | gameteCreation updates _ => some updates
  | initialization => none
  | jar outcome => some outcome.updates
  | constructorCall outcome => some outcome.updates
  | methodCall outcome => some outcome.updates

/-- The updates of the response, none for a kind without updates. -/
def updates (response : Response) : List Update :=
  response.updates?.getD []

/-- The updates of the response about an object. -/
def updatesOf (response : Response) (object : ObjectRef) : List Update :=
  response.updates.filter fun update => update.object = object

/-- The events of the response. -/
def events : Response → List ObjectRef
  | constructorCall outcome => outcome.events
  | methodCall outcome => outcome.events
  | _ => []

/-- The gas consumed by a paid transaction. -/
def gas? : Response → Option GasConsumed
  | jar outcome => some outcome.gas
  | constructorCall outcome => some outcome.gas
  | methodCall outcome => some outcome.gas
  | _ => none

/-- The penalty of a failed transaction. -/
def penalty? : Response → Option UInt64
  | jar outcome => outcome.failure?.map Failure.penalty
  | constructorCall outcome => outcome.penalty?
  | methodCall outcome => outcome.penalty?
  | _ => none

/-- The cause of an exception or a failure. -/
def cause? : Response → Option Cause
  | jar outcome => outcome.failure?.map Failure.cause
  | constructorCall outcome => outcome.cause?
  | methodCall outcome => outcome.cause?
  | _ => none

/-- How the transaction ended. -/
def ending : Response → Ending
  | jar (.failed _) => .failed
  | constructorCall outcome => outcome.ending
  | methodCall outcome => outcome.ending
  | _ => .successful

/-- The code that the transaction installed, and what it depends on. -/
def installed? : Response → Option (List UInt8 × List Classpath)
  | initialJar bytes dependencies => some (bytes, dependencies)
  | jar (.successful bytes dependencies _ _) => some (bytes, dependencies)
  | _ => none

/-- The response ends the set-up of a ledger. -/
def isInitialization : Response → Bool
  | initialization => true
  | _ => false

end Response

end ObjectLedger
