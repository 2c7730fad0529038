/-
**Throwables, and why code stops before its end.**

* `Throwable`: what code throws. Checked throwables may leave a transaction as exceptions.
* `Fault`: a throwable, or a store that cannot be read.
-/
import ObjectLedger.Gas.Charger
import ObjectLedger.Store.Error

namespace ObjectLedger

/-- What code throws. -/
structure Throwable where
  className : String
  message : String
  checked : Bool
  deriving DecidableEq, Repr

namespace Throwable

/-- The class and the message. -/
def cause (throwable : Throwable) : Cause :=
  ⟨throwable.className, throwable.message⟩

/-- An unchecked throwable of the class `lang.` and the given name. -/
def unchecked (name message : String) : Throwable :=
  ⟨"lang." ++ name, message, false⟩

/-- A charge above the gas at hand. -/
def outOfGas (refusal : OutOfGas) : Throwable :=
  unchecked "OutOfGasError" refusal.message

/-- Too many nested calls. -/
def stackOverflow (limit : UInt64) : Throwable :=
  unchecked "StackOverflowError" ("more than " ++ toString limit.toNat ++ " nested calls")

/-- A payment above the balance of the payer. -/
def insufficientFunds (payer : ObjectRef) (amount : Amount) : Throwable :=
  unchecked "InsufficientFundsError" (payer.toText ++ " cannot pay " ++ toString amount.toNat)

/-- A primitive that code may not call. -/
def notWhitelisted (message : String) : Throwable :=
  unchecked "NonWhiteListedCallException" message

/-- A view that changed an object. -/
def sideEffects (message : String) : Throwable :=
  unchecked "SideEffectsInViewMethodException" message

/-- Null in the place of an object. -/
def nullPointer (message : String) : Throwable :=
  unchecked "NullPointerException" message

/-- A value of the wrong type. -/
def classCast (message : String) : Throwable :=
  unchecked "ClassCastException" message

/-- An argument that does not suit. -/
def illegalArgument (message : String) : Throwable :=
  unchecked "IllegalArgumentException" message

/-- Something that is not possible at this point. -/
def illegalState (message : String) : Throwable :=
  unchecked "IllegalStateException" message

/-- A number without meaning or out of range. -/
def arithmetic (message : String) : Throwable :=
  unchecked "ArithmeticException" message

/-- A constructor or method that does not exist. -/
def noSuchMethod (message : String) : Throwable :=
  unchecked "NoSuchMethodException" message

/-- An object that cannot be brought to life. -/
def deserialization (message : String) : Throwable :=
  unchecked "DeserializationError" message

/-- Code that no compiler makes. -/
def malformedCode (message : String) : Throwable :=
  unchecked "VerificationError" message

end Throwable

/-- Why code stopped before its end. -/
inductive Fault where
  /-- A throwable left the code. -/
  | thrown (throwable : Throwable)
  /-- The store cannot be read, which is not the fault of the code. -/
  | internal (cause : StoreError)
  /-- The code was still running after more steps than a transaction can pay for. -/
  | unfinished
  deriving DecidableEq, Repr

end ObjectLedger
