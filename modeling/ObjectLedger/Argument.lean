/-
**Texts that users give: references and bytes.**

Each function takes a name for what the text should be, which messages show.

* `Argument.transactionRef`, `Argument.objectRef`: references, blanks around them aside.
* `Argument.hexadecimal`, `Argument.base64`: bytes.
-/
import ObjectLedger.Base64
import ObjectLedger.Hexadecimal
import ObjectLedger.Reference
import ObjectLedger.Text.Blank

namespace ObjectLedger

/-- Why a text that a user gave is refused. -/
inductive ArgumentError where
  | reference (purpose text : String) (cause : ReferenceError)
  | hexadecimal (purpose digits : String) (cause : Hexadecimal.Error)
  | base64 (purpose : String) (cause : Base64.Error)
  deriving DecidableEq, Repr

/-- The wording of a refused text. -/
def ArgumentError.message : ArgumentError → String
  | reference purpose text cause =>
    "Invalid " ++ purpose ++ " '" ++ text ++ "': " ++ cause.message
  | hexadecimal purpose digits cause =>
    "Invalid " ++ purpose ++ " hex '" ++ digits ++ "': " ++ cause.message
  | base64 purpose cause =>
    "Failed to decode " ++ purpose ++ " from base64: " ++ cause.message

namespace Argument

/-- Reads a transaction reference. -/
def transactionRef (purpose text : String) : Except ArgumentError TransactionRef :=
  (TransactionRef.parse (Text.trim text)).mapError (ArgumentError.reference purpose text)

/-- Reads an object reference. -/
def objectRef (purpose text : String) : Except ArgumentError ObjectRef :=
  (ObjectRef.parse (Text.trim text)).mapError (ArgumentError.reference purpose text)

/-- Reads bytes in hexadecimal, after an optional `0x`. -/
def hexadecimal (purpose text : String) : Except ArgumentError (List UInt8) :=
  let digits := withoutHexMark text
  (Hexadecimal.decode digits).mapError (ArgumentError.hexadecimal purpose digits)

/-- Reads bytes in base 64. -/
def base64 (purpose text : String) : Except ArgumentError (List UInt8) :=
  (Base64.decode text).mapError (ArgumentError.base64 purpose)

end Argument

end ObjectLedger
