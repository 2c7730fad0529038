/-
**The algorithms that sign requests.**

* `SignatureAlgorithm.verify`: whether a signature belongs to a message and a public key in
  base 64, or why the key or the signature is malformed.
-/
import ObjectLedger.Base64
import ObjectLedger.Crypto.Ed25519

namespace ObjectLedger

/-- How the signatures of requests are checked. -/
inductive SignatureAlgorithm where
  /-- Every signature is right. -/
  | empty
  | ed25519
  deriving DecidableEq, Repr, Inhabited

/-- Why a signature cannot be checked. -/
inductive SignatureError where
  | signatureLength (length : Nat)
  | undecodableKey (cause : Base64.Error)
  | keyLength (length : Nat)
  | notAPoint
  deriving DecidableEq, Repr

/-- The wording of a signature that cannot be checked. -/
def SignatureError.message : SignatureError → String
  | signatureLength length => "Signature must be 64 bytes, found " ++ toString length
  | undecodableKey cause => "Failed to decode public key from base64: " ++ cause.message
  | keyLength length => "Public key must be 32 bytes, found " ++ toString length
  | notAPoint => "Invalid public key: signature error: Cannot decompress Edwards point"

namespace SignatureAlgorithm

/-- The name of the algorithm. -/
def name : SignatureAlgorithm → String
  | empty => "empty"
  | ed25519 => "ed25519"

/-- The algorithm of a name. -/
def ofName? (name : String) : Option SignatureAlgorithm :=
  if name = "empty" then some empty
  else if name = "ed25519" then some ed25519
  else none

/-- The signature belongs to the message and the public key. -/
def verify (algorithm : SignatureAlgorithm) (message signature : List UInt8)
    (publicKey : String) : Except SignatureError Bool :=
  match algorithm with
  | empty => .ok true
  | ed25519 =>
    if signature.length ≠ 64 then .error (.signatureLength signature.length)
    else
      match Base64.decode publicKey with
      | .error cause => .error (.undecodableKey cause)
      | .ok keyBytes =>
        if keyBytes.length ≠ 32 then .error (.keyLength keyBytes.length)
        else
          match Ed25519.decompress? keyBytes with
          | none => .error .notAPoint
          | some key => .ok (Ed25519.verify keyBytes key message signature)

end SignatureAlgorithm

end ObjectLedger
