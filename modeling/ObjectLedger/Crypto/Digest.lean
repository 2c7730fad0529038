/-
**Fingerprints of requests.**

* `Request.digest`: requests that differ in their signatures only have one fingerprint.
-/
import ObjectLedger.Codec.Record
import ObjectLedger.Crypto.Sha2
import ObjectLedger.Hexadecimal

namespace ObjectLedger

/-- The hash, in hexadecimal, of what the signature of the request covers. -/
def Request.digest (request : Request) : String :=
  Hexadecimal.encode (sha256 request.signedBytes)

end ObjectLedger
