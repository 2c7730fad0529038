/-
**A signature covers everything in a request but itself.**

* `Header.Agrees`, `Request.SameButSignature`: two requests are of the same kind and equal in every
  field but the signature. `Request.sameButSignature_iff`: without signatures they are the same.
* `Request.oversize?_withoutSignature`: a request that can be written can be signed.
* **`Request.signedBytes_eq_iff`**: the same bytes are signed for requests that are the same but for
  their signatures, and for no others.
-/
import ObjectLedger.Proofs.Codec.Records

namespace ObjectLedger

namespace Codec

variable {α β : Type}

/-- What can be written is written differently from all else that can be. -/
theorem encode_inj {codec : Codec α} (roundTrips : codec.RoundTrips) {first second : α}
    (fits : codec.oversize? first = none) (fitsToo : codec.oversize? second = none)
    (same : codec.encode first = codec.encode second) : first = second := by
  have read := decodeAll_encode roundTrips fits
  rw [same, decodeAll_encode roundTrips fitsToo] at read
  exact (Except.ok.inj read).symm

theorem pair_oversize?_eq_none {first : Codec α} {second : Codec β} {value : α × β} :
    (pair first second).oversize? value = none ↔
      first.oversize? value.1 = none ∧ second.oversize? value.2 = none :=
  Option.orElse_eq_none ..

end Codec

/-! ### Fields other than the signature -/

/-- Two headers are equal in every field but the signature. -/
structure Header.Agrees (first second : Header) : Prop where
  caller_eq : first.caller = second.caller
  nonce_eq : first.nonce = second.nonce
  chainId_eq : first.chainId = second.chainId
  gasLimit_eq : first.gasLimit = second.gasLimit
  gasPrice_eq : first.gasPrice = second.gasPrice
  classpath_eq : first.classpath = second.classpath

/-- Headers that can be written can be written with an empty signature. -/
theorem Header.oversize?_withoutSignature {header : Header}
    (fits : Codec.header.oversize? header = none) :
    Codec.header.oversize? { header with signature := [] } = none := by
  obtain ⟨caller, fits⟩ := Codec.pair_oversize?_eq_none.mp fits
  obtain ⟨nonce, fits⟩ := Codec.pair_oversize?_eq_none.mp fits
  obtain ⟨chainId, -⟩ := Codec.pair_oversize?_eq_none.mp fits
  -- all that follows the name of the chain has a fixed width, but for the signature
  exact Codec.pair_oversize?_eq_none.mpr ⟨caller, Codec.pair_oversize?_eq_none.mpr
    ⟨nonce, Codec.pair_oversize?_eq_none.mpr ⟨chainId, rfl⟩⟩⟩

namespace Request

variable {request first second : Request}

/-- Two requests are of the same kind and equal in every field but the signature of the header,
which initial requests do not have. -/
inductive SameButSignature : Request → Request → Prop
  | installInitialJar (jar : List UInt8) (dependencies : List Classpath) :
      SameButSignature (.installInitialJar jar dependencies) (.installInitialJar jar dependencies)
  | createGamete (classpath : Classpath) (amount : Amount) (publicKey : String) :
      SameButSignature (.createGamete classpath amount publicKey)
        (.createGamete classpath amount publicKey)
  | nameManifest (classpath : Classpath) (manifest : ObjectRef) :
      SameButSignature (.nameManifest classpath manifest) (.nameManifest classpath manifest)
  | paid {header other : Header} (agrees : header.Agrees other) (action : Action) :
      SameButSignature (.paid header action) (.paid other action)

/-- Requests are the same but for their signatures if they are the same without signatures. -/
theorem sameButSignature_iff :
    first.SameButSignature second ↔ first.withoutSignature = second.withoutSignature := by
  constructor
  · intro same
    cases same with
    | installInitialJar | createGamete | nameManifest => rfl
    | paid agrees action =>
      obtain ⟨caller, nonce, chainId, gasLimit, gasPrice, classpath⟩ := agrees
      simp only [withoutSignature, withSignature, caller, nonce, chainId, gasLimit, gasPrice,
        classpath]
  · intro equal
    cases first with
    | installInitialJar | createGamete | nameManifest =>
      cases second <;> cases equal
      constructor
    | paid header action =>
      cases second with
      | installInitialJar | createGamete | nameManifest => cases equal
      | paid other asked =>
        obtain ⟨headers, rfl⟩ := paid.inj equal
        obtain ⟨caller, nonce, chainId, gasLimit, gasPrice, classpath, -⟩ := Header.mk.inj headers
        exact .paid ⟨caller, nonce, chainId, gasLimit, gasPrice, classpath⟩ action

/-- A request that can be written can be written for signing. -/
theorem oversize?_withoutSignature (fits : Codec.request.oversize? request = none) :
    Codec.request.oversize? request.withoutSignature = none := by
  cases request with
  | installInitialJar | createGamete | nameManifest => exact fits
  | paid header action =>
    cases action with
    | installJar | construct | invoke | invokeStatic =>
      obtain ⟨whole, asked⟩ := Codec.pair_oversize?_eq_none.mp fits
      exact Codec.pair_oversize?_eq_none.mpr ⟨Header.oversize?_withoutSignature whole, asked⟩

/-- **Signatures cannot be transplanted.** The same bytes are signed for two requests if, and only
if, they are of the same kind and equal in every field but the signature of the header. -/
theorem signedBytes_eq_iff (fits : Codec.request.oversize? first.withoutSignature = none)
    (fitsToo : Codec.request.oversize? second.withoutSignature = none) :
    first.signedBytes = second.signedBytes ↔ first.SameButSignature second := by
  rw [sameButSignature_iff]
  exact ⟨Codec.encode_inj Codec.request_roundTrips fits fitsToo, congrArg Codec.request.encode⟩

end Request

/-! ### Two payments -/

namespace Payments

def header (signature : List UInt8) : Header :=
  ⟨⟨⟨1⟩, 0⟩, 3, "main", 1000, 1, ⟨⟨0⟩, true⟩, signature⟩

/-- A request to pay 50 coins to a receiver. -/
def paying (receiver : ObjectRef) (signature : List UInt8) : Request :=
  .paid (header signature)
    (.invoke ⟨"Account", "receive", [.bigInteger], none⟩ receiver [.bigInteger 50])

def shop : ObjectRef := ⟨⟨1⟩, 1⟩

def thief : ObjectRef := ⟨⟨1⟩, 2⟩

/-- The signature of a payment does not count for what is signed, its receiver does. -/
theorem signedBytes_eq_iff_paying :
    Codec.request.oversize? (paying shop []).withoutSignature = none ∧
    Codec.request.oversize? (paying shop [7, 7]).withoutSignature = none ∧
    Codec.request.oversize? (paying thief [7, 7]).withoutSignature = none ∧
    (paying shop []).signedBytes = (paying shop [7, 7]).signedBytes ∧
    (paying shop []).signedBytes ≠ (paying thief [7, 7]).signedBytes := by
  have fits : Codec.request.oversize? (paying shop []).withoutSignature = none :=
    Request.oversize?_withoutSignature (by decide +kernel)
  have fitsToo : Codec.request.oversize? (paying shop [7, 7]).withoutSignature = none :=
    Request.oversize?_withoutSignature (by decide +kernel)
  have stolen : Codec.request.oversize? (paying thief [7, 7]).withoutSignature = none :=
    Request.oversize?_withoutSignature (by decide +kernel)
  have agrees : (header []).Agrees (header [7, 7]) := ⟨rfl, rfl, rfl, rfl, rfl, rfl⟩
  refine ⟨fits, fitsToo, stolen,
    (Request.signedBytes_eq_iff fits fitsToo).mpr (.paid agrees _), fun same => ?_⟩
  have moved := (Request.signedBytes_eq_iff fits stolen).mp same
  cases moved

end Payments

end ObjectLedger
