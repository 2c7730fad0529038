/-
**Ed25519 signatures.**

* `Ed25519.decompress?`: the point that a public key of 32 bytes stands for, if there is one. The
  coordinate is taken modulo the prime, and points of small order are allowed.
* `Ed25519.verify`: whether a signature of 64 bytes belongs to a message and a key. The scalar of
  the signature must be reduced, and the first half must be the very bytes of the expected point.
-/
import ObjectLedger.Crypto.Sha2

namespace ObjectLedger.Ed25519

/-- The prime of the field. -/
def prime : Nat := (1 <<< 255) - 19

/-- The order of the base point. -/
def groupOrder : Nat := (1 <<< 252) + 27742317777372353535851937790883648493

/-! ### The field -/

/-- The power of a number modulo the prime. -/
def power (base exponent : Nat) : Nat :=
  if exponent = 0 then 1
  else
    let half := power (base * base % prime) (exponent / 2)
    if exponent % 2 = 0 then half else half * base % prime
termination_by exponent

/-- The inverse of a number modulo the prime. -/
def inverse (value : Nat) : Nat :=
  power value (prime - 2)

/-- The difference modulo the prime. -/
def subtract (first second : Nat) : Nat :=
  (first + (prime - second % prime)) % prime

/-- The constant of the curve. -/
def curveConstant : Nat :=
  subtract 0 (121665 * inverse 121666 % prime)

/-- A square root of minus one. -/
def rootOfMinusOne : Nat :=
  power 2 ((prime - 1) / 4)

/-- The even square root of a quotient, if there is a root. -/
def rootOfQuotient? (numerator denominator : Nat) : Option Nat :=
  let cube := denominator * denominator % prime * denominator % prime
  let seventh := cube * cube % prime * denominator % prime
  let candidate := numerator * cube % prime *
    power (numerator * seventh % prime) ((prime - 5) / 8) % prime
  let check := denominator * (candidate * candidate % prime) % prime
  let root :=
    if check = numerator then some candidate
    else if check = subtract 0 numerator then some (candidate * rootOfMinusOne % prime)
    else none
  root.map fun root => if root % 2 = 0 then root else subtract 0 root

/-! ### The curve -/

/-- A point in extended coordinates: `x = X / Z`, `y = Y / Z`, `x * y = T / Z`. -/
structure Point where
  x : Nat
  y : Nat
  z : Nat
  t : Nat
  deriving Repr

/-- The neutral point. -/
def Point.neutral : Point := ⟨0, 1, 1, 0⟩

/-- The point with the given coordinates. -/
def Point.ofCoordinates (x y : Nat) : Point :=
  ⟨x, y, 1, x * y % prime⟩

/-- The sum of two points. -/
def Point.add (first second : Point) : Point :=
  let a := subtract first.y first.x * subtract second.y second.x % prime
  let b := (first.y + first.x) * (second.y + second.x) % prime
  let c := 2 * first.t * curveConstant % prime * second.t % prime
  let d := 2 * first.z * second.z % prime
  let e := subtract b a
  let f := subtract d c
  let g := (d + c) % prime
  let h := (b + a) % prime
  ⟨e * f % prime, g * h % prime, f * g % prime, e * h % prime⟩

/-- The opposite point. -/
def Point.negate (point : Point) : Point :=
  { point with x := subtract 0 point.x, t := subtract 0 point.t }

/-- The multiple of a point. -/
def Point.multiple (point : Point) (scalar : Nat) : Point :=
  if scalar = 0 then .neutral
  else
    let double := (point.multiple (scalar / 2))
    let double := double.add double
    if scalar % 2 = 0 then double else double.add point
termination_by scalar

/-- The number whose bytes are given, the lowest first. -/
def littleEndian (bytes : List UInt8) : Nat :=
  bytes.foldr (fun byte value => byte.toNat + 256 * value) 0

/-- The bytes of a number, the lowest first. -/
def littleEndianBytes : Nat → Nat → List UInt8
  | 0, _ => []
  | count + 1, value => UInt8.ofNat value :: littleEndianBytes count (value / 256)

/-- The bytes of a point: the second coordinate, and the lowest bit of the first one on top. -/
def Point.compress (point : Point) : List UInt8 :=
  let inverted := inverse point.z
  let x := point.x * inverted % prime
  let y := point.y * inverted % prime
  littleEndianBytes 32 (y + ((x % 2) <<< 255))

/-- The point that the bytes stand for. -/
def decompress? (bytes : List UInt8) : Option Point :=
  let number := littleEndian bytes
  let y := number % (1 <<< 255) % prime
  let square := y * y % prime
  let root := rootOfQuotient? (subtract square 1) ((curveConstant * square + 1) % prime)
  root.map fun x =>
    Point.ofCoordinates (if (number >>> 255) % 2 = 1 then subtract 0 x else x) y

/-- The base point, whose second coordinate is four fifths. -/
def basePoint : Point :=
  (decompress? (littleEndianBytes 32 (4 * inverse 5 % prime))).getD .neutral

/-! ### Signatures -/

/-- The signature belongs to the message and the key, whose bytes and point are given. -/
def verify (keyBytes : List UInt8) (key : Point) (message signature : List UInt8) : Bool :=
  let pointBytes := signature.take 32
  let scalar := littleEndian (signature.drop 32)
  let hash := littleEndian (sha512 (pointBytes ++ keyBytes ++ message)) % groupOrder
  scalar < groupOrder &&
    ((basePoint.multiple scalar).add (key.multiple hash).negate).compress = pointBytes

end ObjectLedger.Ed25519
