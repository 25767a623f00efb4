import ExtensionPublisher.Certificate.Curve.Residue
import ExtensionPublisher.Certificate.Der

/-!
# Curves of the third degree

The points of a curve are the pairs of remainders with y² = x³ + ax + b, and a point at
infinity, which adds nothing. A public point is a multiple of the base point of its curve. It
is written with both coordinates, or with one and the parity of the other; the point at infinity
is written as a zero.
-/
namespace ExtensionPublisher.Certificate.Curve

/-- The curves by name. -/
inductive Name where
  | p256
  | p384
  | p521
  | k256
  deriving DecidableEq, Repr

/-- A curve and its base point. -/
structure Equation where
  prime : Nat
  a : Nat
  b : Nat
  base : Nat × Nat

/-- All names. -/
def names : List Name := [.p256, .p384, .p521, .k256]

namespace Name

/-- The name as an object. -/
def object : Name → List UInt8
  | .p256 => [0x2A, 0x86, 0x48, 0xCE, 0x3D, 0x03, 0x01, 0x07]
  | .p384 => [0x2B, 0x81, 0x04, 0x00, 0x22]
  | .p521 => [0x2B, 0x81, 0x04, 0x00, 0x23]
  | .k256 => [0x2B, 0x81, 0x04, 0x00, 0x0A]

/-- How many bytes a coordinate has. -/
def places : Name → Nat
  | .p256 | .k256 => 32
  | .p384 => 48
  | .p521 => 66

/-- The curve of a name. -/
def equation : Name → Equation
  | .p256 => {
      prime := 0xffffffff00000001000000000000000000000000ffffffffffffffffffffffff
      a := 0xffffffff00000001000000000000000000000000fffffffffffffffffffffffc
      b := 0x5ac635d8aa3a93e7b3ebbd55769886bc651d06b0cc53b0f63bce3c3e27d2604b
      base := (0x6b17d1f2e12c4247f8bce6e563a440f277037d812deb33a0f4a13945d898c296,
        0x4fe342e2fe1a7f9b8ee7eb4a7c0f9e162bce33576b315ececbb6406837bf51f5) }
  | .p384 => {
      prime := Nat.pow 2 384 - Nat.pow 2 128 - Nat.pow 2 96 + Nat.pow 2 32 - 1
      a := Nat.pow 2 384 - Nat.pow 2 128 - Nat.pow 2 96 + Nat.pow 2 32 - 4
      b := 0xb3312fa7e23ee7e4988e056be3f82d19181d9c6efe8141120314088f5013875ac656398d8a2ed19d2a85c8edd3ec2aef
      base := (
        0xaa87ca22be8b05378eb1c71ef320ad746e1d3b628ba79b9859f741e082542a385502f25dbf55296c3a545e3872760ab7,
        0x3617de4a96262c6f5d9e98bf9292dc29f8f41dbd289a147ce9da3113b5f0b8c00a60b1ce1d7e819d7a431d7c90ea0e5f) }
  | .p521 => {
      prime := Nat.pow 2 521 - 1
      a := Nat.pow 2 521 - 4
      b := 0x51953eb9618e1c9a1f929a21a0b68540eea2da725b99b315f3b8b489918ef109e156193951ec7e937b1652c0bd3bb1bf073573df883d2c34f1ef451fd46b503f00
      base := (
        0xc6858e06b70404e9cd9e3ecb662395b4429c648139053fb521f828af606b4d3dbaa14b5e77efe75928fe1dc127a2ffa8de3348b3c1856a429bf97e7e31c2e5bd66,
        0x11839296a789a3bc0045c8a5fb42c7d1bd998f54449579b446817afbd17273e662c97ee72995ef42640c550b9013fad0761353c7086a272c24088be94769fd16650) }
  | .k256 => {
      prime := Nat.pow 2 256 - Nat.pow 2 32 - 977
      a := 0
      b := 7
      base := (0x79be667ef9dcbbac55a06295ce870b07029bfcdb2dce28d959f2815b16f81798,
        0x483ada7726a3c4655da4fbfc0e1108a8fd17b448a68554199c47d08ffb10d4b8) }

end Name

namespace Equation

/-- The square that goes with a coordinate. -/
def squareAt (curve : Equation) (x : Nat) : Nat := (x * x * x + curve.a * x + curve.b) % curve.prime

/-- Whether a pair of remainders is a point of the curve. Bytes may hold any pair,
so this is asked of each. -/
def holds (curve : Equation) (x y : Nat) : Bool :=
  x < curve.prime && y < curve.prime && y * y % curve.prime == curve.squareAt x

/-- The sum of two points; nothing is the point at infinity. A point and itself have
a rule of their own. -/
def add (curve : Equation) : Option (Nat × Nat) → Option (Nat × Nat) → Option (Nat × Nat)
  | none, q => q
  | p, none => p
  | some (x₁, y₁), some (x₂, y₂) =>
    let p := curve.prime
    let third (slope : Nat) : Option (Nat × Nat) :=
      let x := minus p (slope * slope) (x₁ + x₂)
      some (x, minus p (slope * minus p x₁ x) y₁)
    if x₁ ≠ x₂ then third (minus p y₂ y₁ * inverse p (minus p x₂ x₁) % p)
    else if y₁ ≠ y₂ ∨ y₁ = 0 then none
    else third ((3 * x₁ * x₁ + curve.a) * inverse p (2 * y₁) % p)

/-- A multiple of the base point. -/
def times (curve : Equation) (count : Nat) : Option (Nat × Nat) :=
  multiple curve.add none count (some curve.base)

end Equation

namespace Name

/-- The point that bytes hold, which is nothing for the point at infinity. A point
may be written with one coordinate, from which the other is computed. -/
def point? (name : Name) (bytes : List UInt8) : Option (Option (Nat × Nat)) := do
  let curve := name.equation
  match bytes with
  | [] => none
  | [0] => return none
  | form :: rest =>
    let x := Der.number (rest.take name.places)
    if form = 2 ∨ form = 3 then
      guard (rest.length = name.places)
      let root ← root? curve.prime (curve.squareAt x)
      let y := if root % 2 = form.toNat % 2 then root else curve.prime - root
      guard (curve.holds x y)
      return some (x, y)
    else
      let y := Der.number (rest.drop name.places)
      guard (rest.length = 2 * name.places)
      guard (form = 4 ∨ (form = 6 ∨ form = 7) ∧ y % 2 = form.toNat % 2)
      guard (curve.holds x y)
      return some (x, y)

end Name

end ExtensionPublisher.Certificate.Curve
