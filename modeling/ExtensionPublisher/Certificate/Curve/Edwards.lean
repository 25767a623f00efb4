import ExtensionPublisher.Certificate.Curve.Residue
import ExtensionPublisher.Certificate.Digest.Sha512

/-!
# The twisted curve

The points of the curve are the pairs of remainders with y² - x² = 1 + dx²y². The sum of two
points has no exceptions. A public key is the multiple of the base point by a number that is
made of the digest of a seed; it is written as one coordinate and the parity of the other, the
least place first.
-/
namespace ExtensionPublisher.Certificate.Curve.Edwards

/-- The prime of the curve. -/
def prime : Nat := Nat.pow 2 255 - 19

/-- The constant of the curve. -/
def d : Nat := minus prime 0 (121665 * inverse prime 121666)

/-- The base point. -/
def base : Nat × Nat :=
  (15112221349535400772501151409588531511454012693041857206046113283949847762202,
    4 * inverse prime 5 % prime)

/-- The sum of two points. One rule serves for all pairs of points, also for a point
and itself. -/
def add (p q : Nat × Nat) : Nat × Nat :=
  let (x₁, y₁) := p
  let (x₂, y₂) := q
  let product := d * x₁ % prime * x₂ % prime * y₁ % prime * y₂ % prime
  ((x₁ * y₂ + y₁ * x₂) * inverse prime (1 + product) % prime,
    (y₁ * y₂ + x₁ * x₂) * inverse prime (minus prime 1 product) % prime)

/-- The number that a digest stands for: of its first 32 bytes, without the last three bits
and the first, and with the second. -/
def scalar (digest : List UInt8) : Nat :=
  let value := Der.number (digest.take 32).reverse
  value % Nat.pow 2 254 / 8 * 8 + Nat.pow 2 254

/-- A point as it is written: one coordinate, with the last bit of the other in
front of it. -/
def written (p : Nat × Nat) : List UInt8 :=
  (Digest.bigEndian 32 (p.2 + p.1 % 2 * Nat.pow 2 255)).reverse

/-- The public key of a seed: the multiple of the base point that the digest of the
seed tells. -/
def publicKey (seed : List UInt8) : List UInt8 :=
  written (multiple add (0, 1) (scalar (Digest.Sha512.digest seed)) base)

end ExtensionPublisher.Certificate.Curve.Edwards
