import ExtensionPublisher.Certificate.Der
import ExtensionPublisher.Certificate.Digest.Padding

/-!
# The digest of a seed

The Secure Hash Algorithm with 512 bits: eighty rounds over eight words of 64 bits for every
block of 128 bytes. The constants are the first 64 binary places of the square roots of the
first eight primes, and of the cube roots of the first eighty.
-/
namespace ExtensionPublisher.Certificate.Digest.Sha512

/-- Whether a number is divided by no smaller one but one. -/
def isPrime (n : Nat) : Bool := 2 ≤ n && (List.range n).all fun d => d < 2 || n % d ≠ 0

/-- The first eighty primes. -/
def primes : List Nat := (List.range 410).filter isPrime

/-- The greatest number with a power of at most a number, below a power of two. It
is found bit by bit, the greatest first. -/
def root (degree bits n : Nat) : Nat :=
  (List.range bits).foldr
    (fun bit found =>
      let next := found + Nat.pow 2 bit
      if Nat.pow next degree ≤ n then next else found) 0

/-- The first 64 binary places of a root, behind its whole part. -/
def places (degree n : Nat) : UInt64 := UInt64.ofNat (root degree 70 (n * Nat.pow 2 (64 * degree)))

/-- The constants of the rounds, from the cube roots of primes. -/
def constants : List UInt64 := primes.map (places 3)

/-- Where every digest begins, from the square roots of primes. -/
def start : List UInt64 := (primes.take 8).map (places 2)

/-- A word turned to the right. -/
def turned (word : UInt64) (places : UInt64) : UInt64 :=
  (word >>> places) ||| (word <<< (64 - places))

/-- Words with more of them in front: each is made of four of the sixteen behind it. -/
def extend : Nat → List UInt64 → List UInt64
  | 0, words => words
  | count + 1, words =>
    let near := words.getD 1 0
    let far := words.getD 14 0
    let word := (turned near 19 ^^^ turned near 61 ^^^ (near >>> 6)) + words.getD 6 0 +
      (turned far 1 ^^^ turned far 8 ^^^ (far >>> 7)) + words.getD 15 0
    extend count (word :: words)

/-- The eighty words of a block. -/
def schedule (block : List UInt8) : List UInt64 :=
  let words := (groups 8 block).map fun bytes => UInt64.ofNat (Der.number bytes)
  (extend 64 words.reverse).reverse

/-- One round with its word and its constant. -/
def round (state : List UInt64) (word constant : UInt64) : List UInt64 :=
  match state with
  | [a, b, c, d, e, f, g, h] =>
    let first := h + (turned e 14 ^^^ turned e 18 ^^^ turned e 41) +
      ((e &&& f) ^^^ (~~~e &&& g)) + constant + word
    let second := (turned a 28 ^^^ turned a 34 ^^^ turned a 39) +
      ((a &&& b) ^^^ (a &&& c) ^^^ (b &&& c))
    [first + second, a, b, c, d + first, e, f, g]
  | other => other

/-- The state behind a block. -/
def absorb (state : List UInt64) (block : List UInt8) : List UInt64 :=
  let last := ((schedule block).zip constants).foldl
    (fun state (word, constant) => round state word constant) state
  (state.zip last).map fun (before, after) => before + after

/-- The digest of bytes, which are filled up to whole blocks. -/
def digest (bytes : List UInt8) : List UInt8 :=
  ((groups 128 (padded 128 16 bytes)).foldl absorb start).flatMap fun word =>
    bigEndian 8 word.toNat

end ExtensionPublisher.Certificate.Digest.Sha512
