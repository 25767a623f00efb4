import ExtensionPublisher.Certificate.Der
import ExtensionPublisher.Certificate.Digest.Padding

/-!
# The digest of a thumbprint

The Secure Hash Algorithm 1: eighty rounds over five words of 32 bits for every block of 64
bytes. Twenty bytes come out.
-/
namespace ExtensionPublisher.Certificate.Digest.Sha1

/-- The five words that are carried from block to block. -/
structure State where
  a : UInt32
  b : UInt32
  c : UInt32
  d : UInt32
  e : UInt32

/-- A word turned to the left. -/
def turned (word : UInt32) (places : UInt32) : UInt32 :=
  (word <<< places) ||| (word >>> (32 - places))

/-- Where every digest begins. -/
def start : State := ⟨0x67452301, 0xEFCDAB89, 0x98BADCFE, 0x10325476, 0xC3D2E1F0⟩

/-- Words with more of them in front: each is made of four of the sixteen behind it.
-/
def extend : Nat → List UInt32 → List UInt32
  | 0, words => words
  | count + 1, words =>
    let word := words.getD 2 0 ^^^ words.getD 7 0 ^^^ words.getD 13 0 ^^^ words.getD 15 0
    extend count (turned word 1 :: words)

/-- The eighty words of a block: the sixteen that it holds, and those that are made
of them. -/
def schedule (block : List UInt8) : List UInt32 :=
  let words := (groups 4 block).map fun bytes => UInt32.ofNat (Der.number bytes)
  (extend 64 words.reverse).reverse

/-- One round with its word. What is mixed depends on the number of the round. -/
def round (state : State) (index : Nat) (word : UInt32) : State :=
  let ⟨a, b, c, d, e⟩ := state
  let (mixed, constant) : UInt32 × UInt32 :=
    if index < 20 then ((b &&& c) ||| (~~~b &&& d), 0x5A827999)
    else if index < 40 then (b ^^^ c ^^^ d, 0x6ED9EBA1)
    else if index < 60 then ((b &&& c) ||| (b &&& d) ||| (c &&& d), 0x8F1BBCDC)
    else (b ^^^ c ^^^ d, 0xCA62C1D6)
  ⟨turned a 5 + mixed + e + constant + word, a, turned b 30, c, d⟩

/-- The state behind a block. The rounds go on from the state in front of it, and
that is added to their result. -/
def absorb (state : State) (block : List UInt8) : State :=
  let words := schedule block
  let last := (words.zip (List.range words.length)).foldl
    (fun state (word, index) => round state index word) state
  ⟨state.a + last.a, state.b + last.b, state.c + last.c, state.d + last.d, state.e + last.e⟩

/-- The digest of bytes, which are filled up to whole blocks. -/
def digest (bytes : List UInt8) : List UInt8 :=
  let last := (groups 64 (padded 64 8 bytes)).foldl absorb start
  [last.a, last.b, last.c, last.d, last.e].flatMap fun word => bigEndian 4 word.toNat

/-- A digest has twenty bytes, four for each word of the state. -/
theorem digest_length (bytes : List UInt8) : (digest bytes).length = 20 := by
  simp [digest, big_endian_length]

end ExtensionPublisher.Certificate.Digest.Sha1
