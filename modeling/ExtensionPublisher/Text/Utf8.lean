/-!
# UTF-8

Bytes are read as UTF-8 by a machine that takes one byte at a time. Between characters it
is idle; inside one it owes a number of further bytes and knows the range that the next of
them must lie in, so overlong forms, surrogates and numbers past the last code point are
refused at the first byte that rules them out. What it reads is a list of slots, one for
each character and one, empty, for each maximal run of bytes that begins a character and
does not finish it.

`decode?` accepts bytes whose slots are all filled. `decodeLossy` puts the replacement
character into the empty ones.
-/
namespace ExtensionPublisher.Text.Utf8

/-- The bytes of a text, those of one character behind those of another. -/
def encode (cs : List Char) : List UInt8 := cs.flatMap String.utf8EncodeChar

/-- Inside a character: how many bytes are owed, the range of the next one, and the bits
read so far. -/
structure Partial where
  owed : Nat
  least : UInt8
  greatest : UInt8
  bits : Nat

/-- What the first byte of a character can be. -/
inductive Lead where
  /-- A character of one byte. -/
  | whole (c : Char)
  /-- The beginning of a longer character. -/
  | opens (p : Partial)
  /-- No character begins with this byte. -/
  | invalid

/-- Classify the first byte of a character. The range of the next byte is narrower
where a wider one would admit an overlong form, a surrogate, or what is past the
last code point. -/
def lead (b : UInt8) : Lead :=
  if b < 0x80 then .whole (Char.ofNat b.toNat)
  else if 0xC2 ≤ b ∧ b ≤ 0xDF then .opens ⟨1, 0x80, 0xBF, b.toNat - 0xC0⟩
  else if b = 0xE0 then .opens ⟨2, 0xA0, 0xBF, 0⟩
  else if b = 0xED then .opens ⟨2, 0x80, 0x9F, 0xD⟩
  else if 0xE1 ≤ b ∧ b ≤ 0xEF then .opens ⟨2, 0x80, 0xBF, b.toNat - 0xE0⟩
  else if b = 0xF0 then .opens ⟨3, 0x90, 0xBF, 0⟩
  else if 0xF1 ≤ b ∧ b ≤ 0xF3 then .opens ⟨3, 0x80, 0xBF, b.toNat - 0xF0⟩
  else if b = 0xF4 then .opens ⟨3, 0x80, 0x8F, 4⟩
  else .invalid

/-- The slots of the bytes, from between two characters (`none`) or from inside one. A byte
that does not continue the character begun leaves an empty slot for it and is then read as
a first byte. -/
def slotsFrom : Option Partial → List UInt8 → List (Option Char)
  | none, [] => []
  | some _, [] => [none]
  | state, b :: rest =>
    let restart (before : List (Option Char)) :=
      match lead b with
      | .whole c => before ++ some c :: slotsFrom none rest
      | .opens p => before ++ slotsFrom (some p) rest
      | .invalid => before ++ none :: slotsFrom none rest
    match state with
    | none => restart []
    | some p =>
      if p.least ≤ b ∧ b ≤ p.greatest then
        let bits := p.bits * 64 + (b.toNat - 0x80)
        if p.owed ≤ 1 then some (Char.ofNat bits) :: slotsFrom none rest
        else slotsFrom (some ⟨p.owed - 1, 0x80, 0xBF, bits⟩) rest
      else restart [none]

/-- The slots of a whole byte sequence. -/
def slots (bytes : List UInt8) : List (Option Char) := slotsFrom none bytes

/-- The text of well-formed bytes. One empty slot is enough for there to be no text.
-/
def decode? (bytes : List UInt8) : Option (List Char) := (slots bytes).mapM id

/-- The text of any bytes, each malformed run shown as the replacement character.
Nothing is ever refused. -/
def decodeLossy (bytes : List UInt8) : List Char :=
  (slots bytes).map fun slot => slot.getD '\uFFFD'

end ExtensionPublisher.Text.Utf8
