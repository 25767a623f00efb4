/-!
# Distinguished encoding

Structured values are written as elements: a tag, the length of the content, and the content.
The content of a structured element is a sequence of elements. Lengths are given before the
content, in one byte or behind the number of their bytes; tags have one byte. Behind a length of
several bytes there is something, even if it is no content. Reading an element says nothing
about the bytes behind it.
-/
namespace ExtensionPublisher.Certificate.Der

/-- One element. -/
structure Element where
  tag : UInt8
  content : List UInt8
  deriving DecidableEq, Repr

/-- The number that bytes hold, the greatest place first. -/
def number (bytes : List UInt8) : Nat := bytes.foldl (fun value b => value * 256 + b.toNat) 0

/-- Read a length: in one byte, or in as many more as the first one tells. Longer
ways of writing it are permitted. -/
def length? : List UInt8 → Option (Nat × List UInt8)
  | [] => none
  | first :: rest =>
    if first < 0x80 then some (first.toNat, rest)
    else
      let places := first.toNat - 0x80
      if places = 0 ∨ rest.length ≤ places then none
      else some (number (rest.take places), rest.drop places)

/-- Read an element, and what follows it. Tags of more than one byte are not read.
-/
def element? : List UInt8 → Option (Element × List UInt8)
  | [] => none
  | tag :: rest =>
    if tag &&& 0x1F = 0x1F then none
    else
      match length? rest with
      | none => none
      | some (length, rest) =>
        if rest.length < length then none
        else some (⟨tag, rest.take length⟩, rest.drop length)

/-- What follows a length is shorter than what began with it, for the length takes at least one byte. -/
theorem length_lt {bytes rest : List UInt8} {length : Nat} (read : length? bytes = some (length, rest)) :
    rest.length < bytes.length := by
  cases bytes with
  | nil => simp [length?] at read
  | cons first more =>
    simp only [length?] at read
    split at read
    · simp only [Option.some.injEq, Prod.mk.injEq] at read
      simp [← read.2]
    · split at read
      · cases read
      · simp only [Option.some.injEq, Prod.mk.injEq] at read
        simp only [← read.2, List.length_drop, List.length_cons]
        omega

/-- What follows an element is shorter than what began with it, as an element has a
tag. This is why reading a sequence comes to its end. -/
theorem element_lt {bytes rest : List UInt8} {element : Element}
    (read : element? bytes = some (element, rest)) : rest.length < bytes.length := by
  cases bytes with
  | nil => simp [element?] at read
  | cons tag more =>
    simp only [element?] at read
    split at read
    · cases read
    · split at read
      · cases read
      · next length tail known =>
        split at read
        · cases read
        · have shorter := length_lt known
          simp only [Option.some.injEq, Prod.mk.injEq] at read
          simp only [← read.2, List.length_drop, List.length_cons]
          omega

/-- All elements of a sequence, with nothing behind the last. -/
def elements? (bytes : List UInt8) : Option (List Element) :=
  match bytes with
  | [] => some []
  | first :: more =>
    match _known : element? (first :: more) with
    | none => none
    | some (element, rest) => (elements? rest).map (element :: ·)
termination_by bytes.length
decreasing_by exact element_lt _known

/-- The element that bytes begin with, as it is written there. It may be written in
more bytes than it takes. -/
def leading (bytes : List UInt8) : List UInt8 :=
  match element? bytes with
  | none => []
  | some (_, rest) => bytes.take (bytes.length - rest.length)

/-- The bytes of a number, the greatest place first, as few as it takes. -/
def numberBytes (value : Nat) : List UInt8 :=
  if value < 256 then [UInt8.ofNat value] else numberBytes (value / 256) ++ [UInt8.ofNat value]
termination_by value
decreasing_by omega

/-- A length in as few bytes as it takes. -/
def lengthBytes (length : Nat) : List UInt8 :=
  if length < 0x80 then [UInt8.ofNat length]
  else
    let places := numberBytes length
    UInt8.ofNat (0x80 + places.length) :: places

/-- An element as it is written in as few bytes as it takes. -/
def Element.written (element : Element) : List UInt8 :=
  element.tag :: lengthBytes element.content.length ++ element.content

/-! Tags -/

def booleanTag : UInt8 := 0x01
def integerTag : UInt8 := 0x02
def bitsTag : UInt8 := 0x03
def octetsTag : UInt8 := 0x04
def nullTag : UInt8 := 0x05
def objectTag : UInt8 := 0x06
def enumeratedTag : UInt8 := 0x0A
def textTag : UInt8 := 0x0C
def sequenceTag : UInt8 := 0x30
def setTag : UInt8 := 0x31

/-- The tag of a marked element that holds elements. -/
def marked (mark : UInt8) : UInt8 := 0xA0 ||| mark

/-- The tag of a marked element that holds bytes. -/
def markedPlain (mark : UInt8) : UInt8 := 0x80 ||| mark

namespace Element

/-- The elements of an element with a tag. -/
def within? (element : Element) (tag : UInt8) : Option (List Element) :=
  if element.tag = tag then elements? element.content else none

/-- The elements of a sequence. -/
def sequence? (element : Element) : Option (List Element) := element.within? sequenceTag

/-- The elements of a list, of which the tag need not tell that it has elements. -/
def list? (element : Element) (tag : UInt8) : Option (List Element) :=
  if element.tag = tag ∨ element.tag = tag &&& 0xDF then elements? element.content else none

/-- The only element of an element. -/
def only? (element : Element) : Option Element :=
  match elements? element.content with
  | some [inner] => some inner
  | _ => none

/-- The bytes of an element with a tag. -/
def bytes? (element : Element) (tag : UInt8) : Option (List UInt8) :=
  if element.tag = tag then some element.content else none

/-- The bytes of a string of bits, and the number of bits that the last byte does not use. They
are counted in front; there are at most seven, and they are read as zeros. -/
def bitsOf? : List UInt8 → Option (UInt8 × List UInt8)
  | [] => none
  | unused :: bits =>
    if 7 < unused then none
    else
      let last := bits.getLast?.toList.map fun last => last >>> unused <<< unused
      some (if bits.isEmpty then 0 else unused, bits.dropLast ++ last)

/-- The bytes of an element that is a string of bits. -/
def bits? (element : Element) : Option (List UInt8) := do
  let (_, bits) ← bitsOf? (← element.bytes? bitsTag)
  return bits

/-- The name of an object: numbers in seven bits to the byte, each of which has an end and no
leading zeros. -/
def object? (element : Element) : Option (List UInt8) :=
  match element.bytes? objectTag with
  | none => none
  | some name =>
    let starts := (0 : UInt8) :: name
    let padded := (starts.zip name).any fun (before, b) => before < 0x80 && b == 0x80
    if (name.getLast?.any (· < 0x80)) && !padded then some name else none

/-- Whether bytes are an integer, with no more of them than it needs. The first bit
is the sign. -/
def isInteger : List UInt8 → Bool
  | [] => false
  | 0 :: second :: _ => 0x80 ≤ second
  | 255 :: second :: _ => second < 0x80
  | _ => true

/-- The bytes of an integer. -/
def integer? (element : Element) : Option (List UInt8) :=
  (element.bytes? integerTag).filter isInteger

/-- The value of an integer that is not negative. Nothing is zero. -/
def natural? (element : Element) : Option Nat := (element.bytes? integerTag).map number

/-- The value of an integer that has at most 32 bits, if it is not negative. Nothing is zero. -/
def small? (element : Element) : Option Nat := do
  let bytes ← element.bytes? integerTag
  guard (bytes.isEmpty || element.integer?.isSome && bytes.length ≤ 4)
  return number bytes

/-- Whether the content is one that the tag allows, as far as the tag is one of a
few. Others may hold anything, but a sequence or a set has to tell that it has
elements. -/
def isSound (element : Element) : Bool :=
  if element.tag = integerTag ∨ element.tag = enumeratedTag then isInteger element.content
  else if element.tag = bitsTag then element.bits?.isSome
  else if element.tag = objectTag then element.object?.isSome
  else if element.tag = booleanTag then element.content.length == 1
  else if element.tag = nullTag then element.content.isEmpty
  else element.tag != (sequenceTag &&& 0xDF) && element.tag != (setTag &&& 0xDF)

end Element

end ExtensionPublisher.Certificate.Der
