import ExtensionPublisher.Certificate.Digest.Sha1
import ExtensionPublisher.Certificate.Key
import ExtensionPublisher.Text.Utf8

/-!
# Certificates

A certificate says which public key belongs to whom, and is signed. Its parts are read as far
as their structure goes: names, times and extensions are only looked at, and the signature is
not examined. The key is kept as it is described there, so a certificate is read alike whether
or not anybody can read its key. It is known by its thumbprint, a digest of everything that was
signed and of the signature.
-/
namespace ExtensionPublisher.Certificate

open Der

/-- A certificate: as much of it as matters to credentials. -/
structure Document where
  /-- The bytes of the certificate, without anything behind them and without longer lengths than
  it takes. -/
  encoding : List UInt8
  /-- Which version of certificates it is. -/
  version : Nat
  /-- The description of the public key. -/
  key : Element
  deriving DecidableEq, Repr

namespace Document

/-- The tag of a text with four bytes to the character. -/
def wideTag : UInt8 := 0x1C

/-- The tag of a text with two bytes to the character. -/
def pairTag : UInt8 := 0x1E

/-- The tags of values in a name: texts in several alphabets, bits, sequences, and tags
without a meaning. -/
def valueTags : List UInt8 :=
  [0x03, 0x07, 0x08, 0x09, 0x0B, textTag, 0x0D, 0x0E, 0x0F, 0x12, 0x13, 0x14, 0x16, wideTag,
    0x1D, pairTag, sequenceTag]

/-- Whether bytes are the codes of characters, each of a byte and so many more. -/
def areCharacters (more : Nat) : List UInt8 → Bool
  | [] => true
  | first :: rest =>
    more ≤ rest.length && (number (first :: rest.take more)).isValidChar &&
      areCharacters more (rest.drop more)
termination_by bytes => bytes.length
decreasing_by simp only [List.length_drop, List.length_cons]; omega

/-- Whether an element is a value in a name. A text has to be one, in the encoding
that its tag tells. -/
def isValue (element : Element) : Bool :=
  valueTags.contains element.tag && element.isSound &&
    if element.tag = textTag then (Text.Utf8.decode? element.content).isSome
    else if element.tag = wideTag then areCharacters 3 element.content
    else if element.tag = pairTag then areCharacters 1 element.content
    else true

/-- Whether an element is a name: sets of pairs of an object and a value. Nothing is
made of it, but a certificate with another thing in its place cannot be read. -/
def isName (element : Element) : Bool :=
  ((element.list? sequenceTag).bind fun sets => sets.mapM fun set => do
    let pairs ← set.list? setTag
    pairs.mapM fun pair => do
      match ← pair.sequence? with
      | [object, value] =>
        guard (isValue value)
        object.object?
      | _ => none).isSome

/-- Whether an element is a time. Its digits are not looked at, since no time is
compared. -/
def isTime (element : Element) : Bool := element.tag == 0x17 || element.tag == 0x18

/-- Whether an element is the two ends of a stretch of time. -/
def isValidity (element : Element) : Bool :=
  match element.sequence? with
  | some [first, last] => isTime first && isTime last
  | _ => false

/-- Whether an element is an extension: an object, whether it is critical, and a
value. -/
def isExtension (element : Element) : Bool :=
  match element.sequence? with
  | some [object, value] => object.object?.isSome && value.tag == octetsTag
  | some [object, critical, value] =>
    object.object?.isSome && critical.tag == booleanTag && critical.content.length == 1 &&
      value.tag == octetsTag
  | _ => false

/-- Whether an element is a sequence of extensions that is marked as such. -/
def isExtensions (element : Element) : Bool :=
  ((element.only?).bind (·.list? sequenceTag)).any (·.all isExtension)

/-- What stands behind an identifier with a mark, which is a string of bits and may be left
out. -/
def behindIdentifier (mark : UInt8) (elements : List Element) : Option (List Element) :=
  match elements with
  | [] => some []
  | first :: rest =>
    if first.tag = markedPlain mark then (Element.bitsOf? first.content).map fun _ => rest
    else some (first :: rest)

/-- Whether elements are what may stand behind the key: two identifiers and the extensions,
each of which may be left out. -/
def isRest (elements : List Element) : Bool :=
  match (behindIdentifier 1 elements).bind (behindIdentifier 2) with
  | some [] => true
  | some [extensions] => extensions.tag == marked 3 && isExtensions extensions
  | _ => false

/-- Whether an element is an algorithm. -/
def isAlgorithm (element : Element) : Bool := (Algorithm.read? element).isSome

/-- Whether an element describes a key, of whatever kind. That the key can be used
is not asked here. -/
def isKey (element : Element) : Bool :=
  match element.sequence? with
  | some [algorithm, bits] => isAlgorithm algorithm && bits.bits?.isSome
  | _ => false

/-- The version in front of the other parts, which is the first if it is left out, and those
parts. -/
def version? : List Element → Option (Nat × List Element)
  | [] => none
  | first :: rest =>
    if first.tag = marked 0 then do
      let number ← first.only?
      let _ ← number.integer?
      return ((← number.natural?) + 1, rest)
    else some (1, first :: rest)

/-- A description of an algorithm in as few bytes as it takes. -/
def algorithmWritten (element : Element) : List UInt8 :=
  let parts := (element.sequence?.getD []).flatMap Element.written
  (⟨sequenceTag, parts⟩ : Element).written

/-- A certificate as it counts: what is signed as it stands there, and the rest in as few bytes
as it takes. -/
def encode (signed : List UInt8) (algorithm : Element) (unused : UInt8) (bits : List UInt8) :
    List UInt8 :=
  let signature : Element := ⟨bitsTag, unused :: bits⟩
  (⟨sequenceTag, signed ++ algorithmWritten algorithm ++ signature.written⟩ : Element).written

/-- Read the certificate that bytes begin with. Its signature is not verified. -/
def read? (bytes : List UInt8) : Option Document := do
  let whole ← firstElement? bytes
  match ← whole.sequence? with
  | [signed, algorithm, signature] =>
    guard (isAlgorithm algorithm)
    let (unused, bits) ← Element.bitsOf? (← signature.bytes? bitsTag)
    let (version, parts) ← version? (← signed.sequence?)
    match parts with
    | serial :: inner :: issuer :: validity :: subject :: key :: rest =>
      guard (serial.integer?.isSome && isAlgorithm inner && isName issuer)
      guard (isValidity validity && isName subject && isKey key && isRest rest)
      let encoding := encode (leading whole.content) algorithm unused bits
      return ⟨encoding, version, key⟩
    | _ => none
  | _ => none

/-- The thumbprint in upper-case hexadecimal digits, two for each byte of the
digest. -/
def thumbprint (document : Document) : String :=
  String.ofList ((Digest.Sha1.digest document.encoding).flatMap fun b =>
    [(Nat.digitChar (b.toNat / 16)).toUpper, (Nat.digitChar (b.toNat % 16)).toUpper])

/-- A thumbprint has forty digits, two for each of the twenty bytes of the digest. -/
theorem thumbprint_length (document : Document) : document.thumbprint.length = 40 := by
  have two (bytes : List UInt8) : (bytes.flatMap fun b =>
      [(Nat.digitChar (b.toNat / 16)).toUpper, (Nat.digitChar (b.toNat % 16)).toUpper]).length =
        2 * bytes.length := by
    induction bytes with
    | nil => rfl
    | cons b more inductionHypothesis =>
      rw [List.flatMap_cons, List.length_append, inductionHypothesis, List.length_cons, List.length_cons,
        List.length_cons, List.length_nil]
      omega
  simp [thumbprint, two, Digest.Sha1.digest_length]

end Document

/-- Whether a block announces a certificate. -/
def Armored.isCertificate (block : Armored) : Bool :=
  block.label == "CERTIFICATE" || block.label == "X509 CERTIFICATE"

/-- The certificates in blocks. A certificate has no header, and none is unreadable;
blocks that announce something else are passed over. -/
def readChain? : List Armored → Option (List Document)
  | [] => some []
  | block :: rest =>
    if block.isCertificate then do
      guard (block.header = [])
      let document ← Document.read? block.content
      let others ← readChain? rest
      return document :: others
    else readChain? rest

end ExtensionPublisher.Certificate
