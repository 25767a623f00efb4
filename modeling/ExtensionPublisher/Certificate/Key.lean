import ExtensionPublisher.Certificate.Armor
import ExtensionPublisher.Certificate.Curve.Edwards
import ExtensionPublisher.Certificate.Curve.Weierstrass

/-!
# Keys

A key is known by its public part. That is what a certificate holds, and what a private key
gives: it is written beside the private numbers, or is computed from them. The private numbers
are read and forgotten; whether they fit the public part is not asked.

A private key is wrapped in a description of its kind, or stands alone under a label that names
the kind. Under such a label it may be wrapped nevertheless.
-/
namespace ExtensionPublisher.Certificate

open Der

/-- The public part of a key. Two keys belong together if their public parts are the
same. -/
inductive PublicKey where
  | rsa (modulus exponent : Nat)
  /-- No point is the point at infinity. -/
  | elliptic (curve : Curve.Name) (point : Option (Nat × Nat))
  | edwards (point : List UInt8)
  deriving DecidableEq, Repr

/-- The kind of a key, as far as kinds are told apart here. -/
inductive KeyKind where
  | rsa
  | elliptic
  | edwards
  deriving DecidableEq, Repr

/-- The name of a kind as an object. -/
def KeyKind.object : KeyKind → List UInt8
  | .rsa => [0x2A, 0x86, 0x48, 0x86, 0xF7, 0x0D, 0x01, 0x01, 0x01]
  | .elliptic => [0x2A, 0x86, 0x48, 0xCE, 0x3D, 0x02, 0x01]
  | .edwards => [0x2B, 0x65, 0x70]

/-- All kinds. -/
def keyKinds : List KeyKind := [.rsa, .elliptic, .edwards]

/-- The kind of a public key. -/
def PublicKey.kind : PublicKey → KeyKind
  | .rsa .. => .rsa
  | .elliptic .. => .elliptic
  | .edwards _ => .edwards

/-- An algorithm: its name, and what it is used with. Of most algorithms only the
name is looked at. -/
structure Algorithm where
  object : List UInt8
  argument : Option Element

/-- Read an algorithm. -/
def Algorithm.read? (element : Element) : Option Algorithm := do
  match ← element.sequence? with
  | [name] => return ⟨← name.object?, none⟩
  | [name, argument] =>
    guard argument.isSound
    return ⟨← name.object?, some argument⟩
  | _ => none

/-- The curve that an element names. -/
def curveName? (element : Element) : Option Curve.Name := do
  let object ← element.object?
  Curve.names.find? (·.object == object)

/-- The element that bytes begin with, whatever is behind it. -/
def firstElement? (bytes : List UInt8) : Option Element := (element? bytes).map (·.1)

/-- The public key in a description of a public key. -/
def PublicKey.read? (element : Element) : Option PublicKey := do
  match ← element.sequence? with
  | [algorithm, bits] =>
    let algorithm ← Algorithm.read? algorithm
    let bits ← bits.bits?
    match ← keyKinds.find? (·.object == algorithm.object) with
    | .rsa =>
      match ← (← firstElement? bits).sequence? with
      | [modulus, exponent] => return .rsa (← modulus.natural?) (← exponent.natural?)
      | _ => none
    | .elliptic =>
      let curve ← curveName? (← algorithm.argument)
      return .elliptic curve (← curve.point? bits)
    | .edwards =>
      guard (algorithm.argument.isNone && bits.length == 32)
      return .edwards bits
  | _ => none

/-- The public part of a private key that factors a number. There are nine numbers; more
factors follow in a sequence, which the first number announces. -/
def rsaKey? (bytes : List UInt8) : Option PublicKey := do
  let parts ← (← firstElement? bytes).sequence?
  let version ← (← parts.head?).small?
  let numbers ← (parts.take 9).mapM Element.natural?
  match numbers, parts.drop 9 with
  | [_, modulus, exponent, _, _, _, _, _, _], more =>
    guard (if version = 1 then more.length == 1 && more.all (·.tag == sequenceTag) else more.isEmpty)
    return .rsa modulus exponent
  | _, _ => none

/-- The public part of a private key on a curve. The curve is named by the key, or else by
what surrounds it; the public point may be left out. -/
def ellipticKey? (around : Option Curve.Name) (bytes : List UInt8) : Option PublicKey := do
  match ← (← firstElement? bytes).sequence? with
  | version :: secret :: more =>
    let _ ← version.small?
    let secret ← secret.bytes? octetsTag
    let named := more.takeWhile (·.tag == marked 0)
    let shown := more.dropWhile (·.tag == marked 0)
    let curve ← match named with
      | [] => around
      | [named] => curveName? (← named.only?)
      | _ => none
    match shown with
    | [] => return .elliptic curve (curve.equation.times (number secret))
    | [shown] =>
      guard (shown.tag = marked 1)
      return .elliptic curve (← curve.point? (← (← shown.only?).bits?))
    | _ => none
  | _ => none

/-- The public part of a private key that is a seed. It is computed, since the seed
is all that there is. -/
def edwardsKey? (bytes : List UInt8) : Option PublicKey := do
  let seed ← (← firstElement? bytes).bytes? octetsTag
  guard (seed.length = 32)
  return .edwards (Curve.Edwards.publicKey seed)

/-- Whether an element is marked as attributes: pairs of an object and a set of
values. -/
def areAttributes (element : Element) : Bool :=
  (element.list? (marked 0)).any (·.all fun pair =>
    match pair.sequence? with
    | some [name, values] =>
      name.object?.isSome && (values.list? setTag).any (·.all Element.isSound)
    | _ => false)

/-- The public part of a private key that is wrapped in a description. The
description tells the kind, and the rest is read accordingly. -/
def wrappedKey? (bytes : List UInt8) : Option PublicKey := do
  match ← (← firstElement? bytes).sequence? with
  | version :: algorithm :: secret :: more =>
    let _ ← version.integer?
    let algorithm ← Algorithm.read? algorithm
    let secret ← secret.bytes? octetsTag
    guard (more.length ≤ 1 && more.all areAttributes)
    match ← keyKinds.find? (·.object == algorithm.object) with
    | .rsa => rsaKey? secret
    | .elliptic => ellipticKey? (some (← curveName? (← algorithm.argument))) secret
    | .edwards =>
      guard algorithm.argument.isNone
      edwardsKey? secret
  | _ => none

/-- The public part of a private key that is wrapped, if it is of a kind. -/
def wrappedKeyOf? (kind : KeyKind) (bytes : List UInt8) : Option PublicKey :=
  (wrappedKey? bytes).filter (·.kind == kind)

namespace Armored

/-- What a private key may be in a block: wrapped in a description of its kind, or
alone under a label that tells the kind. -/
inductive KeyForm where
  | wrapped
  | alone (kind : KeyKind)
  deriving DecidableEq, Repr

/-- The form of the private key that a label announces. An encrypted key is
announced as well, though it cannot be read. -/
def keyForm? : String → Option KeyForm
  | "PRIVATE KEY" | "ENCRYPTED PRIVATE KEY" => some .wrapped
  | "RSA PRIVATE KEY" => some (.alone .rsa)
  | "EC PRIVATE KEY" => some (.alone .elliptic)
  | _ => none

/-- The public part of the private key in a block. A key that should stand alone may
be wrapped nevertheless. -/
def key? (block : Armored) : Option PublicKey :=
  match keyForm? block.label with
  | some .wrapped => wrappedKey? block.content
  | some (.alone .rsa) => rsaKey? block.content <|> wrappedKeyOf? .rsa block.content
  | some (.alone .elliptic) =>
    ellipticKey? none block.content <|> wrappedKeyOf? .elliptic block.content
  | some (.alone .edwards) | none => none

end Armored

end ExtensionPublisher.Certificate
