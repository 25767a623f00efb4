import ExtensionPublisher.Proofs.Certificate.Pair
import ExtensionPublisher.Proofs.Certificate.Written

/-!
# The layout of a bundle

A bundle is a text of certificates, private keys and other lines, in any number and any order. Reading
it gives the certificates and the keys in the order in which they stand there, `read_parts`: each search
passes over what the other one looks for. So credentials depend on the certificates and on the first
private key, and on nothing else of the layout, `layout_makes_no_difference`.

Which keys can be read is left to an arbitrary reading of keys. A well-formed block whose key that
reading does not know is passed over like a line. The last line of a bundle need not be ended.
-/
namespace ExtensionPublisher

namespace Certificate

open Armored

/-! ## Bundles -/

/-- A part of a bundle: a line outside blocks, a block with a certificate, or a block with a private
key. What a certificate says does not depend on who reads it, and is given with its block. -/
inductive Part where
  | line (text : List Char)
  | certificate (block : Written) (document : Document)
  | key (block : Written)

section Parts

variable {κ : Type} (keys : KeyReading κ)

namespace Part

/-- The text of a part. -/
def text : Part → List Char
  | .line text => text ++ ['\n']
  | .certificate block _ | .key block => block.text

/-- No block is opened in a line. A block is well-formed and announces what it is, and a certificate is
the one that is given with it. A key is announced as one that is not encrypted; its bytes may be
anything. -/
def IsSound : Part → Prop
  | .line text => IsPlain text
  | .certificate block document =>
    block.IsSound ∧ block.armored.isCertificate = true ∧
      Document.read? block.content = some document
  | .key block =>
    block.IsSound ∧ keys.announces block.label = true ∧ block.label ≠ "ENCRYPTED PRIVATE KEY"

/-- What is read of a part. -/
def armored? : Part → Option Armored
  | .line _ => none
  | .certificate block _ | .key block => some block.armored

/-- The certificate of a part. -/
def certificate? : Part → Option Document
  | .certificate _ document => some document
  | .line _ | .key _ => none

/-- The private key of a part, as far as it can be read. -/
def key? : Part → Option κ
  | .key block => keys.privateKey? block.armored
  | .line _ | .certificate _ _ => none

/-- A part ends in a line feed, so the part behind it begins on a line of its own.
-/
theorem text_ended (part : Part) : ∃ front, part.text = front ++ ['\n'] := by
  cases part with
  | line text => exact ⟨text, rfl⟩
  | certificate block | key block =>
    exact ⟨_, (List.append_assoc _ _ _).symm⟩

/-- A part is read as what it is, and leaves the reader between blocks. So what stands behind it is read
as if the part were not there. -/
theorem read_part {part : Part} (sound : part.IsSound keys) (first : Bool) :
    ∃ later, ∀ rest, readFrom (.between first) (pieces part.text ++ rest) =
      (readFrom (.between later) rest).map (part.armored?.toList ++ ·) := by
  cases part with
  | line text =>
    obtain ⟨later, read⟩ := read_plain sound first
    exact ⟨later, fun rest => by simpa [armored?, Part.text] using read rest⟩
  | certificate block | key block =>
    exact ⟨true, read_written sound.1 first⟩

end Part

/-- The certificates of a bundle, in order. -/
def certificates (parts : List Part) : List Document := parts.filterMap Part.certificate?

/-- The private keys of a bundle that can be read, in order. -/
def privateKeys (parts : List Part) : List κ := parts.filterMap (Part.key? keys)

variable {keys} {parts : List Part}

/-- Parts are read as what they are. Every part leaves the reader between blocks, where the next one
finds it. -/
theorem read_parts (sound : ∀ part ∈ parts, part.IsSound keys) (first : Bool) :
    readFrom (.between first) (pieces (parts.flatMap Part.text)) =
      some (parts.filterMap Part.armored?) := by
  induction parts generalizing first with
  | nil => rfl
  | cons part rest inductionHypothesis =>
    rw [List.forall_mem_cons] at sound
    obtain ⟨later, read⟩ := Part.read_part keys sound.1 first
    obtain ⟨front, ended⟩ := part.text_ended
    rw [List.flatMap_cons, ended, pieces_append, ← ended, read, inductionHypothesis sound.2]
    cases known : part.armored? <;> simp [known]

/-- A block that announces a private key announces no certificate. This is asked of
every reading of keys, as the labels of the two are different. -/
theorem announces_key {block : Armored} (announced : keys.announces block.label = true) :
    ¬block.isCertificate = true := by
  intro certificate
  exact Bool.false_ne_true ((keys.apart block certificate).1.symm.trans announced)

/-- A certificate without a header is read in front of the others. A certificate
with a header would spoil the chain. -/
theorem read_chain_cons {block : Armored} {rest : List Armored} {document : Document}
    {others : List Document} (announced : block.isCertificate = true) (headless : block.header = [])
    (held : Document.read? block.content = some document) (read : readChain? rest = some others) :
    readChain? (block :: rest) = some (document :: others) := by
  have allowed : (guard (block.header = []) : Option Unit) = some () := if_pos headless
  refine (if_pos announced).trans ?_
  rw [allowed, held, read]
  rfl

/-- The certificates of the parts are read, in their order. Blocks with private keys are passed over. -/
theorem read_chain_parts (sound : ∀ part ∈ parts, part.IsSound keys) :
    readChain? (parts.filterMap Part.armored?) = some (certificates parts) := by
  induction parts with
  | nil => rfl
  | cons part rest inductionHypothesis =>
    rw [List.forall_mem_cons] at sound
    have later := inductionHypothesis sound.2
    cases part with
    | line => exact later
    | certificate block document =>
      exact read_chain_cons sound.1.2.1 rfl sound.1.2.2 later
    | key block => exact (if_neg (announces_key sound.1.2.1)).trans later

/-- The first private key of the parts is found. Blocks with certificates are passed over, and so are
blocks whose key cannot be read. -/
theorem search_parts (sound : ∀ part ∈ parts, part.IsSound keys) :
    keys.search (parts.filterMap Part.armored?) = (privateKeys keys parts).head? := by
  induction parts with
  | nil => rfl
  | cons part rest inductionHypothesis =>
    rw [List.forall_mem_cons] at sound
    have later := inductionHypothesis sound.2
    cases part with
    | line => exact later
    | certificate block document =>
      refine (keys.search_cons rfl _).trans ?_
      rw [(keys.apart _ sound.1.2.1).2, Option.none_or]
      exact later
    | key block =>
      refine (keys.search_cons rfl _).trans ?_
      rw [later, privateKeys, privateKeys, List.filterMap_cons, Part.key?]
      cases keys.privateKey? block.armored <;> rfl

end Parts

/-- A text is a bundle of parts. Its last line need not be ended. -/
structure IsBundle {κ : Type} (keys : KeyReading κ) (parts : List Part) (text : List UInt8) : Prop where
  sound : ∀ part ∈ parts, part.IsSound keys
  written : characters text = parts.flatMap Part.text ∨
    characters text ++ ['\n'] = parts.flatMap Part.text

/-- The blocks of a bundle are those of its parts. If the last line is not ended, a
line feed can be added, which makes no difference. -/
theorem read_all_bundle {κ : Type} {keys : KeyReading κ} {parts : List Part} {text : List UInt8}
    (bundle : IsBundle keys parts text) : readAll text = some (parts.filterMap Part.armored?) := by
  rw [readAll]
  rcases bundle.written with whole | open_
  · rw [whole, read_parts bundle.sound]
  · rw [← read_line_feed, open_, read_parts bundle.sound]

end Certificate

open Certificate

namespace CredentialsBy

variable {κ : Type} {keys : KeyReading κ} {subscription : String} {text another : List UInt8}
  {blocks others : List Armored}

/-- Credentials are read where the blocks have certificates and the first private key is found. That
the key belongs to the first certificate is part of being credentials. -/
theorem read_eq_ok_iff (known : Armored.readAll text = some blocks) (credentials : CredentialsBy keys) :
    read keys subscription text = .ok credentials ↔
      Text.blank subscription = false ∧ credentials.subscription = subscription ∧
        readChain? blocks = some (credentials.certificate :: credentials.chain) ∧
        keys.search blocks = some credentials.key := by
  constructor
  · intro made
    obtain ⟨named, filled⟩ := subscription_of_read made
    refine ⟨filled, named, ?_⟩
    simp only [read, filled, known] at made
    repeat' split at made
    all_goals cases made
    exact ⟨by assumption, by assumption⟩
  · rintro ⟨filled, rfl, chained, found⟩
    obtain ⟨own, present, same⟩ := credentials.belongs
    simp only [read, filled, known, chained, found]
    rw [if_neg Bool.false_ne_true]
    split
    · next lacking => cases lacking.symm.trans present
    · next other also =>
      obtain rfl : own = other := Option.some.inj (present.symm.trans also)
      rw [dif_pos same]

/-- Texts are read alike if their blocks have the same certificates and the same
first private key. Nothing else of the blocks is looked at. -/
theorem read_congr (known : Armored.readAll text = some blocks)
    (alike : Armored.readAll another = some others)
    (certificates : readChain? others = readChain? blocks)
    (key : keys.search others = keys.search blocks) :
    read keys subscription another = read keys subscription text := by
  simp only [read, known, alike, certificates, key]

/-- Credentials are read from a bundle if its first certificate and its first
private key belong together. The parts say what the blocks of the text are, so only
the three conditions on them remain. -/
theorem read_bundle_eq_ok_iff {parts : List Part} (filled : Text.blank subscription = false)
    (bundle : IsBundle keys parts text) (credentials : CredentialsBy keys) :
    read keys subscription text = .ok credentials ↔ credentials.subscription = subscription ∧
      certificates parts = credentials.certificate :: credentials.chain ∧
      (privateKeys keys parts).head? = some credentials.key := by
  rw [read_eq_ok_iff (read_all_bundle bundle), read_chain_parts bundle.sound,
    search_parts bundle.sound, Option.some_inj]
  exact and_iff_right filled

end CredentialsBy

/-- The digits of a thumbprint are upper-case hexadecimal ones. Each byte is written
with two digits that are looked up below sixteen. -/
theorem Certificate.Document.digits_of_thumbprint (document : Document) :
    ∀ c ∈ document.thumbprint.toList, c ∈ "0123456789ABCDEF".toList := by
  have digit : ∀ n < 16, (Nat.digitChar n).toUpper ∈ "0123456789ABCDEF".toList := by decide
  intro c member
  rw [thumbprint, String.toList_ofList] at member
  obtain ⟨b, _, written⟩ := List.mem_flatMap.mp member
  have small := b.toNat_lt
  simp only [List.mem_cons, List.not_mem_nil, or_false] at written
  rcases written with rfl | rfl
  · exact digit _ (by omega)
  · exact digit _ (by omega)

/-- The layout of a bundle makes no difference to credentials, whatever kinds of keys can be read.
Bundles with the same certificates and the same first private key give the same credentials or the same
fault. Credentials are made exactly if there are a certificate and a private key, and the first key is
that of the first certificate. Their thumbprint is that of the first certificate, in forty upper-case
hexadecimal digits. -/
theorem layout_makes_no_difference {κ : Type} (keys : KeyReading κ) {subscription : String}
    {parts : List Part} {text : List UInt8} (named : Text.blank subscription = false)
    (bundle : IsBundle keys parts text) :
    (∀ {others : List Part} {another : List UInt8}, IsBundle keys others another →
      certificates others = certificates parts →
      (privateKeys keys others).head? = (privateKeys keys parts).head? →
      CredentialsBy.read keys subscription another = CredentialsBy.read keys subscription text) ∧
    ((∃ credentials, CredentialsBy.read keys subscription text = .ok credentials) ↔
      ∃ certificate key own, (certificates parts).head? = some certificate ∧
        (privateKeys keys parts).head? = some key ∧
        keys.publicKey? certificate.key = some own ∧ keys.agree own key = true) ∧
    ∀ credentials, CredentialsBy.read keys subscription text = .ok credentials →
      ∃ certificate, (certificates parts).head? = some certificate ∧
        credentials.thumbprint = certificate.thumbprint ∧ credentials.thumbprint.length = 40 ∧
        ∀ c ∈ credentials.thumbprint.toList, c ∈ "0123456789ABCDEF".toList := by
  have made (credentials : CredentialsBy keys) :=
    CredentialsBy.read_bundle_eq_ok_iff named bundle credentials
  refine ⟨fun {others another} second same first => ?_, ⟨?_, ?_⟩, ?_⟩
  · apply CredentialsBy.read_congr (read_all_bundle bundle) (read_all_bundle second)
    · rw [read_chain_parts second.sound, read_chain_parts bundle.sound, same]
    · rw [search_parts second.sound, search_parts bundle.sound, first]
  · rintro ⟨credentials, read⟩
    obtain ⟨_, chain, first⟩ := (made _).mp read
    obtain ⟨own, known, belongs⟩ := credentials.belongs
    exact ⟨credentials.certificate, credentials.key, own, by rw [chain, List.head?_cons], first, known,
      belongs⟩
  · rintro ⟨certificate, key, own, leading, first, known, belongs⟩
    obtain ⟨chain, whole⟩ := List.head?_eq_some_iff.mp leading
    exact ⟨⟨subscription, certificate, chain, key, own, known, belongs⟩,
      (made _).mpr ⟨rfl, whole, first⟩⟩
  · intro credentials read
    obtain ⟨_, chain, _⟩ := (made _).mp read
    exact ⟨credentials.certificate, by rw [chain, List.head?_cons], rfl,
      credentials.certificate.thumbprint_length, credentials.certificate.digits_of_thumbprint⟩

/-- A block with the bytes that lines of digits hold, so that it is sound by
evaluation. -/
def blockOf (label : String) (lines : List (List Char)) (returned : Bool) : Armored.Written where
  label := label
  content := (Base64.decode? lines.flatten).getD []
  front := returned
  lines := lines.map (⟨·, returned⟩)
  back := returned

/-- The lines of digits in armor. -/
def digitLines (armor : List UInt8) : List (List Char) :=
  ((Armored.characters armor).splitOn '\n').filter fun line => line.all Base64.isWritten && line ≠ []

/-- A certificate on one long line. -/
def wideCertificate : Armored.Written :=
  blockOf "CERTIFICATE" [(digitLines smallCertificate).flatten] false

/-- The same certificate on several lines that end in another way, under its other label. -/
def narrowCertificate : Armored.Written := blockOf "X509 CERTIFICATE" (digitLines smallCertificate) true

/-- The private key of the certificate. -/
def ownKey (returned : Bool) : Armored.Written :=
  blockOf "RSA PRIVATE KEY" (digitLines smallKey) returned

/-- Another private key. -/
def otherKey : Armored.Written := blockOf "RSA PRIVATE KEY" (digitLines strangeKey) false

/-- What the certificate says. -/
def ownDocument : Document := (Document.read? wideCertificate.content).getD ⟨[], 0, ⟨0, []⟩⟩

/-- A bundle with the key in front, and other lines around it. -/
def keyFirst : List Part :=
  [.line "Bag Attributes".toList, .key (ownKey false), .line [],
    .certificate wideCertificate ownDocument, .line "-----END CERTIFICATE-----".toList]

/-- A bundle with the key behind the certificate, and another key behind that. -/
def keyBehind : List Part :=
  [.certificate narrowCertificate ownDocument, .key (ownKey true), .key otherKey]

/-- The bytes of parts. -/
def partBytes (parts : List Part) : List UInt8 :=
  (parts.flatMap Part.text).map fun c => UInt8.ofNat c.toNat

/-- The key stands in front, and the last line is not ended. The lines around the
blocks have no hyphen, or begin like the end of a block. -/
theorem is_bundle_key_first : IsBundle .usual keyFirst (partBytes keyFirst).dropLast where
  sound := by
    have front : (Part.line "Bag Attributes".toList).IsSound .usual :=
      Armored.plain_of_not_mem (c := '-') (by decide) (by decide)
    have key : (Part.key (ownKey false)).IsSound .usual :=
      ⟨by decide +kernel, by decide +kernel, by decide⟩
    have empty : (Part.line []).IsSound .usual :=
      Armored.plain_of_not_mem (c := '-') (by decide) List.not_mem_nil
    have certificate : (Part.certificate wideCertificate ownDocument).IsSound .usual :=
      ⟨by decide +kernel, by decide +kernel, by decide +kernel⟩
    have back : (Part.line "-----END CERTIFICATE-----".toList).IsSound .usual :=
      Armored.plain_of_not_mem (c := 'B') (by decide) (by decide)
    simp only [keyFirst, List.forall_mem_cons]
    exact ⟨front, key, empty, certificate, back, nofun⟩
  written := .inr (by decide +kernel)

/-- The key stands behind the certificate, and lines end in a carriage return as
well. -/
theorem is_bundle_key_behind : IsBundle .usual keyBehind (partBytes keyBehind) where
  sound := by
    have certificate : (Part.certificate narrowCertificate ownDocument).IsSound .usual :=
      ⟨by decide +kernel, by decide +kernel, by decide +kernel⟩
    have key : (Part.key (ownKey true)).IsSound .usual :=
      ⟨by decide +kernel, by decide +kernel, by decide⟩
    have other : (Part.key otherKey).IsSound .usual :=
      ⟨by decide +kernel, by decide +kernel, by decide⟩
    simp only [keyBehind, List.forall_mem_cons]
    exact ⟨certificate, key, other, nofun⟩
  written := .inl (by decide +kernel)

/-- Two layouts of a certificate and its key give the same credentials. -/
theorem key_may_stand_in_front :
    Text.blank "sub-1" = false ∧ IsBundle .usual keyFirst (partBytes keyFirst).dropLast ∧
      IsBundle .usual keyBehind (partBytes keyBehind) ∧
      CredentialsBy.read .usual "sub-1" (partBytes keyBehind) =
        CredentialsBy.read .usual "sub-1" (partBytes keyFirst).dropLast ∧
      ∃ credentials, CredentialsBy.read .usual "sub-1" (partBytes keyFirst).dropLast = .ok credentials ∧
        credentials.thumbprint = ownDocument.thumbprint ∧ credentials.thumbprint.length = 40 := by
  have named : Text.blank "sub-1" = false := by decide
  obtain ⟨alike, accepted, shown⟩ := layout_makes_no_difference .usual named is_bundle_key_first
  obtain ⟨credentials, read⟩ := accepted.mpr ⟨ownDocument, .rsa 3233 17, .rsa 3233 17, rfl,
    by decide +kernel, by decide +kernel, by decide +kernel⟩
  obtain ⟨certificate, first, thumbprint, size, _⟩ := shown credentials read
  obtain rfl : ownDocument = certificate := Option.some.inj first
  exact ⟨named, is_bundle_key_first, is_bundle_key_behind,
    alike is_bundle_key_behind (by decide +kernel) (by decide +kernel), credentials, read, thumbprint, size⟩

end ExtensionPublisher
