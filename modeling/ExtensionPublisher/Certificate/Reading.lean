import ExtensionPublisher.Certificate.Document

/-!
# Readings of keys

There are many kinds of keys, and of what can be done with a key only two things matter here: it
can be found, and it can be compared. A reading of keys says how. It tells which labels announce
a private key, reads private keys in blocks and public keys in certificates, and knows which of
them belong together. What it can read is left to it. So whatever is shown for an arbitrary
reading holds for a library that knows kinds of keys of which nothing is said in this project.

The usual reading knows the kinds that the service accepts and a few more, and compares keys by
their public parts.
-/
namespace ExtensionPublisher.Certificate

/-- A way of reading keys and of comparing them. Which kinds of keys can be read is
left to it, so that what is said of credentials does not depend on that. -/
structure KeyReading (κ : Type) where
  /-- Whether a label announces a private key. -/
  announces : String → Bool
  /-- The private key in a block, if there is one that can be read. -/
  privateKey? : Armored → Option κ
  /-- The public key that a certificate describes, if it can be read. -/
  publicKey? : Der.Element → Option κ
  /-- Whether a public key is that of a private key. -/
  agree : κ → κ → Bool
  /-- A block that announces a certificate is none with a private key. -/
  apart : ∀ block : Armored, block.isCertificate = true →
    announces block.label = false ∧ privateKey? block = none

namespace KeyReading

variable {κ : Type}

/-- How long a header may be that is passed over. A longer one means that the content has
been changed in some way. -/
def headerLimit : Nat := 10

/-- The first private key in blocks. Blocks that hold none are passed over, but an announced
private key with a long header ends the search. -/
def search (keys : KeyReading κ) : List Armored → Option κ
  | [] => none
  | block :: rest =>
    if keys.announces block.label && headerLimit < block.header.length then none
    else
      match keys.privateKey? block with
      | some key => some key
      | none => keys.search rest

/-- A block without a header is searched for its own key, and then the others are. A
long header would end the search. -/
theorem search_cons (keys : KeyReading κ) {block : Armored} (headless : block.header = [])
    (rest : List Armored) :
    keys.search (block :: rest) = (keys.privateKey? block).or (keys.search rest) := by
  simp only [search, headless, List.length_nil, Nat.not_lt_zero, decide_false, Bool.and_false,
    Bool.false_eq_true, if_false]
  cases keys.privateKey? block <;> rfl

/-- The reading of the kinds that are in use with the service. Keys are compared by
their public parts. -/
def usual : KeyReading PublicKey where
  announces label := (Armored.keyForm? label).isSome
  privateKey? := Armored.key?
  publicKey? := PublicKey.read?
  agree own key := own == key
  apart block announced := by
    obtain ⟨label, header, content⟩ := block
    simp only [Armored.isCertificate, Bool.or_eq_true, beq_iff_eq] at announced
    rcases announced with rfl | rfl <;> exact ⟨rfl, rfl⟩

end KeyReading

end ExtensionPublisher.Certificate
