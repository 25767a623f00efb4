import ExtensionPublisher.Credentials
import ExtensionPublisher.Proofs.Certificate.Joined

/-!
# Credentials from two texts

A certificate and a private key that come in two texts are read as one text. So it is the whole that
has to hold a certificate and a private key, and its first private key has to belong to its first
certificate; where they stand is not asked.

If the text of the certificate can be read to its end, the text of the key is read on its own behind
it. Then a certificate in the first text counts before one in the second, and so does a private key. In
particular, where the first text holds a certificate and no private key, the certificate is its first
one and the private key is the first one of the second text: `pair_is_read_as_one`. The conditions are
needed, `pair_may_stand_elsewhere`.

None of this depends on which kinds of keys can be read, or on how keys are compared. It is shown for an
arbitrary reading of keys.
-/
namespace ExtensionPublisher

namespace Certificate

/-- The certificate in a block. -/
def Armored.certificate? (block : Armored) : Option Document :=
  if block.isCertificate then Document.read? block.content else none

variable {κ : Type} (keys : KeyReading κ)

/-- The first certificate in a text that can be read to its end. A text that breaks
off in a block has none, as nothing of it is used. -/
def firstCertificate? (text : List UInt8) : Option Document :=
  (Armored.readAll text).bind (·.findSome? Armored.certificate?)

/-- The first private key in a text that can be read to its end. -/
def firstKey? (text : List UInt8) : Option κ :=
  (Armored.readAll text).bind (·.findSome? keys.privateKey?)

/-- A block that announces a certificate holds one, in front of the others that are
read. A certificate that cannot be read spoils the chain, so none is passed over. -/
theorem certificate_of_read_chain {block : Armored} {rest : List Armored} {documents : List Document}
    (announced : block.isCertificate = true)
    (read : readChain? (block :: rest) = some documents) :
    ∃ document others, Document.read? block.content = some document ∧
      readChain? rest = some others ∧ documents = document :: others := by
  have read := (if_pos announced).symm.trans read
  obtain ⟨_, _, later⟩ := Option.bind_eq_some_iff.mp read
  obtain ⟨document, known, later⟩ := Option.bind_eq_some_iff.mp later
  obtain ⟨others, chained, made⟩ := Option.bind_eq_some_iff.mp later
  exact ⟨document, others, known, chained, (Option.some.inj made).symm⟩

/-- The certificates that are read are those of the blocks, in order. The induction
follows the chain, which looks at each block once. -/
theorem certificates_of_read_chain {blocks : List Armored} {documents : List Document}
    (read : readChain? blocks = some documents) :
    blocks.filterMap Armored.certificate? = documents := by
  induction blocks generalizing documents with
  | nil => exact Option.some.inj read
  | cons block rest inductionHypothesis =>
    rw [List.filterMap_cons, Armored.certificate?]
    by_cases announced : block.isCertificate = true
    · obtain ⟨document, others, known, chained, rfl⟩ := certificate_of_read_chain announced read
      rw [if_pos announced, known, inductionHypothesis chained]
    · rw [if_neg announced]
      exact inductionHypothesis ((if_neg announced).symm.trans read)

/-- The private key that is found is the first one of the blocks. The search also
stops at a header that is too long, but then it finds nothing. -/
theorem first_key_of_found {blocks : List Armored} {key : κ} (found : keys.search blocks = some key) :
    blocks.findSome? keys.privateKey? = some key := by
  induction blocks with
  | nil => cases found
  | cons block rest inductionHypothesis =>
    rw [KeyReading.search] at found
    split at found
    · cases found
    · cases known : keys.privateKey? block with
      | some own =>
        rw [known] at found
        rw [List.findSome?_cons, known, ← found]
      | none =>
        rw [known] at found
        rw [List.findSome?_cons, known]
        exact inductionHypothesis found

/-- The blocks of a text that can be read to its end, and of a text on a line of its
own behind it. Since the first text closes all its blocks, no block reaches from one
text into the other. -/
theorem read_all_of_joined {front behind : List UInt8} {whole : List Armored}
    (readable : (Armored.readAll front).isSome = true) (unmarked : ¬Armored.markBytes <+: behind)
    (read : Armored.readAll (front ++ 0x0A :: behind) = some whole) :
    ∃ blocks others, Armored.readAll front = some blocks ∧ Armored.readAll behind = some others ∧
      whole = blocks ++ others := by
  obtain ⟨blocks, known⟩ := Option.isSome_iff_exists.mp readable
  rw [Armored.read_all_joined known unmarked] at read
  obtain ⟨others, behind, rfl⟩ := Option.map_eq_some_iff.mp read
  exact ⟨blocks, others, known, behind, rfl⟩

end Certificate

open Certificate

namespace CredentialsBy

variable {κ : Type} {keys : KeyReading κ} {subscription : String} {credentials : CredentialsBy keys}

/-- Credentials are made of a certificate and a private key: these are there, the key belongs to the
certificate, and the thumbprint is the certificate's. -/
inductive AreMadeOf (credentials : CredentialsBy keys) : Option Document → Option κ → Prop where
  | mk {document : Document} {own key : κ} (read : keys.publicKey? document.key = some own)
      (belongs : keys.agree own key = true) (thumbprint : credentials.thumbprint = document.thumbprint) :
      AreMadeOf credentials (some document) (some key)

/-- Credentials are made of their own certificate and their own private key. They
carry the proof that the key belongs to the certificate. -/
theorem made_of_own (credentials : CredentialsBy keys) :
    credentials.AreMadeOf (some credentials.certificate) (some credentials.key) := by
  obtain ⟨own, read, belongs⟩ := credentials.belongs
  exact .mk read belongs rfl

/-- What is read as credentials, in the blocks of the text: the certificate is that
of the first block with one, and likewise the key. -/
theorem blocks_of_read {text : List UInt8} (read : read keys subscription text = .ok credentials) :
    ∃ blocks, Armored.readAll text = some blocks ∧
      blocks.findSome? Armored.certificate? = some credentials.certificate ∧
      blocks.findSome? keys.privateKey? = some credentials.key := by
  unfold CredentialsBy.read at read
  split at read
  · cases read
  · split at read
    · cases read
    · next blocks known =>
      refine ⟨blocks, known, ?_⟩
      split at read
      · cases read
      · cases read
      · next certificate chain chained =>
        split at read
        · cases read
        · next key found =>
          repeat' split at read
          all_goals cases read
          rw [← List.head?_filterMap, certificates_of_read_chain chained]
          exact ⟨rfl, first_key_of_found keys found⟩

/-- Credentials are made of the first certificate and the first private key of their
text. -/
theorem made_of_read {text : List UInt8} (read : read keys subscription text = .ok credentials) :
    credentials.AreMadeOf (firstCertificate? text) (firstKey? keys text) := by
  obtain ⟨blocks, known, certificate, key⟩ := blocks_of_read read
  rw [firstCertificate?, firstKey?, known, Option.bind_some, Option.bind_some, certificate, key]
  exact credentials.made_of_own

/-- Credentials from a text that can be read to its end, and another one behind it, are made of the
first certificate and the first private key of the first text, or else of the second. -/
theorem made_of_read_pair {certificate key : List UInt8}
    (read : readPair keys subscription certificate key = .ok credentials)
    (readable : (Armored.readAll certificate).isSome = true)
    (unmarked : ¬Armored.markBytes <+: key) :
    (Armored.readAll key).isSome = true ∧
      credentials.AreMadeOf ((firstCertificate? certificate).or (firstCertificate? key))
        ((firstKey? keys certificate).or (firstKey? keys key)) := by
  obtain ⟨whole, known, foundCertificate, foundKey⟩ := blocks_of_read read
  obtain ⟨blocks, others, front, behind, rfl⟩ := read_all_of_joined readable unmarked known
  rw [List.findSome?_append] at foundCertificate foundKey
  simp only [firstCertificate?, firstKey?, front, behind, Option.bind_some, Option.isSome_some,
    foundCertificate, foundKey, true_and]
  exact credentials.made_of_own

end CredentialsBy

/-- Credentials from two texts are made of the first certificate and the first private key of the one
text that the two make with a line feed between them, whatever kinds of keys can be read. If the first
text can be read to its end and no byte order mark begins the second, then the second can be read too,
and what the first text lacks is taken from the second. In particular, where the first text holds a
certificate and no private key, the credentials are made of its first certificate and of the first
private key of the second text. -/
theorem pair_is_read_as_one {κ : Type} (keys : KeyReading κ) {subscription : String}
    {certificate key : List UInt8} {credentials : CredentialsBy keys}
    (read : CredentialsBy.readPair keys subscription certificate key = .ok credentials) :
    credentials.AreMadeOf (firstCertificate? (certificate ++ 0x0A :: key))
      (firstKey? keys (certificate ++ 0x0A :: key)) ∧
    (¬Armored.markBytes <+: key →
      ((Armored.readAll certificate).isSome = true → (Armored.readAll key).isSome = true ∧
        credentials.AreMadeOf ((firstCertificate? certificate).or (firstCertificate? key))
          ((firstKey? keys certificate).or (firstKey? keys key))) ∧
      (firstCertificate? certificate ≠ none → firstKey? keys certificate = none →
        credentials.AreMadeOf (firstCertificate? certificate) (firstKey? keys key))) := by
  refine ⟨CredentialsBy.made_of_read read, fun unmarked => ⟨?_, ?_⟩⟩
  · exact fun readable => CredentialsBy.made_of_read_pair read readable unmarked
  · intro present absent
    obtain ⟨document, own⟩ := Option.ne_none_iff_exists'.mp present
    obtain ⟨blocks, known, _⟩ := Option.bind_eq_some_iff.mp own
    have readable : (Armored.readAll certificate).isSome = true := by rw [known]; rfl
    have made := (CredentialsBy.made_of_read_pair read readable unmarked).2
    rwa [absent, own, Option.some_or, Option.none_or, ← own] at made

/-- The bytes of a certificate for a small key, in armor. -/
def smallCertificate : List UInt8 := [
  45, 45, 45, 45, 45, 66, 69, 71, 73, 78, 32, 67, 69, 82, 84, 73, 70, 73, 67, 65, 84, 69, 45, 45,
  45, 45, 45, 10, 77, 71, 103, 119, 85, 119, 73, 66, 65, 84, 65, 78, 66, 103, 107, 113, 104, 107,
  105, 71, 57, 119, 48, 66, 65, 81, 115, 70, 65, 68, 65, 65, 77, 66, 52, 88, 68, 84, 81, 53, 77,
  68, 69, 119, 77, 84, 65, 119, 77, 68, 65, 119, 77, 70, 111, 88, 68, 84, 81, 53, 77, 68, 69, 119,
  10, 77, 84, 65, 119, 77, 68, 65, 119, 77, 70, 111, 119, 65, 68, 65, 98, 77, 65, 48, 71, 67, 83,
  113, 71, 83, 73, 98, 51, 68, 81, 69, 66, 65, 81, 85, 65, 65, 119, 111, 65, 77, 65, 99, 67, 65,
  103, 121, 104, 65, 103, 69, 82, 77, 65, 48, 71, 67, 83, 113, 71, 83, 73, 98, 51, 10, 68, 81, 69,
  66, 67, 119, 85, 65, 65, 119, 73, 65, 65, 81, 61, 61, 10, 45, 45, 45, 45, 45, 69, 78, 68, 32,
  67, 69, 82, 84, 73, 70, 73, 67, 65, 84, 69, 45, 45, 45, 45, 45, 10]

/-- The bytes of the private key of the certificate, in armor. -/
def smallKey : List UInt8 := [
  45, 45, 45, 45, 45, 66, 69, 71, 73, 78, 32, 82, 83, 65, 32, 80, 82, 73, 86, 65, 84, 69, 32, 75,
  69, 89, 45, 45, 45, 45, 45, 10, 77, 66, 48, 67, 65, 81, 65, 67, 65, 103, 121, 104, 65, 103, 69,
  82, 65, 103, 73, 75, 119, 81, 73, 66, 80, 81, 73, 66, 78, 81, 73, 66, 78, 81, 73, 66, 77, 81,
  73, 66, 74, 103, 61, 61, 10, 45, 45, 45, 45, 45, 69, 78, 68, 32, 82, 83, 65, 32, 80, 82, 73, 86,
  65, 84, 69, 32, 75, 69, 89, 45, 45, 45, 45, 45, 10]

/-- The bytes of a private key that does not belong to the certificate, in armor. -/
def strangeKey : List UInt8 := [
  45, 45, 45, 45, 45, 66, 69, 71, 73, 78, 32, 82, 83, 65, 32, 80, 82, 73, 86, 65, 84, 69, 32, 75,
  69, 89, 45, 45, 45, 45, 45, 10, 77, 66, 48, 67, 65, 81, 65, 67, 65, 103, 119, 51, 65, 103, 69,
  82, 65, 103, 73, 73, 85, 81, 73, 66, 79, 119, 73, 66, 78, 81, 73, 66, 75, 81, 73, 66, 77, 81,
  73, 66, 77, 81, 61, 61, 10, 45, 45, 45, 45, 45, 69, 78, 68, 32, 82, 83, 65, 32, 80, 82, 73, 86,
  65, 84, 69, 32, 75, 69, 89, 45, 45, 45, 45, 45, 10]

/-- The key of the certificate stands in front of another one, and the line that
closes the certificate is not ended. The line feed between the texts ends it. -/
theorem first_key_of_second_text_counts : ∃ credentials : Credentials,
    CredentialsBy.readPair .usual "sub-1" smallCertificate.dropLast (smallKey ++ strangeKey) =
        .ok credentials ∧
      credentials.AreMadeOf (firstCertificate? smallCertificate.dropLast)
        (firstKey? .usual (smallKey ++ strangeKey)) := by
  have accepted : (CredentialsBy.readPair .usual "sub-1" smallCertificate.dropLast
      (smallKey ++ strangeKey)).toOption.isSome = true := by
    decide +kernel
  cases read : CredentialsBy.readPair .usual "sub-1" smallCertificate.dropLast
      (smallKey ++ strangeKey) with
  | error fault =>
    rw [read] at accepted
    cases accepted
  | ok credentials =>
    have unmarked : ¬Armored.markBytes <+: smallKey ++ strangeKey := by decide +kernel
    exact ⟨credentials, rfl, ((pair_is_read_as_one .usual read).2 unmarked).2 (by decide +kernel)
      (by decide +kernel)⟩

/-- Credentials are read although the second text by itself holds no private key, or another one first:
the key may stand in the first text, may begin there, and may be the second one behind a byte order
mark. -/
theorem pair_may_stand_elsewhere :
    ((CredentialsBy.readPair .usual "sub-1" (smallCertificate ++ smallKey) []).toOption.isSome = true ∧
      firstKey? .usual [] = none) ∧
    ((CredentialsBy.readPair .usual "sub-1" (smallCertificate ++ smallKey.take 31)
        (smallKey.drop 32)).toOption.isSome = true ∧
      firstKey? .usual (smallKey.drop 32) = none) ∧
    ((CredentialsBy.readPair .usual "sub-1" smallCertificate
        (Armored.markBytes ++ strangeKey ++ smallKey)).toOption.isSome = true ∧
      firstKey? .usual (Armored.markBytes ++ strangeKey ++ smallKey) = firstKey? .usual strangeKey ∧
      firstKey? .usual strangeKey ≠
        (firstCertificate? smallCertificate).bind fun document => PublicKey.read? document.key) := by
  decide +kernel

end ExtensionPublisher
