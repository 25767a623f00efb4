import ExtensionPublisher.Certificate.Reading
import ExtensionPublisher.Fault
import ExtensionPublisher.Text.Blank
import ExtensionPublisher.Text.Quoted

/-!
# Credentials

Who publishes: a subscription, and the certificate that the service knows it by. The
certificate and its private key come in one text, in any order and among other things; the
first certificate counts, and the first private key, which has to belong to it. The faults are
found in a fixed order.

Which keys there are depends on who reads them. Credentials are read with any reading of keys;
a connection is made with those of the usual reading.
-/
namespace ExtensionPublisher

open Certificate

/-- A subscription and its certificate, with a key of a certain reading. Credentials
cannot be made without a key that belongs to the certificate. -/
structure CredentialsBy {κ : Type} (keys : KeyReading κ) where
  subscription : String
  certificate : Document
  /-- The certificates behind the first one. -/
  chain : List Document
  key : κ
  /-- The private key is that of the certificate. -/
  belongs : ∃ own, keys.publicKey? certificate.key = some own ∧ keys.agree own key = true
  deriving DecidableEq, Repr

/-- A subscription and its certificate, with a key of one of the kinds that are read
here. -/
abbrev Credentials := CredentialsBy KeyReading.usual

namespace CredentialsBy

variable {κ : Type} {keys : KeyReading κ}

/-- Read credentials from a text that holds the certificate and the private key. The
first certificate of the text is the one that counts, and those behind it are its
chain; the first private key has to belong to it. Nothing but the text is looked at.
-/
def read (keys : KeyReading κ) (subscription : String) (text : List UInt8) :
    Except Fault (CredentialsBy keys) :=
  if Text.blank subscription then
    .error (.invalidArgument "subscription id must not be empty")
  else
    match Armored.readAll text with
    | none => .error (.unusableCertificate "cannot parse certificate")
    | some blocks =>
      match readChain? blocks with
      | none => .error (.unusableCertificate "cannot parse certificate")
      | some [] => .error (.unusableCertificate "no certificate found in PEM data")
      | some (certificate :: chain) =>
        match keys.search blocks with
        | none => .error (.unusableCertificate "cannot parse private key")
        | some key =>
          match known : keys.publicKey? certificate.key with
          | none => .error (.unusableCertificate "cannot read public key")
          | some own =>
            if same : keys.agree own key = true then
              .ok ⟨subscription, certificate, chain, key, own, known, same⟩
            else .error (.unusableCertificate "private key does not match the certificate")

/-- Read credentials from two texts, for the certificate and for the private key.
They are put together with a line feed between them, and read as one text. -/
def readPair (keys : KeyReading κ) (subscription : String) (certificate key : List UInt8) :
    Except Fault (CredentialsBy keys) :=
  read keys subscription (certificate ++ 0x0A :: key)

/-- The thumbprint of the certificate. -/
def thumbprint (credentials : CredentialsBy keys) : String := credentials.certificate.thumbprint

/-- The credentials as they are shown. Nothing of the key is shown. -/
def shown (credentials : CredentialsBy keys) : String :=
  "Credentials \x7b subscription_id: " ++ Text.quoted credentials.subscription ++
    ", thumbprint: " ++ Text.quoted credentials.thumbprint ++ ", .. \x7d"

/-- The subscription of credentials says something. This is asked in front of
everything else. -/
theorem subscription_of_read {subscription : String} {text : List UInt8}
    {credentials : CredentialsBy keys} (made : read keys subscription text = .ok credentials) :
    credentials.subscription = subscription ∧ Text.blank subscription = false := by
  unfold read at made
  split at made
  · cases made
  · next named =>
    repeat' split at made
    all_goals cases made
    exact ⟨rfl, by simpa using named⟩

end CredentialsBy

/-- Whether a secure connection can be made with credentials: the certificate is of the
third version, and its key is of a kind and of a size in use. -/
def Credentials.isPresentable (credentials : Credentials) : Bool :=
  credentials.certificate.version == 3 &&
    match credentials.key with
    | .rsa modulus exponent =>
      Nat.pow 2 2047 ≤ modulus && modulus < Nat.pow 2 4096 && 65537 ≤ exponent
    | .elliptic curve _ => curve == .p256 || curve == .p384
    | .edwards _ => true

end ExtensionPublisher
