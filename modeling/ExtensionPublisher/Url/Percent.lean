import ExtensionPublisher.Text.Digits
import ExtensionPublisher.Text.Utf8

/-!
# Percent signs

In an address a byte that would mean something else, or that no address may hold, is written
as a percent sign and two hexadecimal digits. Which characters those are depends on the part
of the address; controls and everything beyond ASCII are always among them. A character is
written byte by byte in UTF-8.

Reading undoes this for every percent sign with two digits behind it and leaves any other
percent sign alone: `percent_decode_encode`.
-/
namespace ExtensionPublisher.Url

/-- Characters that no part of an address holds: controls, and everything beyond
ASCII. -/
def isUnprintable (c : Char) : Bool := c.toNat < 0x20 || 0x7F ≤ c.toNat

/-- Characters escaped in a fragment. -/
def isEscapedInFragment (c : Char) : Bool :=
  isUnprintable c || c == ' ' || c == '"' || c == '<' || c == '>' || c == '\x60'

/-- Characters escaped in a query. -/
def isEscapedInQuery (c : Char) : Bool :=
  isUnprintable c || c == ' ' || c == '"' || c == '#' || c == '<' || c == '>' || c == '\''

/-- Characters escaped in a path. -/
def isEscapedInPath (c : Char) : Bool :=
  isEscapedInFragment c || c == '#' || c == '?' || c == '\x7b' || c == '\x7d'

/-- Characters escaped in the name of a user. -/
def isEscapedInUser (c : Char) : Bool :=
  isEscapedInPath c || ['/', ':', ';', '=', '@', '[', '\\', ']', '^', '|'].contains c

/-- Characters escaped in a segment that is added to a path: also those that would divide it
or be read as an escape. -/
def isEscapedInSegment (c : Char) : Bool :=
  isEscapedInPath c || c == '/' || c == '%' || c == '\\'

/-- An upper-case hexadecimal digit. -/
def upperDigit (n : Nat) : Char := (Nat.digitChar n).toUpper

/-- An escaped byte: a percent sign and two digits, letters in upper case. -/
def percentByte (b : UInt8) : List Char :=
  ['%', upperDigit (b.toNat / 16), upperDigit (b.toNat % 16)]

/-- One character, escaped if it has to be. All of its bytes are escaped then. -/
def percentCharacter (escaped : Char → Bool) (c : Char) : List Char :=
  if escaped c then (String.utf8EncodeChar c).flatMap percentByte else [c]

/-- Characters, escaped where they have to be. -/
def percentEncode (escaped : Char → Bool) (cs : List Char) : List Char :=
  cs.flatMap (percentCharacter escaped)

/-- The bytes that characters stand for. A percent sign without two digits behind it
stands for itself. -/
def percentDecode : List Char → List UInt8
  | '%' :: high :: low :: rest =>
    match Text.digitValue? 16 high, Text.digitValue? 16 low with
    | some h, some l => UInt8.ofNat (h * 16 + l) :: percentDecode rest
    | _, _ => 0x25 :: percentDecode (high :: low :: rest)
  | c :: rest => String.utf8EncodeChar c ++ percentDecode rest
  | [] => []

/-- The two digits of a byte give the byte. There are sixteen digits, and each is
looked at. -/
theorem digits_of_byte (b : UInt8) :
    Text.digitValue? 16 (upperDigit (b.toNat / 16)) = some (b.toNat / 16) ∧
      Text.digitValue? 16 (upperDigit (b.toNat % 16)) = some (b.toNat % 16) := by
  have each : ∀ n < 16, Text.digitValue? 16 (upperDigit n) = some n := by decide
  have small := b.toNat_lt
  exact ⟨each _ (by omega), each _ (by omega)⟩

/-- An escaped byte is read as that byte. -/
theorem percent_decode_byte (b : UInt8) (rest : List Char) :
    percentDecode (percentByte b ++ rest) = b :: percentDecode rest := by
  obtain ⟨high, low⟩ := digits_of_byte b
  simp only [percentByte, List.cons_append, List.nil_append, percentDecode, high, low]
  congr 1
  apply UInt8.toNat_inj.mp
  have small := b.toNat_lt
  simp
  omega

/-- Escaped bytes are read as those bytes, by induction on them. -/
theorem percent_decode_bytes (bytes : List UInt8) (rest : List Char) :
    percentDecode (bytes.flatMap percentByte ++ rest) = bytes ++ percentDecode rest := by
  induction bytes with
  | nil => rfl
  | cons b more inductionHypothesis =>
    rw [List.flatMap_cons, List.append_assoc, percent_decode_byte, inductionHypothesis]
    rfl

/-- Reading undoes escaping, if percent signs are escaped. Otherwise one that stood
there might be read as the beginning of an escape. -/
theorem percent_decode_encode {escaped : Char → Bool} (percent : escaped '%' = true)
    (cs : List Char) : percentDecode (percentEncode escaped cs) = Text.Utf8.encode cs := by
  induction cs with
  | nil => rfl
  | cons c rest inductionHypothesis =>
    have split : percentEncode escaped (c :: rest) =
        percentCharacter escaped c ++ percentEncode escaped rest := rfl
    have whole : Text.Utf8.encode (c :: rest) =
        String.utf8EncodeChar c ++ Text.Utf8.encode rest := rfl
    rw [split, whole]
    unfold percentCharacter
    by_cases h : escaped c = true
    · rw [if_pos h, percent_decode_bytes, inductionHypothesis]
    · rw [if_neg h]
      have other : c ≠ '%' := fun same => h (same ▸ percent)
      have step : percentDecode ([c] ++ percentEncode escaped rest) =
          String.utf8EncodeChar c ++ percentDecode (percentEncode escaped rest) := by
        rw [List.cons_append, List.nil_append, percentDecode]
        intro high low tail same
        exact absurd same other
      rw [step, inductionHypothesis]

/-- A part of a query, as forms write it: a blank is a plus sign, and only letters, digits and
four marks stand for themselves. -/
def formEncode (cs : List Char) : List Char :=
  cs.flatMap fun c =>
    if c.isAlphanum || c == '*' || c == '-' || c == '.' || c == '_' then [c]
    else if c = ' ' then ['+']
    else (String.utf8EncodeChar c).flatMap percentByte

end ExtensionPublisher.Url
