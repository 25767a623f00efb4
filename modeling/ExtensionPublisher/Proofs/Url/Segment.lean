import ExtensionPublisher.Url.Path

/-!
# Segments as they are written

A segment that is added to a path is written with escapes. The written form has none of the marks
that divide an address, so it stays one segment, and it is dots only if the segment is, so nothing
else leads anywhere: `dots_of_written`. Reading the escapes gives the bytes of the segment back, so
two segments that are written alike are the same.

Three kinds of segments are not kept as they are given: one dot, two dots, and those with a
character that is skipped wherever it stands.
-/
namespace ExtensionPublisher.Url

open Text.Utf8 (encode)

/-- A segment that a path keeps as it is given. Neither is it dots, nor is any
character of it skipped. -/
structure IsKept (segment : List Char) : Prop where
  not_here : segment ≠ ['.']
  not_back : segment ≠ ['.', '.']
  none_skipped : ∀ c ∈ segment, isSkipped c = false

instance (segment : List Char) : Decidable (IsKept segment) :=
  decidable_of_iff
    (segment ≠ ['.'] ∧ segment ≠ ['.', '.'] ∧ (segment.all fun c => isSkipped c == false) = true)
    ⟨fun ⟨here, back, skipped⟩ => ⟨here, back, by simpa using skipped⟩,
      fun ⟨here, back, skipped⟩ => ⟨here, back, by simpa using skipped⟩⟩

/-- A segment as it is written when it is added to a path: with escapes for all that
would mean something there. -/
def written (segment : List Char) : List Char := percentEncode isEscapedInSegment segment

/-- The marks in front of a segment, of a query and of a fragment. -/
def marks : List Char := ['/', '?', '#']

/-- What holds of each mark holds of all. -/
theorem forall_marks {p : Char → Prop} (slash : p '/') (question : p '?') (hash : p '#') :
    ∀ mark ∈ marks, p mark := by
  simpa [marks] using ⟨slash, question, hash⟩

/-- Nothing in a text divides it. -/
def IsUnmarked (cs : List Char) : Prop := ∀ mark ∈ marks, mark ∉ cs

/-! ## Bytes of characters -/

/-- Different texts have different bytes, because the bytes can be decoded. -/
theorem encode_injective {cs others : List Char} (same : encode cs = encode others) :
    cs = others := by
  have bytes : cs.utf8Encode = others.utf8Encode := by
    simpa only [List.utf8Encode, encode] using congrArg List.toByteArray same
  have read : some cs.toArray = some others.toArray := by
    rw [← List.utf8Decode?_utf8Encode, bytes, List.utf8Decode?_utf8Encode]
  exact congrArg Array.toList (Option.some.inj read)

/-- A character more is at least a byte more. -/
theorem length_encode_cons (c : Char) (rest : List Char) :
    (encode rest).length < (encode (c :: rest)).length := by
  have atLeastOne : 0 < (String.utf8EncodeChar c).length :=
    List.length_pos_iff.mpr String.utf8EncodeChar_ne_nil
  simp only [encode, List.flatMap_cons, List.length_append]
  omega

/-- Only a dot has the byte of a dot. The bytes of characters beyond ASCII are all
greater. -/
theorem eq_dot_of_mem {c : Char} (member : (0x2E : UInt8) ∈ String.utf8EncodeChar c) :
    c = '.' := by
  have code_of {n : Nat} (small : n < 256) (same : (0x2E : UInt8) = UInt8.ofNat n) : n = 46 := by
    have values := congrArg UInt8.toNat same
    simp only [UInt8.toNat_ofNat', UInt8.reduceToNat] at values
    omega
  -- Every byte of a longer character has its highest bit set.
  have high {n : Nat} (least : 128 ≤ n) (small : n < 256) : (0x2E : UInt8) ≠ UInt8.ofNat n := by
    intro same
    have code := code_of small same
    omega
  simp only [String.utf8EncodeChar, apply_ite (fun bytes => (0x2E : UInt8) ∈ bytes),
    List.mem_cons, List.not_mem_nil, or_false] at member
  split at member
  · next ascii =>
    have code : c.val.toNat = 46 := code_of (by omega) member
    exact Char.ext (UInt32.toNat_inj.mp code)
  · split at member
    · rcases member with same | same
      all_goals exact absurd same (high (by omega) (by omega))
    · split at member
      · rcases member with same | same | same
        all_goals exact absurd same (high (by omega) (by omega))
      · rcases member with same | same | same | same
        all_goals exact absurd same (high (by omega) (by omega))

/-! ## Escapes -/

/-- What the digits of an escape are not: a percent sign, a mark, or a digit of the
escape of a dot other than those. There are sixteen of them. -/
theorem upper_digit_ne {n : Nat} (small : n < 16) :
    upperDigit n ≠ '%' ∧ upperDigit n ∉ marks ∧ upperDigit n ≠ 'e' ∧ (upperDigit n = '2' → n = 2) ∧
      (upperDigit n = 'E' → n = 14) := by
  have each : ∀ n < 16, upperDigit n ≠ '%' ∧ upperDigit n ∉ marks ∧ upperDigit n ≠ 'e' ∧
      (upperDigit n = '2' → n = 2) ∧ (upperDigit n = 'E' → n = 14) := by decide
  exact each n small

/-- An escape divides nothing. It is a percent sign and two digits. -/
theorem percent_byte_unmarked (b : UInt8) : IsUnmarked (percentByte b) := by
  have small := b.toNat_lt
  obtain ⟨_, high, _⟩ := upper_digit_ne (n := b.toNat / 16) (by omega)
  obtain ⟨_, low, _⟩ := upper_digit_ne (n := b.toNat % 16) (by omega)
  intro mark divides member
  simp only [percentByte, List.mem_cons, List.not_mem_nil, or_false] at member
  rcases member with rfl | rfl | rfl
  · exact absurd divides (by decide)
  · exact high divides
  · exact low divides

/-- Escaping makes no mark, so a mark that is left was there and is not escaped. -/
theorem mark_not_mem_percent_encode {escaped : Char → Bool} {cs : List Char} {mark : Char}
    (divides : mark ∈ marks) (none_left : escaped mark = true ∨ mark ∉ cs) :
    mark ∉ percentEncode escaped cs := by
  intro found
  obtain ⟨c, member, found⟩ := List.mem_flatMap.mp found
  unfold percentCharacter at found
  split at found
  · obtain ⟨b, _, found⟩ := List.mem_flatMap.mp found
    exact percent_byte_unmarked b mark divides found
  · next plain =>
    obtain rfl := List.mem_singleton.mp found
    exact none_left.elim plain (fun free => free member)

/-- Where all marks are escaped, none is left. -/
theorem percent_encode_unmarked {escaped : Char → Bool} (all : ∀ mark ∈ marks, escaped mark = true)
    (cs : List Char) : IsUnmarked (percentEncode escaped cs) :=
  fun mark divides => mark_not_mem_percent_encode divides (.inl (all mark divides))

/-- A written segment is one segment, as all marks are escaped in it. -/
theorem written_unmarked (segment : List Char) : IsUnmarked (written segment) :=
  percent_encode_unmarked (forall_marks rfl rfl rfl) segment

/-- A character that begins no escape is no dot in disguise. -/
theorem plain_dots_cons {c : Char} (other : c ≠ '%') (rest : List Char) :
    plainDots (c :: rest) = c :: plainDots rest := by
  rw [plainDots]
  · rintro behind rfl
    exact absurd rfl other
  · rintro behind rfl
    exact absurd rfl other

/-- The escape of a byte that is not a dot is no dot in disguise. Its digits are
looked at, in both cases of letters. -/
theorem plain_dots_percent_byte {b : UInt8} (other : b ≠ 0x2E) (rest : List Char) :
    plainDots (percentByte b ++ rest) = percentByte b ++ plainDots rest := by
  have small := b.toNat_lt
  obtain ⟨high, _, _, two, _⟩ := upper_digit_ne (n := b.toNat / 16) (by omega)
  obtain ⟨low, _, lower, _, upper⟩ := upper_digit_ne (n := b.toNat % 16) (by omega)
  have noDot : upperDigit (b.toNat / 16) = '2' → upperDigit (b.toNat % 16) ≠ 'E' := by
    intro first second
    have highValue := two first
    have lowValue := upper second
    have value : b.toNat = 46 := by omega
    exact other (UInt8.toNat_inj.mp value)
  simp only [percentByte, List.cons_append, List.nil_append]
  rw [plainDots, plain_dots_cons high, plain_dots_cons low]
  · intro behind _ same
    simp only [List.cons.injEq] at same
    exact lower same.2.1
  · intro behind _ same
    simp only [List.cons.injEq] at same
    exact noDot same.1 same.2.1

/-- Escapes of bytes that are not dots are no dots in disguise. -/
theorem plain_dots_percent_bytes {bytes : List UInt8} (others : (0x2E : UInt8) ∉ bytes)
    (rest : List Char) :
    plainDots (bytes.flatMap percentByte ++ rest) = bytes.flatMap percentByte ++ plainDots rest := by
  induction bytes with
  | nil => rfl
  | cons b more inductionHypothesis =>
    simp only [List.mem_cons, not_or] at others
    rw [List.flatMap_cons, List.append_assoc, plain_dots_percent_byte (Ne.symm others.1),
      inductionHypothesis others.2, List.append_assoc]

/-- A written segment has no dots in disguise: a percent sign of its own is escaped, and a dot is
not. -/
theorem plain_dots_written (segment : List Char) : plainDots (written segment) = written segment := by
  induction segment with
  | nil => rfl
  | cons c rest inductionHypothesis =>
    have split : written (c :: rest) = percentCharacter isEscapedInSegment c ++ written rest := rfl
    rw [split]
    unfold percentCharacter
    by_cases escaped : isEscapedInSegment c = true
    · have noDot : (0x2E : UInt8) ∉ String.utf8EncodeChar c := by
        intro member
        rw [eq_dot_of_mem member] at escaped
        exact absurd escaped (by decide)
      rw [if_pos escaped, plain_dots_percent_bytes noDot, inductionHypothesis]
    · have other : c ≠ '%' := by
        rintro rfl
        exact escaped rfl
      rw [if_neg escaped, List.cons_append, List.nil_append, plain_dots_cons other,
        inductionHypothesis]

/-! ## What is written can be read -/

/-- The bytes of a segment are read in what is written for it. A percent sign of its
own is escaped, so nothing else is taken for an escape. -/
theorem percent_decode_written (segment : List Char) :
    percentDecode (written segment) = encode segment :=
  percent_decode_encode rfl segment

/-- Segments that are written alike are the same. They have the same bytes. -/
theorem written_injective {segment other : List Char} (same : written segment = written other) :
    segment = other := by
  apply encode_injective
  rw [← percent_decode_written, same, percent_decode_written]

/-- A segment is written as another text only if it is what that text is written for. -/
theorem written_eq_iff {segment other : List Char} :
    written segment = written other ↔ segment = other := by
  constructor
  · exact written_injective
  · rintro rfl
    rfl

/-- Of a segment that says something, something is written. -/
theorem written_ne_nil {segment : List Char} (spoken : segment ≠ []) : written segment ≠ [] := by
  intro none
  have same : written segment = written [] := none
  exact spoken (written_injective same)

/-- A written segment leads somewhere only if the segment is dots. Escaped dots
would lead somewhere too, but no dot is escaped. -/
theorem dots_of_written (segment : List Char) :
    dotsOf (written segment) =
      if segment = ['.'] then .here else if segment = ['.', '.'] then .back else .none := by
  -- Dots are written as they are.
  have here : written segment = written ['.'] ↔ segment = ['.'] := written_eq_iff
  have back : written segment = written ['.', '.'] ↔ segment = ['.', '.'] := written_eq_iff
  unfold dotsOf
  rw [plain_dots_written]
  split
  · next same => rw [if_pos (here.mp same)]
  · next same =>
    rw [back.mp same]
    rfl
  · next notHere notBack =>
    rw [if_neg (fun one => notHere (here.mpr one)), if_neg (fun two => notBack (back.mpr two))]

end ExtensionPublisher.Url
