import ExtensionPublisher.Text.Utf8

/-!
# Reading what was written as UTF-8

The bytes of a text are read as the text, also by the reader that puts replacement characters where
bytes make no sense: `decode_lossy_encode`. A character is read off its own bytes, whatever comes
behind them, by the machine that takes one byte at a time. The first byte tells how many are owed and
the range that the next one lies in, `lead_of_three` and `lead_of_four`. Every character is within
these ranges, as none is a surrogate or past the last code point.

Bytes that are read as a text without a fault are the bytes of that text: `decode_eq_some_iff`. So
the ranges leave room for nothing but characters, each in one spelling.
-/
namespace ExtensionPublisher.Text.Utf8

variable {n digit : Nat} {state : Partial} (rest : List UInt8)

/-- The number of a byte that is given by its number. -/
theorem to_nat_of_nat (small : n < 256) : (UInt8.ofNat n).toNat = n := by
  rw [UInt8.toNat_ofNat']
  omega

/-! ## First bytes -/

/-- A small byte is a character by itself. -/
theorem lead_of_one (small : n < 128) : lead (UInt8.ofNat n) = .whole (Char.ofNat n) := by
  have value : (UInt8.ofNat n).toNat = n := to_nat_of_nat (by omega)
  simp only [lead, UInt8.lt_iff_toNat_lt, value, UInt8.reduceToNat]
  rw [if_pos small]

/-- The first byte of two. Overlong forms would begin with one of the two bytes in
front of the least of these, and those begin nothing. -/
theorem lead_of_two (least : 2 ≤ digit) (small : digit < 32) :
    lead (UInt8.ofNat (digit + 192)) = .opens ⟨1, 0x80, 0xBF, digit⟩ := by
  have value : (UInt8.ofNat (digit + 192)).toNat = digit + 192 := to_nat_of_nat (by omega)
  simp only [lead, UInt8.lt_iff_toNat_lt, UInt8.le_iff_toNat_le, value, UInt8.reduceToNat]
  rw [if_neg (by omega), if_pos (by omega), Nat.add_sub_cancel]

/-- The first byte of three. Overlong forms and surrogates are ruled out by the next one. -/
theorem lead_of_three (digit : Nat) (small : digit < 16) :
    ∃ least greatest : UInt8, lead (UInt8.ofNat (digit + 224)) = .opens ⟨2, least, greatest, digit⟩ ∧
      least.toNat = (if digit = 0 then 0xA0 else 0x80) ∧
      greatest.toNat = (if digit = 13 then 0x9F else 0xBF) := by
  have value : (UInt8.ofNat (digit + 224)).toNat = digit + 224 := to_nat_of_nat (by omega)
  simp only [lead, UInt8.lt_iff_toNat_lt, UInt8.le_iff_toNat_le, ← UInt8.toNat_inj, value,
    UInt8.reduceToNat]
  rw [if_neg (by omega), if_neg (by omega)]
  by_cases overlong : digit = 0
  · rw [if_pos (by omega)]
    exact ⟨_, _, by rw [overlong], by rw [if_pos overlong]; rfl, by rw [if_neg (by omega)]; rfl⟩
  · rw [if_neg (by omega)]
    by_cases surrogate : digit = 13
    · rw [if_pos (by omega)]
      exact ⟨_, _, by rw [surrogate], by rw [if_neg overlong]; rfl, by rw [if_pos surrogate]; rfl⟩
    · rw [if_neg (by omega), if_pos (by omega)]
      exact ⟨_, _, by rw [Nat.add_sub_cancel], by rw [if_neg overlong]; rfl,
        by rw [if_neg surrogate]; rfl⟩

/-- The first byte of four. Overlong forms and what is past the last code point are ruled out by the
next one. -/
theorem lead_of_four (digit : Nat) (small : digit < 5) :
    ∃ least greatest : UInt8, lead (UInt8.ofNat (digit + 240)) = .opens ⟨3, least, greatest, digit⟩ ∧
      least.toNat = (if digit = 0 then 0x90 else 0x80) ∧
      greatest.toNat = (if digit = 4 then 0x8F else 0xBF) := by
  have value : (UInt8.ofNat (digit + 240)).toNat = digit + 240 := to_nat_of_nat (by omega)
  simp only [lead, UInt8.lt_iff_toNat_lt, UInt8.le_iff_toNat_le, ← UInt8.toNat_inj, value,
    UInt8.reduceToNat]
  rw [if_neg (by omega), if_neg (by omega), if_neg (by omega), if_neg (by omega),
    if_neg (by omega)]
  by_cases overlong : digit = 0
  · rw [if_pos (by omega)]
    exact ⟨_, _, by rw [overlong], by rw [if_pos overlong]; rfl, by rw [if_neg (by omega)]; rfl⟩
  · rw [if_neg (by omega)]
    by_cases last : digit = 4
    · rw [if_neg (by omega), if_pos (by omega)]
      exact ⟨_, _, by rw [last], by rw [if_neg overlong]; rfl, by rw [if_pos last]; rfl⟩
    · rw [if_pos (by omega)]
      exact ⟨_, _, by rw [Nat.add_sub_cancel], by rw [if_neg overlong]; rfl,
        by rw [if_neg last]; rfl⟩

/-! ## Characters -/

/-- A byte that is a character is read as it, and fills a slot at once. -/
theorem slots_of_whole {b : UInt8} {c : Char} (whole : lead b = .whole c) :
    slotsFrom none (b :: rest) = some c :: slotsFrom none rest := by
  simp only [slotsFrom, whole, List.nil_append]

/-- A byte that begins a character is remembered, with its digits and the number of
bytes that are owed. -/
theorem slots_of_opens {b : UInt8} (opens : lead b = .opens state) :
    slotsFrom none (b :: rest) = slotsFrom (some state) rest := by
  simp only [slotsFrom, opens, List.nil_append]

section Continued

variable (small : digit < 64) (least : state.least.toNat ≤ digit + 128)
  (greatest : digit + 128 ≤ state.greatest.toNat)

include small least greatest

/-- A byte that is owed adds its digits, if it is in the range that the bytes in
front of it leave open. -/
theorem slots_of_owed :
    slotsFrom (some state) (UInt8.ofNat (digit + 128) :: rest) =
      if state.owed ≤ 1 then some (Char.ofNat (state.bits * 64 + digit)) :: slotsFrom none rest
      else slotsFrom (some ⟨state.owed - 1, 0x80, 0xBF, state.bits * 64 + digit⟩) rest := by
  have value : (UInt8.ofNat (digit + 128)).toNat = digit + 128 := to_nat_of_nat (by omega)
  have within : state.least ≤ UInt8.ofNat (digit + 128) ∧
      UInt8.ofNat (digit + 128) ≤ state.greatest := by
    rw [UInt8.le_iff_toNat_le, UInt8.le_iff_toNat_le, value]
    exact ⟨least, greatest⟩
  simp only [slotsFrom, if_pos within, value, Nat.add_sub_cancel]

/-- Behind the last byte that is owed there is a character. -/
theorem slots_of_last (last : state.owed = 1) :
    slotsFrom (some state) (UInt8.ofNat (digit + 128) :: rest) =
      some (Char.ofNat (state.bits * 64 + digit)) :: slotsFrom none rest := by
  rw [slots_of_owed rest small least greatest, if_pos (Nat.le_of_eq last)]

/-- In front of the last byte that is owed there is none. The next byte may be any
that goes on with a character. -/
theorem slots_of_more {owed : Nat} (more : state.owed = owed + 2) :
    slotsFrom (some state) (UInt8.ofNat (digit + 128) :: rest) =
      slotsFrom (some ⟨owed + 1, 0x80, 0xBF, state.bits * 64 + digit⟩) rest := by
  rw [slots_of_owed rest small least greatest, if_neg (by omega), more]
  rfl

end Continued

/-- A byte is within the widest range, which is all that is asked of the third byte
and of the fourth. -/
theorem within_widest (digit : Nat) (small : digit < 64) :
    (0x80 : UInt8).toNat ≤ digit + 128 ∧ digit + 128 ≤ (0xBF : UInt8).toNat := by
  simp only [UInt8.reduceToNat]
  omega

/-- A character is read off its bytes, and what comes behind them is read by itself.
There is one case for each number of bytes, and in each the digits are put together
again. -/
theorem slots_of_character (c : Char) :
    slotsFrom none (String.utf8EncodeChar c ++ rest) = some c :: slotsFrom none rest := by
  have code : Char.ofNat c.val.toNat = c := Char.ofNat_toNat c
  have valid : c.val.toNat < 0xD800 ∨ 0xDFFF < c.val.toNat ∧ c.val.toNat < 0x110000 := c.valid
  simp only [String.utf8EncodeChar]
  generalize c.val.toNat = value at code valid
  obtain ⟨lowLeast, lowGreatest⟩ := within_widest (value % 64) (by omega)
  obtain ⟨midLeast, midGreatest⟩ := within_widest (value / 64 % 64) (by omega)
  split
  · next one =>
    rw [List.cons_append, List.nil_append, slots_of_whole rest (lead_of_one (by omega)), code]
  split
  · next two =>
    have bits : value / 64 % 32 * 64 + value % 64 = value := by omega
    simp only [List.cons_append, List.nil_append]
    rw [slots_of_opens _ (lead_of_two (by omega) (by omega)),
      slots_of_last rest (by omega) lowLeast lowGreatest rfl, bits, code]
  split
  · next three =>
    have bits : (value / 4096 % 16 * 64 + value / 64 % 64) * 64 + value % 64 = value := by omega
    obtain ⟨least, greatest, opens, floor, ceiling⟩ :=
      lead_of_three (value / 4096 % 16) (by omega)
    simp only [List.cons_append, List.nil_append]
    rw [slots_of_opens _ opens, slots_of_more _ (by omega) ?_ ?_ rfl,
      slots_of_last rest (by omega) lowLeast lowGreatest rfl, bits, code]
    · rw [floor]
      split <;> omega
    · rw [ceiling]
      split <;> omega
  · have bits : ((value / 262144 % 8 * 64 + value / 4096 % 64) * 64 + value / 64 % 64) * 64 +
        value % 64 = value := by omega
    obtain ⟨least, greatest, opens, floor, ceiling⟩ :=
      lead_of_four (value / 262144 % 8) (by omega)
    simp only [List.cons_append, List.nil_append]
    rw [slots_of_opens _ opens, slots_of_more _ (by omega) ?_ ?_ rfl,
      slots_of_more _ (by omega) midLeast midGreatest rfl,
      slots_of_last rest (by omega) lowLeast lowGreatest rfl, bits, code]
    · rw [floor]
      split <;> omega
    · rw [ceiling]
      split <;> omega

/-- Every slot of a text that was written is filled, by induction on its characters.
-/
theorem slots_encode (cs : List Char) : slots (encode cs) = cs.map some := by
  rw [slots, encode]
  induction cs with
  | nil => rfl
  | cons c cs inductionHypothesis =>
    rw [List.flatMap_cons, slots_of_character, inductionHypothesis, List.map_cons]

/-- Nothing is replaced in a text that is read from its bytes, because no slot of it
is empty. -/
theorem decode_lossy_encode (cs : List Char) : decodeLossy (encode cs) = cs := by
  rw [decodeLossy, slots_encode, List.map_map]
  exact List.map_id cs

/-! ## Bytes that are text -/

/-- Bytes that are owed, with the character that they complete. The relation follows
the reader through bytes that it accepts. -/
inductive Completes : Partial → List UInt8 → Char → Prop where
  | last {state : Partial} {b : UInt8} (least : state.least ≤ b) (greatest : b ≤ state.greatest)
      (owed : state.owed ≤ 1) :
      Completes state [b] (Char.ofNat (state.bits * 64 + (b.toNat - 0x80)))
  | more {state : Partial} {b : UInt8} {bytes : List UInt8} {c : Char} (least : state.least ≤ b)
      (greatest : b ≤ state.greatest) (owed : ¬ state.owed ≤ 1)
      (later : Completes ⟨state.owed - 1, 0x80, 0xBF, state.bits * 64 + (b.toNat - 0x80)⟩ bytes c) :
      Completes state (b :: bytes) c

/-- Inside a character that is read without an empty slot there are bytes that
complete it. A byte out of range, or the end of the text, would leave an empty slot.
-/
theorem completes_of_filled {state : Partial} {bytes : List UInt8}
    (filled : none ∉ slotsFrom (some state) bytes) :
    ∃ done rest c, bytes = done ++ rest ∧ Completes state done c ∧
      slotsFrom (some state) bytes = some c :: slotsFrom none rest := by
  induction bytes generalizing state with
  | nil => simp [slotsFrom] at filled
  | cons b bytes inductionHypothesis =>
    rw [slotsFrom] at filled ⊢
    dsimp only at filled ⊢
    by_cases within : state.least ≤ b ∧ b ≤ state.greatest
    · rw [if_pos within] at filled ⊢
      by_cases owed : state.owed ≤ 1
      · rw [if_pos owed]
        exact ⟨[b], bytes, _, rfl, .last within.1 within.2 owed, rfl⟩
      · rw [if_neg owed] at filled ⊢
        obtain ⟨done, rest, c, divided, completes, same⟩ := inductionHypothesis filled
        exact ⟨b :: done, rest, c, by rw [divided, List.cons_append],
          .more within.1 within.2 owed completes, same⟩
    · rw [if_neg within] at filled
      split at filled <;> simp at filled

/-- What begins a character of several bytes. The range of the next byte rules out overlong forms,
surrogates and what is past the last code point. -/
theorem of_lead_opens {b : UInt8} (opens : lead b = .opens state) :
    0x80 ≤ state.least.toNat ∧ state.greatest.toNat ≤ 0xBF ∧
    ((state.owed = 1 ∧ b.toNat = state.bits + 0xC0 ∧ 2 ≤ state.bits ∧ state.bits < 0x20) ∨
    (state.owed = 2 ∧ b.toNat = state.bits + 0xE0 ∧ state.bits < 0x10 ∧
      0x20 ≤ state.bits * 64 + (state.least.toNat - 0x80) ∧
      (state.bits * 64 + (state.greatest.toNat - 0x80) < 0x360 ∨ 0x380 ≤ state.bits * 64)) ∨
    (state.owed = 3 ∧ b.toNat = state.bits + 0xF0 ∧
      0x10 ≤ state.bits * 64 + (state.least.toNat - 0x80) ∧
      state.bits * 64 + (state.greatest.toNat - 0x80) < 0x110)) := by
  simp only [lead, UInt8.lt_iff_toNat_lt, UInt8.le_iff_toNat_le, ← UInt8.toNat_inj,
    UInt8.reduceToNat] at opens
  repeat' split at opens
  all_goals first
    | cases opens
      done
    | obtain rfl := Lead.opens.inj opens
      simp only [UInt8.reduceToNat, true_and]
      omega

/-- The number of a character that is made of its number, if that is the number of
one. -/
theorem code_of_nat {value : Nat} (valid : value < 0xD800 ∨ 0xDFFF < value ∧ value < 0x110000) :
    (Char.ofNat value).val.toNat = value := by
  rw [Char.ofNat, dif_pos (show value.isValidChar from valid)]
  rfl

/-- A byte is told by its number. -/
theorem of_nat_eq {b : UInt8} (same : n = b.toNat) : UInt8.ofNat n = b := by
  rw [same, UInt8.ofNat_toNat]

section Written

variable {value : Nat} {a b c d : UInt8}

/-- A character of two bytes, as it is written. The bytes are given by their
numbers, so that they need not be computed. -/
theorem encode_of_two (long : 0x80 ≤ value) (short : value < 0x800)
    (first : a.toNat = value / 64 + 0xC0) (last : b.toNat = value % 64 + 0x80) :
    String.utf8EncodeChar (Char.ofNat value) = [a, b] := by
  rw [String.utf8EncodeChar, code_of_nat (by omega), if_neg (by omega), if_pos (by omega)]
  simp only [List.cons.injEq, and_true]
  exact ⟨of_nat_eq (by omega), of_nat_eq (by omega)⟩

/-- A character of three bytes, as it is written. Its number is none of a surrogate.
-/
theorem encode_of_three (long : 0x800 ≤ value)
    (short : value < 0xD800 ∨ 0xDFFF < value ∧ value < 0x10000)
    (first : a.toNat = value / 4096 + 0xE0) (next : b.toNat = value / 64 % 64 + 0x80)
    (last : c.toNat = value % 64 + 0x80) :
    String.utf8EncodeChar (Char.ofNat value) = [a, b, c] := by
  rw [String.utf8EncodeChar, code_of_nat (by omega), if_neg (by omega), if_neg (by omega),
    if_pos (by omega)]
  simp only [List.cons.injEq, and_true]
  exact ⟨of_nat_eq (by omega), of_nat_eq (by omega), of_nat_eq (by omega)⟩

/-- A character of four bytes, as it is written. -/
theorem encode_of_four (long : 0x10000 ≤ value) (short : value < 0x110000)
    (first : a.toNat = value / 262144 + 0xF0) (next : b.toNat = value / 4096 % 64 + 0x80)
    (later : c.toNat = value / 64 % 64 + 0x80) (last : d.toNat = value % 64 + 0x80) :
    String.utf8EncodeChar (Char.ofNat value) = [a, b, c, d] := by
  rw [String.utf8EncodeChar, code_of_nat (by omega), if_neg (by omega), if_neg (by omega),
    if_neg (by omega)]
  simp only [List.cons.injEq, and_true]
  exact ⟨of_nat_eq (by omega), of_nat_eq (by omega), of_nat_eq (by omega), of_nat_eq (by omega)⟩

end Written

/-- Bytes that complete what a first byte begins are the character's, together with
it. The range of the second byte shows that the number needs as many bytes as there
are. -/
theorem encode_of_completes {b : UInt8} (opens : lead b = .opens state) {bytes : List UInt8} {c : Char}
    (completes : Completes state bytes c) : String.utf8EncodeChar c = b :: bytes := by
  obtain ⟨low, high, ⟨one, value, small⟩ | ⟨two, value, small, least, greatest⟩ |
    ⟨three, value, least, greatest⟩⟩ := of_lead_opens opens
  · cases completes with
    | more _ _ owed _ => omega
    | last above below _ =>
      rw [UInt8.le_iff_toNat_le] at above below
      exact encode_of_two (by omega) (by omega) (by omega) (by omega)
  · cases completes with
    | last _ _ owed => omega
    | more above below _ later =>
      cases later with
      | more _ _ owed _ => simp only at owed; omega
      | last overLast underLast _ =>
        simp only [UInt8.le_iff_toNat_le, UInt8.reduceToNat] at above below overLast underLast ⊢
        exact encode_of_three (by omega) (by omega) (by omega) (by omega) (by omega)
  · cases completes with
    | last _ _ owed => omega
    | more above below _ later =>
      cases later with
      | last _ _ owed => simp only at owed; omega
      | more overNext underNext _ latest =>
        cases latest with
        | more _ _ owed _ => simp only at owed; omega
        | last overLast underLast _ =>
          simp only [UInt8.le_iff_toNat_le, UInt8.reduceToNat] at *
          exact encode_of_four (by omega) (by omega) (by omega) (by omega) (by omega) (by omega)

/-- A byte that is a character is all of it. -/
theorem encode_of_lead_whole {b : UInt8} {c : Char} (whole : lead b = .whole c) :
    String.utf8EncodeChar c = [b] := by
  simp only [lead, UInt8.lt_iff_toNat_lt, UInt8.reduceToNat] at whole
  repeat' split at whole
  all_goals first
    | cases whole
      done
    | obtain rfl := Lead.whole.inj whole
      rw [String.utf8EncodeChar, code_of_nat (by omega), if_pos (by omega), UInt8.ofNat_toNat]

/-- Bytes that are read without an empty slot were written. The induction is on the
number of bytes, as a character takes several of them. -/
theorem encode_of_filled {bytes : List UInt8} {cs : List Char}
    (read : slotsFrom none bytes = cs.map some) : encode cs = bytes := by
  generalize counted : bytes.length = size
  induction size using Nat.strongRecOn generalizing bytes cs with
  | ind size inductionHypothesis =>
    cases bytes with
    | nil =>
      obtain rfl : cs = [] := by simpa [slotsFrom] using read.symm
      rfl
    | cons b rest =>
      cases first : lead b with
      | whole c =>
        rw [slots_of_whole rest first] at read
        obtain ⟨d, others, rfl, same, later⟩ := List.map_eq_cons_iff.mp read.symm
        obtain rfl := Option.some.inj same
        have shorter : rest.length < size := by simp [← counted]
        rw [encode, List.flatMap_cons, encode_of_lead_whole first,
          ← inductionHypothesis _ shorter later.symm rfl]
        rfl
      | opens state =>
        rw [slots_of_opens rest first] at read
        have filled : none ∉ slotsFrom (some state) rest := by simp [read]
        obtain ⟨done, behind, c, rfl, completes, same⟩ := completes_of_filled filled
        rw [same] at read
        obtain ⟨d, others, rfl, same, later⟩ := List.map_eq_cons_iff.mp read.symm
        obtain rfl := Option.some.inj same
        have shorter : behind.length < size := by
          simp only [List.length_cons, List.length_append] at counted
          omega
        rw [encode, List.flatMap_cons, encode_of_completes first completes,
          ← inductionHypothesis _ shorter later.symm rfl]
        rfl
      | invalid =>
        have empty : none ∈ cs.map some := by
          rw [← read]
          simp [slotsFrom, first]
        simp at empty

/-- Slots make a text if they are filled with it. One empty slot is enough to make
none. -/
theorem filled_iff {found : List (Option Char)} {cs : List Char} :
    found.mapM id = some cs ↔ found = cs.map some := by
  induction found generalizing cs with
  | nil => cases cs <;> simp
  | cons slot others inductionHypothesis =>
    cases slot with
    | none => cases cs <;> simp
    | some c =>
      cases cs with
      | nil => simp [Option.bind_eq_some_iff]
      | cons d ds =>
        simp only [List.mapM_cons, id, Option.bind_eq_bind, Option.bind_some, Option.pure_def,
          Option.bind_eq_some_iff, inductionHypothesis, Option.some.injEq, List.map_cons,
          List.cons.injEq]
        constructor
        · rintro ⟨_, rfl, rfl, rfl⟩
          exact ⟨rfl, rfl⟩
        · rintro ⟨rfl, rfl⟩
          exact ⟨ds, rfl, rfl, rfl⟩

/-- The bytes of a text, and no others, are read as the text. Whatever is read
without an empty slot was written, and what was written leaves none. -/
theorem decode_eq_some_iff {bytes : List UInt8} {cs : List Char} :
    decode? bytes = some cs ↔ encode cs = bytes := by
  rw [decode?, filled_iff]
  constructor
  · exact encode_of_filled
  · rintro rfl
    exact slots_encode cs

end ExtensionPublisher.Text.Utf8
