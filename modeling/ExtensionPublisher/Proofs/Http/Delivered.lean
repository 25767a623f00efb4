import ExtensionPublisher.Http.Message
import ExtensionPublisher.Proofs.Http.First
import ExtensionPublisher.Proofs.Text.Trim
import ExtensionPublisher.Proofs.Text.Utf8
import Mathlib.Data.List.Forall2

/-!
# What is delivered of an answer

An answer on the wire is bytes; what is delivered is a response, whose headers and body are text. An
answer spells a response if it has its status, its headers under names of any case, and its body as
UTF-8, all of it. Then the response is what is delivered, with the headers in their order and none of
them lost, `response_of_spells`, provided that the status decides by itself and that the values of
headers are visible. An answer that breaks off in its body delivers nothing, `response_of_cut_short`.
-/
namespace ExtensionPublisher.Http

/-- A status of an answer that may have a body and that leads to no other address.
What such an answer says is what the request comes to. -/
def IsDeciding (status : Nat) : Prop :=
  200 ≤ status ∧ status ≤ 599 ∧ status ∉ [204, 304, 301, 302, 303, 307, 308]

instance (status : Nat) : Decidable (IsDeciding status) := inferInstanceAs (Decidable (_ ∧ _ ∧ _))

/-- A status that decides does not lead on. -/
theorem IsDeciding.leads_nowhere {status : Nat} (deciding : IsDeciding status) :
    Hop.leadsOn status = false := by
  obtain ⟨_, _, other⟩ := deciding
  simp only [List.mem_cons, List.not_mem_nil, or_false, not_or] at other
  simp [Hop.leadsOn, other]

/-- Nothing but visible characters and tabs, and no blanks at the ends. Other values
are trimmed on the way, or cannot be told as text. -/
structure IsPlainValue (value : String) : Prop where
  visible : ∀ c ∈ value.toList, c = '\t' ∨ 0x20 ≤ c.toNat ∧ c.toNat < 0x7F
  tight : Text.isTight (fun c => c == ' ' || c == '\t') value.toList = true

/-- Bytes that do not begin with a blank have none to be dropped. Trimming uses this
from both ends. -/
theorem drop_blanks_eq {bytes : List UInt8} (first : ∀ b ∈ bytes.head?, Received.isBlank b = false) :
    bytes.dropWhile Received.isBlank = bytes := by
  cases bytes with
  | nil => rfl
  | cons b rest => rw [List.dropWhile_cons_of_neg (by simp [first b rfl])]

namespace IsPlainValue

variable {value : String} (plain : IsPlainValue value)

include plain

/-- Each character of a plain value has a code of seven bits. -/
theorem code_lt {c : Char} (member : c ∈ value.toList) : c.toNat < 128 := by
  rcases plain.visible c member with rfl | ⟨_, greatest⟩
  · decide
  · omega

/-- Each character of a plain value is a byte, so its bytes can be counted and
compared one by one. -/
theorem ascii_eq : ascii value = value.toList.map fun c => UInt8.ofNat c.toNat := by
  rw [ascii, Text.Utf8.encode, List.map_eq_flatMap]
  apply List.flatMap_congr
  intro c member
  have short : c.val.toNat ≤ 127 := Nat.le_of_lt_succ (plain.code_lt member)
  simp only [String.utf8EncodeChar, if_pos short]
  rfl

/-- The byte of a character has its code. -/
theorem code_eq {c : Char} (member : c ∈ value.toList) : (UInt8.ofNat c.toNat).toNat = c.toNat :=
  Text.Utf8.to_nat_of_nat (Nat.lt_trans (plain.code_lt member) (by decide))

/-- A byte is a blank if its character is. Different characters of a plain value
have different bytes, as their codes are small. -/
theorem is_blank_eq {c : Char} (member : c ∈ value.toList) :
    Received.isBlank (UInt8.ofNat c.toNat) = (c == ' ' || c == '\t') := by
  have same (d : Char) (small : d.toNat < 256) :
      (UInt8.ofNat c.toNat == UInt8.ofNat d.toNat) = (c == d) := by
    rw [Bool.eq_iff_iff, beq_iff_eq, beq_iff_eq, ← UInt8.toNat_inj, plain.code_eq member,
      Text.Utf8.to_nat_of_nat small, Char.toNat_inj]
  exact congrArg₂ (· || ·) (same ' ' (by decide)) (same '\t' (by decide))

/-- There is nothing to trim in the bytes of the value, since it has no blanks at
its ends. -/
theorem trimmed_eq : Received.trimmed (ascii value) = ascii value := by
  have tight := plain.tight
  simp only [Text.isTight, Bool.and_eq_true, Bool.not_eq_true', Option.any_eq_false] at tight
  have front : ∀ b ∈ (ascii value).head?, Received.isBlank b = false := by
    rw [plain.ascii_eq, List.head?_map]
    intro b known
    obtain ⟨c, first, rfl⟩ := Option.map_eq_some_iff.mp known
    rw [plain.is_blank_eq (List.mem_of_head? first)]
    exact tight.1 c first
  have back : ∀ b ∈ (ascii value).reverse.head?, Received.isBlank b = false := by
    rw [List.head?_reverse, plain.ascii_eq, List.getLast?_map]
    intro b known
    obtain ⟨c, last, rfl⟩ := Option.map_eq_some_iff.mp known
    rw [plain.is_blank_eq (List.mem_of_getLast? last)]
    exact tight.2 c last
  rw [Received.trimmed, drop_blanks_eq front, drop_blanks_eq back, List.reverse_reverse]

/-- A byte of the value may stand in a header, and it is visible. -/
theorem byte_visible {b : UInt8} (member : b ∈ ascii value) :
    b = 0x09 ∨ 0x20 ≤ b ∧ b < 0x7F := by
  rw [plain.ascii_eq, List.mem_map] at member
  obtain ⟨c, inside, rfl⟩ := member
  rcases plain.visible c inside with rfl | bounds
  · exact .inl rfl
  · rw [UInt8.le_iff_toNat_le, UInt8.lt_iff_toNat_lt, plain.code_eq inside]
    exact .inr bounds

/-- The bytes of the value are read as it. All of them are visible, so the header is
not left out. -/
theorem text_eq : Received.text? (ascii value) = some value := by
  have visible : (ascii value).all (fun b => (0x20 ≤ b && b < 0x7F) || b == 0x09) = true := by
    rw [List.all_eq_true]
    intro b member
    rcases plain.byte_visible member with rfl | ⟨least, greatest⟩
    · rfl
    · simp [least, greatest]
  have back : ((ascii value).map fun b => Char.ofNat b.toNat) = value.toList := by
    rw [plain.ascii_eq, List.map_map]
    refine (List.map_congr_left ?_).trans (List.map_id _)
    intro c member
    rw [Function.comp_apply, plain.code_eq member, Char.ofNat_toNat, id]
  rw [Received.text?, if_pos visible, back, String.ofList_toList]

end IsPlainValue

/-! ## Answers -/

/-- A header on the wire is a header of a response, if that has its name in lower
case. Names are compared without regard to case, and are told in one of them. -/
structure IsHeader (got : String × List UInt8) (told : String × String) : Prop where
  name : told.1 = Text.lowered got.1
  value : got.2 = ascii told.2
  plain : IsPlainValue told.2

/-- An answer spells a response: its status, its headers in order and the whole body are those of the
response. -/
structure Received.Spells (received : Received) (response : Response) : Prop where
  status : received.status = response.status
  deciding : IsDeciding response.status
  headers : List.Forall₂ IsHeader received.headers response.headers
  body : received.body = ascii response.body
  whole : ∀ count, received.announced = some count → count = received.body.length

/-- An answer breaks off in its body, of which it has told the length. This is how a
lost connection shows behind the status. -/
structure Received.IsCutShort (received : Received) : Prop where
  deciding : IsDeciding received.status
  short : ∃ count, received.announced = some count ∧ received.body.length < count

/-- A status that decides permits a body, so a length that was told is a promise. -/
theorem IsDeciding.has_body {status : Nat} (deciding : IsDeciding status) :
    (status < 200 || status == 204 || status == 304) = false := by
  obtain ⟨least, _, other⟩ := deciding
  simp only [List.mem_cons, List.not_mem_nil, or_false, not_or] at other
  simp [other]
  omega

namespace Received

variable {received : Received} {response : Response}

/-- Headers are added to a response in their order, and none is lost. The induction
is on the headers, with any response to begin with. -/
theorem fold_headers {got : List (String × List UInt8)} {told : List (String × String)}
    (headers : List.Forall₂ IsHeader got told) (response : Response) :
    got.foldl (fun response header =>
        match text? (trimmed header.2) with
        | none => response
        | some value => response.withHeader header.1 value) response =
      { response with headers := response.headers ++ told } := by
  induction headers generalizing response with
  | nil => simp
  | @cons got told _ others header _ inductionHypothesis =>
    obtain ⟨name, value⟩ := told
    have text : text? (trimmed got.2) = some value := by
      rw [header.value, header.plain.trimmed_eq, header.plain.text_eq]
    have named : name = Text.lowered got.1 := header.name
    rw [List.foldl_cons]
    simp only [text]
    rw [inductionHypothesis, Response.withHeader, ← named, List.append_assoc]
    rfl

/-- An answer that spells a response can be read: its status is in range, and each
of its headers is. -/
theorem readable_of_spells (spells : received.Spells response) : received.isReadable = true := by
  obtain ⟨least, greatest, _⟩ := spells.deciding
  rw [← spells.status] at least greatest
  have values : ∀ header ∈ received.headers, ∃ value, IsPlainValue value ∧ header.2 = ascii value :=
    ((List.forall₂_and_left _ _).mp (spells.headers.imp fun got told header =>
      ⟨⟨told.2, header.plain, header.value⟩, header⟩)).1
  have printable : ∀ header ∈ received.headers, ∀ b ∈ header.2,
      ((0x20 ≤ b && b != 0x7F) || b == 0x09) = true := by
    intro header member b inside
    obtain ⟨value, plain, same⟩ := values header member
    rw [same] at inside
    rcases plain.byte_visible inside with rfl | ⟨least, greatest⟩
    · rfl
    · have other : b ≠ 0x7F := by
        rintro rfl
        exact absurd greatest (by decide)
      simp [least, other]
  simp only [isReadable, Bool.and_eq_true, Bool.or_eq_true, decide_eq_true_eq, List.all_eq_true]
  exact ⟨⟨⟨by omega, by omega⟩, .inl least⟩, fun header member b inside => by
    simpa using printable header member b inside⟩

/-- What an answer spells is its response. The body is whole, plain ASCII, and read
back as the text that it came from. -/
theorem response_of_spells (spells : received.Spells response) : received.response = .ok response := by
  have content : received.content? = some (ascii response.body) := by
    have present := spells.deciding.has_body
    rw [← spells.status] at present
    simp only [content?, present, Bool.false_eq_true, if_false, ← spells.body]
    cases announced : received.announced with
    | none => rfl
    | some count =>
      obtain rfl := spells.whole count announced
      simp only [Nat.le_refl, if_true, List.take_length]
  have body : String.ofList (Text.Utf8.decodeLossy (ascii response.body)) = response.body := by
    rw [ascii, Text.Utf8.decode_lossy_encode, String.ofList_toList]
  rw [Received.response, content]
  simp only [body, spells.status]
  exact congrArg Except.ok (fold_headers spells.headers _)

/-- An answer that breaks off in its body has no response, whatever its headers say.
-/
theorem response_of_cut_short (short : received.IsCutShort) :
    received.response = .error .cutOff := by
  obtain ⟨deciding, count, announced, less⟩ := short
  have none : received.content? = none := by
    simp only [content?, deciding.has_body, announced, Bool.false_eq_true, if_false,
      if_neg (Nat.not_le_of_lt less)]
  rw [Received.response, none]

end Received

variable {encounter : Encounter} {received : Received} {origin : List Char}

/-- An encounter leads on only with an answer, whose status leads on. So it is
enough to look at the status. -/
theorem Hop.stays_of_status {hop : Hop}
    (stays : ∀ received, encounter.reaction = .answered received → leadsOn received.status = false) :
    ¬ hop.LeadsOn encounter := by
  rintro ⟨received, answered, _, leads, _⟩
  rw [stays received answered] at leads
  cases leads

/-- Of an answer that spells a response the response is delivered. It can be read,
and has a response. -/
theorem Connection.told_of_spells {response : Response}
    (answered : encounter.reaction = .answered received) (spells : received.Spells response) : told (Hop.answer origin encounter) = .ok response :=
  told_answer_iff.mpr
    ⟨received, answered, received.readable_of_spells spells, received.response_of_spells spells⟩

/-- What is delivered is a response or a fault on the way. No other fault is made
below the decoder. -/
theorem Connection.told_or_fails (result : Except ExchangeFault Received) :
    (∃ response, told result = .ok response) ∨ Fails (told result) := by
  unfold told
  cases result.bind Received.response with
  | ok response => exact .inl ⟨response, rfl⟩
  | error fault => exact .inr ⟨_, rfl⟩

/-- Of an answer that breaks off in its body only a fault is delivered. A response
would have been made of the answer, and it has none. -/
theorem Connection.fails_of_cut_short (answered : encounter.reaction = .answered received)
    (short : received.IsCutShort) : Fails (told (Hop.answer origin encounter)) := by
  rcases told_or_fails (Hop.answer origin encounter) with ⟨response, delivered⟩ | fails
  · obtain ⟨other, same, _, made⟩ := told_answer_iff.mp delivered
    obtain rfl := Reaction.answered.inj (answered.symm.trans same)
    rw [Received.response_of_cut_short short] at made
    cases made
  · exact fails

end ExtensionPublisher.Http
