import ExtensionPublisher.Proofs.Certificate.Joined

/-!
# Armored blocks as they are written

A block is written as a line that opens it, lines of digits, and a line that closes it. A reader that is
between blocks reads such a block with what its digits hold, and is between blocks again:
`read_written`. How the digits are divided into lines makes no difference, nor do carriage returns at the
ends of lines. A line may also be longer than a piece. Then the reader takes it piece by piece,
`read_cut`, and nothing but the end of the line may be left for the last one.

Between blocks a line is passed over, if no block is opened anywhere in it: `read_plain`.
-/
namespace ExtensionPublisher.Certificate

namespace Base64

/-- Whether a character is a digit, or fills up the last group. Blanks are left out
on purpose: lines of such characters can be counted as they stand, without looking
at what is trimmed. -/
def isWritten (c : Char) : Bool := (digitValue? c).isSome || c == '='

/-- What is written is visible, and is neither a hyphen nor a colon. So a line of it
never looks like the end of a block or like a header, and nothing of it is cut off
as loose. -/
theorem code_of_written {c : Char} (written : isWritten c = true) :
    0x20 < c.toNat ∧ c.toNat < 0x80 ∧ c ≠ '-' ∧ c ≠ ':' := by
  have codes : (65 ≤ c.toNat ∧ c.toNat ≤ 90) ∨ (97 ≤ c.toNat ∧ c.toNat ≤ 122) ∨
      (48 ≤ c.toNat ∧ c.toNat ≤ 57) ∨ c = '+' ∨ c = '/' ∨ c = '=' := by
    by_cases filling : c = '='
    · simp [filling]
    · simp only [isWritten, digitValue?, beq_false_of_ne filling, Bool.or_false] at written
      split at written
      · next upper => exact .inl upper
      · split at written
        · next lower => exact .inr (.inl lower)
        · split at written
          · next decimal => exact .inr (.inr (.inl decimal))
          · by_cases plus : c = '+'
            · simp [plus]
            · by_cases slash : c = '/'
              · simp [slash]
              · simp [plus, slash] at written
  rcases codes with ⟨least, most⟩ | ⟨least, most⟩ | ⟨least, most⟩ | rfl | rfl | rfl
  case inr.inr.inr.inl | inr.inr.inr.inr.inl | inr.inr.inr.inr.inr => decide
  all_goals
    refine ⟨by omega, by omega, ?_, ?_⟩
    all_goals
      rintro rfl
      revert least most
      decide

/-- Blanks make no difference to what is held. Both texts are read up to a hyphen,
which neither of them has, and decoding drops the blanks before it counts the
groups. -/
theorem decode_of_filter {text other : List Char} (unbroken : '-' ∉ text) (alike : '-' ∉ other)
    (same : text.filter (!isBlank ·) = other.filter (!isBlank ·)) : decode? text = decode? other := by
  have whole {cs : List Char} (free : '-' ∉ cs) : cs.takeWhile (· ≠ '-') = cs := by
    rw [List.takeWhile_eq_self_iff]
    intro c member
    simpa using fun equal : c = '-' => free (equal ▸ member)
  rw [decode?, decode?, whole unbroken, whole alike, same]

end Base64

namespace Armored

/-! ## Pieces of a line -/

/-- What fills the room is a piece, whatever comes behind it. The induction counts
the room down with the characters, so that the last one is the one that leaves none.
-/
theorem pieces_of_long {room : Nat} {front : List Char} (unbroken : '\n' ∉ front)
    (long : front.length = room) (some_ : 0 < room) (rest : List Char) :
    piecesFrom room (front ++ rest) = front :: pieces rest := by
  induction front generalizing room with
  | nil => exact absurd long (Nat.ne_of_lt some_)
  | cons c more inductionHypothesis =>
    simp only [List.mem_cons, not_or, List.length_cons] at unbroken long
    simp only [List.cons_append, piecesFrom, Ne.symm unbroken.1, false_or]
    cases more with
    | nil =>
      rw [if_pos (by simp at long; omega)]
      rfl
    | cons d others =>
      rw [List.length_cons] at long
      rw [if_neg (by omega), inductionHypothesis unbroken.2 (by rw [List.length_cons]; omega) (by omega)]

/-- A line with room for its line feed is a piece, since the line feed is reached
before the room is used up. -/
theorem pieces_of_short {room : Nat} {line : List Char} (unbroken : '\n' ∉ line)
    (short : line.length < room) : piecesFrom room (line ++ ['\n']) = [line ++ ['\n']] := by
  induction line generalizing room with
  | nil => simp [piecesFrom]
  | cons c more inductionHypothesis =>
    simp only [List.mem_cons, not_or, List.length_cons] at unbroken short
    simp only [List.cons_append, piecesFrom, Ne.symm unbroken.1, false_or]
    rw [if_neg (by omega), inductionHypothesis unbroken.2 (by omega)]

/-- The pieces of a line, and of what is behind it. A line feed always ends a piece,
so the text behind starts with a full room again. -/
theorem pieces_append (line rest : List Char) :
    pieces (line ++ ['\n'] ++ rest) = pieces (line ++ ['\n']) ++ pieces rest := by
  rw [List.append_assoc, List.singleton_append]
  exact pieces_from_append pieceLength line rest

/-! ## Lines between blocks -/

/-- The line that opens a block. -/
def opener (label : List Char) : List Char := opening ++ label ++ dashes

/-- No block is opened anywhere in a line. The opening is looked for inside the line
and not only at its start, since a long line is cut into pieces that may begin
anywhere. -/
def IsPlain (line : List Char) : Prop := ∀ label, ¬opener label <:+: line

/-- A line is plain if some character of an opening is not in it. This is the test
that the lines of ordinary texts pass. -/
theorem plain_of_not_mem {line : List Char} {c : Char} (opens : c ∈ opening) (absent : c ∉ line) :
    IsPlain line := by
  intro label within
  refine absent (within.subset ?_)
  rw [opener, List.append_assoc]
  exact List.mem_append_left _ opens

/-- No piece of a plain line opens a block. A piece is a stretch of the line, and so
is what remains when its end is tidied and a byte order mark is taken off. -/
theorem unopened_of_plain {line piece : List Char} (plain : IsPlain line)
    (member : piece ∈ pieces (line ++ ['\n'])) :
    opened? (tidied piece) = none ∧ opened? (tidied (withoutMark piece)) = none := by
  have inside : piece <:+: line ++ ['\n'] := by
    have whole := List.infix_of_mem_flatten member
    rwa [pieces, flatten_pieces_from] at whole
  have unopened {part : List Char} (within : part <:+: line ++ ['\n']) :
      opened? (tidied part) = none := by
    unfold opened?
    dsimp only
    rw [if_neg]
    intro same
    have read : tidied part <:+: line ++ ['\n'] := by
      rw [tidied, Text.drop_end_while_eq]
      exact (List.rdropWhile_prefix _ _).isInfix.trans within
    rw [same, List.infix_concat_iff] at read
    rcases read with ending | inner
    · -- An opening does not end in a line feed.
      obtain ⟨front, whole⟩ := ending
      rw [← List.append_assoc] at whole
      have last : dashes.getLast? = some '\n' := by
        have ends := congrArg List.getLast? whole
        rwa [List.getLast?_append, List.getLast?_concat] at ends
      exact absurd last (by decide)
    · exact plain _ inner
  refine ⟨unopened inside, ?_⟩
  rcases without_mark_cases piece with ⟨c, rest, rfl, bare⟩ | ⟨bare, _⟩
  · rw [bare]
    exact unopened ((List.suffix_append _ _).isInfix.trans inside)
  · rw [bare]
    exact unopened inside

/-- Pieces that open nothing are passed over. The state may change from the first
line to a later one, but the reader stays between blocks. -/
theorem read_unopened {front : List (List Char)}
    (unopened : ∀ piece ∈ front,
      opened? (tidied piece) = none ∧ opened? (tidied (withoutMark piece)) = none) (first : Bool) :
    ∃ later, ∀ rest, readFrom (.between first) (front ++ rest) = readFrom (.between later) rest := by
  induction front generalizing first with
  | nil => exact ⟨first, fun _ => rfl⟩
  | cons piece others inductionHypothesis =>
    rw [List.forall_mem_cons] at unopened
    obtain ⟨later, reads⟩ := inductionHypothesis unopened.2 false
    refine ⟨later, fun rest => ?_⟩
    rw [← reads, List.cons_append, readFrom]
    cases first <;> simp [unopened.1]

/-- A plain line is passed over, in however many pieces it is read. -/
theorem read_plain {line : List Char} (plain : IsPlain line) (first : Bool) :
    ∃ later, ∀ rest, readFrom (.between first) (pieces (line ++ ['\n']) ++ rest) =
      readFrom (.between later) rest :=
  read_unopened (fun _ => unopened_of_plain plain) first

/-! ## Lines with their ends -/

/-- A line with its end. -/
structure Line where
  text : List Char
  /-- Whether a carriage return stands in front of the line feed. -/
  returned : Bool

namespace Line

/-- What stands in front of the line feed. -/
def returns (line : Line) : List Char := if line.returned then ['\r'] else []

/-- The line as it is written. -/
def written (line : Line) : List Char := line.text ++ line.returns ++ ['\n']

/-- At most one carriage return stands in front of the line feed. -/
theorem returns_blank (line : Line) : (∀ c ∈ line.returns, c = '\r') ∧ line.returns.length ≤ 1 := by
  unfold returns
  split <;> simp

end Line

/-- The pieces of a line, and of what is behind it. The carriage return belongs to
the line here. -/
theorem pieces_line (line : Line) (rest : List Char) :
    pieces (line.written ++ rest) = pieces line.written ++ pieces rest :=
  pieces_append (line.text ++ line.returns) rest

/-- The pieces of lines, and of what is behind them, by induction on the lines. -/
theorem pieces_lines (lines : List Line) (rest : List Char) :
    pieces (lines.flatMap Line.written ++ rest) = pieces (lines.flatMap Line.written) ++ pieces rest := by
  induction lines with
  | nil => rfl
  | cons line others inductionHypothesis =>
    rw [List.flatMap_cons, List.append_assoc, pieces_line, inductionHypothesis, pieces_line,
      List.append_assoc]

/-! ## Lines of digits -/

/-- What stands at the end of a line does not count, as long as the last character
of the line is one that is kept: tidying stops there. -/
theorem tidied_of_firm {line ending : List Char} (firm : ∀ c ∈ line.getLast?, isLoose c = false)
    (blank : ∀ c ∈ ending, c = '\r' ∨ c = '\n') : tidied (line ++ ending) = line := by
  have loose : ∀ c ∈ ending, isLoose c = true := by
    intro c member
    rcases blank c member with rfl | rfl <;> decide
  rw [tidied, Text.drop_end_while_append loose, Text.drop_end_while_eq_self firm]

/-- A line of digits counts as it is, because a digit is never loose. -/
theorem tidied_written {line ending : List Char} (written : ∀ c ∈ line, Base64.isWritten c = true)
    (blank : ∀ c ∈ ending, c = '\r' ∨ c = '\n') : tidied (line ++ ending) = line := by
  refine tidied_of_firm (fun c last => ?_) blank
  obtain ⟨visible, narrow, _⟩ := Base64.code_of_written (written c (List.mem_of_getLast? last))
  simp [isLoose, visible, narrow]

/-- What an unclosed block without a header has gathered. This is the invariant of
the lines of digits: the block has its label, is not a header, has not met a short
line, and holds the digits so far with blanks between them. -/
structure Unclosed.Gathers (block : Unclosed) (label digits : List Char) : Prop where
  label : block.label = label
  headless : block.back? = none
  colon : block.colon = false
  full : block.short = false
  unbroken : '-' ∉ block.front
  digits : block.front.filter (!Base64.isBlank ·) = digits

section Digits

variable {block : Unclosed} {label digits line : List Char}

/-- A line of digits behind those that are gathered. Only the front of the block
grows, and the line feed that is added with the line is a blank. -/
theorem Unclosed.Gathers.append (gathers : block.Gathers label digits)
    (written : ∀ c ∈ line, Base64.isWritten c = true) (cut : Bool) :
    Unclosed.Gathers { block with front := block.front ++ (line ++ ['\n']), cut := cut } label
      (digits ++ line) where
  label := gathers.label
  headless := gathers.headless
  colon := gathers.colon
  full := gathers.full
  unbroken := by
    simp only [List.mem_append, List.mem_singleton, not_or]
    exact ⟨gathers.unbroken,
      fun member => (Base64.code_of_written (written _ member)).2.2.1 rfl, by decide⟩
  digits := by
    have kept : line.filter (!Base64.isBlank ·) = line := by
      rw [List.filter_eq_self]
      intro c member
      obtain ⟨visible, _⟩ := Base64.code_of_written (written c member)
      have other : Base64.isBlank c = false := by
        simp only [Base64.isBlank, Bool.or_eq_false_iff, beq_eq_false_iff_ne]
        refine ⟨⟨⟨?_, ?_⟩, ?_⟩, ?_⟩
        all_goals
          rintro rfl
          exact absurd visible (by decide)
      rw [other, Bool.not_false]
    have feed : ['\n'].filter (!Base64.isBlank ·) = [] := rfl
    rw [List.filter_append, List.filter_append, gathers.digits, kept, feed, List.append_nil]

/-- A piece of digits adds them to a block. A piece without digits would be an empty
line and end a header; only behind a cut it is the end of the line that was cut, and
adds nothing. -/
theorem add_digits (gathers : block.Gathers label digits)
    (written : ∀ c ∈ line, Base64.isWritten c = true) {ending : List Char}
    (blank : ∀ c ∈ ending, c = '\r' ∨ c = '\n') (filled : line ≠ [] ∨ block.cut = true) :
    ∃ next, block.add (line ++ ending) = some next ∧ next.Gathers label (digits ++ line) ∧
      ((line ++ ending).length = pieceLength → '\n' ∉ line ++ ending → next.cut = true) := by
  have whole : beforeZero (line ++ ['\n']) = line ++ ['\n'] := by
    rw [beforeZero, List.takeWhile_eq_self_iff]
    intro c member
    rw [decide_eq_true_eq]
    rintro rfl
    rcases List.mem_append.mp member with inside | last
    · exact absurd (Base64.code_of_written (written _ inside)).1 (by decide)
    · exact absurd last (by decide)
  have cuts : (line ++ ending).length = pieceLength → '\n' ∉ line ++ ending →
      ((line ++ ending).length = pieceLength ∧ (line ++ ending).getLast? ≠ some '\n') :=
    fun long unbroken => ⟨long, fun last => unbroken (List.mem_of_getLast? last)⟩
  obtain ⟨own, front, colon, back?, short, cut⟩ := block
  obtain rfl : back? = none := gathers.headless
  obtain rfl : short = false := gathers.full
  unfold Unclosed.add
  rw [tidied_written written blank]
  by_cases nothing : line = []
  · have cut := filled.resolve_left (not_not.mpr nothing)
    rw [if_pos nothing, if_pos cut]
    refine ⟨_, rfl, ?_, fun long unbroken => decide_eq_true (cuts long unbroken)⟩
    rw [nothing, List.append_nil]
    exact { gathers with }
  · rw [if_neg nothing, if_neg Bool.false_ne_true]
    dsimp only
    rw [whole]
    exact ⟨_, rfl, gathers.append written _, fun long unbroken => decide_eq_true (cuts long unbroken)⟩

/-- A piece of digits is read: no header is noted for it, it does not close the
block, and the block that goes on has its digits. -/
theorem read_piece (gathers : block.Gathers label digits)
    (written : ∀ c ∈ line, Base64.isWritten c = true) {ending : List Char}
    (blank : ∀ c ∈ ending, c = '\r' ∨ c = '\n') (filled : line ≠ [] ∨ block.cut = true) :
    ∃ next, next.Gathers label (digits ++ line) ∧
      ((line ++ ending).length = pieceLength → '\n' ∉ line ++ ending → next.cut = true) ∧
      ∀ rest, readFrom (.within block) ((line ++ ending) :: rest) = readFrom (.within next) rest := by
  obtain ⟨next, added, gathered, cuts⟩ := add_digits gathers written blank filled
  refine ⟨next, gathered, cuts, fun rest => ?_⟩
  have noted : block.note (line ++ ending) = block := by
    have plain : (line ++ ending).contains ':' = false := by
      rw [← Bool.not_eq_true, List.contains_iff_mem, List.mem_append, not_or]
      constructor
      · exact fun member => (Base64.code_of_written (written _ member)).2.2.2 rfl
      · exact fun member => absurd (blank _ member) (by decide)
    rw [Unclosed.note, plain, Bool.and_false, Bool.or_false]
  have unclosed : isClosing (tidied (line ++ ending)) = false := by
    rw [tidied_written written blank, isClosing, ← Bool.not_eq_true, List.isPrefixOf_iff_prefix]
    intro front
    have hyphen : '-' ∈ line := front.subset (by decide)
    exact (Base64.code_of_written (written _ hyphen)).2.2.1 rfl
  simp only [readFrom, noted, unclosed, added]
  rfl

/-- There is no line feed in a line of digits, nor in the carriage returns behind
it. So the line is cut only where a piece is full. -/
theorem unbroken_of_written {returns : List Char} (written : ∀ c ∈ line, Base64.isWritten c = true)
    (blank : ∀ c ∈ returns, c = '\r') : '\n' ∉ line ++ returns := by
  rw [List.mem_append, not_or]
  constructor
  · exact fun member => absurd (Base64.code_of_written (written _ member)).1 (by decide)
  · exact fun member => absurd (blank _ member) (by decide)

/-- A line that fills a piece adds the digits of that piece to a block, and is cut
there. The piece may end among the digits or in the carriage return, so both are
split at its length. -/
theorem read_cut (gathers : block.Gathers label digits)
    (written : ∀ c ∈ line, Base64.isWritten c = true) {returns : List Char}
    (blank : ∀ c ∈ returns, c = '\r') (filled : line ≠ [] ∨ block.cut = true)
    (long : pieceLength ≤ (line ++ returns).length) :
    ∃ next, next.Gathers label (digits ++ line.take pieceLength) ∧ next.cut = true ∧
      ∀ behind rest, readFrom (.within block) (pieces (line ++ returns ++ behind) ++ rest) =
        readFrom (.within next) (pieces (line.drop pieceLength ++
          returns.drop (pieceLength - line.length) ++ behind) ++ rest) := by
  have halves : line.take pieceLength ++ returns.take (pieceLength - line.length) ++
      (line.drop pieceLength ++ returns.drop (pieceLength - line.length)) = line ++ returns := by
    rw [← List.take_append, ← List.drop_append, List.take_append_drop]
  have cut : (line.take pieceLength ++ returns.take (pieceLength - line.length)).length =
      pieceLength := by
    rw [← List.take_append, List.length_take, Nat.min_eq_left long]
  have unbroken : '\n' ∉ line.take pieceLength ++ returns.take (pieceLength - line.length) :=
    fun member => unbroken_of_written written blank (halves ▸ List.mem_append_left _ member)
  have filling : line.take pieceLength ≠ [] ∨ block.cut = true := by
    refine filled.imp_left fun some_ nothing => some_ ?_
    exact (List.take_eq_nil_iff.mp nothing).resolve_left (by decide)
  obtain ⟨next, gathered, left, read⟩ := read_piece gathers
    (fun c member => written c (List.mem_of_mem_take member))
    (fun c member => .inl (blank c (List.mem_of_mem_take member))) filling
  refine ⟨next, gathered, left cut unbroken, fun behind rest => ?_⟩
  rw [← halves, List.append_assoc, pieces, pieces_of_long unbroken cut (by decide), List.cons_append, read]

/-- A line of digits adds them to a block, however long it is. A line that fits into
a piece is read at once; of a longer one the first piece is read, and the rest is a
shorter line that goes on in the block that was cut. -/
theorem read_digits (gathers : block.Gathers label digits)
    (written : ∀ c ∈ line, Base64.isWritten c = true) {returns : List Char}
    (blank : ∀ c ∈ returns, c = '\r') (filled : line ≠ [] ∨ block.cut = true) :
    ∃ next, next.Gathers label (digits ++ line) ∧
      ∀ rest, readFrom (.within block) (pieces (line ++ returns ++ ['\n']) ++ rest) =
        readFrom (.within next) rest := by
  -- What is left of a line that is cut is shorter.
  induction length : (line ++ returns).length using Nat.strongRecOn
    generalizing block digits line returns with
  | ind n inductionHypothesis =>
    by_cases short : (line ++ returns).length < pieceLength
    · have ends : ∀ c ∈ returns ++ ['\n'], c = '\r' ∨ c = '\n' := by
        intro c member
        rcases List.mem_append.mp member with inside | last
        · exact .inl (blank c inside)
        · exact .inr (List.mem_singleton.mp last)
      obtain ⟨next, gathered, _, read⟩ := read_piece gathers written ends filled
      refine ⟨next, gathered, fun rest => ?_⟩
      rw [pieces, pieces_of_short (unbroken_of_written written blank) short, List.append_assoc]
      exact read rest
    · obtain ⟨middle, gathered, cut, read⟩ :=
        read_cut gathers written blank filled (Nat.le_of_not_lt short)
      have shorter :
          (line.drop pieceLength ++ returns.drop (pieceLength - line.length)).length < n := by
        have some_ : 0 < pieceLength := by decide
        rw [← List.drop_append, List.length_drop, length]
        omega
      obtain ⟨next, all, later⟩ := inductionHypothesis _ shorter gathered
        (fun c member => written c (List.mem_of_mem_drop member))
        (fun c member => blank c (List.mem_of_mem_drop member)) (.inr cut) rfl
      rw [List.append_assoc, List.take_append_drop] at all
      exact ⟨next, all, fun rest => (read _ rest).trans (later rest)⟩

/-- Lines of digits add them to a block. Each line keeps what is gathered, and an
induction on the lines puts them together. -/
theorem read_lines {lines : List Line} (gathers : block.Gathers label digits)
    (written : ∀ line ∈ lines, line.text ≠ [] ∧ ∀ c ∈ line.text, Base64.isWritten c = true) :
    ∃ next, next.Gathers label (digits ++ lines.flatMap Line.text) ∧
      ∀ rest, readFrom (.within block) (pieces (lines.flatMap Line.written) ++ rest) =
        readFrom (.within next) rest := by
  induction lines generalizing block digits with
  | nil => exact ⟨block, by simpa using gathers, fun _ => rfl⟩
  | cons line others inductionHypothesis =>
    rw [List.forall_mem_cons] at written
    obtain ⟨middle, gathered, read⟩ :=
      read_digits gathers written.1.2 line.returns_blank.1 (.inl written.1.1)
    obtain ⟨next, all, later⟩ := inductionHypothesis gathered written.2
    refine ⟨next, by simpa using all, fun rest => ?_⟩
    rw [List.flatMap_cons, pieces_line, List.append_assoc, Line.written, read, later]

end Digits

/-! ## Blocks -/

/-- A label that fits on a line and says nothing else. A colon would make the line
that closes the block a header, and a zero byte would end it early. -/
structure IsLabel (label : List Char) : Prop where
  short : label.length ≤ 100
  unbroken : '\n' ∉ label
  whole : '\x00' ∉ label
  plain : ':' ∉ label

instance (label : List Char) : Decidable (IsLabel label) :=
  decidable_of_iff
    (label.length ≤ 100 ∧ '\n' ∉ label ∧ '\x00' ∉ label ∧ ':' ∉ label)
    ⟨fun ⟨short, unbroken, whole, plain⟩ => ⟨short, unbroken, whole, plain⟩,
      fun ⟨short, unbroken, whole, plain⟩ => ⟨short, unbroken, whole, plain⟩⟩

/-- A block as it is written. The lines may be of any length and end with or without
a carriage return, so one content is written in many ways. -/
structure Written where
  label : String
  /-- The bytes that the block holds. -/
  content : List UInt8
  /-- Whether a carriage return stands at the end of the line that opens the block. -/
  front : Bool
  /-- The lines of digits. -/
  lines : List Line
  /-- Whether a carriage return stands at the end of the line that closes the block. -/
  back : Bool

namespace Written

/-- The text of the block. -/
def text (block : Written) : List Char :=
  Line.written ⟨opener block.label.toList, block.front⟩ ++ block.lines.flatMap Line.written ++
    Line.written ⟨closing block.label.toList, block.back⟩

/-- What is read of the block. There is no header, as none is written. -/
def armored (block : Written) : Armored := ⟨block.label, [], block.content⟩

/-- The block has a proper label, and its digits write its bytes. No line is empty,
since an empty line would end a header, and some bytes are held. -/
structure IsSound (block : Written) : Prop where
  label : IsLabel block.label.toList
  lines : ∀ line ∈ block.lines, line.text ≠ [] ∧ ∀ c ∈ line.text, Base64.isWritten c = true
  held : Base64.decode? (block.lines.flatMap Line.text) = some block.content
  some_ : block.content ≠ []

instance (block : Written) : Decidable block.IsSound :=
  decidable_of_iff
    (IsLabel block.label.toList ∧
      (∀ line ∈ block.lines, line.text ≠ [] ∧ line.text.all Base64.isWritten = true) ∧
      Base64.decode? (block.lines.flatMap Line.text) = some block.content ∧ block.content ≠ [])
    ⟨fun ⟨label, lines, held, some_⟩ =>
        ⟨label, fun line member => (lines line member).imp_right List.all_eq_true.mp, held, some_⟩,
      fun ⟨label, lines, held, some_⟩ =>
        ⟨label, fun line member => (lines line member).imp_right List.all_eq_true.mpr, held, some_⟩⟩

end Written

/-- The label of an opening is what stands between the words and the dashes. Both
are counted off, so a label that has dashes itself comes back whole. -/
theorem opened_of_opening {label : List Char} (proper : IsLabel label) :
    opened? (opener label) = some label := by
  have inner : ((opener label).drop opening.length).take
      ((opener label).length - opening.length - dashes.length) = label := by
    have size : (opener label).length - opening.length - dashes.length = label.length := by
      simp only [opener, List.length_append]
      omega
    rw [size, opener, List.append_assoc, List.drop_left, List.take_left]
  have kept : beforeZero label = label := by
    rw [beforeZero, List.takeWhile_eq_self_iff]
    intro c member
    rw [decide_eq_true_eq]
    rintro rfl
    exact proper.whole member
  simp only [opened?, inner, kept]
  exact if_pos rfl

section Block

variable {label : List Char} (returned : Bool)

/-- A line that ends in dashes counts as it is, since only what follows the dashes
is loose. -/
theorem tidied_dashes (front : List Char) :
    tidied (Line.written ⟨front ++ dashes, returned⟩) = front ++ dashes := by
  rw [Line.written, List.append_assoc]
  refine tidied_of_firm (fun c last => ?_) fun c member => ?_
  · rw [List.getLast?_append, show dashes.getLast? = some '-' by decide, Option.some_or] at last
    obtain rfl := Option.some.inj last
    decide
  · rcases List.mem_append.mp member with inside | last
    · exact .inl ((Line.returns_blank _).1 c inside)
    · exact .inr (List.mem_singleton.mp last)

/-- A short line is a piece, with its carriage return and line feed. -/
theorem pieces_of_line {line : Line} (unbroken : '\n' ∉ line.text) (short : line.text.length ≤ 200) :
    pieces line.written = [line.written] := by
  obtain ⟨blank, one⟩ := line.returns_blank
  apply pieces_of_short
  · rw [List.mem_append, not_or]
    exact ⟨unbroken, fun member => absurd (blank _ member) (by decide)⟩
  · rw [List.length_append, pieceLength]
    omega

/-- A line that opens a block is a piece, because a label is short enough. -/
theorem pieces_of_opener (proper : IsLabel label) :
    pieces (Line.written ⟨opener label, returned⟩) = [Line.written ⟨opener label, returned⟩] := by
  apply pieces_of_line
  · rw [opener, List.mem_append, List.mem_append, not_or, not_or]
    exact ⟨⟨by decide, proper.unbroken⟩, by decide⟩
  · have around : opening.length + dashes.length = 16 := by decide
    have short := proper.short
    rw [opener, List.length_append, List.length_append]
    omega

/-- A line that opens a block is read, and the block that is begun has the label and
nothing else. -/
theorem read_opener (proper : IsLabel label) (first : Bool) (rest : List (List Char)) :
    readFrom (.between first) (Line.written ⟨opener label, returned⟩ :: rest) =
      readFrom (.within { label := label }) rest := by
  have bare : withoutMark (Line.written ⟨opener label, returned⟩) =
      Line.written ⟨opener label, returned⟩ := rfl
  have opened : opened? (tidied (Line.written ⟨opener label, returned⟩)) = some label := by
    rw [opener, tidied_dashes, ← opener, opened_of_opening proper]
  cases first <;> simp [readFrom, bare, opened]

/-- The parts of a line that closes a block. -/
theorem closing_eq (label : List Char) : closing label = "-----END ".toList ++ (label ++ dashes) :=
  List.append_assoc _ _ _

/-- What is in a line that closes a block is in its label, or in every such line. -/
theorem not_mem_closing {c : Char} (absent : c ∉ label) (other : c ∉ closing []) :
    c ∉ closing label := by
  rw [closing_eq, List.mem_append, not_or] at other ⊢
  rw [List.nil_append] at other
  rw [List.mem_append, not_or]
  exact ⟨other.1, absent, other.2⟩

/-- A line that closes a block is a piece, because a label is short enough. -/
theorem pieces_of_closing (proper : IsLabel label) :
    pieces (Line.written ⟨closing label, returned⟩) = [Line.written ⟨closing label, returned⟩] := by
  apply pieces_of_line (not_mem_closing proper.unbroken (by decide))
  have around : "-----END ".toList.length + dashes.length = 14 := by decide
  have short := proper.short
  rw [closing_eq, List.length_append, List.length_append]
  omega

/-- A block is closed with what its digits hold. Without a header the whole front is
text, and the blanks in it make no difference. -/
theorem close_of_gathers {unclosed : Unclosed} {digits : List Char} {content : List UInt8}
    (gathers : unclosed.Gathers label digits) (held : Base64.decode? digits = some content)
    (some_ : content ≠ []) : unclosed.close = some ⟨String.ofList label, [], content⟩ := by
  have text : unclosed.text = unclosed.front := by
    rw [Unclosed.text, gathers.headless, gathers.colon]
    rfl
  have decoded : Base64.decode? unclosed.front = some content := by
    rw [← held, ← gathers.digits]
    apply Base64.decode_of_filter gathers.unbroken
    · exact fun member => gathers.unbroken (List.mem_of_mem_filter member)
    · rw [List.filter_filter]
      simp only [Bool.and_self]
  have allowed : (guard (content ≠ []) : Option Unit) = some () := if_pos some_
  rw [Unclosed.close, text, decoded, gathers.label, gathers.headless]
  change (guard (content ≠ []) : Option Unit).bind (fun _ => some _) = _
  rw [allowed]
  rfl

/-- A line that closes a block is read. The line is no header, as its label has no
colon, and the label in it is that of the block. -/
theorem read_closing {unclosed : Unclosed} {digits : List Char} {content : List UInt8}
    (gathers : unclosed.Gathers label digits) (proper : IsLabel label)
    (held : Base64.decode? digits = some content) (some_ : content ≠ []) (rest : List (List Char)) :
    readFrom (.within unclosed) (Line.written ⟨closing label, returned⟩ :: rest) =
      (readFrom (.between true) rest).map (⟨String.ofList label, [], content⟩ :: ·) := by
  have noted : unclosed.note (Line.written ⟨closing label, returned⟩) = unclosed := by
    have plain : (Line.written ⟨closing label, returned⟩).contains ':' = false := by
      rw [← Bool.not_eq_true, List.contains_iff_mem]
      intro member
      rcases List.mem_append.mp member with line | feed
      · rcases List.mem_append.mp line with line | blank
        · exact absurd line (not_mem_closing proper.plain (by decide))
        · exact absurd ((Line.returns_blank _).1 _ blank) (by decide)
      · exact absurd feed (by decide)
    rw [Unclosed.note, plain, Bool.and_false, Bool.or_false]
  have tidy : tidied (Line.written ⟨closing label, returned⟩) = closing label :=
    tidied_dashes returned _
  have closes : isClosing (closing label) = true := by
    rw [closing_eq, isClosing, List.isPrefixOf_iff_prefix]
    exact List.prefix_append _ _
  simp only [readFrom, noted, tidy, closes, if_pos, gathers.label, close_of_gathers gathers held some_]
  cases readFrom (.between true) rest <;> rfl

end Block

/-- A block is read as what it is, and the reader is between blocks behind it. This
puts together the line that opens the block, its digits and the line that closes it.
-/
theorem read_written {block : Written} (sound : block.IsSound) (first : Bool)
    (rest : List (List Char)) :
    readFrom (.between first) (pieces block.text ++ rest) =
      (readFrom (.between true) rest).map (block.armored :: ·) := by
  have proper := sound.label
  have beginning : ({ label := block.label.toList } : Unclosed).Gathers block.label.toList [] :=
    ⟨rfl, rfl, rfl, rfl, List.not_mem_nil, rfl⟩
  obtain ⟨unclosed, gathered, read⟩ := read_lines beginning sound.lines
  calc readFrom (.between first) (pieces block.text ++ rest)
      = readFrom (.within { label := block.label.toList })
          (pieces (block.lines.flatMap Line.written) ++
            (Line.written ⟨closing block.label.toList, block.back⟩ :: rest)) := by
        rw [Written.text, List.append_assoc, pieces_line, pieces_lines, pieces_of_opener _ proper,
          pieces_of_closing _ proper, List.append_assoc, List.append_assoc, List.singleton_append,
          read_opener _ proper]
        rfl
    _ = readFrom (.within unclosed) (Line.written ⟨closing block.label.toList, block.back⟩ :: rest) :=
        read _
    _ = (readFrom (.between true) rest).map (block.armored :: ·) := by
        rw [read_closing _ gathered proper sound.held sound.some_, String.ofList_toList]
        rfl

end Armored

end ExtensionPublisher.Certificate
