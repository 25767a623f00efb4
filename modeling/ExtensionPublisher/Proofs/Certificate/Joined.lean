import ExtensionPublisher.Certificate.Armor
import ExtensionPublisher.Proofs.Text.Trim
import ExtensionPublisher.Proofs.Text.Utf8

/-!
# Armored blocks in joined texts

A text that can be read to its end leaves the reader between blocks. So what is written behind it, on a
line of its own, is read on its own: the blocks of the whole are those of the front and then those of
what is behind, `read_all_joined`. Only a byte order mark may be taken otherwise there, for it depends
on the last line of the front whether the reader looks for one.

The front and the line feed behind it may end in another way than the front alone: the line feed ends
the last piece, or is a piece of its own, `line_feed_behind_pieces`. Neither makes a difference to what is
read, `read_line_feed`.
-/
namespace ExtensionPublisher.Certificate.Armored

/-! ## Pieces -/

/-- The pieces are the text: cutting it neither drops nor adds a character. -/
theorem flatten_pieces_from (room : Nat) (text : List Char) : (piecesFrom room text).flatten = text := by
  induction text generalizing room with
  | nil => rfl
  | cons c rest inductionHypothesis =>
    unfold piecesFrom
    split
    · rw [List.flatten_cons, inductionHypothesis, List.singleton_append]
    · split
      · next nothing => rw [← inductionHypothesis (room - 1), nothing]; rfl
      · next piece others known =>
        rw [← inductionHypothesis (room - 1), known, List.flatten_cons, List.flatten_cons,
          List.cons_append]

/-- A text without pieces is empty. -/
theorem text_of_no_pieces {room : Nat} {text : List Char} (nothing : piecesFrom room text = []) :
    text = [] := by
  rw [← flatten_pieces_from room text, nothing, List.flatten_nil]

/-- Behind a line feed the pieces begin anew, whatever room was left in front of it.
The induction is on the text in front, with the room counted down. -/
theorem pieces_from_append (room : Nat) (front behind : List Char) :
    piecesFrom room (front ++ '\n' :: behind) =
      piecesFrom room (front ++ ['\n']) ++ pieces behind := by
  induction front generalizing room with
  | nil => simp [piecesFrom, pieces]
  | cons c rest inductionHypothesis =>
    simp only [List.cons_append, piecesFrom]
    split
    · rw [inductionHypothesis, List.cons_append]
    · rw [inductionHypothesis]
      cases known : piecesFrom (room - 1) (rest ++ ['\n']) with
      | nil => simpa using text_of_no_pieces known
      | cons piece others => simp

/-- A line feed behind a text is a piece of its own, or ends the last piece, which has room for it. -/
theorem line_feed_behind_pieces {room : Nat} (small : room ≤ pieceLength) (text : List Char) :
    piecesFrom room (text ++ ['\n']) = piecesFrom room text ++ [['\n']] ∨
      ∃ init last, piecesFrom room text = init ++ [last] ∧
        piecesFrom room (text ++ ['\n']) = init ++ [last ++ ['\n']] ∧
        last.length < pieceLength ∧ (init = [] → last.length < room) := by
  induction text generalizing room with
  | nil => exact .inl (by simp [piecesFrom])
  | cons c rest inductionHypothesis =>
    simp only [List.cons_append, piecesFrom]
    split
    · rcases inductionHypothesis le_rfl with own | ⟨init, last, known, ended, short, _⟩
      · exact .inl (by rw [own, List.cons_append])
      · refine .inr ⟨[c] :: init, last, ?_, ?_, short, nofun⟩
        · rw [known, List.cons_append]
        · rw [ended, List.cons_append]
    · next within =>
      simp only [not_or, not_le] at within
      cases rest with
      | nil =>
        refine .inr ⟨[], [c], rfl, ?_, ?_, fun _ => within.2⟩
        · simp [piecesFrom]
        · simp [pieceLength]
      | cons d more =>
        cases known : piecesFrom (room - 1) (d :: more) with
        | nil => cases text_of_no_pieces known
        | cons piece others =>
          have fits : room - 1 ≤ pieceLength := by omega
          rcases inductionHypothesis fits with own | ⟨init, last, same, ended, short, first⟩
          · exact .inl (by rw [own, known]; rfl)
          · rw [ended]
            rw [known] at same
            cases init with
            | nil =>
              obtain ⟨rfl, rfl⟩ := List.cons.inj same
              have bound := first rfl
              exact .inr ⟨[], c :: piece, rfl, rfl, by simp only [List.length_cons]; omega,
                fun _ => by simp only [List.length_cons]; omega⟩
            | cons head init =>
              obtain ⟨rfl, rfl⟩ := List.cons.inj same
              exact .inr ⟨(c :: piece) :: init, last, rfl, rfl, short, nofun⟩

/-! ## Byte order marks -/

/-- A byte order mark, one character for each byte, since the reader takes bytes for
characters. -/
def mark : List Char := ['\u00ef', '\u00bb', '\u00bf']

/-- A mark is dropped if something stands behind it, and nothing else is. Whoever
needs what a piece is without its mark can split on these two cases. -/
theorem without_mark_cases (piece : List Char) :
    (∃ c rest, piece = mark ++ c :: rest ∧ withoutMark piece = c :: rest) ∨
      withoutMark piece = piece ∧ ∀ c rest, piece ≠ mark ++ c :: rest := by
  unfold withoutMark
  split
  · next c rest => exact .inl ⟨c, rest, rfl, rfl⟩
  · next other => exact .inr ⟨rfl, other⟩

/-- A line feed at the end of a piece does not count, as it is one of the loose
characters. -/
theorem tidied_line_feed (piece : List Char) : tidied (piece ++ ['\n']) = tidied piece := by
  rw [tidied, tidied, Text.drop_end_while_eq, Text.drop_end_while_eq]
  exact List.rdropWhile_concat_pos _ _ _ rfl

/-- It does not count behind a mark either. A mark with nothing behind it is not
dropped, but its characters do not count themselves. -/
theorem tidied_without_mark (piece : List Char) :
    tidied (withoutMark (piece ++ ['\n'])) = tidied (withoutMark piece) := by
  rcases without_mark_cases piece with ⟨c, rest, rfl, bare⟩ | ⟨bare, unmarked⟩
  · rw [bare]
    exact tidied_line_feed (c :: rest)
  · rw [bare]
    rcases without_mark_cases (piece ++ ['\n']) with ⟨c, rest, marked, ended⟩ | ⟨ended, _⟩
    · rcases List.eq_nil_or_concat rest with rfl | ⟨init, last, rfl⟩
      · -- The piece is the mark alone, and nothing in it counts.
        obtain ⟨rfl, same⟩ := List.append_inj' marked rfl
        rw [ended, ← same]
        decide
      · have shifted : piece ++ ['\n'] = (mark ++ c :: init) ++ [last] := by simpa using marked
        exact absurd (List.append_inj' shifted rfl).1 (unmarked c init)
    · rw [ended]
      exact tidied_line_feed piece

/-! ## Reading on -/

/-- A piece with room for a line feed is read alike with it. Such a piece was not
cut, so it is a whole line with and without its end. -/
theorem read_from_line_feed {piece : List Char} (short : piece.length < pieceLength)
    (rest : List (List Char)) (position : Position) :
    readFrom position ((piece ++ ['\n']) :: rest) = readFrom position (piece :: rest) := by
  have whole : ¬(piece.length = pieceLength ∧ piece.getLast? ≠ some '\n') := by omega
  cases position with
  | between first =>
    cases first <;> simp [readFrom, tidied_line_feed, tidied_without_mark]
  | within block =>
    have noted : block.note (piece ++ ['\n']) = block.note piece := by simp [Unclosed.note]
    have added (current : Unclosed) : current.add (piece ++ ['\n']) = current.add piece := by
      simp only [Unclosed.add, tidied_line_feed, whole]
      simp
    simp only [readFrom, noted, added, tidied_line_feed]

/-- What is read alike is read alike behind other pieces. The position behind them
is the same on both sides, but is not known, so the pieces must be alike at every
position. -/
theorem read_from_congr {pieces others : List (List Char)}
    (same : ∀ position, readFrom position pieces = readFrom position others)
    (front : List (List Char)) (position : Position) :
    readFrom position (front ++ pieces) = readFrom position (front ++ others) := by
  induction front generalizing position with
  | nil => exact same position
  | cons piece rest inductionHypothesis =>
    cases position <;> simp only [List.cons_append, readFrom, inductionHypothesis]

/-- Pieces that can be read to their end leave the reader between blocks, and it
reads on from there. An open block at the end would have no reading. -/
theorem read_from_append {position : Position} {front : List (List Char)} {blocks : List Armored}
    (read : readFrom position front = some blocks) :
    ∃ first, ∀ behind, readFrom position (front ++ behind) =
      (readFrom (.between first) behind).map (blocks ++ ·) := by
  induction front generalizing position blocks with
  | nil =>
    cases position with
    | between first =>
      obtain rfl := Option.some.inj read
      exact ⟨first, fun behind => by simp⟩
    | within => cases read
  | cons piece rest inductionHypothesis =>
    cases position with
    | between first =>
      simp only [List.cons_append, readFrom] at read ⊢
      split at read <;> exact inductionHypothesis read
    | within block =>
      simp only [List.cons_append, readFrom] at read ⊢
      by_cases closes : isClosing (tidied piece) = true
      · rw [if_pos closes] at read
        by_cases own : tidied piece = closing (block.note piece).label
        · rw [if_pos own] at read
          obtain ⟨armored, closed, later⟩ := Option.bind_eq_some_iff.mp read
          obtain ⟨others, known, made⟩ := Option.bind_eq_some_iff.mp later
          obtain rfl := Option.some.inj made
          obtain ⟨first, reads⟩ := inductionHypothesis known
          refine ⟨first, fun behind => ?_⟩
          rw [if_pos closes, if_pos own, closed, reads]
          cases readFrom (.between first) behind <;> rfl
        · rw [if_neg own] at read
          cases read
      · rw [if_neg closes] at read
        cases added : (block.note piece).add piece with
        | none =>
          rw [added] at read
          cases read
        | some longer =>
          rw [added] at read
          obtain ⟨first, reads⟩ := inductionHypothesis read
          refine ⟨first, fun behind => ?_⟩
          rw [if_neg closes]
          exact reads behind

/-- A line feed at the end of a text makes no difference. It is a piece of its own,
which is a blank line at the end, or it ends the last piece. -/
theorem read_line_feed (position : Position) (text : List Char) :
    readFrom position (pieces (text ++ ['\n'])) = readFrom position (pieces text) := by
  rcases line_feed_behind_pieces le_rfl text with own | ⟨init, last, same, ended, short, _⟩
  · have nothing (position : Position) : readFrom position [['\n']] = readFrom position [] := by
      cases position with
      | between first =>
        have unopened : opened? (tidied ['\n']) = none := by decide
        cases first <;> simp [readFrom, withoutMark, unopened]
      | within block =>
        -- Behind a line feed too, a block that is not closed cannot be read.
        have unclosed : isClosing (tidied ['\n']) = false := by decide
        simp only [readFrom, unclosed]
        cases (block.note ['\n']).add ['\n'] <;> rfl
    rw [pieces, own]
    simpa [pieces] using read_from_congr nothing (pieces text) position
  · rw [pieces, ended, pieces, same]
    exact read_from_congr (read_from_line_feed short []) init position

/-- A text that can be read to its end can be read with a line feed behind it, and the reader is between
blocks. -/
theorem read_from_pieces {position : Position} {text : List Char} {blocks : List Armored}
    (read : readFrom position (pieces text) = some blocks) :
    ∃ first, ∀ behind, readFrom position (pieces (text ++ ['\n']) ++ behind) =
      (readFrom (.between first) behind).map (blocks ++ ·) :=
  read_from_append ((read_line_feed position text).trans read)

/-- The bytes of a byte order mark. -/
def markBytes : List UInt8 := [0xEF, 0xBB, 0xBF]

/-- Different bytes are different characters, because no byte is a surrogate. -/
theorem character_injective : Function.Injective fun b : UInt8 => Char.ofNat b.toNat := by
  intro b c same
  have codes (d : UInt8) : (Char.ofNat d.toNat).val.toNat = d.toNat :=
    Text.Utf8.code_of_nat (.inl (by have := d.toNat_lt; omega))
  have equal : (Char.ofNat b.toNat).val.toNat = (Char.ofNat c.toNat).val.toNat :=
    congrArg (·.val.toNat) same
  rwa [codes, codes, UInt8.toNat_inj] at equal

/-- Between blocks, a text is read alike whether or not a mark is looked for, unless it begins with
one. -/
theorem read_all_between {bytes : List UInt8} (unmarked : ¬markBytes <+: bytes) (first : Bool) :
    readFrom (.between first) (pieces (characters bytes)) = readAll bytes := by
  unfold readAll
  cases known : pieces (characters bytes) with
  | nil => rfl
  | cons piece rest =>
    rcases without_mark_cases piece with ⟨c, others, rfl, _⟩ | ⟨bare, _⟩
    · refine absurd ?_ unmarked
      rw [← List.prefix_map_iff_of_injective character_injective]
      refine ⟨c :: others ++ rest.flatten, ?_⟩
      have whole := flatten_pieces_from pieceLength (characters bytes)
      rw [pieces] at known
      rw [known] at whole
      rw [← List.append_assoc]
      exact whole
    · cases first <;> simp [readFrom, bare]

/-- A text that can be read to its end, and behind it on a line of its own a text without a byte order
mark, are read one after the other. -/
theorem read_all_joined {front behind : List UInt8} {blocks : List Armored}
    (read : readAll front = some blocks) (unmarked : ¬markBytes <+: behind) :
    readAll (front ++ 0x0A :: behind) = (readAll behind).map (blocks ++ ·) := by
  obtain ⟨first, reads⟩ := read_from_pieces read
  calc readAll (front ++ 0x0A :: behind)
      = readFrom (.between true) (pieces (characters front ++ '\n' :: characters behind)) := by
        rw [readAll, characters, List.map_append, List.map_cons]
        rfl
    _ = readFrom (.between true)
          (pieces (characters front ++ ['\n']) ++ pieces (characters behind)) := by
        rw [pieces, pieces_from_append]
        rfl
    _ = (readFrom (.between first) (pieces (characters behind))).map (blocks ++ ·) := reads _
    _ = (readAll behind).map (blocks ++ ·) := by rw [read_all_between unmarked]

end ExtensionPublisher.Certificate.Armored
