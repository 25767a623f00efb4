import ExtensionPublisher.Certificate.Base64
import ExtensionPublisher.Text.Blank

/-!
# Armored blocks

Bytes travel in text as blocks between a line that opens and a line that closes, both with the
block's label; the lines between them hold the bytes in base 64. Lines outside blocks are
passed over. Inside a block an empty line separates a header from the content; behind it all
lines but the last are full, and there is no second empty line. A block with a colon is taken to
have a header, so without an empty line it has no content.

A text is read in pieces: a piece ends behind a line feed, or when it has as many characters
as a reader takes at once, so a longer line is more than one piece. Blanks, controls and
everything beyond ASCII at the end of a piece are dropped. A byte order mark in front of the
first piece behind a block is dropped too. A label or a line inside a block ends at a zero. One
character stands for each byte.

A text in which a block is not closed, is closed by another label, or holds no bytes has no
reading at all.
-/
namespace ExtensionPublisher.Certificate

/-- A block of bytes with its label and its header. What the bytes are is for others
to say. -/
structure Armored where
  label : String
  header : List Char
  content : List UInt8
  deriving DecidableEq, Repr

namespace Armored

/-- The text of bytes, one character for each, so that every text of bytes can be
read. -/
def characters (bytes : List UInt8) : List Char := bytes.map fun b => Char.ofNat b.toNat

/-- How many characters a piece has at most. -/
def pieceLength : Nat := 254

/-- The pieces of a text, when a number of characters still fits into the first one.
The recursion goes through the text once, and counts down the room. -/
def piecesFrom : Nat → List Char → List (List Char)
  | _, [] => []
  | room, c :: rest =>
    if c = '\n' ∨ room ≤ 1 then [c] :: piecesFrom pieceLength rest
    else
      match piecesFrom (room - 1) rest with
      | [] => [[c]]
      | piece :: others => (c :: piece) :: others

/-- The pieces of a text. -/
def pieces (text : List Char) : List (List Char) := piecesFrom pieceLength text

/-- Characters that do not count at the end of a piece: blanks, controls and
everything beyond ASCII. -/
def isLoose (c : Char) : Bool := c.toNat ≤ 0x20 || 0x80 ≤ c.toNat

/-- A piece without what does not count at its end. -/
def tidied (piece : List Char) : List Char := Text.dropEndWhile isLoose piece

/-- A piece without a byte order mark, unless nothing stands behind the mark. -/
def withoutMark : List Char → List Char
  | '\u00ef' :: '\u00bb' :: '\u00bf' :: c :: rest => c :: rest
  | piece => piece

/-- Characters up to the first zero. -/
def beforeZero (cs : List Char) : List Char := cs.takeWhile (· ≠ '\x00')

/-- The dashes around a label. -/
def dashes : List Char := "-----".toList

/-- How a line begins that opens a block. -/
def opening : List Char := "-----BEGIN ".toList

/-- The label of a line that opens a block. Nothing may stand in front of the dashes
or behind them. -/
def opened? (line : List Char) : Option (List Char) :=
  let label := (line.drop opening.length).take (line.length - opening.length - dashes.length)
  if line = opening ++ label ++ dashes then some (beforeZero label) else none

/-- Whether a line closes a block, whatever its label. If the label is not the
block's, there is no reading. -/
def isClosing (line : List Char) : Bool := "-----END ".toList.isPrefixOf line

/-- The line that closes a block. -/
def closing (label : List Char) : List Char := "-----END ".toList ++ label ++ dashes

/-- A block of which the closing line has not been read. -/
structure Unclosed where
  label : List Char
  /-- The text in front of an empty line. -/
  front : List Char := []
  /-- Whether there is a colon in front of an empty line. -/
  colon : Bool := false
  /-- The text behind an empty line, if there was one. -/
  back? : Option (List Char) := none
  /-- Whether a line behind the empty one was not full. -/
  short : Bool := false
  /-- Whether the last piece was not a whole line. -/
  cut : Bool := false

namespace Unclosed

/-- The block with what the colons of a piece say about it. Behind an empty line
they say nothing. -/
def note (block : Unclosed) (piece : List Char) : Unclosed :=
  { block with colon := block.colon || block.back?.isNone && piece.contains ':' }

/-- The text of the content: what stands behind the empty line, or all of it if
nothing looks like a header. -/
def text (block : Unclosed) : List Char :=
  match block.back? with
  | some back => back
  | none => if block.colon then [] else block.front

/-- The block as it is when its closing line is met. It has to hold some bytes. -/
def close (block : Unclosed) : Option Armored := do
  let content ← Base64.decode? block.text
  guard (content ≠ [])
  return ⟨String.ofList block.label, if block.back?.isSome then block.front else [], content⟩

/-- How many characters a full line has, its line feed among them. -/
def fullLine : Nat := 65

/-- The block with one more piece, if that may stand there. An empty line is met
once at most, and behind it only the last line may be short. -/
def add (block : Unclosed) (piece : List Char) : Option Unclosed :=
  let line := tidied piece
  let cut := piece.length = pieceLength ∧ piece.getLast? ≠ some '\n'
  if line = [] then
    if block.cut then some { block with cut := cut }
    else if block.back?.isSome then none
    else some { block with back? := some [], cut := cut }
  else if block.short then none
  else
    let line := line ++ ['\n']
    let written := beforeZero line
    match block.back? with
    | none => some { block with front := block.front ++ written, cut := cut }
    | some back =>
      if fullLine < line.length then none
      else
        some { block with
          back? := some (back ++ written), short := line.length < fullLine, cut := cut }

end Unclosed

/-- Where a reader is: outside of blocks, or in one of them. -/
inductive Position where
  /-- Between blocks, perhaps in front of the first piece there. -/
  | between (first : Bool)
  | within (block : Unclosed)

/-- The blocks in pieces, from where the reader is. A block that is never closed
spoils the whole text. -/
def readFrom : Position → List (List Char) → Option (List Armored)
  | .between _, [] => some []
  | .within _, [] => none
  | .between first, piece :: rest =>
    match opened? (tidied (if first then withoutMark piece else piece)) with
    | none => readFrom (.between false) rest
    | some label => readFrom (.within { label := label }) rest
  | .within block, piece :: rest =>
    let block := block.note piece
    if isClosing (tidied piece) then
      if tidied piece = closing block.label then do
        let armored ← block.close
        let others ← readFrom (.between true) rest
        return armored :: others
      else none
    else
      match block.add piece with
      | none => none
      | some block => readFrom (.within block) rest

/-- The blocks in a text. -/
def readAll (bytes : List UInt8) : Option (List Armored) :=
  readFrom (.between true) (pieces (characters bytes))

end Armored

end ExtensionPublisher.Certificate
