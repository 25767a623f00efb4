import ExtensionPublisher.Text.WidthTables

/-!
# Display width

The width of a line is the number of columns that it takes. Most characters take one, some
two, and those that only change their neighbours take none. Pictures are the exception to
adding up: a picture and the tone or selector behind it are one picture, and so are pictures
that a joiner connects. They take two columns together.

Controls take one column each.
-/
namespace ExtensionPublisher.Text

/-- The columns of one character by itself. The visible characters of ASCII are
looked at first, as most texts have no others. -/
def charWidth (c : Char) : Nat :=
  if 0x20 ≤ c.toNat ∧ c.toNat < 0x7F then 1
  else if inRanges zeroWidthRanges c then 0
  else if inRanges wideRanges c then 2
  else 1

/-- What the next character may belong to. -/
inductive WidthState where
  /-- Nothing that goes on. -/
  | apart
  /-- A picture; `toned` when a tone may follow. -/
  | picture (toned : Bool)
  /-- A character that becomes a picture by a selector. -/
  | pictureOnRequest (toned : Bool)
  /-- A picture and a joiner. -/
  | joiner
  /-- The same as `pictureOnRequest`, behind a picture and a joiner. -/
  | joinedOnRequest (toned : Bool)
  deriving DecidableEq, Repr

/-- The state behind a character that belongs to nothing in front of it. Only
pictures have others that may belong to them. -/
def widthStateOf (c : Char) : WidthState :=
  if inRanges pictureRanges c then .picture (inRanges toneRanges c)
  else if inRanges pictureOnRequestRanges c then .pictureOnRequest (inRanges toneRanges c)
  else .apart

/-- Whether a character is a tone of skin. -/
def isTone (c : Char) : Bool := 0x1F3FB ≤ c.toNat && c.toNat ≤ 0x1F3FF

/-- The columns so far and the state, behind one more character. A selector, a
joiner and a tone change what has been counted, and any other character is counted
by itself. -/
def widthStep : Nat × WidthState → Char → Nat × WidthState
  | (total, state), c =>
    if c = '\uFE0F' then
      match state with
      | .pictureOnRequest toned => (total + 1, .picture toned)
      | .joinedOnRequest toned => (total - 1, .picture toned)
      | .picture toned => (total, .picture toned)
      | _ => (total, .apart)
    else if c = '\u200D' then
      match state with
      | .picture _ => (total, .joiner)
      | _ => (total, .apart)
    else if isTone c then
      match state with
      | .picture true => (total, .picture false)
      | .pictureOnRequest true => (total + 1, .picture false)
      | .joinedOnRequest true => (total - 1, .picture false)
      | .joiner => (total, .picture false)
      | _ => (total + 2, .picture false)
    else
      match state, widthStateOf c with
      | .joiner, .picture toned => (total, .picture toned)
      | .joiner, .pictureOnRequest toned => (total + charWidth c, .joinedOnRequest toned)
      | _, next => (total + charWidth c, if charWidth c = 0 then .apart else next)

/-- The columns of a line. Characters that are shown as one picture are counted
once. -/
def width (cs : List Char) : Nat := (cs.foldl widthStep (0, .apart)).1

end ExtensionPublisher.Text
