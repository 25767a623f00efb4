import ExtensionPublisher.Xml.Token

/-!
# Reading tokens

The scanner takes one character at a time. Its state says which kind of token it is inside
and holds the characters of that token, newest first; finished tokens are kept newest first
as well. Reading a text is a left fold over its characters, so what the scanner holds after
the beginning of a text is what it passes through on the way to the end: `scan_append`. A
token once finished stays, and a fault once met stays: `step_tokens`, `foldl_step_failed`.

Inside a tag a quotation mark opens a stretch in which `>` is an ordinary character. A
comment, a verbatim section and an instruction end at their own closing marks only, a
document type at the `>` that balances every `<` inside it.
-/
namespace ExtensionPublisher.Xml

open Text (isLayout dropEndWhile)

/-- The kind of token being read and its characters so far, newest first. The state
decides alone what the next character does. -/
inductive ScanState where
  | text (read : List Char)
  /-- After `<`. -/
  | angle
  /-- In a start tag, possibly inside quotation marks. -/
  | opening (quote : Option Char) (read : List Char)
  /-- In an end tag, possibly inside quotation marks. -/
  | closing (quote : Option Char) (read : List Char)
  /-- After `<?`. -/
  | instruction (read : List Char)
  /-- After `<!`. -/
  | bang
  | comment (read : List Char)
  | verbatim (read : List Char)
  /-- In a document type, with the number of `<` not yet balanced. -/
  | doctype (nesting : Nat) (read : List Char)
  | failed (fault : MarkupFaultAt)
  deriving DecidableEq, Repr

/-- What has been read: the number of bytes, the token begun, and the finished ones, newest
first. -/
structure Scan where
  offset : Nat := 0
  state : ScanState := .text []
  tokens : List Lexeme := []
  deriving DecidableEq, Repr

/-- The characters read without a number of them at the beginning and at the end. -/
def inside (leading trailing : Nat) (read : List Char) : List Char :=
  (read.drop trailing).reverse.drop leading

/-- The name in an end tag: without the layout behind it, unless it is nothing but layout. -/
def closingName (content : List Char) : List Char :=
  let name := dropEndWhile isLayout content
  if name.isEmpty then content else name

/-- The token of a complete start tag; a slash before the bracket closes it on the
spot. -/
def openingToken : List Char → Token
  | '/' :: read => .standalone (Tag.ofContent read.reverse)
  | read => .opening (Tag.ofContent read.reverse)

/-- The token of a complete instruction; the name `xml` makes it a declaration. -/
def instructionToken (content : List Char) : Token :=
  if (content.take 3 == ['x', 'm', 'l']) && (content.drop 3).head?.all isLayout then
    .declaration content
  else .instruction content

/-- The token of a complete comment. Only now it is seen whether it began as one. -/
def commentToken (read : List Char) : Except MarkupFault Token :=
  if read.reverse.take 2 == ['-', '-'] then .ok (.comment (inside 2 2 read))
  else .error .unclosedComment

/-- The token of a complete verbatim section. Only now it is seen whether it began
as one. -/
def verbatimToken (read : List Char) : Except MarkupFault Token :=
  if read.reverse.take 7 == "[CDATA[".toList then .ok (.verbatim (inside 7 2 read))
  else .error .unclosedVerbatim

/-- The token of a complete document type. Its keyword is read without regard to case, and
some name must follow. -/
def doctypeToken (read : List Char) : Except MarkupFault Token :=
  let content := inside 7 0 read
  if (read.reverse.take 7).map Char.toUpper != "DOCTYPE".toList then .error .unclosedDoctype
  else if content.all isLayout then .error .namelessDoctype
  else .ok (.doctype content)

namespace Scan

/-- Go on in a state, with one more character counted. -/
def enter (scan : Scan) (c : Char) (state : ScanState) : Scan :=
  { scan with offset := scan.offset + c.utf8Size, state := state }

/-- Finish a token with its last character, behind which a text begins. -/
def emit (scan : Scan) (c : Char) (token : Token) : Scan :=
  let stop := scan.offset + c.utf8Size
  { offset := stop, state := .text [], tokens := ⟨token, stop⟩ :: scan.tokens }

/-- Finish a token that may turn out to be malformed, with its last character. A
malformed one ends the scan. -/
def emitOr (scan : Scan) (c : Char) : Except MarkupFault Token → Scan
  | .ok token => scan.emit c token
  | .error fault => scan.enter c (.failed ⟨scan.offset + c.utf8Size, fault⟩)

/-- One character of a tag: whether it is the closing bracket, and the quotation that holds
after it. -/
def quoteAfter (quote : Option Char) (c : Char) : Option Char :=
  match quote with
  | some mark => if c = mark then none else some mark
  | none => if c = '"' ∨ c = '\'' then some c else none

/-- Read one character. There is one case for each state, and most characters are
only collected. -/
def step (scan : Scan) (c : Char) : Scan :=
  match scan.state with
  | .text read =>
    if c = '<' then
      let tokens := if read.isEmpty then scan.tokens
        else ⟨.text read.reverse, scan.offset⟩ :: scan.tokens
      { offset := scan.offset + c.utf8Size, state := .angle, tokens := tokens }
    else scan.enter c (.text (c :: read))
  | .angle =>
    if c = '!' then scan.enter c .bang
    else if c = '/' then scan.enter c (.closing none [])
    else if c = '?' then scan.enter c (.instruction [])
    else if c = '>' then scan.emit c (openingToken [])
    else scan.enter c (.opening (quoteAfter none c) [c])
  | .opening quote read =>
    if c = '>' ∧ quote = none then scan.emit c (openingToken read)
    else scan.enter c (.opening (quoteAfter quote c) (c :: read))
  | .closing quote read =>
    if c = '>' ∧ quote = none then scan.emit c (.closing (closingName read.reverse))
    else scan.enter c (.closing (quoteAfter quote c) (c :: read))
  | .instruction read =>
    if c = '>' then
      match read with
      | [] => scan.emitOr c (.error .unclosedInstruction)
      | '?' :: content => scan.emit c (instructionToken content.reverse)
      | _ => scan.enter c (.instruction (c :: read))
    else scan.enter c (.instruction (c :: read))
  | .bang =>
    if c = '[' then scan.enter c (.verbatim [c])
    else if c = '-' then scan.enter c (.comment [c])
    else if c = 'D' ∨ c = 'd' then scan.enter c (.doctype 0 [c])
    else scan.enter c (.failed ⟨scan.offset - 1, .unknownMarkup⟩)
  | .comment read =>
    match c, read with
    | '>', '-' :: '-' :: _ :: _ :: _ => scan.emitOr c (commentToken read)
    | _, _ => scan.enter c (.comment (c :: read))
  | .verbatim read =>
    match c, read with
    | '>', ']' :: ']' :: _ => scan.emitOr c (verbatimToken read)
    | _, _ => scan.enter c (.verbatim (c :: read))
  | .doctype nesting read =>
    if c = '<' then scan.enter c (.doctype (nesting + 1) (c :: read))
    else if c = '>' then
      match nesting with
      | 0 => scan.emitOr c (doctypeToken read)
      | outer + 1 => scan.enter c (.doctype outer (c :: read))
    else scan.enter c (.doctype nesting (c :: read))
  | .failed fault => scan.enter c (.failed fault)

/-- The fault of a text that ends in a state, if it may not end there. Only a text
may end anywhere. -/
def endFault? (scan : Scan) : Option MarkupFaultAt :=
  match scan.state with
  | .text _ => none
  | .angle | .opening .. | .closing .. => some ⟨scan.offset, .unclosedTag⟩
  | .instruction _ => some ⟨scan.offset, .unclosedInstruction⟩
  | .bang => some ⟨scan.offset - 1, .unknownMarkup⟩
  | .comment _ => some ⟨scan.offset, .unclosedComment⟩
  | .verbatim _ => some ⟨scan.offset, .unclosedVerbatim⟩
  | .doctype .. => some ⟨scan.offset, .unclosedDoctype⟩
  | .failed fault => some fault

/-- The finished tokens in order, with the text that runs to the end. An unfinished
piece of markup is no token. -/
def finished (scan : Scan) : List Lexeme :=
  match scan.state with
  | .text (c :: read) => (⟨.text (c :: read).reverse, scan.offset⟩ :: scan.tokens).reverse
  | _ => scan.tokens.reverse

end Scan

/-- The characters of a document without the byte order mark in front of it. -/
def withoutMark : List Char → List Char
  | '\uFEFF' :: rest => rest
  | cs => cs

/-- Read characters from the beginning. -/
def scan (cs : List Char) : Scan := cs.foldl Scan.step {}

/-- Reading on from what a beginning of the text leaves is reading the whole. -/
theorem scan_append (read rest : List Char) : scan (read ++ rest) = rest.foldl Scan.step (scan read) :=
  List.foldl_append

/-- A fault stays, whatever characters follow. Tokens that were finished before it
are kept. -/
theorem foldl_step_failed {scan : Scan} {fault : MarkupFaultAt} (failed : scan.state = .failed fault)
    (rest : List Char) : (rest.foldl Scan.step scan).state = .failed fault := by
  induction rest generalizing scan with
  | nil => exact failed
  | cons c rest inductionHypothesis => exact inductionHypothesis (by simp [Scan.step, failed, Scan.enter])

/-- The tokens of a document in order, and the fault that ends them. Both are given,
since a tree may be refused for a token in front of the fault. -/
def lexemes (document : List Char) : List Lexeme × Option MarkupFaultAt :=
  let last := scan (withoutMark document)
  (last.finished, last.endFault?)

end ExtensionPublisher.Xml
