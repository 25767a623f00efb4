import ExtensionPublisher.Xml.Tag

/-!
# Tokens of markup

A document is a sequence of tokens: runs of text, tags, and the kinds of markup that carry
no element. Where a token ends is kept beside it, in bytes from the beginning, because a
fault in the order of the tokens is reported at that place.
-/
namespace ExtensionPublisher.Xml

/-- One piece of markup, or the text between two pieces. -/
inductive Token where
  /-- Characters as written, references to entities unresolved. -/
  | text (content : List Char)
  /-- Characters that stand for themselves. -/
  | verbatim (content : List Char)
  | comment (content : List Char)
  | instruction (content : List Char)
  | declaration (content : List Char)
  | doctype (content : List Char)
  /-- A start tag. -/
  | opening (tag : Tag)
  /-- A start tag that is its own end tag. -/
  | standalone (tag : Tag)
  /-- An end tag. -/
  | closing (name : List Char)
  deriving DecidableEq, Repr

/-- A token with the number of bytes up to its end, by which the end of the root is
found. -/
structure Lexeme where
  token : Token
  stop : Nat
  deriving DecidableEq, Repr

/-- Why characters are no sequence of matching tokens: markup that is not finished,
or that is of no known kind. -/
inductive MarkupFault where
  | unclosedTag
  | unclosedComment
  | unclosedVerbatim
  | unclosedDoctype
  | unclosedInstruction
  | unknownMarkup
  | namelessDoctype
  | mismatchedEnd (expected found : List Char)
  | unmatchedEnd (found : List Char)
  deriving DecidableEq, Repr

/-- The fault in words. -/
def MarkupFault.message : MarkupFault → String
  | .unclosedTag => "syntax error: tag not closed: `>` not found before end of input"
  | .unclosedComment => "syntax error: comment not closed: `-->` not found before end of input"
  | .unclosedVerbatim => "syntax error: CDATA not closed: `]]>` not found before end of input"
  | .unclosedDoctype => "syntax error: DOCTYPE not closed: `>` not found before end of input"
  | .unclosedInstruction =>
    "syntax error: processing instruction or xml declaration not closed: `?>` not found before end of input"
  | .unknownMarkup => "syntax error: unknown or missed symbol in markup"
  | .namelessDoctype =>
    "ill-formed document: `<!DOCTYPE>` declaration does not contain a name of a document type"
  | .mismatchedEnd expected found =>
    "ill-formed document: expected `</" ++ String.ofList expected ++ ">`, but `</" ++
      String.ofList found ++ ">` was found"
  | .unmatchedEnd found =>
    "ill-formed document: close tag `</" ++ String.ofList found ++ ">` does not match any open tag"

/-- A fault and the number of bytes in front of it, as it is told. -/
structure MarkupFaultAt where
  offset : Nat
  fault : MarkupFault
  deriving DecidableEq, Repr

end ExtensionPublisher.Xml
