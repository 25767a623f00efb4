import ExtensionPublisher.Xml.Scanner
import ExtensionPublisher.Text.Blank

/-!
# The tree of a document

A document has one root element of an expected local name, every tag in it is matched, and
outside the root there is no text but blanks. The tree is built token by token: unfinished
elements are kept from the innermost outward, each with its content so far, newest first.
The first fault in the order of the document decides.

What stands after the root is checked and then forgotten. What stands in front of it is
kept, because a verbatim section there is refused later.
-/
namespace ExtensionPublisher.Xml

open Text (isPlainBlank)

/-- A part of an element's content. Comments, instructions and declarations are all asides:
they say nothing, and do not divide the text they stand in. -/
inductive Node where
  | text (content : List Char)
  | verbatim (content : List Char)
  | aside
  | doctype
  | element (tag : Tag) (content : List Node)

/-- A document: its root element and what stands in front of it. What stands behind
the root is checked and forgotten. -/
structure Document where
  above : List Node
  tag : Tag
  content : List Node

/-- Why a text is no document with the expected root. -/
inductive DocumentFault where
  | malformed (fault : MarkupFaultAt)
  | severalRoots
  | wrongRoot (expected : String) (found : List Char)
  | textOutsideRoot
  | noRoot (expected : String)
  | unclosedRoot
  deriving DecidableEq, Repr

/-- The fault in words. -/
def DocumentFault.message : DocumentFault → String
  | .malformed ⟨offset, fault⟩ =>
    "invalid XML at byte " ++ toString offset ++ ": " ++ fault.message
  | .severalRoots => "more than one root element"
  | .wrongRoot expected found =>
    "expected <" ++ expected ++ "> document, found <" ++ String.ofList found ++ ">"
  | .textOutsideRoot => "text outside the root element"
  | .noRoot expected => "empty response, expected <" ++ expected ++ "> document"
  | .unclosedRoot => "document ended before the root element was closed"

/-- The part of a document read so far. Either some elements are unfinished, or the
root is finished, or it has not begun. -/
structure Growth where
  /-- The unfinished elements, the innermost first, each content newest first. -/
  enclosing : List (Tag × List Node) := []
  /-- What stands in front of the root, newest first. -/
  above : List Node := []
  /-- The root once it is finished. -/
  root : Option (Tag × List Node) := none

namespace Growth

/-- Add a node to the innermost unfinished element, or to what stands in front of
the root. Behind the root it is dropped. -/
def add (growth : Growth) (node : Node) : Growth :=
  match growth.enclosing, growth.root with
  | (tag, content) :: outer, _ => { growth with enclosing := (tag, node :: content) :: outer }
  | [], none => { growth with above := node :: growth.above }
  | [], some _ => growth

/-- Begin an element. The outermost one is the root, of which there is one, and its
name has to be the expected one. -/
def enter (expected : String) (growth : Growth) (tag : Tag) : Except DocumentFault Growth :=
  if growth.enclosing.isEmpty ∧ growth.root.isSome then .error .severalRoots
  else if growth.enclosing.isEmpty ∧ localName tag.name ≠ expected.toList then
    .error (.wrongRoot expected (localName tag.name))
  else .ok { growth with enclosing := (tag, []) :: growth.enclosing }

/-- Finish the innermost element. It becomes content of the one around it, or the
root. -/
def leave (growth : Growth) : Growth :=
  match growth.enclosing with
  | [] => growth
  | [(tag, content)] => { growth with enclosing := [], root := some (tag, content.reverse) }
  | (tag, content) :: outer => { growth with enclosing := outer }.add (.element tag content.reverse)

/-- Take in one token. Text outside the root has to be blank, and an end tag has to
have the name of its start tag. -/
def step (expected : String) (growth : Growth) (lexeme : Lexeme) : Except DocumentFault Growth :=
  match lexeme.token with
  | .text content =>
    if growth.enclosing.isEmpty ∧ content.any (fun c => !isPlainBlank c) then .error .textOutsideRoot
    else .ok (growth.add (.text content))
  | .verbatim content => .ok (growth.add (.verbatim content))
  | .comment _ | .instruction _ | .declaration _ => .ok (growth.add .aside)
  | .doctype _ => .ok (growth.add .doctype)
  | .opening tag => growth.enter expected tag
  | .standalone tag => (growth.enter expected tag).map leave
  | .closing name =>
    match growth.enclosing with
    | [] => .error (.malformed ⟨lexeme.stop, .unmatchedEnd name⟩)
    | (tag, _) :: _ =>
      if tag.name = name then .ok growth.leave
      else .error (.malformed ⟨lexeme.stop, .mismatchedEnd tag.name name⟩)

/-- The document that ends here. All elements have to be finished, and there has to
be a root. -/
def finish (expected : String) (growth : Growth) : Except DocumentFault Document :=
  match growth.enclosing, growth.root with
  | _ :: _, _ => .error .unclosedRoot
  | [], none => .error (.noRoot expected)
  | [], some (tag, content) => .ok ⟨growth.above.reverse, tag, content⟩

end Growth

/-- Read a document whose root has the expected local name. Faults are told in the
order in which they are met. -/
def Document.ofChars (expected : String) (cs : List Char) : Except DocumentFault Document := do
  let (read, fault?) := lexemes cs
  let growth ← read.foldlM (Growth.step expected) {}
  match fault? with
  | some fault => .error (.malformed fault)
  | none => growth.finish expected

end ExtensionPublisher.Xml
