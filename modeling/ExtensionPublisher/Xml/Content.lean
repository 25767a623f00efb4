import ExtensionPublisher.Xml.Reference
import ExtensionPublisher.Xml.Tree

/-!
# The content of an element

An element's content is a sequence of items: child elements, and the text between them.
Text and verbatim sections that follow each other make one item, and asides do not divide
it. Its plain parts lose the layout at the two ends of the item, before references are
resolved; an item of plain text that is nothing but layout is no item.

Layout is kept at the beginning of an item in one place: behind a child that the reader
passes over, when that child itself begins with text.
-/
namespace ExtensionPublisher.Xml

open Text (isLayout dropEndWhile)

/-- A part of one text item: text in which references are resolved, or text that
stands for itself. -/
inductive Piece where
  | plain (content : List Char)
  | verbatim (content : List Char)
  deriving DecidableEq, Repr

/-- The text that pieces stand for. The last one, if plain, loses the layout at its
end. A piece with a faulty reference spoils the whole text. -/
def piecesText : List Piece → Except ReferenceFault (List Char)
  | [] => .ok []
  | [.plain content] => resolve (dropEndWhile isLayout content)
  | .plain content :: rest => do return (← resolve content) ++ (← piecesText rest)
  | .verbatim content :: rest => do return content ++ (← piecesText rest)

/-- A child element, or the text between two children. The text is given with what
it stands for, which may be a fault. -/
inductive Item where
  | text (value : Except ReferenceFault (List Char))
  | element (tag : Tag) (content : List Node)

/-- The item of a run of pieces, newest first: none for a run that is empty or one plain piece
of layout. -/
def runItem : List Piece → List Item
  | [] => []
  | [.plain content] =>
    if content.all isLayout then [] else [.text (piecesText [.plain content])]
  | run => [.text (piecesText run.reverse)]

/-- Whether content begins with text, layout and asides apart. Where it begins with
a child, or ends, it does not. -/
def beginsWithText : List Node → Bool
  | .text content :: rest => if content.all isLayout then beginsWithText rest else true
  | .verbatim _ :: _ => true
  | .aside :: rest => beginsWithText rest
  | _ => false

/-- The child that content begins with, layout and asides apart. The reader looks
into it even where it passes the element over. -/
def firstChild? : List Node → Option Tag
  | .text content :: rest => if content.all isLayout then firstChild? rest else none
  | .aside :: rest => firstChild? rest
  | .element tag _ :: _ => some tag
  | _ => none

/-- Whether content is nothing but layout and asides. -/
def isVacant (content : List Node) : Bool :=
  content.all fun
    | .text content => content.all isLayout
    | .aside => true
    | _ => false

/-- The items of the rest of some content, behind a run of pieces, newest first. `fresh` says
that layout here is the beginning of an item; `passesOver` picks the children whose content
is not looked into. -/
def itemsFrom (passesOver : Tag → List Node → Bool) : Bool → List Piece → List Node → List Item
  | _, run, [] => runItem run
  | fresh, run, .text content :: rest =>
    if fresh then
      match content.dropWhile isLayout with
      | [] => itemsFrom passesOver true run rest
      | kept => itemsFrom passesOver false (.plain kept :: run) rest
    else itemsFrom passesOver false (.plain content :: run) rest
  | _, run, .verbatim content :: rest => itemsFrom passesOver false (.verbatim content :: run) rest
  | fresh, run, .aside :: rest => itemsFrom passesOver fresh run rest
  | _, run, .doctype :: rest => runItem run ++ itemsFrom passesOver true [] rest
  | _, run, .element tag content :: rest =>
    let fresh := !(passesOver tag content && beginsWithText content)
    runItem run ++ .element tag content :: itemsFrom passesOver fresh [] rest

/-- The items of an element's content, in order. Layout between children is no item,
unless a child in front of it is passed over and begins with text. -/
def items (passesOver : Tag → List Node → Bool) (content : List Node) : List Item :=
  itemsFrom passesOver true [] content

end ExtensionPublisher.Xml
