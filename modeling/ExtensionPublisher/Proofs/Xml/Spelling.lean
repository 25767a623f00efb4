import ExtensionPublisher.Proofs.Text.Trim
import ExtensionPublisher.Proofs.Xml.Grammar

/-!
# What is spelled is read

`Spells` says which characters spell which content, piece by piece: text in front of each piece of
markup, and at the end. The content that characters spell is the content that is read in them,
`Document.of_chars_of_spells`.

Writers know a tag by its name and put no `>` in it. What such a tag must be is computed,
`isTagContent`.
-/
namespace ExtensionPublisher.Xml

open Text (isLayout dropEndWhile drop_end_while_eq)

/-! ## Tokens -/

/-- The quotation that holds behind some characters of a tag. -/
def quoteBehind (quote : Option Char) (cs : List Char) : Option Char :=
  cs.foldl Scan.quoteAfter quote

/-- Whether characters are the content of one tag: the bracket in front of them
begins a tag, and the one behind them ends it. Quotations are closed in the name by
itself as well, since it stands alone in the end tag. A tag with `>` in a quotation
is left out here, although it could be read. -/
def isTagContent (content : List Char) : Bool :=
  content.head?.any (fun c => c != '!' && c != '/' && c != '?') && !content.contains '>' &&
    quoteBehind none content == none && quoteBehind none (Tag.ofContent content).name == none

/-- The name of a tag has no layout in it, as it ends where layout begins. -/
theorem not_layout_of_mem_name {content : List Char} {c : Char}
    (member : c ∈ (Tag.ofContent content).name) : isLayout c = false := by
  simpa using List.mem_takeWhile_imp member

/-- The name of a tag is what is found in its end tag. Layout behind a name is
dropped there, and there is none in it. -/
theorem closing_name_eq (content : List Char) :
    closingName (Tag.ofContent content).name = (Tag.ofContent content).name := by
  have kept : dropEndWhile isLayout (Tag.ofContent content).name = (Tag.ofContent content).name := by
    rw [drop_end_while_eq, List.rdropWhile_eq_self_iff]
    intro some_
    rw [not_layout_of_mem_name (List.getLast_mem some_)]
    exact Bool.false_ne_true
  simp [closingName, kept]

/-- Without `>` the text inside a tag goes on, and behind it holds the quotation that is found there. -/
theorem OpenText.append {quote : Option Char} {cs more : List Char} (text : OpenText quote cs)
    (plain : '>' ∉ more) : OpenText (quoteBehind quote more) (cs ++ more) := by
  induction more generalizing quote cs with
  | nil => rwa [List.append_nil]
  | cons c rest inductionHypothesis =>
    rw [List.mem_cons, not_or] at plain
    have next := text.next fun both => plain.1 both.1.symm
    simpa [quoteBehind] using inductionHypothesis next plain.2

/-- Without `>`, text with its quotation marks in pairs can stand inside a tag. The
quotations are those that the scanner finds from the left. -/
theorem tag_text_of_plain {content : List Char} (plain : '>' ∉ content)
    (balanced : quoteBehind none content = none) : IsTagText content := by
  have text : OpenText (quoteBehind none content) ([] ++ content) := (OpenText.plain .nil).append plain
  rw [balanced] at text
  exact text.closed

section

variable {content : List Char} (writes : isTagContent content = true)

include writes

/-- The content of a tag can stand inside it. This and the two facts that follow are
what its check is evaluated for. -/
theorem tag_text_of_content : IsTagText content := by
  simp only [isTagContent, Bool.and_eq_true, Bool.not_eq_true', beq_iff_eq] at writes
  exact tag_text_of_plain (by simpa using writes.1.1.2) writes.1.2

/-- The content of a tag begins one. It is not empty, and its first character is no
sign of other markup. -/
theorem begins_of_content : ∃ c, content.head? = some c ∧ c ∉ markupSigns := by
  simp only [isTagContent, Bool.and_eq_true] at writes
  obtain ⟨c, first, other⟩ := (Option.any_eq_true _ _).mp writes.1.1.1
  refine ⟨c, first, ?_⟩
  simp only [bne_iff_ne, Bool.and_eq_true, ne_eq] at other
  simp [markupSigns, other]

/-- A start tag is a piece of markup where its content does not end in a slash. -/
theorem marks_opening (unslashed : content.getLast? ≠ some '/') :
    Marks ('<' :: content ++ ['>']) (.opening (Tag.ofContent content)) := by
  obtain ⟨c, first, other⟩ := begins_of_content writes
  refine .opening (tag_text_of_content writes) ?_ unslashed
  intro d known
  obtain rfl : c = d := Option.some.inj (first.symm.trans known)
  exact other

/-- A start tag that is its own end tag is a piece of markup, with the slash behind
its content. -/
theorem marks_standalone :
    Marks ('<' :: content ++ "/>".toList) (.standalone (Tag.ofContent content)) :=
  .standalone (tag_text_of_content writes) (begins_of_content writes)

/-- The end tag of a start tag is a piece of markup. Its text is the name of the tag
alone, whose quotation marks are in pairs. -/
theorem marks_closing : Marks ("</".toList ++ (Tag.ofContent content).name ++ ['>'])
    (.closing (Tag.ofContent content).name) := by
  simp only [isTagContent, Bool.and_eq_true, Bool.not_eq_true', beq_iff_eq] at writes
  obtain ⟨⟨⟨_, unclosed⟩, _⟩, balanced⟩ := writes
  have plain : '>' ∉ (Tag.ofContent content).name := by
    intro member
    have inside := (List.takeWhile_sublist _).subset member
    simp [inside] at unclosed
  have marks := Marks.closing (tag_text_of_plain plain balanced)
  rwa [closing_name_eq] at marks

end

/-- A mark is not found where its last character is not. -/
theorem not_infix_of_not_mem {ending content : List Char} {c : Char} (last : c ∈ ending)
    (plain : c ∉ content) : ¬ending <:+: content :=
  fun within => plain (within.subset last)

/-- Rendered tokens go on with a piece of markup and more of them. The text at the
end of the first becomes the text in front of the piece. -/
theorem Renders.append {tokens more : List Token} {cs piece rest : List Char} {token : Token}
    (renders : Renders tokens cs) (marks : Marks piece token) (behind : Renders more rest) :
    Renders (tokens ++ token :: more) (cs ++ piece ++ rest) := by
  induction renders with
  | text plain => exact .next plain marks behind
  | next plain first _ inductionHypothesis =>
    have whole := Renders.next plain first inductionHypothesis
    simpa using whole

/-! ## Spelling -/

/-- The node of a text, if there is one. -/
def textNodes : List Char → List Node
  | [] => []
  | text => [.text text]

/-- A text is the content of its token. An empty text is no token and no node. -/
theorem Content.text (cs : List Char) : Content (Scan.textTokens cs) (textNodes cs) := by
  cases cs with
  | nil => exact .nil
  | cons c rest => exact .single rfl

/-- Characters between two brackets of one element or of the document spell content: they render tokens
of it. -/
def Spells (cs : List Char) (nodes : List Node) : Prop :=
  ∃ tokens, Renders tokens cs ∧ Content tokens nodes

namespace Spells

variable {lead rest : List Char} {nodes : List Node}

/-- Text spells itself. -/
theorem text {text : List Char} (plain : '<' ∉ text) : Spells text (textNodes text) :=
  ⟨_, .text plain, .text _⟩

/-- A piece of markup that is no tag spells its node, behind the text in front of
it. The content that is spelled is built from its front. -/
theorem mark {piece : List Char} {token : Token} {node : Node} (plain : '<' ∉ lead)
    (marks : Marks piece token) (known : token.node? = some node) (behind : Spells rest nodes) :
    Spells (lead ++ piece ++ rest) (textNodes lead ++ node :: nodes) := by
  obtain ⟨tokens, renders, held⟩ := behind
  exact ⟨_, .next plain marks renders, (Content.text lead).append (.node known held)⟩

/-- A start tag that is its own end tag spells an empty element, behind the text in
front of it. -/
theorem standalone {piece : List Char} {tag : Tag} (plain : '<' ∉ lead)
    (marks : Marks piece (.standalone tag)) (behind : Spells rest nodes) :
    Spells (lead ++ piece ++ rest) (textNodes lead ++ .element tag [] :: nodes) := by
  obtain ⟨tokens, renders, held⟩ := behind
  exact ⟨_, .next plain marks renders, (Content.text lead).append (.standalone held)⟩

/-- A start tag, what is spelled behind it and the end tag spell an element. The
tokens inside are put between those of the two tags. -/
theorem element {first inner last : List Char} {tag : Tag} {held : List Node} (plain : '<' ∉ lead)
    (opened : Marks first (.opening tag)) (inside : Spells inner held)
    (closed : Marks last (.closing tag.name)) (behind : Spells rest nodes) :
    Spells (lead ++ (first ++ inner ++ last) ++ rest) (textNodes lead ++ .element tag held :: nodes) := by
  obtain ⟨within, rendersInside, content⟩ := inside
  obtain ⟨tokens, renders, more⟩ := behind
  refine ⟨_, ?_, (Content.text lead).append (.element content more)⟩
  simpa using Renders.next plain opened (rendersInside.append closed renders)

end Spells

/-! ## Elements with bare tags -/

/-- Whether a name can be all that stands in a tag, and belongs to no vocabulary.
The answers and the manifests have such names only. -/
def isBareName (name : String) : Bool :=
  isTagContent name.toList && name.toList.getLast? != some '/' &&
    name.toList.all fun c => !isLayout c && c != ':'

/-- A tag that is only a name, without attributes. -/
def bareTag (name : String) : Tag := ⟨name.toList, []⟩

/-- Characters between tags that are only a name. -/
def enclosed (name : String) (inner : List Char) : List Char :=
  '<' :: name.toList ++ '>' :: inner ++ "</".toList ++ name.toList ++ ['>']

/-- As a string, the characters are put together from the tags and what is between them. -/
theorem of_list_enclosed (name : String) (inner : List Char) :
    String.ofList (enclosed name inner) =
      "<" ++ name ++ ">" ++ String.ofList inner ++ "</" ++ name ++ ">" := by
  apply String.toList_inj.mp
  have held : (String.ofList inner).toList = inner := String.toList_ofList
  have bracket : "<".toList = ['<'] := rfl
  have ending : ">".toList = ['>'] := rfl
  rw [String.toList_ofList, enclosed]
  simp only [String.toList_append, held, bracket, ending]
  generalize "</".toList = slashed
  simp only [List.append_assoc, List.cons_append, List.nil_append]

/-- A bare name in brackets is a bare tag. There is no layout in it, so nothing is
left for attributes. -/
theorem of_content_of_bare {name : String} (bare : isBareName name = true) :
    Tag.ofContent name.toList = bareTag name := by
  simp only [isBareName, Bool.and_eq_true, List.all_eq_true] at bare
  have all : ∀ c ∈ name.toList, (!isLayout c) = true := fun c member => (bare.2 c member).1
  rw [Tag.ofContent, List.takeWhile_eq_self_iff.mpr all, List.dropWhile_eq_nil_iff.mpr all, bareTag]

/-- A bare name is its own local name, as no colon is in it. -/
theorem local_name_of_bare {name : String} (bare : isBareName name = true) :
    localName name.toList = name.toList := by
  apply local_name_of_not_mem
  intro member
  simp only [isBareName, Bool.and_eq_true, List.all_eq_true] at bare
  simpa using bare.2 ':' member

/-- A root whose tags are only its name is read with the content that is spelled
between them. Nothing stands outside of it, so the grammar has one element and two
empty surroundings. -/
theorem Document.of_chars_of_spells {root : String} {inner : List Char} {nodes : List Node}
    (bare : isBareName root = true) (spells : Spells inner nodes) :
    ofChars root (enclosed root inner) = .ok ⟨[], bareTag root, nodes⟩ := by
  obtain ⟨tokens, rendersInside, inside⟩ := spells
  have tag := of_content_of_bare bare
  have named := local_name_of_bare bare
  simp only [isBareName, Bool.and_eq_true] at bare
  obtain ⟨⟨writes, unslashed⟩, _⟩ := bare
  have opened := marks_opening writes (by simpa using unslashed)
  have closed := marks_closing writes
  rw [tag] at opened closed
  have renders : Renders ([] ++ (.opening (bareTag root) :: tokens ++ [.closing (bareTag root).name]) ++ [])
      (withoutMark (enclosed root inner)) := by
    have nothing : '<' ∉ [] := List.not_mem_nil
    have unmarked : withoutMark (enclosed root inner) = enclosed root inner := rfl
    have whole := Renders.next nothing opened (rendersInside.append closed (.text nothing))
    rw [unmarked]
    simpa [enclosed, bareTag, Scan.textTokens] using whole
  exact of_chars_of_written (.mk renders .nil (.paired inside) named .nil)

end ExtensionPublisher.Xml
