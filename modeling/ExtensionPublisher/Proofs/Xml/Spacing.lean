import ExtensionPublisher.Proofs.Xml.Spelling
import ExtensionPublisher.Xml.Record

/-!
# Elements with layout between them

Writers put layout between elements, and asides among them. `Spaced` says so of characters and `Laid`
of the content that they spell, `laid_of_spaced`. A reader of records or of lists finds the elements in
their order: the layout is no item of its own, `items_of_laid`, or one that is passed over,
`read_fields_of_laid`.
-/
namespace ExtensionPublisher.Xml

open Text (isLayout)

/-! ## Characters -/

/-- Pieces of markup in order, with layout in front of each and behind the last. -/
inductive Spaced : List (List Char) → List Char → Prop where
  | last {gap : List Char} (layout : ∀ c ∈ gap, isLayout c = true) : Spaced [] gap
  | next {gap piece rest : List Char} {pieces : List (List Char)}
      (layout : ∀ c ∈ gap, isLayout c = true) (behind : Spaced pieces rest) :
      Spaced (piece :: pieces) (gap ++ piece ++ rest)

/-- A line break is layout, so a text may be written with its elements on lines of
their own. -/
theorem layout_newline : ∀ c ∈ ['\n'], isLayout c = true := List.forall_mem_singleton.mpr rfl

/-- Pieces can stand next to each other, as no layout at all is layout too. -/
theorem spaced_flatten (pieces : List (List Char)) : Spaced pieces pieces.flatten := by
  induction pieces with
  | nil => exact .last nofun
  | cons piece rest inductionHypothesis =>
    have next : Spaced (piece :: rest) ([] ++ piece ++ rest.flatten) := .next nofun inductionHypothesis
    simpa using next

/-- A piece of markup spells a node, wherever it stands: with any text in front of
it that holds no bracket, and anything behind it that is spelled. -/
def SpellsNode (piece : List Char) (node : Node) : Prop :=
  ∀ ⦃lead rest : List Char⦄ ⦃nodes : List Node⦄, '<' ∉ lead → Spells rest nodes →
    Spells (lead ++ piece ++ rest) (textNodes lead ++ node :: nodes)

/-- A comment is an aside. Its content may hold markup, as long as the mark that
ends it is not met. -/
theorem spells_comment {content : List Char} (unclosed : ¬"-->".toList <:+: content) :
    SpellsNode ("<!--".toList ++ content ++ "-->".toList) .aside := by
  intro lead rest nodes plain behind
  exact behind.mark plain (.comment unclosed) rfl

/-- An instruction is an aside, and so is a declaration. -/
theorem spells_instruction {content : List Char} (unclosed : '>' ∉ content) :
    SpellsNode ("<?".toList ++ content ++ "?>".toList) .aside := by
  intro lead rest nodes plain behind
  have begins : content.head? ≠ some '>' := fun first => unclosed (List.mem_of_head? first)
  have aside : (instructionToken content).node? = some .aside := by
    unfold instructionToken
    split <;> rfl
  exact behind.mark plain (.instruction (not_infix_of_not_mem (by decide) unclosed) begins) aside

/-- A name with a slash behind it, in brackets, is an empty element. -/
theorem spells_standalone {name : String} (bare : isBareName name = true) :
    SpellsNode ('<' :: name.toList ++ "/>".toList) (.element (bareTag name) []) := by
  intro lead rest nodes plain behind
  rw [← of_content_of_bare bare]
  simp only [isBareName, Bool.and_eq_true] at bare
  exact behind.standalone plain (marks_standalone bare.1.1)

/-- What is spelled between a start tag and its end tag is the content of an
element. The end tag has the name that was cut out of the start tag. -/
theorem spells_element {content : List Char} (writes : isTagContent content = true)
    (unslashed : content.getLast? ≠ some '/') {inner : List Char} {held : List Node}
    (inside : Spells inner held) :
    SpellsNode ('<' :: content ++ '>' :: inner ++ "</".toList ++ (Tag.ofContent content).name ++ ['>'])
      (.element (Tag.ofContent content) held) := by
  intro lead rest nodes plain behind
  simpa using Spells.element plain (marks_opening writes unslashed) inside (marks_closing writes) behind

/-- What is spelled between bare tags is the content of an element. A bare name is
all of its tag, so it is the name in the end tag as well. -/
theorem spells_enclosed {name : String} (bare : isBareName name = true) {inner : List Char}
    {held : List Node} (inside : Spells inner held) :
    SpellsNode (enclosed name inner) (.element (bareTag name) held) := by
  have tag := of_content_of_bare bare
  simp only [isBareName, Bool.and_eq_true] at bare
  have spells := spells_element bare.1.1 (by simpa using bare.1.2) inside
  rwa [tag] at spells

/-! ## Nodes -/

/-- Elements in order, with layout between them and asides among them, as the
content of another. Two pieces of layout with an aside between them stay two nodes.
-/
inductive Laid : List (Tag × List Node) → List Node → Prop where
  | last {gap : List Char} (layout : ∀ c ∈ gap, isLayout c = true) : Laid [] (textNodes gap)
  | aside {gap : List Char} {elements : List (Tag × List Node)} {rest : List Node}
      (layout : ∀ c ∈ gap, isLayout c = true) (behind : Laid elements rest) :
      Laid elements (textNodes gap ++ .aside :: rest)
  | element {gap : List Char} {tag : Tag} {held : List Node} {elements : List (Tag × List Node)}
      {rest : List Node} (layout : ∀ c ∈ gap, isLayout c = true) (behind : Laid elements rest) :
      Laid ((tag, held) :: elements) (textNodes gap ++ .element tag held :: rest)

/-- Pieces of markup that spell elements in order, and asides, which are no elements
and are left out of the row. -/
inductive Holds : List (List Char) → List (Tag × List Node) → Prop where
  | nil : Holds [] []
  | aside {piece : List Char} {pieces : List (List Char)} {elements : List (Tag × List Node)}
      (spells : SpellsNode piece .aside) (behind : Holds pieces elements) :
      Holds (piece :: pieces) elements
  | element {piece : List Char} {pieces : List (List Char)} {tag : Tag} {held : List Node}
      {elements : List (Tag × List Node)} (spells : SpellsNode piece (.element tag held))
      (behind : Holds pieces elements) : Holds (piece :: pieces) ((tag, held) :: elements)

/-- Pieces one behind the other hold what they hold. -/
theorem Holds.append {pieces others : List (List Char)} {elements more : List (Tag × List Node)}
    (holds : Holds pieces elements) (behind : Holds others more) :
    Holds (pieces ++ others) (elements ++ more) := by
  induction holds with
  | nil => exact behind
  | aside spells _ inductionHypothesis => exact .aside spells inductionHypothesis
  | element spells _ inductionHypothesis => exact .element spells inductionHypothesis

/-- No markup begins in layout, so layout is a text that may stand in front of a
piece. -/
theorem not_bracket_of_layout {gap : List Char} (layout : ∀ c ∈ gap, isLayout c = true) :
    '<' ∉ gap := by
  intro member
  exact absurd (layout _ member) (by decide)

/-- Pieces with layout between them spell their elements with layout between them.
The induction is on the pieces, and each takes the layout in front of it along. -/
theorem laid_of_spaced {pieces : List (List Char)} {elements : List (Tag × List Node)}
    {text : List Char} (spaced : Spaced pieces text) (holds : Holds pieces elements) :
    ∃ content, Spells text content ∧ Laid elements content := by
  induction holds generalizing text with
  | nil =>
    cases spaced with
    | last layout => exact ⟨_, .text (not_bracket_of_layout layout), .last layout⟩
  | aside spells _ inductionHypothesis =>
    cases spaced with
    | next layout behind =>
      obtain ⟨rest, spelled, laid⟩ := inductionHypothesis behind
      exact ⟨_, spells (not_bracket_of_layout layout) spelled, .aside layout laid⟩
  | element spells _ inductionHypothesis =>
    cases spaced with
    | next layout behind =>
      obtain ⟨rest, spelled, laid⟩ := inductionHypothesis behind
      exact ⟨_, spells (not_bracket_of_layout layout) spelled, .element layout laid⟩

/-! ## Items -/

/-- A child element as an item. -/
def elementItem (element : Tag × List Node) : Item := .element element.1 element.2

/-- Where layout is the beginning of an item, it is none. It is dropped before the
run begins. -/
theorem items_from_gap {gap : List Char} (layout : ∀ c ∈ gap, isLayout c = true)
    (passesOver : Tag → List Node → Bool) (run : List Piece) (rest : List Node) :
    itemsFrom passesOver true run (textNodes gap ++ rest) = itemsFrom passesOver true run rest := by
  cases gap with
  | nil => rfl
  | cons c others =>
    have dropped : (c :: others).dropWhile isLayout = [] := List.dropWhile_eq_nil_iff.mpr layout
    simp [textNodes, itemsFrom, dropped]

/-- The items of content with layout between its elements are the elements, if none
of them is passed over. Every run begins behind an element or an aside, so the
layout in it is dropped. -/
theorem items_of_laid {elements : List (Tag × List Node)} {content : List Node}
    (laid : Laid elements content) (passesOver : Tag → List Node → Bool)
    (looks : ∀ element ∈ elements, passesOver element.1 element.2 = false) :
    items passesOver content = elements.map elementItem := by
  unfold items
  induction laid with
  | last layout =>
    have none := items_from_gap layout passesOver [] []
    rwa [List.append_nil] at none
  | aside layout _ inductionHypothesis =>
    rw [items_from_gap layout, itemsFrom]
    exact inductionHypothesis looks
  | element layout _ inductionHypothesis =>
    have looked := looks _ List.mem_cons_self
    rw [items_from_gap layout, itemsFrom, looked,
      Bool.false_and, Bool.not_false, inductionHypothesis fun element member =>
        looks element (List.mem_cons_of_mem _ member)]
    rfl

/-- A run of layout behind an element that is passed over. The run goes on there
instead of beginning anew, so the layout is kept and may become an item. -/
def IsGap (run : List Piece) : Prop :=
  ∀ piece ∈ run, ∃ gap, piece = .plain gap ∧ ∀ c ∈ gap, isLayout c = true

/-- Behind an element that is passed over, layout adds to the run, or is dropped
where a run has yet to begin. Either way only layout waits. -/
theorem items_from_run {gap : List Char} (layout : ∀ c ∈ gap, isLayout c = true)
    (passesOver : Tag → List Node → Bool) (fresh : Bool) {run : List Piece} (waiting : IsGap run)
    (rest : List Node) : ∃ longer, IsGap longer ∧
      itemsFrom passesOver fresh run (textNodes gap ++ rest) =
        itemsFrom passesOver fresh longer rest := by
  cases fresh with
  | true => exact ⟨run, waiting, items_from_gap layout passesOver run rest⟩
  | false =>
    cases gap with
    | nil => exact ⟨run, waiting, rfl⟩
    | cons c others =>
      refine ⟨.plain (c :: others) :: run, ?_, rfl⟩
      intro piece member
      rcases List.mem_cons.mp member with rfl | earlier
      · exact ⟨_, rfl, layout⟩
      · exact waiting piece earlier

/-- A blank is written as it is, since no reference stands for one. -/
theorem escape_character_of_blank {c : Char} (blank : Text.isBlank c = true) :
    escapeCharacter c = [c] := by
  unfold escapeCharacter
  repeat' split
  all_goals first
    | rfl
    | (subst c; exact absurd blank (by decide))

/-- Characters that are written as they are, one by one, are written as they are
together. -/
theorem escape_eq_self {cs : List Char} (plain : ∀ c ∈ cs, escapeCharacter c = [c]) :
    escape cs = cs := by
  induction cs with
  | nil => rfl
  | cons c rest inductionHypothesis =>
    rw [List.forall_mem_cons] at plain
    rw [escape, List.flatMap_cons, plain.1, List.singleton_append]
    exact congrArg (c :: ·) (inductionHypothesis plain.2)

/-- Layout is written as it is. It is blank, and blanks need no reference. -/
theorem escape_of_layout {gap : List Char} (layout : ∀ c ∈ gap, isLayout c = true) :
    escape gap = gap :=
  escape_eq_self fun c member => escape_character_of_blank
    (Text.blank_of_plain (Text.plain_of_layout (layout c member)))

/-- A run of layout says something that is no fault, because there is no reference
in it. -/
theorem pieces_text_of_gap {run : List Piece} (waiting : IsGap run) :
    ∃ text, piecesText run = .ok text := by
  have resolved (gap : List Char) (layout : ∀ c ∈ gap, isLayout c = true) : resolve gap = .ok gap := by
    simpa only [escape_of_layout layout] using resolve_escape gap
  induction run with
  | nil => exact ⟨[], rfl⟩
  | cons piece rest inductionHypothesis =>
    obtain ⟨gap, rfl, layout⟩ := waiting piece List.mem_cons_self
    cases rest with
    | nil =>
      refine ⟨_, resolved (Text.dropEndWhile isLayout gap) ?_⟩
      intro c member
      rw [Text.drop_end_while_eq] at member
      exact layout c ((List.rdropWhile_prefix isLayout gap).subset member)
    | cons other others =>
      obtain ⟨text, known⟩ := inductionHypothesis fun piece member =>
        waiting piece (List.mem_cons_of_mem _ member)
      refine ⟨gap ++ text, ?_⟩
      simp [piecesText, resolved gap layout, known, bind, Except.bind, pure, Except.pure]

section

variable {α : Type} {fields : List (Field α)}

/-- The reader of a record passes over a run of layout. It asks what the run says,
and that is no fault. -/
theorem read_fields_of_run {run : List Piece} (waiting : IsGap run) (scope : Scope)
    (found : List (String × α)) (rest : List Item) :
    readFields fields scope found (runItem run ++ rest) = readFields fields scope found rest := by
  have reversed : IsGap run.reverse := fun piece member =>
    waiting piece (List.mem_reverse.mp member)
  obtain ⟨text, known⟩ := pieces_text_of_gap reversed
  cases run with
  | nil => rfl
  | cons piece others =>
    cases others with
    | nil =>
      obtain ⟨gap, rfl, layout⟩ := waiting piece List.mem_cons_self
      have blank : gap.all isLayout = true := List.all_eq_true.mpr layout
      simp [runItem, blank]
    | cons other others =>
      have item : runItem (piece :: other :: others) = [.text (.ok text)] := by
        rw [← known]
        cases piece <;> rfl
      rw [item]
      rfl

/-- The reader of a record finds the elements, and passes over the layout between
them. An element that is no field is passed over among the items as well, so a run
of layout may wait behind it. -/
theorem read_fields_of_laid {elements : List (Tag × List Node)} {content : List Node}
    (laid : Laid elements content) (passesOver : Tag → List Node → Bool) (scope : Scope)
    (found : List (String × α)) :
    readFields fields scope found (items passesOver content) =
      readFields fields scope found (elements.map elementItem) := by
  suffices general : ∀ fresh run scope found, IsGap run →
      readFields fields scope found (itemsFrom passesOver fresh run content) =
        readFields fields scope found (elements.map elementItem) from general true [] scope found nofun
  clear scope found
  induction laid with
  | last layout =>
    intro fresh run scope found waiting
    obtain ⟨longer, still, same⟩ := items_from_run layout passesOver fresh waiting []
    rw [List.append_nil] at same
    rw [same, itemsFrom]
    simpa using read_fields_of_run still scope found []
  | aside layout _ inductionHypothesis =>
    intro fresh run scope found waiting
    obtain ⟨longer, still, same⟩ := items_from_run layout passesOver fresh waiting (.aside :: _)
    rw [same, itemsFrom]
    exact inductionHypothesis fresh longer scope found still
  | @element _ tag held _ _ layout _ inductionHypothesis =>
    intro fresh run scope found waiting
    obtain ⟨longer, still, same⟩ :=
      items_from_run layout passesOver fresh waiting (.element tag held :: _)
    rw [same, itemsFrom, read_fields_of_run still]
    have next (scope : Scope) (found : List (String × α)) :=
      inductionHypothesis (!(passesOver tag held && beginsWithText held)) [] scope found nofun
    simp only [List.map_cons, elementItem, readFields]
    simp only [next]

end

end ExtensionPublisher.Xml
