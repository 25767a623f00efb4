import ExtensionPublisher.Proofs.Result
import ExtensionPublisher.Xml.Record

/-!
# What an element holds

An element holds child elements, `children`, and text. What is said of both here depends on the nodes
alone, and on none of the states in which a reader walks along them.

Text is divided by document types into runs. A run begins behind the layout in front of it, and one that
is only layout is none, `runs`. An element holds a text if it has no children and one run at most, and
that is the text that its reader finds, `element_text_iff`. Where a second run follows the first, the
reader itself fails, `divided_of_element_text`.
-/
namespace ExtensionPublisher.Xml

open Text (isLayout)

/-! ## Children -/

/-- The element that a node is. -/
def Node.element? : Node → Option (Tag × List Node)
  | .element tag content => some (tag, content)
  | _ => none

/-- The element that an item is. -/
def Item.element? : Item → Option (Tag × List Node)
  | .element tag content => some (tag, content)
  | .text _ => none

/-- The elements among nodes, without those inside of others. -/
def elements (content : List Node) : List (Tag × List Node) := content.filterMap Node.element?

/-- Whether an element has a local name. The part of a name in front of a colon does
not count. -/
def isNamed (name : String) (element : Tag × List Node) : Bool :=
  name.toList == localName element.1.name

/-- The children of an element that have a local name. -/
def children (name : String) (content : List Node) : List (Tag × List Node) :=
  (elements content).filter (isNamed name)

/-- A run of text is no element, whether it is dropped as layout or becomes an item.
-/
theorem elements_of_run (run : List Piece) : (runItem run).filterMap Item.element? = [] := by
  unfold runItem
  split
  · rfl
  · split <;> rfl
  · rfl

/-- The elements among the items of some content are those among its nodes. Items
differ from nodes only in their text, so the induction has to carry the run that is
being gathered. -/
theorem elements_of_items (passesOver : Tag → List Node → Bool) (content : List Node) :
    (items passesOver content).filterMap Item.element? = elements content := by
  suffices general : ∀ fresh run,
      (itemsFrom passesOver fresh run content).filterMap Item.element? = elements content from general _ _
  intro fresh run
  induction content generalizing fresh run with
  | nil => exact elements_of_run run
  | cons node rest inductionHypothesis =>
    cases node with
    | text content =>
      rw [itemsFrom]
      split
      · split
        · exact inductionHypothesis _ _
        · exact inductionHypothesis _ _
      · exact inductionHypothesis _ _
    | verbatim | aside =>
      rw [itemsFrom]
      exact inductionHypothesis _ _
    | doctype =>
      rw [itemsFrom, List.filterMap_append, elements_of_run]
      exact inductionHypothesis _ _
    | element tag inner =>
      rw [itemsFrom, List.filterMap_append, elements_of_run]
      exact congrArg ((tag, inner) :: ·) (inductionHypothesis _ _)

/-! ## Text -/

/-- The piece of text that a node is. -/
def Node.piece? : Node → Option Piece
  | .text content => some (.plain content)
  | .verbatim content => some (.verbatim content)
  | _ => none

/-- Whether a node is a document type. -/
def Node.isDoctype : Node → Bool
  | .doctype => true
  | _ => false

/-- Pieces without the layout in front of them. A verbatim section is kept with its
layout, and stops the search. -/
def withoutLead : List Piece → List Piece
  | [] => []
  | .verbatim content :: rest => .verbatim content :: rest
  | .plain content :: rest =>
    match content.dropWhile isLayout with
    | [] => withoutLead rest
    | kept => .plain kept :: rest

/-- The runs of text that stretches of nodes are, if they are more than layout. -/
def runsOf (stretches : List (List Node)) : List (List Piece) :=
  (stretches.map fun stretch => withoutLead (stretch.filterMap Node.piece?)).filter (!·.isEmpty)

/-- The runs of text among nodes, divided at document types. -/
def runs (content : List Node) : List (List Piece) := runsOf (content.splitOnP Node.isDoctype)

/-- An element holds a text: it has no children, and what it says is one run of text
or nothing. This says without the reader what the reader accepts. -/
inductive HoldsText (content : List Node) : List Char → Prop where
  | silent (childless : elements content = []) (none : runs content = []) : HoldsText content []
  | spoken {run : List Piece} {text : List Char} (childless : elements content = [])
      (only : runs content = [run]) (resolved : piecesText run = .ok text) : HoldsText content text

/-- The nodes in front of the first child. What the reader says of an element with
children is decided here. -/
def lead (content : List Node) : List Node := content.takeWhile fun node => node.element?.isNone

/-- A document type divides the text of an element: in front of any child there is more than one run. -/
def IsDivided (content : List Node) : Prop := 1 < (runs (lead content)).length

instance (content : List Node) : Decidable (IsDivided content) :=
  inferInstanceAs (Decidable (1 < (runs (lead content)).length))

/-- The item of a run of text. -/
def textItem (run : List Piece) : Item := .text (piecesText run)

/-- A run that is no layout, newest piece first, whatever comes behind it. The
pieces are gathered in front, so what comes behind them stands first. -/
def IsSpoken (run : List Piece) : Prop := ∀ more, runItem (more ++ run) = [textItem (more ++ run).reverse]

/-- A run is spoken if it begins with what is. So it is enough to look at the first
piece that is more than layout. -/
theorem IsSpoken.cons {run : List Piece} (spoken : IsSpoken run) (piece : Piece) :
    IsSpoken (piece :: run) := by
  intro more
  simpa using spoken (more ++ [piece])

/-- A verbatim section is spoken, even an empty one. -/
theorem spoken_verbatim (content : List Char) : IsSpoken [.verbatim content] := by
  intro more
  cases more with
  | nil => rfl
  | cons piece rest =>
    rw [List.cons_append, runItem, textItem]
    · simp
    · simp

/-- Text that is not only layout is spoken. -/
theorem spoken_plain {content : List Char} (visible : content.all isLayout = false) :
    IsSpoken [.plain content] := by
  intro more
  cases more with
  | nil => simp [runItem, visible, textItem]
  | cons piece rest =>
    rw [List.cons_append, runItem, textItem]
    · simp
    · simp

/-- Without children, the items are the runs of text. Either a run has begun, newest piece first, or the
next one begins behind the layout here.

Proof: induction on the content, both cases at once. -/
theorem items_from_of_childless (passesOver : Tag → List Node → Bool) {content : List Node}
    (childless : elements content = []) {first : List Node} {others : List (List Node)}
    (divided : content.splitOnP Node.isDoctype = first :: others) :
    itemsFrom passesOver true [] content = (runsOf (first :: others)).map textItem ∧
      ∀ run, IsSpoken run → itemsFrom passesOver false run content =
        textItem (run.reverse ++ first.filterMap Node.piece?) :: (runsOf others).map textItem := by
  induction content generalizing first others with
  | nil =>
    obtain ⟨rfl, rfl⟩ := List.cons.inj divided
    constructor
    · rfl
    · intro run spoken
      simpa [itemsFrom, runsOf] using spoken []
  | cons node rest inductionHypothesis =>
    rcases known : rest.splitOnP Node.isDoctype with _ | ⟨stretch, stretches⟩
    · exact (List.splitOnP_ne_nil _ _ known).elim
    · rw [List.splitOnP_cons_eq_if_modifyHead, known] at divided
      cases node with
      | element => cases childless
      | doctype =>
        obtain ⟨rfl, rfl⟩ := List.cons.inj divided
        obtain ⟨fresh, _⟩ := inductionHypothesis childless known
        constructor
        · rw [itemsFrom, fresh]
          rfl
        · intro run spoken
          have item : runItem run = [textItem run.reverse] := spoken []
          rw [itemsFrom, fresh, item]
          simp
      | aside =>
        obtain ⟨rfl, rfl⟩ := List.cons.inj divided
        obtain ⟨fresh, begun⟩ := inductionHypothesis childless known
        exact ⟨fresh, begun⟩
      | verbatim content =>
        obtain ⟨rfl, rfl⟩ := List.cons.inj divided
        obtain ⟨fresh, begun⟩ := inductionHypothesis childless known
        constructor
        · rw [itemsFrom, begun _ (spoken_verbatim content)]
          rfl
        · intro run spoken
          rw [itemsFrom, begun _ (spoken.cons _)]
          simp [Node.piece?]
      | text content =>
        obtain ⟨rfl, rfl⟩ := List.cons.inj divided
        obtain ⟨fresh, begun⟩ := inductionHypothesis childless known
        constructor
        · cases kept : content.dropWhile isLayout with
          | nil => simp [itemsFrom, kept, fresh, runsOf, Node.piece?, withoutLead]
          | cons c visible =>
            have spoken : IsSpoken [.plain (c :: visible)] := by
              apply spoken_plain
              have head := List.head?_dropWhile_not isLayout content
              simp only [kept, List.head?_cons] at head
              simp [head]
            simp [itemsFrom, kept, begun _ spoken, runsOf, Node.piece?, withoutLead]
        · intro run spoken
          rw [itemsFrom, begun _ (spoken.cons _)]
          simp [Node.piece?]

/-- Without children, the items are the runs of text. Nothing has been gathered at
the start, and that is the first case of the induction. -/
theorem items_of_childless (passesOver : Tag → List Node → Bool) {content : List Node}
    (childless : elements content = []) : items passesOver content = (runs content).map textItem := by
  rcases known : content.splitOnP Node.isDoctype with _ | ⟨first, others⟩
  · exact (List.splitOnP_ne_nil _ _ known).elim
  · rw [runs, known]
    exact (items_from_of_childless passesOver childless known).1

/-- In front of the first child, the items are the runs of text there. The child
ends the run in front of it, as the end of the content would. -/
theorem items_of_child (passesOver : Tag → List Node → Bool) {front : List Node}
    (childless : elements front = []) (tag : Tag) (inner behind : List Node) :
    ∃ rest, items passesOver (front ++ .element tag inner :: behind) =
      (runs front).map textItem ++ .element tag inner :: rest := by
  suffices general : ∀ fresh run, ∃ rest,
      itemsFrom passesOver fresh run (front ++ .element tag inner :: behind) =
        itemsFrom passesOver fresh run front ++ .element tag inner :: rest by
    obtain ⟨rest, same⟩ := general true []
    exact ⟨rest, by rw [items, same, ← items, items_of_childless passesOver childless]⟩
  intro fresh run
  induction front generalizing fresh run with
  | nil => exact ⟨_, rfl⟩
  | cons node others inductionHypothesis =>
    cases node with
    | element => cases childless
    | text content =>
      simp only [List.cons_append, itemsFrom]
      split
      · split
        · exact inductionHypothesis childless _ _
        · exact inductionHypothesis childless _ _
      · exact inductionHypothesis childless _ _
    | verbatim | aside => exact inductionHypothesis childless _ _
    | doctype =>
      obtain ⟨rest, same⟩ := inductionHypothesis childless true []
      refine ⟨rest, ?_⟩
      simp only [List.cons_append, itemsFrom, same, List.append_assoc]

/-- There are no children in front of the first, by the choice of where the lead
ends. -/
theorem childless_lead (content : List Node) : elements (lead content) = [] := by
  rw [elements, List.filterMap_eq_nil_iff]
  intro node member
  have none := List.all_eq_true.mp List.all_takeWhile node member
  simpa using none

/-- Content has no children, or a first one. In both cases the nodes in front of it
have none. -/
theorem lead_cases (content : List Node) : elements content = [] ∧ lead content = content ∨
    ∃ tag inner behind, content = lead content ++ .element tag inner :: behind := by
  have divided := List.takeWhile_append_dropWhile (p := fun node => node.element?.isNone) (l := content)
  change lead content ++ _ = content at divided
  cases known : content.dropWhile fun node => node.element?.isNone with
  | nil =>
    rw [known, List.append_nil] at divided
    exact .inl ⟨divided ▸ childless_lead content, divided⟩
  | cons node behind =>
    have child := List.head?_dropWhile_not (fun node : Node => node.element?.isNone) content
    simp only [known, List.head?_cons] at child
    rw [known] at divided
    cases node with
    | element tag inner => exact .inr ⟨tag, inner, behind, divided.symm⟩
    | text | verbatim | aside | doctype => cases child

/-- A child is refused where text is expected, with a fault of its own, or for what
its tag declares. -/
theorem refused_of_child (tag : Tag) : ∃ fault, fault ≠ .dividedText ∧
    (enterTag [] tag >>= fun _ => throw (.unexpectedElement tag.name) :
      Except RecordFault (List Char)) = .error fault := by
  unfold enterTag
  cases tag.extend [] with
  | ok scope => exact ⟨.unexpectedElement tag.name, nofun, rfl⟩
  | error fault => exact ⟨.namespaces fault, nofun, rfl⟩

/-- Where there is a child, the reader of text does not succeed, and it fails itself only where a
document type divides the text. -/
theorem element_text_of_child {content : List Node} {tag : Tag} {inner behind : List Node}
    (child : content = lead content ++ .element tag inner :: behind) :
    ∃ fault, elementText content = .error fault ∧ (fault = .dividedText → IsDivided content) := by
  obtain ⟨rest, same⟩ := items_of_child (fun _ _ => false) (childless_lead content) tag inner behind
  rw [← child] at same
  obtain ⟨fault, other, refused⟩ := refused_of_child tag
  unfold elementText
  rw [same]
  rcases known : runs (lead content) with _ | ⟨run, _ | ⟨second, others⟩⟩
  · exact ⟨fault, refused, fun divided => absurd divided other⟩
  · cases resolved : piecesText run with
    | error fault => exact ⟨.references fault, by simp [textItem, resolved, bind, Except.bind], nofun⟩
    | ok text =>
      refine ⟨fault, ?_, fun divided => absurd divided other⟩
      simpa [textItem, resolved, bind, Except.bind] using refused
  · have divided : IsDivided content := by
      rw [IsDivided, known]
      simp
    cases resolved : piecesText run with
    | error fault => exact ⟨.references fault, by simp [textItem, resolved, bind, Except.bind], nofun⟩
    | ok text =>
      cases more : piecesText second with
      | error fault =>
        exact ⟨.references fault, by simp [textItem, resolved, more, bind, Except.bind], nofun⟩
      | ok _ =>
        exact ⟨.dividedText, by simp [textItem, resolved, more, bind, Except.bind, throw, throwThe,
          MonadExceptOf.throw], fun _ => divided⟩

section

variable {content : List Node} (childless : elements content = [])

include childless

/-- Without text, an empty text is read. A missing text is not told apart from an
empty one. -/
theorem element_text_of_silent (none : runs content = []) : elementText content = .ok [] := by
  unfold elementText
  rw [items_of_childless _ childless, none]
  rfl

/-- One run of text is read as what it says. The references in it may be refused,
and that is the only fault here. -/
theorem element_text_of_run {run : List Piece} (only : runs content = [run]) :
    elementText content = (piecesText run).mapError .references := by
  unfold elementText
  rw [items_of_childless _ childless, only]
  cases resolved : piecesText run <;> simp [textItem, resolved, bind, Except.bind, pure, Except.pure]

/-- More than one run of text is never read. Either the references of the first or
the second are refused, or the second run is itself a fault. -/
theorem element_text_of_runs {first second : List Piece} {others : List (List Piece)}
    (more : runs content = first :: second :: others) (text : List Char) :
    elementText content ≠ .ok text := by
  unfold elementText
  rw [items_of_childless _ childless, more]
  cases resolved : piecesText first <;> cases resolvedSecond : piecesText second <;>
    simp [textItem, resolved, resolvedSecond, bind, Except.bind, throw, throwThe, MonadExceptOf.throw]

end

/-- An element is read as the text that it holds. Content with a child is refused on
one side and holds no text on the other; without children both sides ask for the
runs. -/
theorem element_text_iff {content : List Node} {text : List Char} :
    elementText content = .ok text ↔ HoldsText content text := by
  constructor
  · intro read
    rcases lead_cases content with ⟨childless, _⟩ | ⟨tag, inner, behind, child⟩
    · rcases known : runs content with _ | ⟨run, _ | ⟨second, others⟩⟩
      · rw [element_text_of_silent childless known] at read
        obtain rfl := Except.ok.inj read
        exact .silent childless known
      · rw [element_text_of_run childless known] at read
        exact .spoken childless known (ok_of_map_error read)
      · exact absurd read (element_text_of_runs childless known text)
    · obtain ⟨fault, refused, _⟩ := element_text_of_child child
      cases refused.symm.trans read
  · rintro (⟨childless, none⟩ | ⟨childless, only, resolved⟩)
    · exact element_text_of_silent childless none
    · rw [element_text_of_run childless only, resolved, map_error_ok]

/-- The reader of text fails itself only where a document type divides the text.
Nothing else makes two runs of what stands in front of any child. -/
theorem divided_of_element_text {content : List Node}
    (failed : elementText content = .error .dividedText) : IsDivided content := by
  rcases lead_cases content with ⟨childless, all⟩ | ⟨tag, inner, behind, child⟩
  · rw [IsDivided, all]
    rcases known : runs content with _ | ⟨run, _ | ⟨second, others⟩⟩
    · rw [element_text_of_silent childless known] at failed
      cases failed
    · rw [element_text_of_run childless known] at failed
      cases resolved : piecesText run <;> simp [resolved] at failed
    · simp
  · obtain ⟨fault, refused, divided⟩ := element_text_of_child child
    exact divided (Except.error.inj (refused.symm.trans failed))

end ExtensionPublisher.Xml
