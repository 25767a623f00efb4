import ExtensionPublisher.Proofs.Xml.Fields
import Mathlib.Data.List.Perm.Basic

/-!
# Records in any arrangement

The children of a record may stand in any order, with elements of other names and comments among them
and layout anywhere between: `Arranges`. What stands inside the other elements is anything that can be
written, also elements with the names of the record's own.

However a record is arranged, the reader finds its children with the same values, in the order in which
they stand, `read_record_of_arranged`. A value that is looked up is then the same for every order,
`lookup_of_perm`.
-/
namespace ExtensionPublisher.Xml

open Text (unpadded)

/-! ## Strangers -/

/-- The characters of an element: a start tag with content and its end tag behind it, or a tag that is
both. -/
inductive WritesElement : Tag × List Node → List Char → Prop where
  | standalone {tag : Tag} {piece : List Char} (marks : Marks piece (.standalone tag)) :
      WritesElement (tag, []) piece
  | paired {tag : Tag} {held : List Node} {first inner last : List Char}
      (opened : Marks first (.opening tag)) (inside : Spells inner held)
      (closed : Marks last (.closing tag.name)) : WritesElement (tag, held) (first ++ inner ++ last)

/-- The characters of an element that has none of some names. They may be written in
any way that makes them an element, with anything inside. -/
def IsStranger (names : List String) (piece : List Char) : Prop :=
  ∃ element, WritesElement element piece ∧ IsStrange names element

/-- An element is spelled wherever it stands: what is in front of it ends in its
tag, and what is behind it is spelled as before. -/
theorem spells_of_writes {tag : Tag} {held : List Node} {piece : List Char}
    (writes : WritesElement (tag, held) piece) : SpellsNode piece (.element tag held) := by
  intro lead rest nodes plain behind
  cases writes with
  | standalone marks => exact behind.standalone plain marks
  | paired opened inside closed => exact .element plain opened inside closed behind

/-- A piece of markup can be all that is spelled. There is no text on either side of
it, and the empty text is no node. -/
theorem SpellsNode.alone {piece : List Char} {node : Node} (spells : SpellsNode piece node) :
    Spells piece [node] := by
  have nothing : '<' ∉ [] := List.not_mem_nil
  simpa [textNodes] using spells nothing (.text nothing)

/-- An element in bare tags is a stranger by its name, if what it begins with
declares nothing that is reserved. The bare tags themselves declare nothing. -/
theorem stranger_of_bare {names : List String} {name : String} (bare : isBareName name = true)
    (unknown : name ∉ names) {inner : List Char} {held : List Node} (spells : Spells inner held)
    (declared : ∀ child, firstChild? held = some child → child.IsDeclared) :
    IsStranger names (enclosed name inner) := by
  have tag := of_content_of_bare bare
  have named := local_name_of_bare bare
  simp only [isBareName, Bool.and_eq_true] at bare
  have opened := marks_opening bare.1.1 (by simpa using bare.1.2)
  have closed := marks_closing bare.1.1
  rw [tag] at opened closed
  refine ⟨(bareTag name, held), ?_, ?_, declared_of_bare name, declared⟩
  · have label : (bareTag name).name = name.toList := rfl
    simpa [enclosed, label] using WritesElement.paired opened spells closed
  · intro other member same
    have equal : other = name := String.toList_inj.mp (same.trans named)
    exact unknown (equal ▸ member)

/-! ## Arrangements -/

/-- Pieces in their order, with comments and strangers among them. The order of the
own pieces is kept here; rearranging them is a step of its own. -/
inductive Mixed (names : List String) : List (List Char) → List (List Char) → Prop where
  | nil : Mixed names [] []
  | own {piece : List Char} {own pieces : List (List Char)} (behind : Mixed names own pieces) :
      Mixed names (piece :: own) (piece :: pieces)
  | comment {content : List Char} {own pieces : List (List Char)} (unclosed : ¬"-->".toList <:+: content)
      (behind : Mixed names own pieces) :
      Mixed names own (("<!--".toList ++ content ++ "-->".toList) :: pieces)
  | stranger {piece : List Char} {own pieces : List (List Char)} (strange : IsStranger names piece)
      (behind : Mixed names own pieces) : Mixed names own (piece :: pieces)

/-- Pieces in any order, with comments and strangers among them and layout anywhere
between. This is all that a server may do to the children of a record. -/
inductive Arranges (names : List String) (own : List (List Char)) (text : List Char) : Prop where
  | mk {order pieces : List (List Char)} (permuted : order.Perm own) (mixed : Mixed names order pieces)
      (spaced : Spaced pieces text)

/-- Pieces in another order hold their elements in another order. The induction
follows the permutation, and each exchange of two pieces exchanges their elements.
-/
theorem holds_of_perm {order own : List (List Char)} (permuted : order.Perm own)
    {elements : List (Tag × List Node)} (holds : Holds own elements) :
    ∃ moved, Holds order moved ∧ moved.Perm elements := by
  induction permuted generalizing elements with
  | nil => exact ⟨elements, holds, .refl _⟩
  | cons piece _ inductionHypothesis =>
    cases holds with
    | aside spells behind =>
      obtain ⟨moved, holds, permuted⟩ := inductionHypothesis behind
      exact ⟨moved, .aside spells holds, permuted⟩
    | element spells behind =>
      obtain ⟨moved, holds, permuted⟩ := inductionHypothesis behind
      exact ⟨_, .element spells holds, permuted.cons _⟩
  | swap first second rest =>
    cases holds with
    | aside spells behind =>
      cases behind with
      | aside spellsNext onward => exact ⟨_, .aside spellsNext (.aside spells onward), .refl _⟩
      | element spellsNext onward => exact ⟨_, .element spellsNext (.aside spells onward), .refl _⟩
    | element spells behind =>
      cases behind with
      | aside spellsNext onward => exact ⟨_, .aside spellsNext (.element spells onward), .refl _⟩
      | element spellsNext onward =>
        exact ⟨_, .element spellsNext (.element spells onward), .swap _ _ _⟩
  | trans _ _ firstHypothesis secondHypothesis =>
    obtain ⟨between, holdsBetween, permuted⟩ := secondHypothesis holds
    obtain ⟨moved, holdsMoved, permutedMore⟩ := firstHypothesis holdsBetween
    exact ⟨moved, holdsMoved, permutedMore.trans permuted⟩

/-- Pieces with comments and strangers among them hold the elements with strangers
among them. A comment is a piece that holds no element. -/
theorem holds_of_mixed {names : List String} {own pieces : List (List Char)}
    (mixed : Mixed names own pieces) {elements : List (Tag × List Node)} (holds : Holds own elements) :
    ∃ all, Holds pieces all ∧ Mingled names elements all := by
  induction mixed generalizing elements with
  | nil =>
    cases holds
    exact ⟨[], .nil, .nil⟩
  | own _ inductionHypothesis =>
    cases holds with
    | aside spells behind =>
      obtain ⟨all, holds, mingled⟩ := inductionHypothesis behind
      exact ⟨all, .aside spells holds, mingled⟩
    | element spells behind =>
      obtain ⟨all, holds, mingled⟩ := inductionHypothesis behind
      exact ⟨_, .element spells holds, .own mingled⟩
  | comment unclosed _ inductionHypothesis =>
    obtain ⟨all, holds, mingled⟩ := inductionHypothesis holds
    exact ⟨all, .aside (spells_comment unclosed) holds, mingled⟩
  | stranger strange _ inductionHypothesis =>
    obtain ⟨element, writes, strange⟩ := strange
    obtain ⟨all, holds, mingled⟩ := inductionHypothesis holds
    exact ⟨_, .element (spells_of_writes writes) holds, .stranger strange mingled⟩

/-! ## Reading -/

section

variable {α : Type} {fields : List (Field α)}

/-- A record is read in any arrangement, with its values in the order in which they
stand. The elements are moved along with their pieces and the values along with the
elements; strangers are passed over. -/
theorem read_record_of_arranged {own : List (List Char)} {text : List Char}
    (arranged : Arranges (fields.map (·.name)) own text) {elements : List (Tag × List Node)}
    (holds : Holds own elements) {values : List (String × α)}
    (reads : List.Forall₂ (IsRead fields) elements values) (once : (values.map (·.1)).Nodup) :
    ∃ content found, Spells text content ∧ found.Perm values ∧
      ∀ scope tag, tag.attributeFault? = none → readRecord fields scope tag content = .ok found := by
  obtain ⟨permuted, mixed, spaced⟩ := arranged
  obtain ⟨moved, holdsMoved, permuted⟩ := holds_of_perm permuted holds
  obtain ⟨found, readsFound, same⟩ := List.perm_comp_forall₂ permuted reads
  obtain ⟨all, holdsAll, mingled⟩ := holds_of_mixed mixed holdsMoved
  obtain ⟨content, spells, laid⟩ := laid_of_spaced spaced holdsAll
  have distinct : (([] : List (String × α)).map (·.1) ++ found.map (·.1)).Nodup :=
    ((same.map _).nodup_iff).mpr once
  refine ⟨content, found, spells, same, ?_⟩
  intro scope tag written
  rw [readRecord, written]
  exact (read_fields_of_laid laid _ scope []).trans
    (read_fields_of_mingled mingled readsFound [] distinct scope)

/-- What is looked up does not depend on the order, if no name is there twice.
Exchanging two entries matters only where both have the name that is looked up. -/
theorem lookup_of_perm {found other : List (String × α)} (permuted : found.Perm other)
    (once : (found.map (·.1)).Nodup) (name : String) : found.lookup name = other.lookup name := by
  induction permuted with
  | nil => rfl
  | cons entry _ inductionHypothesis =>
    obtain ⟨key, value⟩ := entry
    rw [List.lookup_cons, List.lookup_cons, inductionHypothesis (List.nodup_cons.mp once).2]
  | swap first second rest =>
    obtain ⟨key, value⟩ := first
    obtain ⟨other, _⟩ := second
    have different : other ≠ key := by
      simp only [List.map_cons, List.nodup_cons, List.mem_cons, not_or] at once
      exact once.1.1
    simp only [List.lookup_cons]
    by_cases same : name = key
    · simp [same, beq_false_of_ne different.symm]
    · simp [beq_false_of_ne same]
  | trans permuted _ firstHypothesis secondHypothesis =>
    exact (firstHypothesis once).trans (secondHypothesis ((permuted.map _).nodup_iff.mp once))

end

/-! ## Records of texts -/

section

variable {fields : List (Field String)} {children : List (String × String)}
  (bare : ∀ field ∈ fields, isBareName field.name = true) (distinct : (fields.map (·.name)).Nodup)
  (names : (children.map (·.1)).Sublist (fields.map (·.name)))
  (takes : ∀ child ∈ children, ∀ field ∈ fields, field.name = child.1 → field.Takes child.2)

include bare names takes

/-- Written texts with the names of fields are read as the values of these. None is
passed over, as each has the name of a field. -/
theorem reads_named_children :
    List.Forall₂ (IsRead fields) (children.map childElement) (fieldValues fields children) := by
  have all : (children.filter fun child => fields.any (·.name == child.1)) = children := by
    refine List.filter_eq_self.mpr fun child member => ?_
    obtain ⟨field, known, same⟩ := List.mem_map.mp (names.subset (List.mem_map_of_mem member))
    exact List.any_eq_true.mpr ⟨field, known, beq_iff_eq.mpr same⟩
  have reads := reads_children (bare_of_names bare names) takes
  rwa [all] at reads

include distinct

/-- Written texts in any arrangement are a record, and what is looked up in it is
what they say. The values come in another order, but their names are different. -/
theorem read_texts_of_arranged {own : List (List Char)} {text : List Char}
    (arranged : Arranges (fields.map (·.name)) own text)
    (holds : Holds own (children.map childElement)) : ∃ content found, Spells text content ∧
      (∀ name, found.lookup name = (fieldValues fields children).lookup name) ∧
      ∀ scope tag, tag.attributeFault? = none → readRecord fields scope tag content = .ok found := by
  have once : ((fieldValues fields children).map (·.1)).Nodup :=
    nodup_field_values (names.nodup distinct)
  obtain ⟨content, found, spells, permuted, read⟩ :=
    read_record_of_arranged arranged holds (reads_named_children bare names takes) once
  have foundOnce : (found.map (·.1)).Nodup := (permuted.map _).nodup_iff.mpr once
  exact ⟨content, found, spells, lookup_of_perm permuted foundOnce, read⟩

/-- Written texts in any arrangement are one record of a list, if it depends only on
what is looked up in it. The names of its fields stand for the names of its
children. -/
theorem record_of_arranged {α : Type} {shape : ListShape α}
    {ofFields : List (String × String) → Except RecordFault α}
    (reads : shape.read = fun scope tag content => readRecord fields scope tag content >>= ofFields)
    (lookups : ∀ found other, (∀ name, found.lookup name = other.lookup name) →
      ofFields found = ofFields other)
    {value : α} (described : ofFields (fieldValues fields children) = .ok value)
    (bareShape : isBareName shape.name = true) {own : List (List Char)} {text : List Char}
    (arranged : Arranges (fields.map (·.name)) own text)
    (holds : Holds own (children.map childElement)) (scope : Scope) :
    ∃ tag content, SpellsNode (enclosed shape.name text) (.element tag content) ∧
      IsRecord shape scope (tag, content) value := by
  obtain ⟨content, found, spells, same, read⟩ :=
    read_texts_of_arranged bare distinct names takes arranged holds
  refine ⟨_, content, spells_enclosed bareShape spells, rfl, scope, enter_bare_tag scope shape.name, ?_⟩
  have record := read scope (bareTag shape.name) (attribute_fault_of_bare shape.name)
  simp only [reads, record, bind, Except.bind]
  rw [lookups _ _ same, described]

end

end ExtensionPublisher.Xml
