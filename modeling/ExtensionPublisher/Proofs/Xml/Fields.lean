import ExtensionPublisher.Answer.Fault
import ExtensionPublisher.Proofs.Result
import ExtensionPublisher.Proofs.Xml.Spacing
import Mathlib.Data.List.Forall2

/-!
# Records of texts

A text that is escaped between the tags of its element is read back without the layout around it,
`element_text_of_escape`. So a record of such elements is read as the values of the fields it has, in
their order, and elements that are no fields make no difference, whatever their text is:
`read_fields_of_texts`. A list of elements that are read as records is read as the values of these
records, `read_list_of_laid`.
-/
namespace ExtensionPublisher.Xml

open Text (isLayout isTight trim unpadded)

/-! ## Texts -/

/-- Writing a character puts layout in front or behind exactly if the character is
layout. A reference begins and ends with other characters, and stands for one that
is no layout. -/
theorem ends_of_escape_character (c : Char) (cs : List Char) :
    (escapeCharacter c ++ cs).head?.any isLayout = isLayout c ∧
      (cs ++ escapeCharacter c).getLast?.any isLayout = isLayout c := by
  unfold escapeCharacter
  repeat' split
  all_goals first
    | (subst c; simp; decide)
    | simp

/-- A written text has layout at its ends exactly if the text has. Only the first
and the last character are looked at. -/
theorem tight_escape (cs : List Char) : isTight isLayout (escape cs) = isTight isLayout cs := by
  have front : (escape cs).head?.any isLayout = cs.head?.any isLayout := by
    cases cs with
    | nil => rfl
    | cons c rest => exact (ends_of_escape_character c (escape rest)).1
  have back : (escape cs).getLast?.any isLayout = cs.getLast?.any isLayout := by
    rcases List.eq_nil_or_concat cs with rfl | ⟨init, last, rfl⟩
    · rfl
    · have last_ : escape (init ++ [last]) = escape init ++ escapeCharacter last := by simp [escape]
      rw [List.concat_eq_append, last_, (ends_of_escape_character last (escape init)).2]
      simp
  rw [isTight, isTight, front, back]

/-- The layout around a text is the layout around it where it is written. Layout is
written as itself, so what is cut off is the same on both sides. -/
theorem trim_escape (cs : List Char) : trim isLayout (escape cs) = escape (trim isLayout cs) := by
  obtain ⟨before, after, same, front, back⟩ := Text.exists_append_trim isLayout cs
  have tight : isTight isLayout (escape (trim isLayout cs)) = true := by
    rw [tight_escape, ← Text.trim_eq_self_iff]
    exact Text.trim_trim (fun _ => id) cs
  calc trim isLayout (escape cs)
      = trim isLayout (escape (before ++ trim isLayout cs ++ after)) := by rw [← same]
    _ = trim isLayout (before ++ escape (trim isLayout cs) ++ after) := by
      rw [escape, List.flatMap_append, List.flatMap_append]
      exact congrArg₂ (fun a b => trim isLayout (a ++ escape (trim isLayout cs) ++ b))
        (escape_of_layout front) (escape_of_layout back)
    _ = escape (trim isLayout cs) := by
      rw [Text.trim_append front back, Text.trim_eq_self_iff.mpr tight]

/-- No written text holds a bracket, so it never ends before its end tag. -/
theorem not_bracket_of_escape (cs : List Char) : '<' ∉ escape cs := by
  intro member
  obtain ⟨c, _, written⟩ := List.mem_flatMap.mp member
  unfold escapeCharacter at written
  repeat' split at written
  all_goals first
    | exact absurd written (by decide)
    | exact absurd (List.mem_singleton.mp written).symm ‹_›

/-- An element that holds text only is read as the text without the layout around
it. The references are resolved after the layout is cut off. -/
theorem element_text_of_text (text : List Char) :
    elementText (textNodes text) = (resolve (trim isLayout text)).mapError .references := by
  cases text with
  | nil => rfl
  | cons c rest =>
    rw [trim]
    simp only [elementText, textNodes, items, itemsFrom]
    cases known : (c :: rest).dropWhile isLayout with
    | nil => rfl
    | cons first others =>
      have visible : isLayout first = false := by
        have head := List.head?_dropWhile_not isLayout (c :: rest)
        simpa [known] using head
      simp only [runItem, List.all_cons, visible, piecesText, Bool.false_and]
      cases resolve (Text.dropEndWhile isLayout (first :: others)) <;> rfl

/-- A written text is read as itself without the layout around it. -/
theorem element_text_of_escape (cs : List Char) :
    elementText (textNodes (escape cs)) = .ok (trim isLayout cs) := by
  rw [element_text_of_text, trim_escape, resolve_escape, map_error_ok]

/-! ## Fields and strangers -/

/-- A tag gives no reserved abbreviation another meaning. -/
def Tag.IsDeclared (tag : Tag) : Prop :=
  ∃ meanings, declarations (tag.attributeList false) = .ok meanings

/-- An element has none of some names. Its tag, and that of the child it begins
with, declare nothing that is reserved. The reader enters both of them on its way
past, and would refuse such declarations. -/
structure IsStrange (names : List String) (element : Tag × List Node) : Prop where
  unknown : ∀ name ∈ names, name.toList ≠ localName element.1.name
  declared : element.1.IsDeclared
  declaredFirst : ∀ child, firstChild? element.2 = some child → child.IsDeclared

/-- Elements in their order, with strangers among them. The own elements are those
that are read. -/
inductive Mingled (names : List String) : List (Tag × List Node) → List (Tag × List Node) → Prop where
  | nil : Mingled names [] []
  | own {element : Tag × List Node} {own elements : List (Tag × List Node)}
      (behind : Mingled names own elements) : Mingled names (element :: own) (element :: elements)
  | stranger {element : Tag × List Node} {own elements : List (Tag × List Node)}
      (strange : IsStrange names element) (behind : Mingled names own elements) :
      Mingled names own (element :: elements)

/-- What a tag declares is in force inside it, whatever was in force outside. -/
theorem Tag.IsDeclared.enter {tag : Tag} (declared : tag.IsDeclared) (scope : Scope) :
    ∃ within, enterTag scope tag = .ok within := by
  obtain ⟨meanings, known⟩ := declared
  exact ⟨meanings ++ scope, by simp [enterTag, Tag.extend, known, bind, Except.bind, pure, Except.pure]⟩

/-- A stranger is passed over. The reader enters its tag and that of its first
child, and neither is refused. -/
theorem IsStrange.passes {names : List String} {tag : Tag} {held : List Node}
    (strange : IsStrange names (tag, held)) (scope : Scope) : ∃ within behind,
      enterTag scope tag = .ok within ∧ passOver scope within held = .ok behind := by
  obtain ⟨within, entered⟩ := strange.declared.enter scope
  cases known : firstChild? held with
  | none => exact ⟨within, _, entered, by rw [passOver, known]; rfl⟩
  | some child =>
    obtain ⟨behind, passed⟩ := (strange.declaredFirst child known).enter within
    exact ⟨within, behind, entered, by rw [passOver, known]; exact passed⟩

section

variable {α : Type} {fields : List (Field α)}

/-- An element is read as a field with a value, in any scope. What strangers in
front of it declare stays in force, so the scope cannot be fixed. -/
def IsRead (fields : List (Field α)) (element : Tag × List Node) (value : String × α) : Prop :=
  ∃ field, fieldOf? fields element.1 = some field ∧ field.name = value.1 ∧ ∀ scope, ∃ within,
    enterTag scope element.1 = .ok within ∧ field.read within element.1 element.2 = .ok value.2

/-- Elements that are read have their values found behind those that were found before. Strangers among
them are passed over.

Proof: induction on the elements. What a stranger declares stays in force, so the scope is any. -/
theorem read_fields_of_mingled {own elements : List (Tag × List Node)}
    (mingled : Mingled (fields.map (·.name)) own elements) {values : List (String × α)}
    (reads : List.Forall₂ (IsRead fields) own values) (found : List (String × α))
    (once : (found.map (·.1) ++ values.map (·.1)).Nodup) (scope : Scope) :
    readFields fields scope found (elements.map elementItem) = .ok (found ++ values) := by
  induction mingled generalizing found values scope with
  | nil =>
    cases reads
    simp [readFields]
  | @own element _ elements _ inductionHypothesis =>
    cases reads with
    | @cons _ value _ values read behind =>
      obtain ⟨field, known, named, reading⟩ := read
      obtain ⟨within, entered, readValue⟩ := reading scope
      have new : found.lookup value.1 = none := by
        rw [List.lookup_eq_none_iff]
        intro earlier met
        have different := (List.nodup_append.mp once).2.2 earlier.1 (List.mem_map_of_mem met) value.1
          List.mem_cons_self
        simpa using different.symm
      have later : ((found ++ [value]).map (·.1) ++ values.map (·.1)).Nodup := by
        simpa using once
      have next := inductionHypothesis behind (found ++ [value]) later scope
      rw [List.append_assoc, List.singleton_append] at next
      rw [← next]
      simp [elementItem, readFields, entered, known, new, readValue, named, bind, Except.bind]
  | @stranger element _ elements strange _ inductionHypothesis =>
    have none : fieldOf? fields element.1 = none := by
      rw [fieldOf?, List.find?_eq_none]
      intro field member
      simpa using strange.unknown field.name (List.mem_map_of_mem member)
    obtain ⟨within, behind, entered, passed⟩ := strange.passes scope
    rw [← inductionHypothesis reads found once behind]
    simp [elementItem, readFields, entered, none, passed, bind, Except.bind]

end

/-! ## Records -/

/-- A child of a record as it is written: its name in bare tags, and a text between
them, with references for what would be markup. -/
def writtenChild (child : String × String) : List Char := enclosed child.1 (escape child.2.toList)

/-- The element that a written child is. -/
def childElement (child : String × String) : Tag × List Node :=
  (bareTag child.1, textNodes (escape child.2.toList))

/-- Written children are their elements. Their texts hold no bracket, so each is
spelled as one run of text. -/
theorem holds_children {children : List (String × String)}
    (bare : ∀ child ∈ children, isBareName child.1 = true) :
    Holds (children.map writtenChild) (children.map childElement) := by
  induction children with
  | nil => exact .nil
  | cons child rest inductionHypothesis =>
    rw [List.forall_mem_cons] at bare
    exact .element (spells_enclosed bare.1 (.text (not_bracket_of_escape _)))
      (inductionHypothesis bare.2)

/-- A field takes a written text, as its value without the layout around it. This is
what each kind of field has to show to be read back. -/
def Field.Takes (field : Field String) (value : String) : Prop :=
  ∀ scope tag, field.read scope tag (textNodes (escape value.toList)) = .ok (unpadded value)

/-- A field of text takes what it admits, without the layout that is dropped before
it is asked. -/
theorem takes_of_admitted {name value : String} {admits : String → Except RecordFault Unit}
    (admitted : admits (unpadded value) = .ok ()) : (Field.text name admits).Takes value := by
  intro scope tag
  simp only [Field.text, element_text_of_escape, bind, Except.bind, pure, Except.pure]
  rw [← unpadded, admitted]

/-- The children of a record that are fields, with their values. The others are
passed over. -/
def fieldValues (fields : List (Field String)) (children : List (String × String)) :
    List (String × String) :=
  (children.filter fun child => fields.any (·.name == child.1)).map fun child =>
    (child.1, unpadded child.2)

/-- A child that is a field has its value in front of the others. -/
theorem field_values_cons (fields : List (Field String)) (child : String × String)
    (rest : List (String × String)) :
    fieldValues fields (child :: rest) =
      (if fields.any (·.name == child.1) then [(child.1, unpadded child.2)] else []) ++
        fieldValues fields rest := by
  unfold fieldValues
  by_cases known : fields.any (·.name == child.1) = true <;> simp [known]

/-- The fields of a record are read once where its children have different names, as
each has the name of its child. -/
theorem nodup_field_values {fields : List (Field String)} {children : List (String × String)}
    (once : (children.map (·.1)).Nodup) : ((fieldValues fields children).map (·.1)).Nodup := by
  refine once.sublist ?_
  rw [fieldValues, List.map_map]
  exact List.filter_sublist.map _

/-- The field that a bare name is the name of. A bare name has no colon, so it is
its own local name. -/
theorem field_of_bare {name : String} (bare : isBareName name = true)
    (fields : List (Field String)) :
    fieldOf? fields (bareTag name) = fields.find? (·.name == name) := by
  simp only [fieldOf?, bareTag, local_name_of_bare bare]
  congr
  funext field
  rw [Bool.eq_iff_iff, beq_iff_eq, beq_iff_eq, String.toList_inj]

/-- Children with the names of fields have bare names where these are. -/
theorem bare_of_names {fields : List (Field String)} {children : List (String × String)}
    (bare : ∀ field ∈ fields, isBareName field.name = true)
    (names : (children.map (·.1)).Sublist (fields.map (·.name))) :
    ∀ child ∈ children, isBareName child.1 = true := by
  intro child member
  obtain ⟨field, known, same⟩ := List.mem_map.mp (names.subset (List.mem_map_of_mem member))
  rw [← same]
  exact bare field known

/-- A bare tag has no attributes, so what is in force inside it is what was in force
outside. -/
theorem enter_bare_tag (scope : Scope) (name : String) : enterTag scope (bareTag name) = .ok scope := by
  rw [enterTag, Tag.extend_of_bare rfl, map_error_ok]

/-- A bare tag declares nothing, and so nothing that is reserved. -/
theorem declared_of_bare (name : String) : (bareTag name).IsDeclared :=
  ⟨[], by rw [Tag.attribute_list_of_bare rfl]; rfl⟩

section

variable {fields : List (Field String)} {children : List (String × String)}
  (bare : ∀ child ∈ children, isBareName child.1 = true)

include bare

/-- Written texts are fields, with strangers among them. A child that is no field
has another name than all of them, and its bare tag declares nothing. -/
theorem mingled_children : Mingled (fields.map (·.name))
    ((children.filter fun child => fields.any (·.name == child.1)).map childElement)
    (children.map childElement) := by
  induction children with
  | nil => exact .nil
  | cons child rest inductionHypothesis =>
    rw [List.forall_mem_cons] at bare
    have behind := inductionHypothesis bare.2
    by_cases known : fields.any (·.name == child.1) = true
    · rw [List.filter_cons, if_pos known]
      exact .own behind
    · rw [List.filter_cons, if_neg known]
      refine .stranger ⟨?_, declared_of_bare child.1, ?_⟩ behind
      · intro name member same
        obtain ⟨field, met, rfl⟩ := List.mem_map.mp member
        have equal : field.name = child.1 :=
          String.toList_inj.mp (same.trans (local_name_of_bare bare.1))
        exact known (List.any_eq_true.mpr ⟨field, met, beq_iff_eq.mpr equal⟩)
      · intro first begun
        cases text : escape child.2.toList <;> simp [childElement, textNodes, text, firstChild?] at begun

/-- Written texts that are fields are read as the values of these. The induction
drops the children that are no fields on both sides. -/
theorem reads_children
    (takes : ∀ child ∈ children, ∀ field ∈ fields, field.name = child.1 → field.Takes child.2) :
    List.Forall₂ (IsRead fields)
      ((children.filter fun child => fields.any (·.name == child.1)).map childElement)
      (fieldValues fields children) := by
  induction children with
  | nil => exact .nil
  | cons child rest inductionHypothesis =>
    rw [List.forall_mem_cons] at bare takes
    have behind := inductionHypothesis bare.2 takes.2
    rw [field_values_cons]
    by_cases known : fields.any (·.name == child.1) = true
    · rw [List.filter_cons, if_pos known, if_pos known]
      obtain ⟨field, found⟩ := Option.isSome_iff_exists.mp
        (List.find?_isSome.mpr (List.any_eq_true.mp known))
      have named : field.name = child.1 := by simpa using List.find?_some found
      have member : field ∈ fields := List.mem_of_find?_eq_some found
      refine .cons ⟨field, (field_of_bare bare.1 fields).trans found, named, fun scope => ?_⟩ behind
      exact ⟨scope, enter_bare_tag scope child.1, takes.1 field member named scope (bareTag child.1)⟩
    · rwa [List.filter_cons, if_neg known, if_neg known]

/-- A record of written texts is read as the values of its fields, in the order of the record. The
children that are no fields are passed over. -/
theorem read_fields_of_texts
    (takes : ∀ child ∈ children, ∀ field ∈ fields, field.name = child.1 → field.Takes child.2)
    (once : (children.map (·.1)).Nodup) (scope : Scope) :
    readFields fields scope [] ((children.map childElement).map elementItem) =
      .ok (fieldValues fields children) :=
  read_fields_of_mingled (mingled_children bare) (reads_children bare takes) []
    (nodup_field_values once) scope

end

/-- A record of written texts with layout between them, in a tag whose attributes are no fault. -/
theorem read_record_of_laid {fields : List (Field String)} {children : List (String × String)}
    {content : List Node} (laid : Laid (children.map childElement) content)
    (bare : ∀ child ∈ children, isBareName child.1 = true)
    (takes : ∀ child ∈ children, ∀ field ∈ fields, field.name = child.1 → field.Takes child.2)
    (once : (children.map (·.1)).Nodup) {tag : Tag} (written : tag.attributeFault? = none)
    (scope : Scope) :
    readRecord fields scope tag content = .ok (fieldValues fields children) := by
  rw [readRecord, written, ← read_fields_of_texts bare takes once scope]
  exact read_fields_of_laid laid _ scope []

/-- A bare tag has no faulty attributes, because it has none. -/
theorem attribute_fault_of_bare (name : String) : (bareTag name).attributeFault? = none := by
  rw [Tag.attributeFault?, Tag.attribute_list_of_bare rfl, List.findSome?_nil]

/-! ## Lists -/

/-- An element is a record of a list, and is read as a value. It has the name that
the list asks for, and its tag can be entered. -/
def IsRecord {α : Type} (shape : ListShape α) (scope : Scope) (element : Tag × List Node)
    (value : α) : Prop :=
  element.1.name = shape.name.toList ∧ ∃ within, enterTag scope element.1 = .ok within ∧
    shape.read within element.1 element.2 = .ok value

variable {α : Type} {shape : ListShape α}

/-- The reader of a list reads its records in order. The stage only says whether a
record has been met, and is the same behind each of them. -/
theorem read_elements_of_records (bare : isBareName shape.name = true) {scope : Scope}
    {elements : List (Tag × List Node)} {values : List α}
    (records : List.Forall₂ (IsRecord shape scope) elements values) {stage : ListStage}
    (open_ : stage = .before ∨ stage = .among shape.name.toList) :
    readElements shape scope stage (elements.map elementItem) = .ok values := by
  induction records generalizing stage with
  | nil => simp [readElements]
  | @cons element value elements values record _ inductionHypothesis =>
    obtain ⟨named, within, entered, read⟩ := record
    have still : (if stage = .before ∨ stage = .among element.1.name then stage else .behind) = stage := by
      rw [named]
      exact if_pos open_
    have ahead : stage ≠ .behind := by
      rcases open_ with rfl | rfl <;> simp
    have own : localName element.1.name = shape.name.toList := by
      rw [named, local_name_of_bare bare]
    have next := inductionHypothesis (.inr (congrArg ListStage.among named))
    simp [elementItem, readElements, entered, own, still, ahead, read, next, bind, Except.bind, pure,
      Except.pure]

section

variable {fields : List (Field String)} {ofFields : List (String × String) → Except RecordFault α}
  {children : List (String × String)} {value : α}
  (reads : shape.read = fun scope tag content => readRecord fields scope tag content >>= ofFields)
  (bare : ∀ child ∈ children, isBareName child.1 = true)
  (takes : ∀ child ∈ children, ∀ field ∈ fields, field.name = child.1 → field.Takes child.2)
  (once : (children.map (·.1)).Nodup) (described : ofFields (fieldValues fields children) = .ok value)

include reads bare takes once described

/-- An element with written texts laid out in it is the record of what its fields say. -/
theorem is_record_of_laid {tag : Tag} {content : List Node}
    (laid : Laid (children.map childElement) content) (named : tag.name = shape.name.toList)
    {scope within : Scope} (entered : enterTag scope tag = .ok within)
    (written : tag.attributeFault? = none) : IsRecord shape scope (tag, content) value := by
  have read := read_record_of_laid laid bare takes once written within
  refine ⟨named, within, entered, ?_⟩
  simp only [reads, read, bind, Except.bind, described]

/-- Between bare tags, pieces that hold written texts spell the record of what its fields say. -/
theorem record_of_spaced (bareShape : isBareName shape.name = true) {pieces : List (List Char)}
    {text : List Char} (spaced : Spaced pieces text) (holds : Holds pieces (children.map childElement))
    (scope : Scope) : ∃ tag content, SpellsNode (enclosed shape.name text) (.element tag content) ∧
      IsRecord shape scope (tag, content) value := by
  obtain ⟨content, spelled, laid⟩ := laid_of_spaced spaced holds
  exact ⟨_, content, spells_enclosed bareShape spelled,
    is_record_of_laid reads bare takes once described laid rfl (enter_bare_tag scope shape.name)
      (attribute_fault_of_bare shape.name)⟩

end

/-- Pieces that each spell a record hold the records in their order. -/
theorem holds_of_records {scope : Scope} {pieces : List (List Char)} {values : List α}
    (written : List.Forall₂ (fun value piece => ∃ tag content,
      SpellsNode piece (.element tag content) ∧ IsRecord shape scope (tag, content) value)
      values pieces) :
    ∃ elements, Holds pieces elements ∧ List.Forall₂ (IsRecord shape scope) elements values := by
  induction written with
  | nil => exact ⟨[], .nil, .nil⟩
  | cons first _ inductionHypothesis =>
    obtain ⟨tag, content, spells, record⟩ := first
    obtain ⟨elements, holds, records⟩ := inductionHypothesis
    exact ⟨_, .element spells holds, .cons record records⟩

/-- A list of records with layout between them is read as their values in order. -/
theorem read_list_of_laid (bare : isBareName shape.name = true)
    {elements : List (Tag × List Node)} {content : List Node} (laid : Laid elements content)
    {values : List α} {scope : Scope} (records : List.Forall₂ (IsRecord shape scope) elements values)
    (root : String) : readList shape scope (bareTag root) content = .ok values := by
  have named : ∀ element ∈ elements, element.1.name = shape.name.toList :=
    ((List.forall₂_and_left ..).mp records).1
  have looks : ∀ element ∈ elements, (localName element.1.name != shape.name.toList) = false := by
    intro element member
    rw [named element member, local_name_of_bare bare, bne_self_eq_false]
  rw [readList, attribute_fault_of_bare]
  simp only [items_of_laid laid (fun tag _ => localName tag.name != shape.name.toList) looks]
  exact read_elements_of_records bare records (.inl rfl)

/-- A document whose root has bare tags is an answer if what is spelled between them is read. -/
theorem read_answer_of_spells {root : String} (bareRoot : isBareName root = true) {text : List Char}
    {content : List Node} (spells : Spells text content) (kind : String)
    (read : Scope → Tag → List Node → Except RecordFault α) :
    readAnswer root kind read (String.ofList (enclosed root text)) =
      (read [] (bareTag root) content).mapError .record := by
  simp [readAnswer, Document.of_chars_of_spells bareRoot spells, Document.read, textAbove?, items,
    itemsFrom, runItem, enter_bare_tag, bind, Except.bind]

/-- A document whose root is a list of records is an answer, with their values in order. -/
theorem read_answer_of_spaced {root : String} (bareRoot : isBareName root = true)
    (bare : isBareName shape.name = true) {pieces : List (List Char)} {text : List Char}
    (spaced : Spaced pieces text) {elements : List (Tag × List Node)} (holds : Holds pieces elements)
    {values : List α} (records : List.Forall₂ (IsRecord shape []) elements values) (kind : String) :
    readAnswer root kind (readList shape) (String.ofList (enclosed root text)) = .ok values := by
  obtain ⟨content, spelled, laid⟩ := laid_of_spaced spaced holds
  rw [read_answer_of_spells bareRoot spelled, read_list_of_laid bare laid records root, map_error_ok]

end ExtensionPublisher.Xml
