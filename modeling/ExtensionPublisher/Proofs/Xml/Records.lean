import ExtensionPublisher.Proofs.Xml.Children
import Mathlib.Data.List.Forall2
import Mathlib.Data.List.Nodup

/-!
# What is read of an element

A record that is read says of each field whether it is there, and what was read in it. This is as many
as its children have the name of the field, none or one: `found_of_read_record`. A list that is read has
a value for each child with the name of its records, in their order, and these children stand next to
each other: `values_of_read_list`. So nothing that a document says is lost where it is read.

Readers fail themselves only in the text of a field, `failure_of_read_record` and
`failure_of_read_list`.
-/
namespace ExtensionPublisher.Xml

variable {α : Type}

/-! ## Steps that do not fail themselves -/

/-- The declarations of a tag are no text, so entering it never meets one that is
divided. -/
theorem enter_tag_ne (scope : Scope) (tag : Tag) : enterTag scope tag ≠ .error .dividedText := by
  unfold enterTag
  cases tag.extend scope <;> simp

/-- The text that is passed over is one text. Its references may be faulty, but it
is not divided. -/
theorem references_ne (value : Except ReferenceFault α) :
    value.mapError RecordFault.references ≠ .error .dividedText := by
  cases value <;> simp

/-- What is passed over is not read. Only the tag of its first child is entered. -/
theorem pass_over_ne (outside within : Scope) (content : List Node) :
    passOver outside within content ≠ .error .dividedText := by
  unfold passOver
  split
  · exact enter_tag_ne within _
  · simp [pure, Except.pure]

/-- Behind a step that does not fail itself, a failure is that of the next step.
With this the steps of a reader are taken off one by one. -/
theorem failure_of_bind {β : Type} {result : Except RecordFault α} {next : α → Except RecordFault β}
    (sound : result ≠ .error .dividedText) (failed : result >>= next = .error .dividedText) :
    ∃ first, result = .ok first ∧ next first = .error .dividedText := by
  cases result with
  | error fault =>
    have same : fault = .dividedText := Except.error.inj failed
    exact absurd (congrArg Except.error same) sound
  | ok first => exact ⟨first, rfl, failed⟩

/-! ## Records -/

/-- A field is found among elements of its name: there is none, or one, in which a value is read. -/
inductive Field.IsFound (field : Field α) : List (Tag × List Node) → Option α → Prop where
  | absent : field.IsFound [] none
  | single {scope : Scope} {tag : Tag} {content : List Node} {value : α}
      (read : field.read scope tag content = .ok value) : field.IsFound [(tag, content)] (some value)

/-- The field that an element is has the local name of the element. -/
theorem of_field_of {fields : List (Field α)} {tag : Tag} {field : Field α}
    (known : fieldOf? fields tag = some field) :
    field ∈ fields ∧ field.name.toList = localName tag.name :=
  ⟨List.mem_of_find?_eq_some known, by simpa using List.find?_some known⟩

/-- The elements among items. -/
def itemElements (items : List Item) : List (Tag × List Node) := items.filterMap Item.element?

/-- The elements with a local name among items. For the items of an element these
are its children of this name, and for the rest of the items those that are still to
come. -/
def namedItems (name : String) (items : List Item) : List (Tag × List Node) :=
  (itemElements items).filter (isNamed name)

/-- The elements with a local name among the items of some content are the children
of this name, however the items are told apart. -/
theorem named_items_eq (name : String) (passesOver : Tag → List Node → Bool) (content : List Node) :
    namedItems name (items passesOver content) = children name content := by
  rw [namedItems, itemElements, elements_of_items, children]

/-- An element in front of items adds itself to those of its name. This is the step
of every induction on items. -/
theorem named_items_cons (name : String) (tag : Tag) (content : List Node) (rest : List Item) :
    namedItems name (.element tag content :: rest) =
      if name.toList = localName tag.name then (tag, content) :: namedItems name rest
      else namedItems name rest := by
  simp only [namedItems, itemElements, List.filterMap_cons, Item.element?, List.filter_cons, isNamed,
    beq_iff_eq]

/-- Each field of a record that is read is found among the items of its name, or was found before and
is not found again.

Proof: induction on the items. An item that is a field settles this field and no other. -/
theorem found_of_read_fields {fields : List (Field α)} (distinct : (fields.map (·.name)).Nodup)
    {scope : Scope} {found all : List (String × α)} {items : List Item}
    (read : readFields fields scope found items = .ok all) {field : Field α} (member : field ∈ fields) :
    (found.lookup field.name = none →
      field.IsFound (namedItems field.name items) (all.lookup field.name)) ∧
    ∀ value, found.lookup field.name = some value →
      namedItems field.name items = [] ∧ all.lookup field.name = some value := by
  induction items generalizing scope found with
  | nil =>
    obtain rfl := Except.ok.inj read
    constructor
    · intro unread
      rw [unread]
      exact .absent
    · intro value known
      exact ⟨rfl, known⟩
  | cons item rest inductionHypothesis =>
    cases item with
    | text value =>
      obtain ⟨_, _, later⟩ := ok_of_bind read
      exact inductionHypothesis later
    | element tag content =>
      obtain ⟨within, _, later⟩ := ok_of_bind read
      rw [named_items_cons]
      cases known : fieldOf? fields tag with
      | none =>
        have other : field.name.toList ≠ localName tag.name := by
          simpa using List.find?_eq_none.mp known field member
        simp only [known] at later
        obtain ⟨behind, _, onward⟩ := ok_of_bind later
        rw [if_neg other]
        exact inductionHypothesis onward
      | some current =>
        obtain ⟨currentMember, named⟩ := of_field_of known
        simp only [known] at later
        split at later
        · cases later
        · next new =>
          obtain ⟨value, readValue, onward⟩ := ok_of_bind later
          have step := inductionHypothesis onward
          by_cases same : field.name = current.name
          · obtain rfl : field = current := List.inj_on_of_nodup_map distinct member currentMember same
            have unread : found.lookup field.name = none := Option.not_isSome_iff_eq_none.mp new
            have settled := step.2 value (by simp [List.lookup_append, unread])
            rw [if_pos named, settled.1, settled.2, unread]
            exact ⟨fun _ => .single readValue, nofun⟩
          · have other : field.name.toList ≠ localName tag.name := by
              rw [← named]
              exact fun equal => same (String.toList_inj.mp equal)
            have differ : (field.name == current.name) = false := beq_false_of_ne same
            have untouched : (found ++ [(current.name, value)]).lookup field.name =
                found.lookup field.name := by
              simp [List.lookup_append, List.lookup_cons, differ]
            rw [if_neg other, ← untouched]
            exact step

/-- A record that is read says of each field what was read in the child of its name,
if there is one. There are never two, as the second would be refused. At the start
nothing has been found. -/
theorem found_of_read_record {fields : List (Field α)} (distinct : (fields.map (·.name)).Nodup)
    {scope : Scope} {tag : Tag} {content : List Node} {all : List (String × α)}
    (read : readRecord fields scope tag content = .ok all) {field : Field α} (member : field ∈ fields) :
    field.IsFound (children field.name content) (all.lookup field.name) := by
  unfold readRecord at read
  split at read
  · cases read
  · have found := (found_of_read_fields distinct read member).1 rfl
    rwa [named_items_eq] at found

/-- Where the reader of a record fails itself, it does so in an item that is a
field. Strangers are passed over without being read, and their tags hold no text. -/
theorem failure_of_read_fields {fields : List (Field α)} {scope : Scope} {found : List (String × α)}
    {items : List Item} (failed : readFields fields scope found items = .error .dividedText) :
    ∃ field ∈ fields, ∃ child ∈ namedItems field.name items, ∃ within,
      field.read within child.1 child.2 = .error .dividedText := by
  induction items generalizing scope found with
  | nil => cases failed
  | cons item rest inductionHypothesis =>
    cases item with
    | text value =>
      obtain ⟨_, _, later⟩ := failure_of_bind (references_ne value) failed
      exact inductionHypothesis later
    | element tag content =>
      have mono (name : String) :
          namedItems name rest ⊆ namedItems name (.element tag content :: rest) := by
        rw [named_items_cons]
        split
        · exact List.subset_cons_self _ _
        · exact List.Subset.refl _
      obtain ⟨within, _, later⟩ := failure_of_bind (enter_tag_ne scope tag) failed
      cases known : fieldOf? fields tag with
      | none =>
        simp only [known] at later
        obtain ⟨behind, _, onward⟩ := failure_of_bind (pass_over_ne scope within content) later
        obtain ⟨field, member, child, inside, met⟩ := inductionHypothesis onward
        exact ⟨field, member, child, mono _ inside, met⟩
      | some current =>
        obtain ⟨member, named⟩ := of_field_of known
        simp only [known] at later
        split at later
        · cases later
        · by_cases own : current.read within tag content = .error .dividedText
          · refine ⟨current, member, (tag, content), ?_, within, own⟩
            rw [named_items_cons, if_pos named]
            exact List.mem_cons_self
          · obtain ⟨value, _, onward⟩ := failure_of_bind own later
            obtain ⟨field, member, child, inside, met⟩ := inductionHypothesis onward
            exact ⟨field, member, child, mono _ inside, met⟩

/-- Where the reader of a record fails itself, it does so in a child that is a
field. -/
theorem failure_of_read_record {fields : List (Field α)} {scope : Scope} {tag : Tag}
    {content : List Node} (failed : readRecord fields scope tag content = .error .dividedText) :
    ∃ field ∈ fields, ∃ child ∈ children field.name content, ∃ within,
      field.read within child.1 child.2 = .error .dividedText := by
  unfold readRecord at failed
  split at failed
  · cases failed
  · simpa only [named_items_eq] using failure_of_read_fields failed

/-! ## Lists -/

/-- Where a reader of a list stands, it can still meet these elements: records next to each other,
records that come first, or none. -/
def ListStage.Admits (name : String) (elements : List (Tag × List Node)) : ListStage → Prop
  | .before => elements.filter (isNamed name) <:+: elements
  | .among _ => elements.filter (isNamed name) <+: elements
  | .behind => elements.filter (isNamed name) = []

variable {shape : ListShape α}

/-- A record may come in front of elements next to which it stands. It is the first
one there, or it goes on with the records in front of it. -/
theorem admits_of_record {name : String} {tag : Tag} {content : List Node}
    (own : name.toList = localName tag.name) {stage : ListStage}
    (here : stage = .before ∨ stage = .among tag.name) {elements : List (Tag × List Node)}
    (adjacent : (ListStage.among tag.name).Admits name elements) :
    stage.Admits name ((tag, content) :: elements) := by
  have next : (ListStage.among tag.name).Admits name ((tag, content) :: elements) := by
    have named : isNamed name (tag, content) = true := by simp [isNamed, own]
    rw [ListStage.Admits, List.filter_cons_of_pos named]
    exact (List.prefix_cons_inj _).mpr adjacent
  rcases here with rfl | rfl
  · exact next.isInfix
  · exact next

/-- An element that is no record may come in front of all records, or of none. -/
theorem admits_of_other {name : String} {tag : Tag} {content : List Node}
    (other : name.toList ≠ localName tag.name) {stage next : ListStage}
    {elements : List (Tag × List Node)} (adjacent : next.Admits name elements)
    (moved : stage = .before ∧ next = .before ∨ next = .behind) :
    stage.Admits name ((tag, content) :: elements) := by
  have unnamed : ¬isNamed name (tag, content) = true := by simp [isNamed, other]
  rcases moved with ⟨rfl, rfl⟩ | rfl
  · rw [ListStage.Admits, List.filter_cons_of_neg unnamed]
    exact List.infix_cons adjacent
  · have none : ((tag, content) :: elements).filter (isNamed name) = [] := by
      rwa [List.filter_cons_of_neg unnamed]
    cases stage with
    | before =>
      rw [ListStage.Admits, none]
      exact List.nil_infix
    | among =>
      rw [ListStage.Admits, none]
      exact List.nil_prefix
    | behind => exact none

/-- Each record among items is read, in order, and the stage admits the elements.

Proof: induction on the items. The stage names only what is called as the records are. -/
theorem values_of_read_elements {scope : Scope} {stage : ListStage} {items : List Item}
    {values : List α} (named : ∀ name, stage = .among name → localName name = shape.name.toList)
    (read : readElements shape scope stage items = .ok values) :
    List.Forall₂ (fun element value => ∃ within, shape.read within element.1 element.2 = .ok value)
      (namedItems shape.name items) values ∧ stage.Admits shape.name (itemElements items) := by
  induction items generalizing scope stage values with
  | nil =>
    obtain rfl := Except.ok.inj read
    refine ⟨.nil, ?_⟩
    cases stage with
    | before => exact List.infix_rfl
    | among => exact List.prefix_rfl
    | behind => rfl
  | cons item rest inductionHypothesis =>
    cases item with
    | text value =>
      obtain ⟨_, _, later⟩ := ok_of_bind read
      cases stage with
      | before => exact inductionHypothesis named later
      | among => cases later
      | behind => exact inductionHypothesis named later
    | element tag content =>
      obtain ⟨within, _, later⟩ := ok_of_bind read
      rw [named_items_cons]
      by_cases own : shape.name.toList = localName tag.name
      · rw [if_neg (by simp [own])] at later
        rw [if_pos own]
        by_cases here : stage = .before ∨ stage = .among tag.name
        · have ahead : stage ≠ .behind := by
            rcases here with rfl | rfl <;> simp
          simp only [if_pos here, if_neg ahead] at later
          obtain ⟨value, readValue, onward⟩ := ok_of_bind later
          obtain ⟨others, readOthers, made⟩ := ok_of_bind onward
          obtain rfl := Except.ok.inj made
          obtain ⟨valued, adjacent⟩ := inductionHypothesis (by simp [own]) readOthers
          exact ⟨.cons ⟨within, readValue⟩ valued, admits_of_record own here adjacent⟩
        · simp only [if_neg here] at later
          cases later
      · rw [if_pos (Ne.symm own)] at later
        obtain ⟨behind, _, onward⟩ := ok_of_bind later
        rw [if_neg own]
        have other : stage ≠ .among tag.name := fun same => own (named _ same).symm
        by_cases first : stage = .before
        · subst first
          simp only [true_or, if_true] at onward
          obtain ⟨valued, adjacent⟩ := inductionHypothesis (by simp) onward
          exact ⟨valued, admits_of_other own adjacent (.inl ⟨rfl, rfl⟩)⟩
        · rw [if_neg (by simp [first, other])] at onward
          obtain ⟨valued, adjacent⟩ := inductionHypothesis (by simp) onward
          exact ⟨valued, admits_of_other own adjacent (.inr rfl)⟩

/-- A list that is read has a value for each child with the name of its records, in
their order, and these children stand next to each other. At the start every stage
is still possible. -/
theorem values_of_read_list {scope : Scope} {tag : Tag} {content : List Node} {values : List α}
    (read : readList shape scope tag content = .ok values) :
    List.Forall₂ (fun element value => ∃ within, shape.read within element.1 element.2 = .ok value)
      (children shape.name content) values ∧ children shape.name content <:+: elements content := by
  unfold readList at read
  split at read
  · cases read
  · have all := values_of_read_elements (by simp) read
    rwa [named_items_eq, ListStage.Admits, itemElements, elements_of_items] at all

/-- Where the reader of a list fails itself, it does so in an item that is a record.
An element of another name is passed over. -/
theorem failure_of_read_elements {scope : Scope} {stage : ListStage} {items : List Item}
    (failed : readElements shape scope stage items = .error .dividedText) :
    ∃ element ∈ namedItems shape.name items, ∃ within,
      shape.read within element.1 element.2 = .error .dividedText := by
  induction items generalizing scope stage with
  | nil => cases failed
  | cons item rest inductionHypothesis =>
    cases item with
    | text value =>
      obtain ⟨_, _, later⟩ := failure_of_bind (references_ne value) failed
      cases stage with
      | before => exact inductionHypothesis later
      | among => cases later
      | behind => exact inductionHypothesis later
    | element tag content =>
      obtain ⟨within, _, later⟩ := failure_of_bind (enter_tag_ne scope tag) failed
      rw [named_items_cons]
      by_cases own : shape.name.toList = localName tag.name
      · rw [if_neg (by simp [own])] at later
        rw [if_pos own]
        generalize (if stage = .before ∨ stage = .among tag.name then stage else .behind) = here at later
        split at later
        · cases later
        · by_cases broken : shape.read within tag content = .error .dividedText
          · exact ⟨_, List.mem_cons_self, within, broken⟩
          · obtain ⟨value, _, onward⟩ := failure_of_bind broken later
            by_cases behind : readElements shape scope (.among tag.name) rest = .error .dividedText
            · obtain ⟨element, member, met⟩ := inductionHypothesis behind
              exact ⟨element, List.mem_cons_of_mem _ member, met⟩
            · obtain ⟨_, _, made⟩ := failure_of_bind behind onward
              cases made
      · rw [if_pos (Ne.symm own)] at later
        rw [if_neg own]
        obtain ⟨behind, _, onward⟩ := failure_of_bind (pass_over_ne scope within content) later
        exact inductionHypothesis onward

/-- Where the reader of a list fails itself, it does so in one of its records. -/
theorem failure_of_read_list {scope : Scope} {tag : Tag} {content : List Node}
    (failed : readList shape scope tag content = .error .dividedText) :
    ∃ element ∈ children shape.name content, ∃ within,
      shape.read within element.1 element.2 = .error .dividedText := by
  unfold readList at failed
  split at failed
  · cases failed
  · simpa only [named_items_eq] using failure_of_read_elements failed

/-! ## Documents -/

/-- A document that is read is read in the content of its root, with what the tag of
the root declares in force. -/
theorem root_of_read {document : Document} {kind : String}
    {read : Scope → Tag → List Node → Except RecordFault α} {value : α}
    (succeeded : document.read kind read = .ok value) :
    ∃ scope, read scope document.tag document.content = .ok value := by
  obtain ⟨above, _, later⟩ := ok_of_bind succeeded
  cases above with
  | some text => cases later
  | none =>
    obtain ⟨scope, _, known⟩ := ok_of_bind later
    exact ⟨scope, known⟩

/-- In front of a root that is read there is no run of text. A run there would be
taken for the whole answer, and refused. -/
theorem silent_of_read {document : Document} {kind : String}
    {read : Scope → Tag → List Node → Except RecordFault α} {value : α}
    (childless : elements document.above = []) (succeeded : document.read kind read = .ok value) :
    runs document.above = [] := by
  obtain ⟨above, known, later⟩ := ok_of_bind succeeded
  rw [textAbove?, items_of_childless _ childless] at known
  cases spoken : runs document.above with
  | nil => rfl
  | cons run others =>
    rw [spoken] at known
    obtain ⟨text, _, rfl⟩ := ok_of_map known
    cases later

/-- Where the reader of a document fails itself, it does so in the content of the
root. Text in front of the root is only looked for, and one run is enough to refuse
it. -/
theorem failure_of_read {document : Document} {kind : String}
    {read : Scope → Tag → List Node → Except RecordFault α}
    (failed : document.read kind read = .error .dividedText) :
    ∃ scope, read scope document.tag document.content = .error .dividedText := by
  have sound : textAbove? document.above ≠ .error .dividedText := by
    unfold textAbove?
    split
    · next value rest _ =>
      cases value <;> simp [Except.map]
    · simp
  obtain ⟨above, _, later⟩ := failure_of_bind sound failed
  cases above with
  | some text => cases later
  | none =>
    obtain ⟨scope, _, known⟩ := failure_of_bind (enter_tag_ne [] document.tag) later
    exact ⟨scope, known⟩

end ExtensionPublisher.Xml
