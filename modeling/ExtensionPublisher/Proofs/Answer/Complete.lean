import ExtensionPublisher.Proofs.Answer.Truncation
import ExtensionPublisher.Proofs.Xml.Grammar
import ExtensionPublisher.Proofs.Xml.Records

/-!
# Lists are read completely

A list that is read loses no record and mixes none with another. It has one value for each record that
is written in its document, in order, and each value says what the record's own children say: their
names and what they hold decide, and nothing else that stands in the document. A record that lacks a
field or has one twice is never read, and neither are records with other elements between them:
`lists_are_read_completely`.

Such a document is refused as malformed, unless a document type divides the text of a field. There the
reader fails itself, and the program ends without an answer: `divided_text_is_not_refused`.
-/
namespace ExtensionPublisher

open Xml (children Document elements HoldsText IsDivided Node)

/-! ## What a record says -/

/-- What the child of a name holds, if there is one. There are never two. Deeper
elements of the name are no children and do not count. -/
inductive Bears (name : String) (content : List Node) : Option String → Prop where
  | absent (nothing : children name content = []) : Bears name content none
  | single {child : Xml.Tag × List Node} {text : String} (only : children name content = [child])
      (holds : HoldsText child.2 text.toList) : Bears name content (some text)

/-- A text that is borne is in one child, so a child is there. -/
theorem Bears.present {name : String} {content : List Node} {text : String}
    (bears : Bears name content (some text)) : children name content ≠ [] := by
  cases bears with
  | single only => simp [only]

/-- A text is borne by one child at most. -/
theorem Bears.at_most_one {name : String} {content : List Node} {text? : Option String}
    (bears : Bears name content text?) : (children name content).length ≤ 1 := by
  cases bears with
  | absent nothing => simp [nothing]
  | single only => simp [only]

/-- A record that is read bears what was found, for each of its fields that is a
text, and this is admitted. The text of a child is what the child holds, whatever
the reader did to find it. -/
theorem bears_of_read_record {fields : List (Xml.Field String)} (distinct : (fields.map (·.name)).Nodup)
    {scope : Xml.Scope} {tag : Xml.Tag} {content : List Node} {found : List (String × String)}
    (record : Xml.readRecord fields scope tag content = .ok found) {name : String}
    {admits : String → Except Xml.RecordFault Unit} (member : Xml.Field.text name admits ∈ fields) :
    Bears name content (found.lookup name) ∧
      ∀ text, found.lookup name = some text → admits text = .ok () := by
  have met : (Xml.Field.text name admits).IsFound (children name content) (found.lookup name) :=
    Xml.found_of_read_record distinct record member
  generalize found.lookup name = text? at met ⊢
  generalize known : children name content = named at met
  cases met with
  | absent => exact ⟨.absent known, nofun⟩
  | single read =>
    obtain ⟨characters, held, later⟩ := ok_of_bind read
    obtain ⟨_, admitted, made⟩ := ok_of_bind later
    obtain rfl := Except.ok.inj made
    refine ⟨.single known ?_, ?_⟩
    · rw [String.toList_ofList]
      exact Xml.element_text_iff.mp held
    · rintro text ⟨⟩
      exact admitted

/-- Where the reader of a field of text fails itself, a document type divides the
text. What the field admits is asked only of a text that was read. -/
theorem divided_of_field {name : String} {admits : String → Except Xml.RecordFault Unit}
    (sound : ∀ text, admits text ≠ .error .dividedText) {scope : Xml.Scope} {tag : Xml.Tag}
    {content : List Node}
    (failed : (Xml.Field.text name admits).read scope tag content = .error .dividedText) :
    IsDivided content := by
  by_cases divided : Xml.elementText content = .error .dividedText
  · exact Xml.divided_of_element_text divided
  · obtain ⟨text, _, later⟩ := Xml.failure_of_bind divided failed
    obtain ⟨_, _, made⟩ := Xml.failure_of_bind (sound _) later
    cases made

/-- Where the reader of a record fails itself, and what is made of the record does not, a document type
divides the text of one of its fields. -/
theorem divided_of_read_record {α : Type} {fields : List (Xml.Field String)}
    {ofFields : List (String × String) → Except Xml.RecordFault α}
    (texts : ∀ field ∈ fields, ∀ scope tag content,
      field.read scope tag content = .error .dividedText → IsDivided content)
    (sound : ∀ found, ofFields found ≠ .error .dividedText)
    {scope : Xml.Scope} {tag : Xml.Tag} {content : List Node}
    (failed : Xml.readRecord fields scope tag content >>= ofFields = .error .dividedText) :
    ∃ name ∈ fields.map (·.name), ∃ child ∈ children name content, IsDivided child.2 := by
  by_cases broken : Xml.readRecord fields scope tag content = .error .dividedText
  · obtain ⟨field, member, child, inside, within, met⟩ := Xml.failure_of_read_record broken
    exact ⟨field.name, List.mem_map_of_mem member, child, inside, texts field member _ _ _ met⟩
  · obtain ⟨found, _, later⟩ := Xml.failure_of_bind broken failed
    exact absurd later (sound found)

/-- A value that is missing is a fault of the document, and no failure of the
reader. -/
theorem required_ne {α : Type} (found : List (String × α)) (name : String) :
    Xml.required found name ≠ .error .dividedText := by
  unfold Xml.required
  split <;> simp

/-- A value that may not be missing is there, once it has been asked for. -/
theorem lookup_of_required {α : Type} {found : List (String × α)} {name : String} {value : α}
    (known : Xml.required found name = .ok value) : found.lookup name = some value := by
  unfold Xml.required at known
  split at known
  · next same => rw [same, Except.ok.inj known]
  · cases known

namespace PublishedVersion

/-- The content of a record describes a version: its own children name it, and what they do not say of
its replication and its regions is no and nothing. -/
structure IsDescribed (content : List Node) (published : PublishedVersion) : Prop where
  provider : Bears "ProviderNameSpace" content (some published.name.provider)
  type : Bears "Type" content (some published.name.type)
  version : Bears "Version" content (some published.name.version)
  replicated : ∃ text?, Bears "ReplicationCompleted" content text? ∧
    text?.elim (some false) flag? = some published.replicated
  regions : ∃ text?, Bears "Regions" content text? ∧ text?.getD "" = published.regions

/-- The fields that a version may not lack. -/
def requiredNames : List String := ["ProviderNameSpace", "Type", "Version"]

/-- The fields that a version may not have twice. -/
def allNames : List String := requiredNames ++ ["ReplicationCompleted", "Regions"]

/-- A record that is read describes the version that is found in it. Each field
bears what was looked up, and the version is made of that alone. -/
theorem described_of_read {scope : Xml.Scope} {tag : Xml.Tag} {content : List Node}
    {published : PublishedVersion} (read : listShape.read scope tag content = .ok published) :
    IsDescribed content published := by
  obtain ⟨found, record, described⟩ := ok_of_bind read
  have distinct : (fields.map (·.name)).Nodup := by decide
  have bears (name : String) (member : Xml.Field.text name ∈ fields) :
      Bears name content (found.lookup name) :=
    (bears_of_read_record distinct record member).1
  obtain ⟨provider, knownProvider, described⟩ := ok_of_bind described
  obtain ⟨type, knownType, described⟩ := ok_of_bind described
  obtain ⟨version, knownVersion, described⟩ := ok_of_bind described
  obtain rfl := Except.ok.inj described
  constructor
  case provider => exact lookup_of_required knownProvider ▸ bears "ProviderNameSpace" (by simp [fields])
  case type => exact lookup_of_required knownType ▸ bears "Type" (by simp [fields])
  case version => exact lookup_of_required knownVersion ▸ bears "Version" (by simp [fields])
  case regions => exact ⟨_, bears "Regions" (by simp [fields]), rfl⟩
  case replicated =>
    have flag := bears_of_read_record distinct record (.tail _ (.tail _ (.tail _ (.head _))))
    refine ⟨_, flag.1, ?_⟩
    cases known : found.lookup "ReplicationCompleted" with
    | none => rfl
    | some text =>
      have admitted := flag.2 text known
      split at admitted
      · next understood =>
        obtain ⟨value, same⟩ := Option.isSome_iff_exists.mp understood
        simp [same]
      · cases admitted

/-- A record that describes a version has all that it may not lack, and nothing twice. -/
theorem whole_of_described {content : List Node} {published : PublishedVersion}
    (described : IsDescribed content published) :
    (∀ name ∈ requiredNames, children name content ≠ []) ∧
      ∀ name ∈ allNames, (children name content).length ≤ 1 := by
  obtain ⟨provider, type, version, ⟨_, flagged, _⟩, ⟨_, offered, _⟩⟩ := described
  constructor
  · simp only [requiredNames, List.forall_mem_cons]
    exact ⟨provider.present, type.present, version.present, nofun⟩
  · simp only [allNames, requiredNames, List.cons_append, List.nil_append, List.forall_mem_cons]
    exact ⟨provider.at_most_one, type.at_most_one, version.at_most_one, flagged.at_most_one,
      offered.at_most_one, nofun⟩

/-- Where the reader of a version fails itself, a document type divides the text of
one of its fields. The flag is a text too, of which only some are admitted. -/
theorem divided_of_read {scope : Xml.Scope} {tag : Xml.Tag} {content : List Node}
    (failed : listShape.read scope tag content = .error .dividedText) :
    ∃ name ∈ allNames, ∃ child ∈ children name content, IsDivided child.2 := by
  refine divided_of_read_record ?texts ?sound failed
  case sound =>
    intro found broken
    obtain ⟨_, _, broken⟩ := Xml.failure_of_bind (required_ne _ _) broken
    obtain ⟨_, _, broken⟩ := Xml.failure_of_bind (required_ne _ _) broken
    obtain ⟨_, _, broken⟩ := Xml.failure_of_bind (required_ne _ _) broken
    cases broken
  case texts =>
    intro field member scope tag content failed
    simp only [fields, List.mem_cons, List.not_mem_nil, or_false] at member
    rcases member with rfl | rfl | rfl | rfl | rfl
    · exact divided_of_field (by simp) failed
    · exact divided_of_field (by simp) failed
    · exact divided_of_field (by simp) failed
    · refine divided_of_field ?_ failed
      intro text
      split <;> simp
    · exact divided_of_field (by simp) failed

end PublishedVersion

namespace Replication

/-- The content of a record describes a replication state: its own children say the location and what is
reached there. -/
structure IsDescribed (content : List Node) (state : Replication) : Prop where
  location : Bears "Location" content (some state.location)
  status : Bears "Status" content (some state.status)

/-- The fields that a replication state may not lack. -/
def requiredNames : List String := ["Location", "Status"]

/-- A record that is read describes the replication state that is found in it, by
the same two steps. -/
theorem described_of_read {scope : Xml.Scope} {tag : Xml.Tag} {content : List Node}
    {state : Replication} (read : listShape.read scope tag content = .ok state) :
    IsDescribed content state := by
  obtain ⟨found, record, described⟩ := ok_of_bind read
  have bears (name : String) (member : Xml.Field.text name ∈ fields) :
      Bears name content (found.lookup name) :=
    (bears_of_read_record (by decide) record member).1
  obtain ⟨location, knownLocation, described⟩ := ok_of_bind described
  obtain ⟨status, knownStatus, described⟩ := ok_of_bind described
  obtain rfl := Except.ok.inj described
  constructor
  case location => exact lookup_of_required knownLocation ▸ bears "Location" (by simp [fields])
  case status => exact lookup_of_required knownStatus ▸ bears "Status" (by simp [fields])

/-- A record that describes a replication state has all that it may not lack, and nothing twice. -/
theorem whole_of_described {content : List Node} {state : Replication}
    (described : IsDescribed content state) :
    (∀ name ∈ requiredNames, children name content ≠ []) ∧
      ∀ name ∈ requiredNames, (children name content).length ≤ 1 := by
  obtain ⟨location, status⟩ := described
  constructor
  · simp only [requiredNames, List.forall_mem_cons]
    exact ⟨location.present, status.present, nofun⟩
  · simp only [requiredNames, List.forall_mem_cons]
    exact ⟨location.at_most_one, status.at_most_one, nofun⟩

/-- Where the reader of a replication state fails itself, a document type divides
one of its texts. -/
theorem divided_of_read {scope : Xml.Scope} {tag : Xml.Tag} {content : List Node}
    (failed : listShape.read scope tag content = .error .dividedText) :
    ∃ name ∈ requiredNames, ∃ child ∈ children name content, IsDivided child.2 := by
  refine divided_of_read_record ?texts ?sound failed
  case sound =>
    intro found broken
    obtain ⟨_, _, broken⟩ := Xml.failure_of_bind (required_ne _ _) broken
    obtain ⟨_, _, broken⟩ := Xml.failure_of_bind (required_ne _ _) broken
    cases broken
  case texts =>
    intro field member scope tag content failed
    simp only [fields, List.mem_cons, List.not_mem_nil, or_false] at member
    rcases member with rfl | rfl
    · exact divided_of_field (by simp) failed
    · exact divided_of_field (by simp) failed

end Replication

/-! ## What a list says -/

/-- The records of a list are in order: they have the required children, none of their children twice,
and no other element stands between them. -/
structure IsOrderly (record : String) (required names : List String) (content : List Node) : Prop where
  present : ∀ element ∈ children record content, ∀ name ∈ required, children name element.2 ≠ []
  single : ∀ element ∈ children record content, ∀ name ∈ names, (children name element.2).length ≤ 1
  adjacent : children record content <:+: elements content

/-- No document type divides the text of a field. This can be checked of a document,
and leaves the reader nothing to fail at. -/
def HasWholeTexts (record : String) (names : List String) (content : List Node) : Prop :=
  ∀ element ∈ children record content, ∀ name ∈ names, ∀ child ∈ children name element.2,
    ¬IsDivided child.2

instance (record : String) (names : List String) (content : List Node) :
    Decidable (HasWholeTexts record names content) :=
  inferInstanceAs (Decidable (∀ element ∈ children record content, ∀ name ∈ names,
    ∀ child ∈ children name element.2, ¬IsDivided child.2))

/-- The text is refused: the reader finds a fault in it, and does not fail itself. -/
def IsRefused {α : Type} (read : String → Except AnswerFault α) (text : String) : Prop :=
  ∃ fault, read text = .error fault ∧ fault ≠ .record .dividedText

/-- A text is read as a list completely. What is read describes the records of the document, one by
one. A document whose records are not in order is never read, and is refused as malformed if no
document type divides the text of a field. -/
structure IsReadCompletely {α : Type} (read : String → Except AnswerFault (List α))
    (root record : String) (required names : List String) (describes : List Node → α → Prop)
    (text : String) : Prop where
  described : ∀ values, decode read text = .ok values → ∃ document : Document,
    document.IsWrittenAs root text.toList ∧ IsOrderly record required names document.content ∧
      List.Forall₂ (fun element value => describes element.2 value) (children record document.content)
        values
  unread : ∀ document : Document, document.IsWrittenAs root text.toList →
    ¬IsOrderly record required names document.content → ∀ values, decode read text ≠ .ok values
  refused : ∀ document : Document, document.IsWrittenAs root text.toList →
    ¬IsOrderly record required names document.content →
      HasWholeTexts record names document.content →
        IsRefused read text ∧ IsMalformed (decode read text)

section

variable {α : Type} {root kind : String}
  {reader : Xml.Scope → Xml.Tag → List Node → Except Xml.RecordFault α} {text : String}

/-- What is read as an answer is read in the root of a document. The document is
given by the grammar, not by the parser. -/
theorem document_of_answer {value : α} (read : readAnswer root kind reader text = .ok value) :
    ∃ document : Document, document.IsWrittenAs root text.toList ∧
      ∃ scope, reader scope document.tag document.content = .ok value := by
  obtain ⟨document, made, later⟩ := ok_of_bind read
  exact ⟨document, Document.of_chars_iff.mp (ok_of_map_error made),
    Xml.root_of_read (ok_of_map_error later)⟩

/-- Where the reader of an answer fails itself, it does so in the content of the
root. Before the root is entered every fault is one of the document. -/
theorem failure_of_answer
    (failed : readAnswer root kind reader text = .error (.record .dividedText)) :
    ∃ document : Document, document.IsWrittenAs root text.toList ∧
      ∃ scope, reader scope document.tag document.content = .error .dividedText := by
  cases made : Document.ofChars root text.toList with
  | error fault => simp [readAnswer, made, bind, Except.bind, map_error_error] at failed
  | ok document =>
    refine ⟨document, Document.of_chars_iff.mp made, ?_⟩
    simp only [readAnswer, made, map_error_ok] at failed
    cases known : document.read kind reader with
    | ok values => simp [known, bind, Except.bind] at failed
    | error fault =>
      simp only [known, bind, Except.bind, map_error_error, Except.error.injEq,
        AnswerFault.record.injEq] at failed
      exact Xml.failure_of_read (failed ▸ known)

end

section

variable {α : Type} {shape : Xml.ListShape α} {root kind : String}

variable {required names : List String} {describes : List Node → α → Prop}

/-- Lists of some shape are read completely if their records are described by what
is read in them. What a shape has to show is a fact about one record for each of the
three parts. -/
theorem read_completely
    (describing : ∀ {scope tag content value}, shape.read scope tag content = .ok value →
      describes content value)
    (complete : ∀ {content value}, describes content value →
      (∀ name ∈ required, children name content ≠ []) ∧
        ∀ name ∈ names, (children name content).length ≤ 1)
    (failing : ∀ {scope tag content}, shape.read scope tag content = .error .dividedText →
      ∃ name ∈ names, ∃ child ∈ children name content, IsDivided child.2) (text : String) :
    IsReadCompletely (readAnswer root kind (Xml.readList shape)) root shape.name required names describes
      text := by
  have described (values : List α)
      (read : decode (readAnswer root kind (Xml.readList shape)) text = .ok values) :
      ∃ document : Document, document.IsWrittenAs root text.toList ∧
        IsOrderly shape.name required names document.content ∧
        List.Forall₂ (fun element value => describes element.2 value)
          (children shape.name document.content) values := by
    obtain ⟨document, written, scope, list⟩ := document_of_answer (ok_of_map_error read)
    obtain ⟨valued, adjacent⟩ := Xml.values_of_read_list list
    have both := valued.imp fun element value ⟨within, known⟩ =>
      And.intro (complete (describing known)) (describing known)
    obtain ⟨each, all⟩ := (List.forall₂_and_left ..).mp both
    exact ⟨document, written, ⟨fun element member => (each element member).1,
      fun element member => (each element member).2, adjacent⟩, all⟩
  have unread (document : Document) (written : document.IsWrittenAs root text.toList)
      (disordered : ¬IsOrderly shape.name required names document.content) (values : List α) :
      decode (readAnswer root kind (Xml.readList shape)) text ≠ .ok values := by
    intro read
    obtain ⟨other, otherWritten, orderly, _⟩ := described values read
    exact disordered (Document.unique_of_written otherWritten written ▸ orderly)
  refine ⟨described, unread, ?_⟩
  intro document written disordered whole
  cases known : readAnswer root kind (Xml.readList shape) text with
  | ok values =>
    have read : decode (readAnswer root kind (Xml.readList shape)) text = .ok values := by
      rw [decode, known, map_error_ok]
    exact absurd read (unread document written disordered values)
  | error fault =>
    suffices readable : fault ≠ .record .dividedText by
      refine ⟨⟨fault, known, readable⟩, fault.message, ?_⟩
      rw [decode, known, map_error_error, AnswerFault.to_fault_of_readable readable]
    rintro rfl
    obtain ⟨other, otherWritten, scope, failed⟩ := failure_of_answer known
    obtain rfl := Document.unique_of_written otherWritten written
    obtain ⟨element, member, within, broken⟩ := Xml.failure_of_read_list failed
    obtain ⟨name, named, child, inside, divided⟩ := failing broken
    exact whole element member name named child inside divided

end

/-- Lists are read completely. For every text, a list of versions or of replication states that is read
has one value for each record of the one document that the text is written as, in order, and each value
is what the own children of its record hold. A document is never read in which a record lacks a child
that it may not lack, or has one twice, or in which other elements stand between records: it is refused
as malformed, unless a document type divides the text of a field. -/
theorem lists_are_read_completely (text : String) :
    IsReadCompletely PublishedVersion.readAll "ExtensionImages" "ExtensionImage"
      PublishedVersion.requiredNames PublishedVersion.allNames PublishedVersion.IsDescribed text ∧
    IsReadCompletely Replication.readAll "ReplicationStatusList" "ReplicationStatus"
      Replication.requiredNames Replication.requiredNames Replication.IsDescribed text :=
  ⟨read_completely PublishedVersion.described_of_read PublishedVersion.whole_of_described
      PublishedVersion.divided_of_read text,
    read_completely Replication.described_of_read Replication.whole_of_described
      Replication.divided_of_read text⟩

/-- A record that lacks a child is not in order. The condition can be evaluated,
which the order as a whole need not be. -/
theorem disordered_of_lacking {record name : String} {required names : List String}
    {content : List Node} (known : name ∈ required)
    (lacking : (children record content).any (fun element => (children name element.2).isEmpty) = true) :
    ¬IsOrderly record required names content := by
  intro orderly
  obtain ⟨element, member, nothing⟩ := List.any_eq_true.mp lacking
  exact orderly.present element member name known (List.isEmpty_iff.mp nothing)

/-- A state with a look-alike of its status inside another element is read without it, and is refused
where the look-alike is all there is. -/
theorem nested_status_is_not_read :
    (∃ document : Document, document.IsWrittenAs "ReplicationStatusList"
      ("<ReplicationStatusList><ReplicationStatus><Location>A</Location><x><Status>B</Status></x>" ++
        "<Status>C</Status></ReplicationStatus></ReplicationStatusList>").toList ∧
      List.Forall₂ (fun element value => Replication.IsDescribed element.2 value)
        (children "ReplicationStatus" document.content) [⟨"A", "C"⟩]) ∧
    IsRefused Replication.readAll
      ("<ReplicationStatusList><ReplicationStatus><Location>A</Location><x><Status>B</Status></x>" ++
        "</ReplicationStatus></ReplicationStatusList>") := by
  constructor
  · have read : decode Replication.readAll
        ("<ReplicationStatusList><ReplicationStatus><Location>A</Location><x><Status>B</Status></x>" ++
          "<Status>C</Status></ReplicationStatus></ReplicationStatusList>") = .ok [⟨"A", "C"⟩] := by
      decide +kernel
    obtain ⟨document, written, _, described⟩ := (lists_are_read_completely _).2.described _ read
    exact ⟨document, written, described⟩
  · obtain ⟨document, written, checked⟩ := @Document.written_of_any "ReplicationStatusList"
      ("<ReplicationStatusList><ReplicationStatus><Location>A</Location><x><Status>B</Status></x>" ++
        "</ReplicationStatus></ReplicationStatusList>").toList
      (fun document => (children "ReplicationStatus" document.content).any
          (fun element => (children "Status" element.2).isEmpty) &&
        decide (HasWholeTexts "ReplicationStatus" Replication.requiredNames document.content))
      (by decide +kernel)
    obtain ⟨lacking, whole⟩ := Bool.and_eq_true_iff.mp checked
    exact ((lists_are_read_completely _).2.refused document written
      (disordered_of_lacking (by decide) lacking) (of_decide_eq_true whole)).1

/-- The type of this version is divided, and so the reader fails itself, although the record lacks its
version: the text is not refused as malformed. -/
theorem divided_text_is_not_refused :
    ∃ document : Document, document.IsWrittenAs "ExtensionImages"
      ("<ExtensionImages><ExtensionImage><Type>Agent<!DOCTYPE a>2</Type></ExtensionImage>" ++
        "</ExtensionImages>").toList ∧
      ¬IsOrderly "ExtensionImage" PublishedVersion.requiredNames PublishedVersion.allNames
        document.content ∧
      PublishedVersion.readAll
        ("<ExtensionImages><ExtensionImage><Type>Agent<!DOCTYPE a>2</Type></ExtensionImage>" ++
          "</ExtensionImages>") = .error (.record .dividedText) ∧
      ¬IsRefused PublishedVersion.readAll
        ("<ExtensionImages><ExtensionImage><Type>Agent<!DOCTYPE a>2</Type></ExtensionImage>" ++
          "</ExtensionImages>") := by
  obtain ⟨document, written, lacking⟩ := @Document.written_of_any "ExtensionImages"
    ("<ExtensionImages><ExtensionImage><Type>Agent<!DOCTYPE a>2</Type></ExtensionImage>" ++
      "</ExtensionImages>").toList
    (fun document => (children "ExtensionImage" document.content).any
      fun element => (children "Version" element.2).isEmpty)
    (by decide +kernel)
  have failed : PublishedVersion.readAll
      ("<ExtensionImages><ExtensionImage><Type>Agent<!DOCTYPE a>2</Type></ExtensionImage>" ++
        "</ExtensionImages>") = .error (.record .dividedText) := by
    decide +kernel
  refine ⟨document, written, disordered_of_lacking (by decide) lacking, failed, ?_⟩
  rintro ⟨fault, known, other⟩
  exact other (Except.error.inj (known.symm.trans failed))

end ExtensionPublisher
