import ExtensionPublisher.Breakdown
import ExtensionPublisher.Xml.Content
import ExtensionPublisher.Xml.Namespace
import ExtensionPublisher.Text.Quoted

/-!
# Records in a document

A record is an element whose child elements are its fields, told apart by their local names.
Each field is read at most once; children with other names, and text between children, are
passed over. The values read are an association list in the order of the document, so what
a record means does not depend on that order: it is looked up by name.

A list is an element whose children of one name, adjacent to each other, are its records.

Every element is examined in one order: the namespaces its tag declares, its attributes,
and then its content from the beginning to the first fault.
-/
namespace ExtensionPublisher.Xml

/-- Why an element is no record of the expected shape. One of them is no fault of
the element, but one in which the reader fails itself. -/
inductive RecordFault where
  | namespaces (fault : NamespaceFault)
  | attributes (fault : AttributeFault)
  | references (fault : ReferenceFault)
  /-- An element where text is expected. -/
  | unexpectedElement (name : List Char)
  /-- Two texts where one is expected, which a document type divides. The reader takes this to be
  impossible, so it is the reader that fails here and not the document. -/
  | dividedText
  /-- Text where a record is expected. -/
  | unexpectedText (text : List Char) (expected : String)
  | repeatedField (name : String)
  | missingField (name : String)
  /-- The text of a flag is none of its spellings. -/
  | invalidFlag (text : String)
  deriving DecidableEq, Repr

/-- The fault in words. -/
def RecordFault.message : RecordFault → String
  | .namespaces fault => fault.message
  | .attributes fault => "error while parsing attribute: " ++ fault.message
  | .references fault => fault.message
  | .unexpectedElement name => "unexpected `Event::Start(" ++ shownBytes name ++ ")`"
  | .dividedText => Breakdown.unreachable.message
  | .unexpectedText text expected =>
    "invalid type: string " ++ Text.quoted (String.ofList text) ++ ", expected struct " ++ expected
  | .repeatedField name => "duplicate field `" ++ name ++ "`"
  | .missingField name => "missing field `" ++ name ++ "`"
  | .invalidFlag text => "invalid boolean " ++ Text.quoted text

/-- The scope inside a tag, or the fault of its declarations. Every element that the
reader meets is entered like this. -/
def enterTag (scope : Scope) (tag : Tag) : Except RecordFault Scope :=
  (tag.extend scope).mapError .namespaces

/-- The text of an element that may hold nothing else. Two texts in it can only be
those on either side of a document type, and at them the reader fails itself. -/
def elementText (content : List Node) : Except RecordFault (List Char) := do
  match items (fun _ _ => false) content with
  | [] => return []
  | .element tag _ :: _ =>
    let _ ← enterTag [] tag
    throw (.unexpectedElement tag.name)
  | .text value :: rest =>
    let text ← value.mapError .references
    match rest with
    | [] => return text
    | .element tag _ :: _ =>
      let _ ← enterTag [] tag
      throw (.unexpectedElement tag.name)
    | .text more :: _ =>
      let _ ← more.mapError .references
      throw .dividedText

/-- Pass over an element, given the scopes outside and inside its tag, and tell the scope behind
it. Only the namespaces of the child it begins with are examined. With the content the end of
the element is passed over, so what is declared where it begins stays in force. -/
def passOver (outside within : Scope) (content : List Node) : Except RecordFault Scope :=
  match firstChild? content with
  | some tag => enterTag within tag
  | none => return if isVacant content then outside else within

/-- A field of a record: its local name, and how it is read in the scope of its own tag. A
child that stands for no value is passed over and read as `absent`. -/
structure Field (α : Type) where
  name : String
  read : Scope → Tag → List Node → Except RecordFault α
  standsForNothing : Scope → Tag → List Node → Bool := fun _ _ _ => false

/-- A field that holds text, if the text is admitted. What is admitted is asked of
the text without the layout around it. -/
def Field.text (name : String) (admits : String → Except RecordFault Unit := fun _ => .ok ()) :
    Field String where
  name := name
  read _ _ content := do
    let text ← elementText content
    admits (String.ofList text)
    return String.ofList text

/-- The field of a record that a child element is, by its local name. -/
def fieldOf? {α : Type} (fields : List (Field α)) (tag : Tag) : Option (Field α) :=
  fields.find? fun field => field.name.toList == localName tag.name

/-- Read the fields among the items of a record, behind those already read. A field
that is found twice is a fault, and a child that is no field is passed over. -/
def readFields {α : Type} (fields : List (Field α)) (scope : Scope) :
    List (String × α) → List Item → Except RecordFault (List (String × α))
  | found, [] => .ok found
  | found, .text value :: rest => do
    let _ ← value.mapError .references
    readFields fields scope found rest
  | found, .element tag content :: rest => do
    let within ← enterTag scope tag
    match fieldOf? fields tag with
    | none =>
      let behind ← passOver scope within content
      readFields fields behind found rest
    | some field =>
      if (found.lookup field.name).isSome then throw (.repeatedField field.name)
      let value ← field.read within tag content
      readFields fields scope (found ++ [(field.name, value)]) rest

/-- Whether a record's reader passes over a child: one that is no field, or one that
stands for no value where that is allowed. -/
def isPassedOver {α : Type} (fields : List (Field α)) (scope : Scope) (tag : Tag)
    (content : List Node) : Bool :=
  match fieldOf? fields tag with
  | none => true
  | some field =>
    match tag.extend scope with
    | .ok within => field.standsForNothing within tag content
    | .error _ => false

/-- Read the fields of a record, in the scope inside its tag. The attributes of the
tag are looked at first, though nothing is made of them. -/
def readRecord {α : Type} (fields : List (Field α)) (scope : Scope) (tag : Tag)
    (content : List Node) : Except RecordFault (List (String × α)) :=
  match tag.attributeFault? with
  | some fault => .error (.attributes fault)
  | none => readFields fields scope [] (items (isPassedOver fields scope) content)

/-- The value of a field that may not be missing. The field is named in the fault.
-/
def required {α : Type} (found : List (String × α)) (name : String) : Except RecordFault α :=
  match found.lookup name with
  | some value => .ok value
  | none => .error (.missingField name)

/-- How the elements of a list are read. Lists differ in nothing else. -/
structure ListShape (α : Type) where
  /-- The local name of the elements. -/
  name : String
  /-- What an element is called in messages. -/
  kind : String
  read : Scope → Tag → List Node → Except RecordFault α

/-- Where the reader of a list stands: in front of the elements, among those of one full name,
or behind them. -/
inductive ListStage where
  | before
  | among (name : List Char)
  | behind
  deriving DecidableEq, Repr

/-- Read the elements of a list among items. Text between two of them, or behind the last
one where nothing else has come yet, is no element. -/
def readElements {α : Type} (shape : ListShape α) (scope : Scope) :
    ListStage → List Item → Except RecordFault (List α)
  | _, [] => .ok []
  | stage, .text value :: rest => do
    let text ← value.mapError .references
    match stage with
    | .among _ => throw (.unexpectedText text shape.kind)
    | stage => readElements shape scope stage rest
  | stage, .element tag content :: rest => do
    let within ← enterTag scope tag
    let stage := if stage = .before ∨ stage = .among tag.name then stage else .behind
    if localName tag.name ≠ shape.name.toList then
      let behind ← passOver scope within content
      readElements shape behind stage rest
    else if stage = .behind then throw (.repeatedField shape.name)
    else
      let value ← shape.read within tag content
      return value :: (← readElements shape scope (.among tag.name) rest)

/-- Read the elements of a list, in the scope inside its tag. They have to stand
next to each other. -/
def readList {α : Type} (shape : ListShape α) (scope : Scope) (tag : Tag) (content : List Node) :
    Except RecordFault (List α) :=
  match tag.attributeFault? with
  | some fault => .error (.attributes fault)
  | none =>
    let passesOver (tag : Tag) (_ : List Node) := localName tag.name != shape.name.toList
    readElements shape scope .before (items passesOver content)

/-- The text in front of a root element, layout apart. There should be none, and it
is taken for the answer if there is. -/
def textAbove? (above : List Node) : Except RecordFault (Option (List Char)) :=
  match items (fun _ _ => false) above with
  | .text value :: _ => (value.mapError .references).map some
  | _ => .ok none

/-- Read a whole document. Text in front of the root stands where a value of the expected
kind should be. -/
def Document.read {α : Type} (document : Document) (kind : String)
    (read : Scope → Tag → List Node → Except RecordFault α) : Except RecordFault α := do
  match ← textAbove? document.above with
  | some text => throw (.unexpectedText text kind)
  | none =>
    let scope ← enterTag [] document.tag
    read scope document.tag document.content

end ExtensionPublisher.Xml
