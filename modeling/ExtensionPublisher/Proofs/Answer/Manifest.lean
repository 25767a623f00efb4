import ExtensionPublisher.Manifest
import ExtensionPublisher.Proofs.Answer.RoundTrip

/-!
# Manifests as records

A manifest is written line by line, and nothing that is put into it can change its lines. Its root has
the name of a record in a list of versions, and its first fields have the names of the record's. So a
list that holds a manifest is read as one record, which names the version of the manifest:
`manifest_names_version`. The other fields of the manifest are none of the record, and are passed over
whatever their texts are.
-/
namespace ExtensionPublisher

open Text (isLayout unpadded)
open Xml (childElement enclosed fieldValues Holds isBareName Laid Spaced SpellsNode writtenChild)

namespace Manifest

/-! ## Lines -/

namespace Entry

/-- The markup of an entry, without the blanks in front of it. -/
def markup : Entry → List Char
  | .field name value => writtenChild (name, value)
  | .comment content => "<!--".toList ++ content.toList ++ "-->".toList

/-- The child of the manifest that an entry is. A comment is none. -/
def child? : Entry → Option (String × String)
  | .field name value => some (name, value)
  | .comment _ => none

/-- Whether an entry is markup that ends where it is meant to, whatever the value of
a field is. Values are escaped, so only names and comments are asked. -/
def isClean : Entry → Bool
  | .field name _ => isBareName name
  | .comment content => !content.toList.contains '>'

/-- An entry is written as its markup behind two blanks. The blanks are layout in
front of the piece. -/
theorem text_eq (entry : Entry) : entry.text = "  ".toList ++ entry.markup := by
  cases entry with
  | field name value => rfl
  | comment content => rfl

end Entry

/-- Entries hold the children that they are, in their order. Comments are asides
among them. -/
theorem holds_entries {entries : List Entry} (clean : ∀ entry ∈ entries, entry.isClean = true) :
    Holds (entries.map Entry.markup) ((entries.filterMap Entry.child?).map childElement) := by
  induction entries with
  | nil => exact .nil
  | cons entry rest inductionHypothesis =>
    rw [List.forall_mem_cons] at clean
    have behind := inductionHypothesis clean.2
    cases entry with
    | field name value =>
      exact .element (Xml.spells_enclosed clean.1 (.text (Xml.not_bracket_of_escape _))) behind
    | comment content =>
      have plain : '>' ∉ content.toList := by simpa [Entry.isClean] using clean.1
      exact .aside (Xml.spells_comment (Xml.not_infix_of_not_mem (by decide) plain)) behind

/-- Entries on lines of their own have layout between them. Some layout may stand in
front of the first already, which is the line break behind the start tag. -/
theorem spaced_entries (entries : List Entry) {lead : List Char}
    (layout : ∀ c ∈ lead, isLayout c = true) :
    Spaced (entries.map Entry.markup) (lead ++ entries.flatMap fun entry => entry.text ++ ['\n']) := by
  induction entries generalizing lead with
  | nil => simpa using Spaced.last layout
  | cons entry rest inductionHypothesis =>
    have indented : ∀ c ∈ lead ++ "  ".toList, isLayout c = true := by
      rw [List.forall_mem_append]
      exact ⟨layout, List.all_eq_true.mp (by decide)⟩
    have below := inductionHypothesis Xml.layout_newline
    simpa [Entry.text_eq] using Spaced.next indented below

/-! ## The root -/

/-- What the declaration in front of the root says. -/
def declared : String := "xml version=\"1.0\" encoding=\"utf-8\" "

/-- The start tag of the root, between its brackets: its name, and two attributes
with their values. -/
def rootParts : List String := [
  "ExtensionImage",
  " xmlns=", "\"http://schemas.microsoft.com/windowsazure\"",
  "  xmlns:i=", "\"http://www.w3.org/2001/XMLSchema-instance\""]

/-- The heading is the declaration and, on the next line, the start tag of the root.
It is one fixed text. -/
theorem heading_eq :
    heading = "<?" ++ declared ++ "?>\n<" ++ String.join rootParts ++ ">\n" := by
  decide +kernel

/-- The characters of the root's start tag. -/
def rootContent : List Char := rootParts.flatMap String.toList

/-- The declaration. -/
def declaration : List Char := "<?".toList ++ declared.toList ++ "?>".toList

/-- The start tag of the root. -/
def rootTag : Xml.Tag := Xml.Tag.ofContent rootContent

/-- The root has the name of a record, so a manifest inside of a list is one. -/
theorem root_tag_eq : rootTag.name = "ExtensionImage".toList := by
  decide +kernel

/-- The attributes of the root are no faults, and declare an abbreviation. The
reader asks for both before it looks at the content. -/
theorem root_tag_enters : rootTag.attributeFault? = none ∧
    Xml.enterTag [] rootTag = .ok [("i".toList, Xml.instanceName)] := by
  decide +kernel

/-- The root of a manifest. -/
def root (entries : List Entry) : List Char :=
  '<' :: rootContent ++ '>' :: ('\n' :: entries.flatMap fun entry => entry.text ++ ['\n']) ++
    "</".toList ++ rootTag.name ++ ['>']

/-- A manifest is its declaration and, on the next line, its root. The declaration
can be left out where a manifest stands inside of another document. -/
theorem document_eq (entries : List Entry) :
    document entries = declaration ++ '\n' :: root entries := by
  have ending : "?>\n<".toList = "?>".toList ++ ['\n', '<'] := rfl
  have bracket : ">\n".toList = ['>', '\n'] := rfl
  have closing : "</ExtensionImage>".toList = "</".toList ++ (rootTag.name ++ ['>']) := by
    rw [root_tag_eq]
    rfl
  have joined : (String.join rootParts).toList = rootContent := by simp [rootContent, String.toList_join]
  rw [document, heading_eq, declaration, root, closing]
  simp only [String.toList_append, ending, bracket, joined]
  -- Literals are opaque from here on: only the brackets between them are moved.
  generalize "<?".toList = opened
  generalize "?>".toList = ended
  generalize "</".toList = slashed
  simp only [List.append_assoc, List.cons_append, List.nil_append]

/-- The root is an element with the entries laid out in it, if each of them ends
where it is meant to. -/
theorem spells_root {entries : List Entry} (clean : ∀ entry ∈ entries, entry.isClean = true) :
    ∃ content, Laid ((entries.filterMap Entry.child?).map childElement) content ∧
      SpellsNode (root entries) (.element rootTag content) := by
  obtain ⟨content, spelled, laid⟩ :=
    Xml.laid_of_spaced (spaced_entries entries Xml.layout_newline) (holds_entries clean)
  exact ⟨content, laid, Xml.spells_element (by decide +kernel) (by decide +kernel) spelled⟩

/-! ## The record -/

/-- The names of the fields of a manifest. -/
def fieldNames (entries : List Entry) : List String := (entries.filterMap Entry.child?).map (·.1)

/-- Entries that name a version, and say nothing else that a record says. Among the
other fields none may have the name of a field of the record. -/
structure Names (entries : List Entry) (name : VersionName) : Prop where
  clean : ∀ entry ∈ entries, entry.isClean = true
  once : (fieldNames entries).Nodup
  unflagged : "ReplicationCompleted" ∉ fieldNames entries
  named : fieldValues PublishedVersion.fields (entries.filterMap Entry.child?) =
    fieldValues PublishedVersion.fields (PublishedVersion.nameChildren name)

/-- The entries for publishing name their version. The names of all fields are
fixed, so only their values are left open. -/
theorem publish_names (details : Details) : Names (publishEntries details) details.name where
  clean := by
    simp only [publishEntries, opening, List.cons_append, List.nil_append, List.forall_mem_cons,
      Entry.isClean]
    decide +kernel
  once := by
    simp [fieldNames, publishEntries, opening, Entry.child?, List.filterMap_cons]
  unflagged := by
    simp [fieldNames, publishEntries, opening, Entry.child?, List.filterMap_cons]
  named := rfl

/-- The entries for unpublishing name their version, and have no other fields of a
record. -/
theorem unpublish_names (name : VersionName) : Names (unpublishEntries name) name where
  clean := by
    simp only [unpublishEntries, opening, List.cons_append, List.nil_append, List.forall_mem_cons,
      Entry.isClean]
    decide +kernel
  once := by
    simp [fieldNames, unpublishEntries, opening, Entry.child?, List.filterMap_cons]
  unflagged := by
    simp [fieldNames, unpublishEntries, opening, Entry.child?, List.filterMap_cons]
  named := rfl

/-- A list that holds a manifest is read as one record, which has the name of the version and nothing
else. -/
theorem read_document {entries : List Entry} {name : VersionName} (names : Names entries name)
    {tail : List Char} (layout : ∀ c ∈ tail, isLayout c = true) :
    PublishedVersion.readAll
        (String.ofList (enclosed "ExtensionImages" (document entries ++ tail))) =
      .ok [⟨⟨unpadded name.provider, unpadded name.type, unpadded name.version⟩, false, ""⟩] := by
  have bare : ∀ child ∈ entries.filterMap Entry.child?, isBareName child.1 = true := by
    intro child member
    obtain ⟨entry, met, known⟩ := List.mem_filterMap.mp member
    cases entry with
    | field name value =>
      obtain rfl := Option.some.inj known
      exact names.clean _ met
    | comment content => cases known
  have flagged : ∀ child ∈ entries.filterMap Entry.child?,
      child.1 = "ReplicationCompleted" → (flag? child.2).isSome = true :=
    fun child member same => absurd (same ▸ List.mem_map_of_mem member) names.unflagged
  have takes : ∀ child ∈ entries.filterMap Entry.child?, ∀ field ∈ PublishedVersion.fields,
      field.name = child.1 → field.Takes child.2 :=
    fun child member => PublishedVersion.field_takes (flagged child member)
  have described := names.named ▸ PublishedVersion.of_name_values name
  obtain ⟨content, laid, spells⟩ := spells_root names.clean
  obtain ⟨written, entered⟩ := root_tag_enters
  have record : Xml.IsRecord PublishedVersion.listShape [] (rootTag, content) _ :=
    Xml.is_record_of_laid PublishedVersion.list_shape_read bare takes names.once described laid
      root_tag_eq entered written
  have aside : SpellsNode declaration .aside := Xml.spells_instruction (by decide +kernel)
  have line : Spaced [root entries] (['\n'] ++ root entries ++ tail) :=
    .next Xml.layout_newline (.last layout)
  have spaced : Spaced [declaration, root entries]
      ([] ++ declaration ++ (['\n'] ++ root entries ++ tail)) := .next nofun line
  have same : document entries ++ tail = [] ++ declaration ++ (['\n'] ++ root entries ++ tail) := by
    simp [document_eq]
  rw [same]
  exact Xml.read_answer_of_spaced (by decide) (by decide) spaced
    (.aside aside (.element spells .nil)) (.cons record .nil) _

end Manifest

/-- The version that a manifest is for is what the client reads in it. In a list of versions, a manifest
for publishing is one record, whatever its texts are: it names the version of the manifest, apart from
layout around the names, and says neither that it is replicated nor where. So is a manifest for
unpublishing. -/
theorem manifest_names_version (details : Manifest.Details) (name : VersionName) :
    PublishedVersion.readAll ("<ExtensionImages>" ++ Manifest.publish details ++ "</ExtensionImages>") =
      .ok [⟨⟨unpadded details.name.provider, unpadded details.name.type,
        unpadded details.name.version⟩, false, ""⟩] ∧
    PublishedVersion.readAll ("<ExtensionImages>" ++ Manifest.unpublish name ++ "</ExtensionImages>") =
      .ok [⟨⟨unpadded name.provider, unpadded name.type, unpadded name.version⟩, false, ""⟩] := by
  have listed (manifest : List Char) :
      "<ExtensionImages>" ++ String.ofList manifest ++ "</ExtensionImages>" =
        String.ofList (enclosed "ExtensionImages" manifest) := by
    have opened : "<ExtensionImages>" = "<" ++ "ExtensionImages" ++ ">" := rfl
    have closed : "</ExtensionImages>" = "</" ++ "ExtensionImages" ++ ">" := rfl
    rw [Xml.of_list_enclosed, opened, closed]
    simp only [String.append_assoc]
  constructor
  · rw [Manifest.publish, listed]
    exact Manifest.read_document (Manifest.publish_names details) Xml.layout_newline
  · rw [Manifest.unpublish, listed, ← List.append_nil (Manifest.document _)]
    exact Manifest.read_document (Manifest.unpublish_names name) nofun

end ExtensionPublisher
