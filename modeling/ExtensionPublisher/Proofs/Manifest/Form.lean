import ExtensionPublisher.Proofs.Answer.Manifest

/-!
# The form of a manifest

A manifest is a form that is filled in. What is read in it is taken apart into the form, which is all of
its markup and the layout around that, and the texts that stand in the elements of the form, each under
the name of its element: `separate`.

The form is fixed. It has the same declaration, comments, tags and layout whatever the manifest says, and
each text stands for the value that was filled in there, character for character. So no value closes its
element or begins another one, and two manifests with the same characters say the same:
`values_leave_form`.
-/
namespace ExtensionPublisher.Manifest

open Text (isLayout)
open Xml (Marks Renders Token bareTag escape isBareName lexemes resolve)
open Xml.Scan (textTokens)

/-! ## Taking apart -/

/-- Tokens apart from the texts of elements that hold nothing else, and these texts under the names of
their elements. An element that holds nothing has an empty text. -/
def separate : List Token → List Token × List (List Char × List Char)
  | .opening tag :: .text said :: .closing name :: rest =>
    let (form, texts) := separate rest
    (.opening tag :: .closing name :: form, (tag.name, said) :: texts)
  | .opening tag :: .closing name :: rest =>
    let (form, texts) := separate rest
    (.opening tag :: .closing name :: form, (tag.name, []) :: texts)
  | token :: rest =>
    let (form, texts) := separate rest
    (token :: form, texts)
  | [] => ([], [])

/-- Text in front of other tokens belongs to the form, unless an element begins
right in front of it. -/
theorem separate_text (said : List Char) (rest : List Token) :
    separate (.text said :: rest) = (.text said :: (separate rest).1, (separate rest).2) := by
  rw [separate]
  · simp
  · simp

/-- An element that holds a text leaves its tags in the form. An empty text is no
token, but is a text of the element all the same. -/
theorem separate_element (tag : Xml.Tag) (said name : List Char) (rest : List Token) :
    separate (.opening tag :: textTokens said ++ .closing name :: rest) =
      (.opening tag :: .closing name :: (separate rest).1, (tag.name, said) :: (separate rest).2) := by
  cases said <;> simp [textTokens, separate]

/-- A text is a form that is filled in: it is read to its end without a fault, in the form, and its
texts stand for the values in their order. -/
structure HasForm (form : List Token) (values : List (String × String)) (text : String) : Prop where
  faultless : (lexemes text.toList).2 = none
  form : (separate ((lexemes text.toList).1.map (·.token))).1 = form
  values : (separate ((lexemes text.toList).1.map (·.token))).2.map
      (fun (name, said) => (String.ofList name, resolve said)) =
    values.map fun (name, value) => (name, .ok value.toList)

/-- A form that is filled in tells its values. Each is what its text stands for, and
a text stands for one thing only. -/
theorem HasForm.values_unique {form : List Token} {values others : List (String × String)}
    {text : String} (filled : HasForm form values text) (again : HasForm form others text) :
    values = others := by
  have same := filled.values.symm.trans again.values
  refine List.map_injective_iff.mpr ?_ same
  rintro ⟨name, value⟩ ⟨other, more⟩ equal
  simp only [Prod.mk.injEq, Except.ok.injEq, String.toList_inj] at equal
  rw [equal.1, equal.2]

/-! ## The tokens of a manifest -/

/-- The break in front of an entry, and the blanks. -/
def indent : List Char := "\n  ".toList

namespace Entry

/-- The tokens of an entry with what is in front of it on its line. -/
def tokens : Entry → List Token
  | .field name value =>
    .text indent :: .opening (bareTag name) :: textTokens (escape value.toList) ++
      [.closing name.toList]
  | .comment content => [.text indent, .comment content.toList]

/-- The part of the form that an entry is. -/
def form : Entry → List Token
  | .field name _ => [.text indent, .opening (bareTag name), .closing name.toList]
  | .comment content => [.text indent, .comment content.toList]

end Entry

/-- Entries are read as their tokens, up to the line of the piece of markup behind
them. The break at the end of a line is one text with the blanks in front of the
next entry, so the lines are taken by their beginnings. -/
theorem renders_entries {entries : List Entry} (clean : ∀ entry ∈ entries, entry.isClean = true)
    {piece rest : List Char} {token : Token} {more : List Token} (marks : Marks piece token)
    (behind : Renders more rest) :
    Renders (entries.flatMap Entry.tokens ++ .text ['\n'] :: token :: more)
      ('\n' :: entries.flatMap (fun entry => entry.text ++ ['\n']) ++ piece ++ rest) := by
  induction entries with
  | nil =>
    have line : '<' ∉ ['\n'] := by decide
    exact .next line marks behind
  | cons entry others inductionHypothesis =>
    rw [List.forall_mem_cons] at clean
    have later := inductionHypothesis clean.2
    have plain : '<' ∉ indent := by decide
    cases entry with
    | field name value =>
      have bare : isBareName name = true := clean.1
      have tag := Xml.of_content_of_bare bare
      simp only [isBareName, Bool.and_eq_true] at bare
      obtain ⟨⟨writes, unslashed⟩, _⟩ := bare
      have opened := Xml.marks_opening writes (by simpa using unslashed)
      have closed := Xml.marks_closing writes
      rw [tag] at opened closed
      have whole := Renders.next plain opened
        (.next (Xml.not_bracket_of_escape value.toList) closed later)
      simpa [Entry.tokens, Entry.text_eq, Entry.markup, Xml.writtenChild, Xml.enclosed, indent,
        textTokens, bareTag] using whole
    | comment content =>
      have unclosed : '>' ∉ content.toList := by simpa [Entry.isClean] using clean.1
      have comment := Marks.comment (Xml.not_infix_of_not_mem (by decide) unclosed)
      have whole := Renders.next plain comment later
      simpa [Entry.tokens, Entry.text_eq, Entry.markup, indent, textTokens] using whole

/-- The tokens in front of the entries, the layout between them apart. -/
def headTokens : List Token := [.declaration declared.toList, .text ['\n'], .opening rootTag]

/-- The tokens of a manifest with entries, and a text behind its last bracket. -/
def manifestTokens (entries : List Entry) (tail : List Char) : List Token :=
  headTokens ++ entries.flatMap Entry.tokens ++ .text ['\n'] :: .closing rootTag.name :: textTokens tail

/-- A manifest is read as its tokens: the declaration, the start tag of the root,
the entries and the end tag. -/
theorem renders_document {entries : List Entry} (clean : ∀ entry ∈ entries, entry.isClean = true)
    {tail : List Char} (plain : '<' ∉ tail) :
    Renders (manifestTokens entries tail) (document entries ++ tail) := by
  have writes : Xml.isTagContent rootContent = true := by decide +kernel
  have unslashed : rootContent.getLast? ≠ some '/' := by decide +kernel
  have held := renders_entries clean (Xml.marks_closing writes) (.text plain)
  have line : '<' ∉ ['\n'] := by decide
  have rooted := Renders.next line (Xml.marks_opening writes unslashed) held
  have unclosed : '>' ∉ declared.toList := by decide +kernel
  have declares : Marks declaration (.declaration declared.toList) :=
    .instruction (Xml.not_infix_of_not_mem (by decide) unclosed) (by decide)
  have whole := Renders.next List.not_mem_nil declares rooted
  simpa [manifestTokens, headTokens, document_eq, root, rootTag, textTokens] using whole

/-- The children of entries with the texts that are written in them. -/
def writtenTexts (entries : List Entry) : List (List Char × List Char) :=
  (entries.filterMap Entry.child?).map fun (name, value) => (name.toList, escape value.toList)

/-- The tokens of entries are the forms of entries, filled in with the texts that
are written. Comments are part of the form. -/
theorem separate_entries (entries : List Entry) (rest : List Token) :
    separate (entries.flatMap Entry.tokens ++ rest) =
      (entries.flatMap Entry.form ++ (separate rest).1, writtenTexts entries ++ (separate rest).2) := by
  induction entries with
  | nil => rfl
  | cons entry others inductionHypothesis =>
    cases entry with
    | field name value =>
      have written : writtenTexts (.field name value :: others) =
          (name.toList, escape value.toList) :: writtenTexts others := rfl
      have named : (bareTag name).name = name.toList := rfl
      have element := separate_element (bareTag name) (escape value.toList) name.toList
        (others.flatMap Entry.tokens ++ rest)
      rw [inductionHypothesis, named, List.cons_append] at element
      simp [Entry.tokens, Entry.form, separate_text, written, element]
    | comment content =>
      have written : writtenTexts (.comment content :: others) = writtenTexts others := rfl
      simp [Entry.tokens, Entry.form, separate, written, inductionHypothesis]

/-- Behind the start tag of the root there is an entry, so the root is none of the elements that hold
only a text. -/
theorem separate_root {entries : List Entry} (begun : entries ≠ []) (rest : List Token) :
    separate (.opening rootTag :: (entries.flatMap Entry.tokens ++ rest)) =
      (.opening rootTag :: (separate (entries.flatMap Entry.tokens ++ rest)).1,
        (separate (entries.flatMap Entry.tokens ++ rest)).2) := by
  obtain ⟨entry, others, rfl⟩ := List.exists_cons_of_ne_nil begun
  rw [separate]
  · cases entry <;> simp [Entry.tokens]
  · cases entry <;> simp [Entry.tokens]

/-- Entries in the root of a manifest are a form that is filled in. The scanner
reads their tokens, and each text resolves to its value because it was escaped. -/
theorem has_form_of_entries {entries : List Entry} (clean : ∀ entry ∈ entries, entry.isClean = true)
    (begun : entries ≠ []) {tail : List Char} (plain : '<' ∉ tail) :
    HasForm (headTokens ++ entries.flatMap Entry.form ++
        .text ['\n'] :: .closing rootTag.name :: textTokens tail)
      (entries.filterMap Entry.child?) (String.ofList (document entries ++ tail)) := by
  have unmarked : Xml.withoutMark (document entries ++ tail) = document entries ++ tail := by
    rw [document_eq]
    rfl
  have renders : Renders (manifestTokens entries tail) (Xml.withoutMark (document entries ++ tail)) :=
    unmarked.symm ▸ renders_document clean plain
  obtain ⟨faultless, shown⟩ := Xml.lexemes_iff.mpr renders
  have behind : separate (textTokens tail) = (textTokens tail, []) := by
    cases tail <;> simp [textTokens, separate]
  have parts : separate (manifestTokens entries tail) =
      (headTokens ++ entries.flatMap Entry.form ++
        .text ['\n'] :: .closing rootTag.name :: textTokens tail, writtenTexts entries) := by
    simp [manifestTokens, headTokens, separate, separate_root begun, separate_entries, behind]
  constructor
  case faultless => simpa only [String.toList_ofList] using faultless
  case form => rw [String.toList_ofList, shown, parts]
  case values =>
    rw [String.toList_ofList, shown, parts, writtenTexts, List.map_map]
    apply List.map_congr_left
    rintro ⟨name, value⟩ _
    simp [Xml.resolve_escape]

/-! ## The forms for publishing and for unpublishing -/

/-- A form with elements of some names, one on a line, and something on the lines behind them. -/
def formWith (names : List String) (more : List Token) : List Token :=
  [.declaration declared.toList, .text ['\n'], .opening rootTag, .text indent,
    .comment " WARNING: Ordering of fields matter in this file. ".toList] ++
  names.flatMap (fun name => [.text indent, .opening (bareTag name), .closing name.toList]) ++ more ++
  [.text ['\n'], .closing "ExtensionImage".toList]

/-- The form for publishing. -/
def publishForm : List Token :=
  formWith ["ProviderNameSpace", "Type", "Version", "Label", "HostingResources", "MediaLink",
    "Description", "IsInternalExtension", "Eula", "PrivacyUri", "HomepageUri", "IsJsonExtension",
    "CompanyName", "SupportedOS"] [.text indent, .comment "%REGIONS%".toList] ++ [.text ['\n']]

/-- The form for unpublishing. -/
def unpublishForm : List Token :=
  formWith ["ProviderNameSpace", "Type", "Version", "IsInternalExtension", "IsJsonExtension"] []

/-- What is filled in for publishing. The address of the package is left to be filled in by hand. -/
def publishValues (details : Details) : List (String × String) := [
  ("ProviderNameSpace", details.name.provider), ("Type", details.name.type),
  ("Version", details.name.version), ("Label", details.label), ("HostingResources", "VmRole"),
  ("MediaLink", "%BLOB_URL%"), ("Description", details.description), ("IsInternalExtension", "true"),
  ("Eula", details.eulaUrl), ("PrivacyUri", details.privacyUrl), ("HomepageUri", details.homepageUrl),
  ("IsJsonExtension", "true"), ("CompanyName", details.company), ("SupportedOS", details.supportedOs)]

/-- What is filled in for unpublishing. -/
def unpublishValues (name : VersionName) : List (String × String) := [
  ("ProviderNameSpace", name.provider), ("Type", name.type), ("Version", name.version),
  ("IsInternalExtension", "true"), ("IsJsonExtension", "true")]

/-- A manifest for publishing is its form, filled in. Its names are fixed, so that
they are clean is evaluated. -/
theorem publish_has_form (details : Details) :
    HasForm publishForm (publishValues details) (publish details) := by
  have line : '<' ∉ ['\n'] := by decide
  have begun : publishEntries details ≠ [] := by simp [publishEntries, opening]
  have filled := has_form_of_entries (publish_names details).clean begun line
  have form : headTokens ++ (publishEntries details).flatMap Entry.form ++
      .text ['\n'] :: .closing rootTag.name :: textTokens ['\n'] = publishForm := by
    simp only [root_tag_eq, publishForm, formWith, headTokens, publishEntries, opening, Entry.form,
      textTokens, List.flatMap_cons, List.flatMap_nil, List.cons_append, List.nil_append]
  exact form ▸ filled

/-- A manifest for unpublishing is its form, filled in, with a shorter list of
names. -/
theorem unpublish_has_form (name : VersionName) :
    HasForm unpublishForm (unpublishValues name) (unpublish name) := by
  have begun : unpublishEntries name ≠ [] := by simp [unpublishEntries, opening]
  have filled := has_form_of_entries (unpublish_names name).clean begun List.not_mem_nil
  have form : headTokens ++ (unpublishEntries name).flatMap Entry.form ++
      .text ['\n'] :: .closing rootTag.name :: textTokens [] = unpublishForm := by
    simp only [root_tag_eq, unpublishForm, formWith, headTokens, unpublishEntries, opening, Entry.form,
      textTokens, List.flatMap_cons, List.flatMap_nil, List.cons_append, List.nil_append]
  rw [form, List.append_nil] at filled
  exact filled

/-- Values leave the form of a manifest as it is. Whatever a manifest says, it is read as one fixed
sequence of its declaration, its comments and its tags, with layout between them, and each of its values
is what the text in its element stands for. So manifests that say different things are different. -/
theorem values_leave_form (details : Details) (name : VersionName) :
    HasForm publishForm (publishValues details) (publish details) ∧
    HasForm unpublishForm (unpublishValues name) (unpublish name) ∧
    Function.Injective publish ∧ Function.Injective unpublish := by
  refine ⟨publish_has_form details, unpublish_has_form name, ?_, ?_⟩
  · intro one other same
    have again : HasForm publishForm (publishValues other) (publish one) := by
      rw [same]
      exact publish_has_form other
    have values := (publish_has_form one).values_unique again
    obtain ⟨⟨_, _, _⟩, _, _, _, _, _, _, _⟩ := one
    simp_all [publishValues]
  · intro one other same
    have again : HasForm unpublishForm (unpublishValues other) (unpublish one) := by
      rw [same]
      exact unpublish_has_form other
    have values := (unpublish_has_form one).values_unique again
    obtain ⟨_, _, _⟩ := one
    simp_all [unpublishValues]

end ExtensionPublisher.Manifest
