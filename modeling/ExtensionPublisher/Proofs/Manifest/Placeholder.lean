import ExtensionPublisher.Proofs.Answer.Manifest

/-!
# The placeholder in a manifest

A manifest that still has the placeholder for the address of its package must not be submitted. Whether
a text has it is a matter of characters next to each other, wherever they stand: `occurs_iff`. In a
manifest that was written they stand in one of its values, as the placeholder has none of the characters
of markup and none of those that references are made of. So escaping a value neither makes a
placeholder nor breaks one, and none reaches over the end of a value: `placeholder_in_document_iff`.

Therefore no manifest for publishing may be submitted as it was written, `check_publish`, and a manifest
for unpublishing may be unless a part of the name has the placeholder in it, `check_unpublish_iff`.
-/
namespace ExtensionPublisher.Manifest

open Xml (escape escapeCharacter)

/-! ## Words in texts -/

/-- A word occurs in a text if the text has it somewhere. The search goes through
the ends of the text, of which one begins with the word. -/
theorem occurs_iff {word text : List Char} : occurs word text = true ↔ word <:+: text := by
  induction text with
  | nil => simp [occurs]
  | cons c rest inductionHypothesis =>
    rw [occurs, Bool.or_eq_true, List.isPrefixOf_iff_prefix, inductionHypothesis,
      List.infix_cons_iff]

section Words

variable {word : List Char}

/-- A word begins with no character that it does not have, so only the empty word
begins there. -/
theorem prefix_cons_iff {c : Char} (outside : c ∉ word) (rest : List Char) :
    word <+: c :: rest ↔ word = [] := by
  cases word with
  | nil => simp
  | cons d more =>
    have other : d ≠ c := fun same => outside (same ▸ List.mem_cons_self)
    simp [List.cons_prefix_cons, other]

/-- A word does not begin in front of a character that it does not have and end
behind it. -/
theorem prefix_append_cons_iff {c : Char} (outside : c ∉ word) (left right : List Char) :
    word <+: left ++ c :: right ↔ word <+: left := by
  induction left generalizing word with
  | nil => rw [List.nil_append, prefix_cons_iff outside, List.prefix_nil]
  | cons d left inductionHypothesis =>
    cases word with
    | nil => simp
    | cons w word =>
      rw [List.cons_append, List.cons_prefix_cons, List.cons_prefix_cons,
        inductionHypothesis (List.not_mem_of_not_mem_cons outside)]

/-- A word is on one side of a character that it does not have. The induction is on
the text in front of the character, where the word may begin anywhere. -/
theorem infix_append_cons_iff {c : Char} (outside : c ∉ word) (left right : List Char) :
    word <:+: left ++ c :: right ↔ word <:+: left ∨ word <:+: right := by
  induction left with
  | nil =>
    rw [List.nil_append, List.infix_cons_iff, prefix_cons_iff outside, List.infix_nil]
  | cons d left inductionHypothesis =>
    rw [List.cons_append, List.infix_cons_iff, List.infix_cons_iff, inductionHypothesis,
      ← List.cons_append, prefix_append_cons_iff outside, or_assoc]

/-- A word is behind characters that it does not have, one after the other. -/
theorem infix_append_iff_of_outside {apart : List Char} (outside : ∀ c ∈ apart, c ∉ word)
    (rest : List Char) : word <:+: apart ++ rest ↔ word <:+: rest := by
  induction apart with
  | nil => rfl
  | cons c apart inductionHypothesis =>
    rw [List.forall_mem_cons] at outside
    rw [List.cons_append, ← List.nil_append (c :: _), infix_append_cons_iff outside.1,
      inductionHypothesis outside.2, List.infix_nil, or_iff_right_iff_imp]
    rintro rfl
    exact List.nil_infix

end Words

/-! ## Words in escaped values -/

/-- The characters of references, and those that are written as references. -/
def referenceCharacters : List Char := "<>&'\";ltgampquos".toList

/-- A character is written as itself or as a reference. There are few that are
written as references, and each is looked at. -/
theorem escape_character_cases (c : Char) :
    escapeCharacter c = [c] ∨
      c ∈ referenceCharacters ∧ ∃ first more, escapeCharacter c = first :: more ∧
        ∀ d ∈ first :: more, d ∈ referenceCharacters := by
  have listed (text : List Char) (all : text.all referenceCharacters.contains = true) :
      ∀ d ∈ text, d ∈ referenceCharacters := by
    simpa only [List.all_eq_true, List.contains_iff_mem] using all
  unfold escapeCharacter
  repeat' split
  case isFalse.isFalse.isFalse.isFalse.isFalse => exact .inl rfl
  all_goals
    subst c
    exact .inr ⟨by decide, _, _, rfl, listed _ (by decide)⟩

section Escaped

variable {word : List Char} (plain : ∀ c ∈ word, c ∉ referenceCharacters)

include plain

/-- A word without characters of references begins a value as it is written exactly
if it begins the value. Where a reference begins the value, neither of them begins
with the word. -/
theorem prefix_escape_iff (value : List Char) : word <+: escape value ↔ word <+: value := by
  induction value generalizing word with
  | nil => rfl
  | cons c rest inductionHypothesis =>
    cases word with
    | nil => simp
    | cons d word =>
      rw [List.forall_mem_cons] at plain
      have written : escape (c :: rest) = escapeCharacter c ++ escape rest := rfl
      rw [written, List.cons_prefix_cons]
      rcases escape_character_cases c with itself | ⟨special, first, more, reference, all⟩
      · rw [itself, List.singleton_append, List.cons_prefix_cons, inductionHypothesis plain.2]
      · have other : d ≠ c := fun same => plain.1 (same ▸ special)
        have different : d ≠ first := fun same => plain.1 (same ▸ all first List.mem_cons_self)
        rw [reference, List.cons_append, List.cons_prefix_cons]
        simp [other, different]

/-- A word without characters of references occurs in a value as it is written
exactly if it occurs in the value. It cannot lie across a reference, on either side.
-/
theorem infix_escape_iff (value : List Char) : word <:+: escape value ↔ word <:+: value := by
  induction value with
  | nil => rfl
  | cons c rest inductionHypothesis =>
    have written : escape (c :: rest) = escapeCharacter c ++ escape rest := rfl
    rcases escape_character_cases c with itself | ⟨special, first, more, reference, all⟩
    · rw [List.infix_cons_iff, ← prefix_escape_iff plain, ← inductionHypothesis, written, itself,
        List.singleton_append, List.infix_cons_iff]
    · have outside (d : Char) (inside : d ∈ referenceCharacters) : d ∉ word :=
        fun member => plain d member inside
      have skipped : word <:+: [c] ++ rest ↔ word <:+: rest :=
        infix_append_iff_of_outside (by simpa using outside c special) rest
      rw [written, reference, infix_append_iff_of_outside fun d member => outside d (all d member),
        inductionHypothesis, ← skipped, List.singleton_append]

end Escaped

/-! ## The placeholder -/

/-- What stands where the address of the package belongs, character by character. -/
def placeholder : List Char := packagePlaceholder.toList

/-- The placeholder has no character of references, so escaping neither makes nor
hides it. -/
theorem placeholder_plain : ∀ c ∈ placeholder, c ∉ referenceCharacters := by
  have apart : placeholder.all (fun c => !referenceCharacters.contains c) = true := by decide
  simpa using apart

/-- The characters of markup that may stand between the texts of entries. None of
them is in the placeholder. -/
def markCharacters : List Char := ['<', '/', '>', '!', '-', ' ', '\n']

/-- The placeholder has no character of markup. -/
theorem placeholder_unmarked : ∀ c ∈ markCharacters, c ∉ placeholder := by
  have apart : markCharacters.all (fun c => !placeholder.contains c) = true := by decide
  simpa using apart

/-- The placeholder is on one side of a mark, and never across it. -/
theorem placeholder_beside_iff {c : Char} (mark : c ∈ markCharacters) (left right : List Char) :
    placeholder <:+: left ++ c :: right ↔ placeholder <:+: left ∨ placeholder <:+: right :=
  infix_append_cons_iff (placeholder_unmarked c mark) left right

/-- The placeholder is behind marks. -/
theorem placeholder_behind_iff {marks : List Char} (all : marks.all markCharacters.contains = true)
    (rest : List Char) : placeholder <:+: marks ++ rest ↔ placeholder <:+: rest := by
  simp only [List.all_eq_true, List.contains_iff_mem] at all
  exact infix_append_iff_of_outside (fun c member => placeholder_unmarked c (all c member)) rest

/-- The placeholder is in a text of an entry. A name counts as well, though no name
of a manifest has it. -/
def Entry.Mentions : Entry → Prop
  | .field name value => placeholder <:+: name.toList ∨ placeholder <:+: value.toList
  | .comment content => placeholder <:+: content.toList

/-- The placeholder is in an entry on its line exactly if it is in a text of the
entry, or else it is behind the line. The markup of the entry divides the line into
its texts. -/
theorem placeholder_in_entry_iff (entry : Entry) (rest : List Char) :
    placeholder <:+: entry.text ++ '\n' :: rest ↔ entry.Mentions ∨ placeholder <:+: rest := by
  cases entry with
  | field name value =>
    have line : (Entry.field name value).text ++ '\n' :: rest =
        [' ', ' ', '<'] ++ (name.toList ++ '>' :: (escape value.toList ++ '<' ::
          (['/'] ++ (name.toList ++ '>' :: (['\n'] ++ rest))))) := by
      have written : (Entry.field name value).text = [' ', ' ', '<'] ++ name.toList ++
          '>' :: escape value.toList ++ ['<', '/'] ++ name.toList ++ ['>'] := rfl
      rw [written]
      simp only [List.append_assoc, List.cons_append, List.nil_append]
    rw [line, placeholder_behind_iff (by decide), placeholder_beside_iff (by decide),
      placeholder_beside_iff (by decide), placeholder_behind_iff (by decide),
      placeholder_beside_iff (by decide), placeholder_behind_iff (by decide),
      infix_escape_iff placeholder_plain, Entry.Mentions]
    grind
  | comment content =>
    have line : (Entry.comment content).text ++ '\n' :: rest =
        [' ', ' ', '<', '!', '-', '-'] ++ (content.toList ++ '-' :: (['-', '>', '\n'] ++ rest)) := by
      have written : (Entry.comment content).text =
          [' ', ' ', '<', '!', '-', '-'] ++ content.toList ++ ['-', '-', '>'] := rfl
      rw [written]
      simp only [List.append_assoc, List.cons_append, List.nil_append]
    rw [line, placeholder_behind_iff (by decide), placeholder_beside_iff (by decide),
      placeholder_behind_iff (by decide), Entry.Mentions]

/-- The placeholder is in entries on lines of their own exactly if it is in a text
of one of them, by induction on the lines. -/
theorem placeholder_in_entries_iff (entries : List Entry) (rest : List Char) :
    placeholder <:+: entries.flatMap (fun entry => entry.text ++ ['\n']) ++ rest ↔
      (∃ entry ∈ entries, entry.Mentions) ∨ placeholder <:+: rest := by
  induction entries with
  | nil => simp
  | cons entry others inductionHypothesis =>
    rw [List.flatMap_cons, List.append_assoc, List.append_assoc, List.singleton_append,
      placeholder_in_entry_iff, inductionHypothesis, List.exists_mem_cons_iff, or_assoc]

/-- The heading is a line of its own, and has no percent sign, with which the
placeholder begins. -/
theorem heading_line : ∃ line, heading.toList = line ++ ['\n'] ∧ '%' ∉ line := by
  have plain : '%' ∉ heading.toList := by decide +kernel
  have ends : heading.toList.getLast? = some '\n' := by decide +kernel
  obtain ⟨line, same⟩ := List.getLast?_eq_some_iff.mp ends
  rw [same, List.mem_append, not_or] at plain
  exact ⟨line, same, plain.1⟩

/-- The placeholder is in a manifest exactly if it is in a text of one of its
entries. The heading cannot hold it, and what is behind the entries does not. -/
theorem placeholder_in_document_iff (entries : List Entry) {tail : List Char}
    (outside : ¬ placeholder <:+: tail) :
    placeholder <:+: document entries ++ tail ↔ ∃ entry ∈ entries, entry.Mentions := by
  obtain ⟨line, begins, plain⟩ := heading_line
  have unheaded : ¬ placeholder <:+: line := fun inside => plain (inside.subset (by decide))
  have unclosed : ¬ placeholder <:+: "</ExtensionImage".toList :=
    fun inside => absurd (inside.subset (show '%' ∈ placeholder by decide)) (by decide)
  have ends : "</ExtensionImage>".toList = "</ExtensionImage".toList ++ ['>'] := by decide
  rw [document, begins, ends]
  simp only [List.append_assoc, List.cons_append, List.nil_append]
  rw [placeholder_beside_iff (by decide), placeholder_in_entries_iff,
    placeholder_beside_iff (by decide)]
  simp only [unheaded, unclosed, outside, or_false, false_or]

/-- A manifest that was written is not empty, as it begins with a bracket. -/
theorem not_blank_document (entries : List Entry) (tail : List Char) :
    Text.blank (String.ofList (document entries ++ tail)) = false := by
  have bracket : '<' ∈ document entries ++ tail := by
    rw [document_eq, declaration]
    simp
  rw [Text.blank, String.toList_ofList, List.all_eq_false]
  exact ⟨'<', bracket, by decide⟩

/-! ## What may be submitted -/

/-- A manifest may be submitted if it says something and has no placeholder. These
are the only two things that are checked. -/
theorem check_eq_ok_iff (manifest : String) :
    check manifest = .ok () ↔ Text.blank manifest = false ∧ ¬ placeholder <:+: manifest.toList := by
  rw [placeholder, ← occurs_iff, check]
  cases Text.blank manifest <;> cases occurs packagePlaceholder.toList manifest.toList <;> simp

/-- A manifest that says something must not be submitted with the placeholder in it. -/
theorem check_of_placeholder {manifest : String} (spoken : Text.blank manifest = false)
    (unfilled : placeholder <:+: manifest.toList) : check manifest = .error .unfilled := by
  have inside : occurs packagePlaceholder.toList manifest.toList = true := occurs_iff.mpr unfilled
  rw [check, spoken, inside]
  rfl

/-- A manifest for publishing must not be submitted as it is written. The address of
the package is always left open in it. -/
theorem check_publish (details : Details) : check (publish details) = .error .unfilled := by
  refine check_of_placeholder (not_blank_document _ _) ?_
  rw [publish, String.toList_ofList, placeholder_in_document_iff _ (by decide)]
  refine ⟨.field "MediaLink" packagePlaceholder, by simp [publishEntries], .inr ?_⟩
  exact List.infix_rfl

/-- A manifest for unpublishing may be submitted as it is written, unless a part of the name has the
placeholder in it. -/
theorem check_unpublish_iff (name : VersionName) :
    check (unpublish name) = .ok () ↔
      ∀ part ∈ [name.provider, name.type, name.version], ¬ placeholder <:+: part.toList := by
  have spoken : Text.blank (unpublish name) = false := by
    have said := not_blank_document (unpublishEntries name) []
    rwa [List.append_nil] at said
  have mentions : placeholder <:+: (unpublish name).toList ↔
      ∃ entry ∈ unpublishEntries name, entry.Mentions := by
    rw [unpublish, String.toList_ofList, ← List.append_nil (document _),
      placeholder_in_document_iff _ (by decide)]
  have constants : ∀ text ∈ [" WARNING: Ordering of fields matter in this file. ", "ProviderNameSpace",
      "Type", "Version", "IsInternalExtension", "IsJsonExtension", "true"],
      ¬ placeholder <:+: text.toList := by
    decide +kernel
  rw [check_eq_ok_iff, mentions]
  simp only [List.forall_mem_cons] at constants ⊢
  simp only [spoken, true_and, unpublishEntries, opening, Entry.Mentions, List.cons_append,
    List.nil_append, List.exists_mem_cons_iff, constants, false_or, or_false, not_or,
    List.not_mem_nil, false_and, exists_false, and_true, false_implies, implies_true]

end ExtensionPublisher.Manifest
