/-!
# Blank characters and trimming

Three classes of blank characters meet in this library. *Blanks* are the characters
with the Unicode property White_Space; names, identifiers, status words and free text
are trimmed of them. *Plain blanks* are the five ASCII blanks that make a byte sequence
count as empty. *Layout* is the four characters that markup allows between its parts.

Layout is plain, and plain blanks are blank: `plain_of_layout` and `blank_of_plain`.
Trimming removes a class of characters from both ends and touches nothing between them.
-/
namespace ExtensionPublisher.Text

/-- The Unicode property White_Space, which is what most parts of the program take
for a blank. -/
def isBlank (c : Char) : Bool :=
  (0x09 ≤ c.val && c.val ≤ 0x0D) || c.val == 0x20 || c.val == 0x85 || c.val == 0xA0 ||
  c.val == 0x1680 || (0x2000 ≤ c.val && c.val ≤ 0x200A) || c.val == 0x2028 ||
  c.val == 0x2029 || c.val == 0x202F || c.val == 0x205F || c.val == 0x3000

/-- Space, tab, line feed, form feed and carriage return: the blanks of a reader
that takes bytes. -/
def isPlainBlank (c : Char) : Bool :=
  c == ' ' || c == '\t' || c == '\n' || c == '\x0c' || c == '\r'

/-- The blanks of markup: space, tab, line feed and carriage return. What else is
blank is text there. -/
def isLayout (c : Char) : Bool :=
  c == ' ' || c == '\t' || c == '\n' || c == '\r'

/-- Layout is plain. -/
theorem plain_of_layout {c : Char} (layout : isLayout c = true) : isPlainBlank c = true := by
  simp only [isLayout, Bool.or_eq_true, beq_iff_eq] at layout
  rcases layout with ((rfl | rfl) | rfl) | rfl <;> decide

/-- Plain blanks are blank. -/
theorem blank_of_plain {c : Char} (plain : isPlainBlank c = true) : isBlank c = true := by
  simp only [isPlainBlank, Bool.or_eq_true, beq_iff_eq] at plain
  rcases plain with (((rfl | rfl) | rfl) | rfl) | rfl <;> decide

/-- The characters left when those of the class are dropped from the end. The
recursion is on the front, so nothing is reversed. -/
def dropEndWhile (p : Char → Bool) : List Char → List Char
  | [] => []
  | c :: rest =>
    match dropEndWhile p rest with
    | [] => if p c then [] else [c]
    | kept => c :: kept

/-- The characters between the first and the last that are outside the class. If all
are of the class, nothing is left. -/
def trim (p : Char → Bool) (cs : List Char) : List Char :=
  dropEndWhile p (cs.dropWhile p)

/-- There is nothing to drop from an empty text. -/
@[simp] theorem drop_end_while_nil (p : Char → Bool) : dropEndWhile p [] = [] := rfl

/-- Nothing is left exactly when every character is in the class. A character is dropped if it is in the
class and nothing is left behind it. -/
theorem drop_end_while_eq_nil_iff {p : Char → Bool} {cs : List Char} :
    dropEndWhile p cs = [] ↔ ∀ c ∈ cs, p c = true := by
  induction cs with
  | nil => simp
  | cons c rest inductionHypothesis =>
    simp only [dropEndWhile, List.forall_mem_cons]
    split
    · next nothing =>
      rw [← inductionHypothesis]
      by_cases inClass : p c = true <;> simp [inClass, nothing]
    · next something =>
      simp only [reduceCtorEq, false_iff, not_and]
      intro _ rest
      exact something (inductionHypothesis.2 rest)

/-- What is dropped from the end is a run of characters of the class. The induction
is that of the definition. -/
theorem exists_append_drop_end_while (p : Char → Bool) (cs : List Char) :
    ∃ dropped, cs = dropEndWhile p cs ++ dropped ∧ ∀ c ∈ dropped, p c = true := by
  induction cs with
  | nil => exact ⟨[], by simp⟩
  | cons c rest inductionHypothesis =>
    obtain ⟨dropped, same, all⟩ := inductionHypothesis
    simp only [dropEndWhile]
    split
    · next nothing =>
      rw [nothing] at same
      by_cases inClass : p c = true
      · refine ⟨c :: dropped, ?_, ?_⟩
        · simp only [inClass, if_true, List.nil_append, List.cons.injEq, true_and]
          exact same
        · exact List.forall_mem_cons.mpr ⟨inClass, all⟩
      · exact ⟨dropped, by simpa [inClass] using same, all⟩
    · exact ⟨dropped, by rw [List.cons_append, ← same], all⟩

/-- Text that is empty or holds nothing but blanks. -/
def blank (s : String) : Bool := s.toList.all isBlank

/-- Text without its outer blanks, of whatever alphabet. -/
def trimmed (s : String) : String := String.ofList (trim isBlank s.toList)

/-- Trimming does not leave characters of the class alone: if there is nothing else in what it leaves, it
leaves nothing. For then the dropped end might have begun earlier. -/
theorem trim_eq_nil_of_forall {p : Char → Bool} {cs : List Char}
    (inside : ∀ c ∈ trim p cs, p c = true) : trim p cs = [] := by
  obtain ⟨dropped, same, all⟩ := exists_append_drop_end_while p (cs.dropWhile p)
  apply drop_end_while_eq_nil_iff.mpr
  intro c member
  rcases List.mem_append.mp (same ▸ member) with kept | outer
  · exact inside c kept
  · exact all c outer

/-- Trimmed text is blank only when it is empty, since its first character is no
blank. -/
theorem trimmed_eq_empty_of_blank {s : String} (nothing : blank (trimmed s) = true) :
    trimmed s = "" := by
  simp only [blank, trimmed, String.toList_ofList, List.all_eq_true] at nothing
  rw [trimmed, trim_eq_nil_of_forall nothing]

end ExtensionPublisher.Text
