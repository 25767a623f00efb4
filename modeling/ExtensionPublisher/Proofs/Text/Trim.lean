import ExtensionPublisher.Text.Blank
import Mathlib.Data.List.DropRight

/-!
# What trimming leaves

Trimming takes a run of the class from either end, `exists_append_trim`, and what lies between two
such runs is all that it depends on, `trim_append`. So a text is trimmed already exactly if nothing of
the class stands at its ends, `trim_eq_self_iff`, and trimming a wider class afterwards is trimming
that class at once.
-/
namespace ExtensionPublisher.Text

variable {p q : Char → Bool} {cs : List Char}

/-- Whether no character of a class stands at either end. The empty text is tight.
-/
def isTight (p : Char → Bool) (cs : List Char) : Bool :=
  !cs.head?.any p && !cs.getLast?.any p

/-- Dropping from the end is dropping from the front of the reversed text, so the
facts about that can be used. -/
theorem drop_end_while_eq (p : Char → Bool) (cs : List Char) :
    dropEndWhile p cs = cs.rdropWhile p := by
  induction cs with
  | nil => rfl
  | cons c rest inductionHypothesis =>
    simp only [dropEndWhile, inductionHypothesis, List.rdropWhile, List.reverse_cons,
      List.dropWhile_append]
    cases rest.reverse.dropWhile p with
    | nil => by_cases dropped : p c = true <;> simp [dropped]
    | cons last kept =>
      cases known : (last :: kept).reverse with
      | nil => simp at known
      | cons first others => simp [← known]

/-- A run of the class at the end makes no difference, whatever is in front of it.
-/
theorem drop_end_while_append {after : List Char} (back : ∀ c ∈ after, p c = true) (cs : List Char) :
    dropEndWhile p (cs ++ after) = dropEndWhile p cs := by
  rw [drop_end_while_eq, drop_end_while_eq, List.rdropWhile, List.reverse_append,
    List.dropWhile_append_of_pos fun c member => back c (List.mem_reverse.mp member), List.rdropWhile]

/-- Nothing is dropped from the end of a text that does not end in the class. -/
theorem drop_end_while_eq_self (firm : ∀ c ∈ cs.getLast?, p c = false) : dropEndWhile p cs = cs := by
  rw [drop_end_while_eq, List.rdropWhile_eq_self_iff]
  intro some_
  rw [firm _ (List.getLast_mem_getLast? some_)]
  exact Bool.false_ne_true

/-- Runs of the class at the ends make no difference. If the text is all of the
class, the run in front takes it along. -/
theorem trim_append {before after : List Char} (front : ∀ c ∈ before, p c = true)
    (back : ∀ c ∈ after, p c = true) (cs : List Char) :
    trim p (before ++ cs ++ after) = trim p cs := by
  unfold trim
  rw [List.append_assoc, List.dropWhile_append_of_pos front, List.dropWhile_append]
  split
  · next nothing =>
    rw [List.dropWhile_eq_nil_iff.mpr back, List.isEmpty_iff.mp nothing]
  · exact drop_end_while_append back _

/-- A text is what trimming leaves, between two runs of the class. This is how a
trimmed text is taken apart in other proofs. -/
theorem exists_append_trim (p : Char → Bool) (cs : List Char) :
    ∃ before after, cs = before ++ trim p cs ++ after ∧
      (∀ c ∈ before, p c = true) ∧ ∀ c ∈ after, p c = true := by
  obtain ⟨after, same, back⟩ := exists_append_drop_end_while p (cs.dropWhile p)
  refine ⟨cs.takeWhile p, after, ?_, fun c member => List.mem_takeWhile_imp member, back⟩
  rw [trim, List.append_assoc, ← same, List.takeWhile_append_dropWhile]

/-- Trimming a wider class after a narrower one is trimming the wider class. What
the narrower one drops would be dropped anyway. -/
theorem trim_trim (wider : ∀ c, p c = true → q c = true) (cs : List Char) :
    trim q (trim p cs) = trim q cs := by
  obtain ⟨before, after, same, front, back⟩ := exists_append_trim p cs
  calc trim q (trim p cs)
      = trim q (before ++ trim p cs ++ after) :=
        (trim_append (fun c member => wider c (front c member))
          (fun c member => wider c (back c member)) _).symm
    _ = trim q cs := by rw [← same]

/-- A text is trimmed exactly if nothing of the class stands at its ends. Dropping
from one end leaves the text alone if its first character stays. -/
theorem trim_eq_self_iff : trim p cs = cs ↔ isTight p cs = true := by
  have halves : trim p cs = cs ↔ cs.dropWhile p = cs ∧ cs.rdropWhile p = cs := by
    unfold trim
    rw [drop_end_while_eq]
    constructor
    · intro same
      have all : cs.dropWhile p = cs := by
        refine (List.dropWhile_suffix p).eq_of_length_le ?_
        calc cs.length = ((cs.dropWhile p).rdropWhile p).length := by rw [same]
          _ ≤ (cs.dropWhile p).length := (List.rdropWhile_prefix p _).length_le
      exact ⟨all, by rwa [all] at same⟩
    · rintro ⟨front, back⟩
      rw [front, back]
  rw [halves, isTight, Bool.and_eq_true]
  apply and_congr
  · rw [List.dropWhile_eq_self_iff]
    cases cs <;> simp
  · rw [List.rdropWhile_eq_self_iff]
    rcases List.eq_nil_or_concat cs with rfl | ⟨init, last, rfl⟩ <;> simp

/-- What trimming leaves of a text is tight, since trimming it again changes
nothing. -/
theorem tight_trim (p : Char → Bool) (cs : List Char) : isTight p (trim p cs) = true :=
  trim_eq_self_iff.mp (trim_trim (fun _ same => same) cs)

/-- What trimming leaves was there before. -/
theorem mem_of_mem_trim {p : Char → Bool} {cs : List Char} {c : Char} (member : c ∈ trim p cs) :
    c ∈ cs := by
  obtain ⟨before, after, same, _⟩ := exists_append_trim p cs
  rw [same]
  exact List.mem_append_left _ (List.mem_append_right _ member)

/-- A text without the layout around it. -/
def unpadded (s : String) : String := String.ofList (trim isLayout s.toList)

/-- A text that no layout surrounds is itself without it. -/
theorem unpadded_of_tight {s : String} (tight : isTight isLayout s.toList = true) : unpadded s = s := by
  rw [unpadded, trim_eq_self_iff.mpr tight, String.ofList_toList]

/-- Trimming blanks trims layout as well, because layout is blank. -/
theorem trimmed_unpadded (s : String) : trimmed (unpadded s) = trimmed s := by
  rw [trimmed, trimmed, unpadded, String.toList_ofList, trim_trim]
  exact fun c layout => blank_of_plain (plain_of_layout layout)

end ExtensionPublisher.Text
