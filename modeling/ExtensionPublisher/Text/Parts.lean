/-!
# Parts between separators

A text is divided at every separator character, so there is always one more part than there
are separators, and parts may be empty. A separator between two texts keeps their parts apart,
`parts_append`. Whatever is known of parts follows from this equation and from the parts of a
text without separators.
-/
namespace ExtensionPublisher.Text

/-- The parts of a text between the occurrences of a separator. There is one part
more than there are separators, and parts may be empty. -/
def parts (separator : Char) : List Char → List (List Char)
  | [] => [[]]
  | c :: rest =>
    if c = separator then [] :: parts separator rest
    else
      match parts separator rest with
      | [] => [[c]]
      | first :: others => (c :: first) :: others

/-- Parts with a separator between each two. Dividing undoes this if no part has the
separator. -/
def join (separator : Char) : List (List Char) → List Char
  | [] => []
  | [part] => part
  | part :: others => part ++ separator :: join separator others

/-- There is always a first part. -/
theorem parts_ne_nil (separator : Char) (cs : List Char) : parts separator cs ≠ [] := by
  cases cs with
  | nil => simp [parts]
  | cons c rest =>
    simp only [parts]
    split
    · simp
    · split <;> simp

/-- A separator between two texts keeps their parts apart. Only the last part of the text in front
can meet it, and there is always such a part. -/
theorem parts_append (separator : Char) (front behind : List Char) :
    parts separator (front ++ separator :: behind) =
      parts separator front ++ parts separator behind := by
  induction front with
  | nil => simp [parts]
  | cons c rest inductionHypothesis =>
    simp only [List.cons_append, parts]
    split
    · rw [inductionHypothesis, List.cons_append]
    · rw [inductionHypothesis]
      cases known : parts separator rest with
      | nil => exact absurd known (parts_ne_nil separator rest)
      | cons first others => rfl

/-- A text without separators is its own only part. The induction is that of the
definition. -/
theorem parts_of_free {separator : Char} {cs : List Char} (free : separator ∉ cs) :
    parts separator cs = [cs] := by
  induction cs with
  | nil => rfl
  | cons c rest inductionHypothesis =>
    simp only [List.mem_cons, not_or] at free
    simp [parts, Ne.symm free.1, inductionHypothesis free.2]

/-- Characters in front of the first separator are the first part, and what is
behind it is divided by itself. -/
theorem parts_append_separator {separator : Char} {part : List Char} (free : separator ∉ part)
    (rest : List Char) :
    parts separator (part ++ separator :: rest) = part :: parts separator rest := by
  rw [parts_append, parts_of_free free, List.singleton_append]

/-- No part contains the separator. A text that is divided elsewhere has the parts of its rest, of which
the first one is longer by a character that is no separator. -/
theorem not_mem_of_mem_parts {separator : Char} {cs part : List Char}
    (member : part ∈ parts separator cs) : separator ∉ part := by
  induction cs generalizing part with
  | nil => simp [parts] at member; simp [member]
  | cons c rest inductionHypothesis =>
    simp only [parts] at member
    split at member
    · rcases List.mem_cons.mp member with rfl | later
      · simp
      · exact inductionHypothesis later
    · next other =>
      split at member
      · next none_ => exact absurd none_ (parts_ne_nil separator rest)
      · next first others same =>
        rcases List.mem_cons.mp member with rfl | later
        · simp only [List.mem_cons, not_or]
          exact ⟨Ne.symm other, inductionHypothesis (by rw [same]; exact List.mem_cons_self)⟩
        · exact inductionHypothesis (by rw [same]; exact List.mem_cons_of_mem _ later)

/-- The lines of a text. -/
def lines (s : String) : List String := (parts '\n' s.toList).map String.ofList

end ExtensionPublisher.Text
