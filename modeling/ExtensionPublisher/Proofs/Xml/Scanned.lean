import ExtensionPublisher.Proofs.Xml.Markup

/-!
# What the scanner has read

The scanner reads nothing but rows of tokens that are rendered, so it reads exactly these,
`lexemes_iff`. Each of its states says what has been read of a piece of markup, `Begun`. One character
more continues the piece, finishes it or is a fault, `Scan.advances_of_begun`, and so what has been read
at any place is a row of tokens with a text or such a piece behind it, `Scan.HasRead`.
-/
namespace ExtensionPublisher.Xml

open Text (isLayout)

/-! ## Parts of pieces -/

/-- The text inside a tag so far, perhaps behind an open quotation mark. -/
inductive OpenText : Option Char → List Char → Prop where
  | plain {cs : List Char} (text : IsTagText cs) : OpenText none cs
  | quoted {mark : Char} {cs inner : List Char} (text : IsTagText cs) (known : mark ∈ ['"', '\''])
      (unclosed : mark ∉ inner) : OpenText (some mark) (cs ++ mark :: inner)

/-- The text inside a tag goes on with any character that does not end the tag. A
quotation mark opens or closes a quotation, and any other character stays where it
is. -/
theorem OpenText.next {quote : Option Char} {cs : List Char} (text : OpenText quote cs) {c : Char}
    (inside : ¬(c = '>' ∧ quote = none)) : OpenText (Scan.quoteAfter quote c) (cs ++ [c]) := by
  cases text with
  | plain text =>
    by_cases known : c = '"' ∨ c = '\''
    · have opened : Scan.quoteAfter none c = some c := by simp [Scan.quoteAfter, known]
      rw [opened]
      exact .quoted text (by simpa using known) List.not_mem_nil
    · have still : Scan.quoteAfter none c = none := by simp [Scan.quoteAfter, known]
      rw [still]
      refine .plain (text.append (.plain ?_ .nil))
      simp only [not_or] at known
      simp only [and_true] at inside
      simp [known, inside]
  | @quoted mark cs inner text known unclosed =>
    by_cases same : c = mark
    · subst same
      have closed : Scan.quoteAfter (some c) c = none := by simp [Scan.quoteAfter]
      rw [closed, List.append_assoc]
      exact .plain (text.append (.quoted known unclosed .nil))
    · have still : Scan.quoteAfter (some mark) c = some mark := by simp [Scan.quoteAfter, same]
      rw [still, List.append_assoc, List.cons_append]
      refine .quoted text known ?_
      simp [unclosed, Ne.symm same]

/-- A tag may end where no quotation mark is open. -/
theorem OpenText.closed {cs : List Char} (text : OpenText none cs) : IsTagText cs := by
  cases text with
  | plain text => exact text

/-- Text with so many brackets that are not closed. Between two of them, and behind
the last, brackets are in pairs. -/
inductive OpenBrackets : Nat → List Char → Prop where
  | outside {cs : List Char} (nested : Nested cs) : OpenBrackets 0 cs
  | inside {nesting : Nat} {cs inner : List Char} (outer : OpenBrackets nesting cs)
      (nested : Nested inner) : OpenBrackets (nesting + 1) (cs ++ '<' :: inner)

namespace OpenBrackets

variable {nesting : Nat} {cs : List Char}

/-- Text whose brackets are in pairs opens and closes nothing, so as many are open
behind it. -/
theorem append (opened : OpenBrackets nesting cs) {more : List Char} (nested : Nested more) :
    OpenBrackets nesting (cs ++ more) := by
  cases opened with
  | outside earlier => exact .outside (earlier.append nested)
  | inside outer earlier =>
    rw [List.append_assoc, List.cons_append]
    exact .inside outer (earlier.append nested)

/-- A bracket closes the last one that is open. Together with the text between them
it becomes a pair of the text outside. -/
theorem close (opened : OpenBrackets (nesting + 1) cs) : OpenBrackets nesting (cs ++ ['>']) := by
  cases opened with
  | inside outer nested =>
    rw [List.append_assoc, List.cons_append]
    exact outer.append (.paired nested .nil)

/-- Without open brackets they are in pairs. -/
theorem closed (opened : OpenBrackets 0 cs) : Nested cs := by
  cases opened with
  | outside nested => exact nested

end OpenBrackets

/-- A mark and `>` behind it are met in some text only in front of a place. A
comment may begin with what looks like its end, so not every occurrence counts. -/
def Unclosed (least : Nat) (ending cs : List Char) : Prop :=
  ∀ before after, cs = before ++ ending ++ '>' :: after → before.length < least

/-- Text goes on unclosed with a character that does not end it. The only new
occurrence could be at the very end. -/
theorem Unclosed.next {least : Nat} {ending cs : List Char} (unclosed : Unclosed least ending cs)
    {c : Char} (inside : c = '>' → ∀ before, cs = before ++ ending → before.length < least) :
    Unclosed least ending (cs ++ [c]) := by
  intro before after whole
  rcases List.eq_nil_or_concat after with rfl | ⟨init, last, rfl⟩
  · obtain ⟨same, last⟩ := List.append_inj' whole rfl
    exact inside (List.singleton_inj.mp last) before same
  · rw [List.concat_eq_append, ← List.cons_append, ← List.append_assoc] at whole
    exact unclosed before init (List.append_inj' whole rfl).1

/-- In unclosed text the mark is not found behind the place. An occurrence in the
content would be one in the whole text, and too late. -/
theorem Unclosed.not_infix {least : Nat} {ending content behind : List Char} (front : List Char)
    (unclosed : Unclosed least ending (front ++ content ++ behind)) (place : least ≤ front.length) :
    ¬(ending ++ ['>']) <:+: content := by
  rintro ⟨before, after, rfl⟩
  have early := unclosed (front ++ before) (after ++ behind) (by simp)
  rw [List.length_append] at early
  omega

/-- The characters of a piece of markup that has been begun, by what the scanner holds of it. -/
inductive Begun : ScanState → List Char → Prop where
  | angle : Begun .angle ['<']
  | opening {quote : Option Char} {read : List Char} (text : OpenText quote read.reverse)
      (begins : ∃ c, read.reverse.head? = some c ∧ c ∉ markupSigns) :
      Begun (.opening quote read) ('<' :: read.reverse)
  | closing {quote : Option Char} {read : List Char} (text : OpenText quote read.reverse) :
      Begun (.closing quote read) ("</".toList ++ read.reverse)
  | instruction {read : List Char} (unclosed : Unclosed 0 ['?'] read.reverse)
      (begins : read.reverse.head? ≠ some '>') :
      Begun (.instruction read) ("<?".toList ++ read.reverse)
  | bang : Begun .bang "<!".toList
  | comment {read : List Char} (unclosed : Unclosed 2 ['-', '-'] read.reverse) :
      Begun (.comment read) ("<!".toList ++ read.reverse)
  | verbatim {read : List Char} (unclosed : Unclosed 0 [']', ']'] read.reverse) :
      Begun (.verbatim read) ("<!".toList ++ read.reverse)
  | doctype {nesting : Nat} {read : List Char} (opened : OpenBrackets nesting read.reverse) :
      Begun (.doctype nesting read) ("<!".toList ++ read.reverse)

namespace Scan

/-- What one character does to a piece of markup that has been begun: it goes on
with the piece, finishes it as a token, or is a fault. -/
inductive Advances (scan : Scan) (pending : List Char) (c : Char) : Prop where
  | goesOn {state : ScanState} (enters : scan.step c = scan.enter c state)
      (begun : Begun state (pending ++ [c]))
  | finishes {token : Token} (emits : scan.step c = scan.emit c token)
      (marks : Marks (pending ++ [c]) token)
  | fails {fault : MarkupFaultAt} (failed : (scan.step c).state = .failed fault)

variable {scan : Scan} {c : Char}

/-- A character that is taken up behind those of a piece goes on with it. The
scanner holds the newest character in front, and the piece has it at the end. -/
theorem Advances.of_enter {front read : List Char} {state : ScanState}
    (enters : scan.step c = scan.enter c state) (begun : Begun state (front ++ (c :: read).reverse)) :
    scan.Advances (front ++ read.reverse) c := by
  refine .goesOn enters ?_
  rwa [List.append_assoc, ← List.reverse_cons]

/-- Behind a bracket. The character says what the markup is; one that is no sign
begins a start tag. -/
theorem advances_of_angle (state : scan.state = .angle) : scan.Advances ['<'] c := by
  by_cases bang : c = '!'
  · subst bang
    have enters : scan.step '!' = scan.enter '!' .bang := by simp [step, state]
    exact .goesOn enters .bang
  by_cases slash : c = '/'
  · subst slash
    have enters : scan.step '/' = scan.enter '/' (.closing none []) := by simp [step, state]
    exact .goesOn enters (.closing (.plain .nil))
  by_cases question : c = '?'
  · subst question
    have enters : scan.step '?' = scan.enter '?' (.instruction []) := by simp [step, state]
    refine .goesOn enters (.instruction ?_ (by simp))
    intro before after whole
    simp at whole
  by_cases ended : c = '>'
  · subst ended
    have emits : scan.step '>' = scan.emit '>' (.opening (Tag.ofContent [])) := by
      simp [step, state, openingToken]
    exact .finishes emits (.opening .nil (by simp) (by simp))
  · have enters : scan.step c = scan.enter c (.opening (quoteAfter none c) [c]) := by
      simp [step, state, bang, slash, question, ended]
    have text : OpenText (quoteAfter none c) ([] ++ [c]) :=
      (OpenText.plain .nil).next fun both => ended both.1
    exact .goesOn enters (.opening text ⟨c, rfl, by simp [markupSigns, bang, slash, question]⟩)

/-- In a start tag. A bracket outside of quotations ends it, and a slash in front of
the bracket makes it its own end tag. -/
theorem advances_of_opening {quote : Option Char} {read : List Char}
    (state : scan.state = .opening quote read) (text : OpenText quote read.reverse)
    (begins : ∃ c, read.reverse.head? = some c ∧ c ∉ markupSigns) :
    scan.Advances ('<' :: read.reverse) c := by
  obtain ⟨first, head, other⟩ := begins
  by_cases ended : c = '>' ∧ quote = none
  · obtain ⟨rfl, rfl⟩ := ended
    have emits : scan.step '>' = scan.emit '>' (openingToken read) := by simp [step, state]
    unfold openingToken at emits
    split at emits
    · next others =>
      rw [List.reverse_cons] at text head ⊢
      -- The slash alone would have begun an end tag.
      have begins : ∃ c, others.reverse.head? = some c ∧ c ∉ markupSigns := by
        cases known : others.reverse with
        | nil =>
          rw [known] at head
          obtain rfl : '/' = first := by simpa using head
          exact absurd other (by decide)
        | cons c rest =>
          rw [known] at head
          obtain rfl : c = first := by simpa using head
          exact ⟨c, rfl, other⟩
      have marks := Marks.standalone text.closed.of_slash begins
      refine .finishes emits ?_
      rwa [List.cons_append, List.append_assoc]
    · next unslashed =>
      refine .finishes emits (.opening text.closed ?_ ?_)
      · intro c known
        rw [head] at known
        exact Option.some.inj known ▸ other
      · intro last
        rw [List.getLast?_reverse] at last
        obtain ⟨others, known⟩ := List.head?_eq_some_iff.mp last
        exact unslashed others known
  · have enters : scan.step c = scan.enter c (.opening (quoteAfter quote c) (c :: read)) := by
      simp [step, state, ended]
    refine .goesOn enters ?_
    have next := text.next ended
    rw [← List.reverse_cons] at next
    rw [List.cons_append, ← List.reverse_cons]
    refine .opening next ⟨first, ?_, other⟩
    rw [List.reverse_cons, List.head?_append, head, Option.some_or]

/-- In an end tag. A bracket outside of quotations ends it. -/
theorem advances_of_closing {quote : Option Char} {read : List Char}
    (state : scan.state = .closing quote read) (text : OpenText quote read.reverse) :
    scan.Advances ("</".toList ++ read.reverse) c := by
  by_cases ended : c = '>' ∧ quote = none
  · obtain ⟨rfl, rfl⟩ := ended
    have emits : scan.step '>' = scan.emit '>' (.closing (closingName read.reverse)) := by
      simp [step, state]
    exact .finishes emits (.closing text.closed)
  · have enters : scan.step c = scan.enter c (.closing (quoteAfter quote c) (c :: read)) := by
      simp [step, state, ended]
    have next := text.next ended
    rw [← List.reverse_cons] at next
    exact .of_enter enters (.closing next)

/-- In an instruction. A bracket ends it only behind a question mark, and directly
behind the first one it is a fault. -/
theorem advances_of_instruction {read : List Char} (state : scan.state = .instruction read)
    (unclosed : Unclosed 0 ['?'] read.reverse) (begins : read.reverse.head? ≠ some '>') :
    scan.Advances ("<?".toList ++ read.reverse) c := by
  by_cases marked : c = '>' ∧ ∃ others, read = '?' :: others
  · obtain ⟨rfl, others, rfl⟩ := marked
    have emits : scan.step '>' = scan.emit '>' (instructionToken others.reverse) := by
      simp [step, state]
    rw [List.reverse_cons] at unclosed begins ⊢
    have inside : ¬"?>".toList <:+: others.reverse := unclosed.not_infix [] (Nat.le_refl 0)
    have head : others.reverse.head? ≠ some '>' := by
      intro known
      rw [List.head?_append, known] at begins
      exact begins rfl
    have marks := Marks.instruction inside head
    refine .finishes emits ?_
    simpa using marks
  by_cases first : c = '>' ∧ read = []
  · obtain ⟨rfl, rfl⟩ := first
    exact .fails (by simp [step, state, emitOr, enter]; rfl)
  · have enters : scan.step c = scan.enter c (.instruction (c :: read)) := by
      simp only [step, state]
      split
      · next ended =>
        split
        · exact absurd ⟨ended, rfl⟩ first
        · next others => exact absurd ⟨ended, others, rfl⟩ marked
        · rfl
      · rfl
    refine .of_enter enters (.instruction ?_ ?_)
    · rw [List.reverse_cons]
      apply unclosed.next
      rintro rfl before whole
      refine absurd ⟨rfl, before.reverse, ?_⟩ marked
      rw [← List.reverse_reverse read, whole, List.reverse_append]
      rfl
    · rw [List.reverse_cons, List.head?_append]
      cases known : read.reverse.head? with
      | none =>
        intro ended
        exact first ⟨by simpa using ended, by simpa using known⟩
      | some d => rwa [known] at begins

/-- Behind the sign of markup that is no tag. One character tells a comment, a
verbatim section and a document type apart; the rest of what they begin with is
looked at when they end. -/
theorem advances_of_bang (state : scan.state = .bang) : scan.Advances "<!".toList c := by
  have short {least : Nat} {a b d : Char} : Unclosed least [a, b] [d] := by
    intro before after whole
    have length := congrArg List.length whole
    simp at length
    omega
  by_cases bracket : c = '['
  · subst bracket
    have enters : scan.step '[' = scan.enter '[' (.verbatim ['[']) := by simp [step, state]
    exact .goesOn enters (.verbatim short)
  by_cases dash : c = '-'
  · subst dash
    have enters : scan.step '-' = scan.enter '-' (.comment ['-']) := by simp [step, state]
    exact .goesOn enters (.comment short)
  by_cases letter : c = 'D' ∨ c = 'd'
  · have enters : scan.step c = scan.enter c (.doctype 0 [c]) := by
      rcases letter with rfl | rfl <;> simp [step, state]
    have plain : c ∉ ['<', '>'] := by rcases letter with rfl | rfl <;> decide
    exact .goesOn enters (.doctype (.outside (.plain plain .nil)))
  · exact .fails (by simp [step, state, bracket, dash, letter, enter]; rfl)

/-- A token that may turn out to be malformed finishes the piece or is a fault. -/
theorem advances_of_decided {pending : List Char} {decided : Except MarkupFault Token}
    (decides : scan.step c = scan.emitOr c decided)
    (marks : ∀ token, decided = .ok token → Marks (pending ++ [c]) token) :
    scan.Advances pending c := by
  cases decided with
  | ok token => exact .finishes decides (marks token rfl)
  | error fault => exact .fails (by rw [decides]; rfl)

/-- In a comment. Its mark counts only where at least two characters are in front of
it, which are those that the comment begins with. -/
theorem advances_of_comment {read : List Char} (state : scan.state = .comment read)
    (unclosed : Unclosed 2 ['-', '-'] read.reverse) :
    scan.Advances ("<!".toList ++ read.reverse) c := by
  by_cases marked : c = '>' ∧ ∃ a b others, read = '-' :: '-' :: a :: b :: others
  · obtain ⟨rfl, a, b, others, rfl⟩ := marked
    generalize inner : (a :: b :: others).reverse = body
    have whole : ('-' :: '-' :: a :: b :: others).reverse = body ++ ['-', '-'] := by simp [← inner]
    have long : 2 ≤ body.length := by simp [← inner]
    have held : inside 2 2 ('-' :: '-' :: a :: b :: others) = body.drop 2 := by simp [inside, ← inner]
    have decides : scan.step '>' = scan.emitOr '>' (commentToken ('-' :: '-' :: a :: b :: others)) := by
      simp [step, state]
    refine advances_of_decided decides ?_
    intro token decided
    rw [commentToken, whole, List.take_append_of_le_length long, held] at decided
    split at decided
    · next begun =>
      have front : body = ['-', '-'] ++ body.drop 2 := by
        rw [← beq_iff_eq.mp begun, List.take_append_drop]
      obtain rfl := Except.ok.inj decided
      rw [whole, front] at unclosed
      have marks := Marks.comment (unclosed.not_infix ['-', '-'] (Nat.le_refl 2))
      rw [whole, front]
      simpa using marks
    · cases decided
  · have enters : scan.step c = scan.enter c (.comment (c :: read)) := by
      simp only [step, state]
      split
      · next a b others => exact absurd ⟨rfl, a, b, others, rfl⟩ marked
      · rfl
    refine .of_enter enters (.comment ?_)
    rw [List.reverse_cons]
    apply unclosed.next
    rintro rfl before whole
    have known : read = '-' :: '-' :: before.reverse := by
      rw [← List.reverse_reverse read, whole, List.reverse_append]
      rfl
    rw [← List.length_reverse]
    rcases shape : before.reverse with _ | ⟨a, _ | ⟨b, others⟩⟩
    · exact Nat.zero_lt_two
    · exact Nat.one_lt_two
    · exact absurd ⟨rfl, a, b, others, by rw [known, shape]⟩ marked

/-- In a verbatim section. Only when it ends the scanner finds out whether it began
with the keyword. -/
theorem advances_of_verbatim {read : List Char} (state : scan.state = .verbatim read)
    (unclosed : Unclosed 0 [']', ']'] read.reverse) :
    scan.Advances ("<!".toList ++ read.reverse) c := by
  by_cases marked : c = '>' ∧ ∃ others, read = ']' :: ']' :: others
  · obtain ⟨rfl, others, rfl⟩ := marked
    generalize inner : others.reverse = body
    have whole : (']' :: ']' :: others).reverse = body ++ [']', ']'] := by simp [← inner]
    have held : inside 7 2 (']' :: ']' :: others) = body.drop 7 := by simp [inside, ← inner]
    have decides : scan.step '>' = scan.emitOr '>' (verbatimToken (']' :: ']' :: others)) := by
      simp [step, state]
    refine advances_of_decided decides ?_
    intro token decided
    rw [verbatimToken, whole, held] at decided
    split at decided
    · next begun =>
      have front : body = "[CDATA[".toList ++ body.drop 7 := by
        rw [beq_iff_eq, List.take_append] at begun
        -- The bracket that opens the section is none of those that end it.
        have long : 7 - body.length = 0 := by
          rcases short : 7 - body.length with _ | count
          · rfl
          · have member : ']' ∈ "[CDATA[".toList := by simp [← begun, short]
            exact absurd member (by decide)
        rw [long, List.take_zero, List.append_nil] at begun
        rw [← begun, List.take_append_drop]
      obtain rfl := Except.ok.inj decided
      rw [whole, front] at unclosed
      have marks := Marks.verbatim (unclosed.not_infix "[CDATA[".toList (Nat.zero_le _))
      rw [whole, front]
      simpa using marks
    · cases decided
  · have enters : scan.step c = scan.enter c (.verbatim (c :: read)) := by
      simp only [step, state]
      split
      · next others => exact absurd ⟨rfl, others, rfl⟩ marked
      · rfl
    refine .of_enter enters (.verbatim ?_)
    rw [List.reverse_cons]
    apply unclosed.next
    rintro rfl before whole
    refine absurd ⟨rfl, before.reverse, ?_⟩ marked
    rw [← List.reverse_reverse read, whole, List.reverse_append]
    rfl

/-- In a document type. A bracket opens one more or closes the last; where none is
open, it ends the document type. -/
theorem advances_of_doctype {nesting : Nat} {read : List Char}
    (state : scan.state = .doctype nesting read) (opened : OpenBrackets nesting read.reverse) :
    scan.Advances ("<!".toList ++ read.reverse) c := by
  by_cases opens : c = '<'
  · subst opens
    have enters : scan.step '<' = scan.enter '<' (.doctype (nesting + 1) ('<' :: read)) := by
      simp [step, state]
    refine .of_enter enters (.doctype ?_)
    rw [List.reverse_cons]
    exact .inside opened .nil
  by_cases closes : c = '>'
  · subst closes
    cases nesting with
    | zero =>
      have decides : scan.step '>' = scan.emitOr '>' (doctypeToken read) := by simp [step, state]
      refine advances_of_decided decides ?_
      intro token decided
      have held : inside 7 0 read = read.reverse.drop 7 := by rw [inside, List.drop_zero]
      rw [doctypeToken, held] at decided
      split at decided
      · cases decided
      · next keyword =>
        split at decided
        · cases decided
        · next named =>
          obtain rfl := Except.ok.inj decided
          have known : (read.reverse.take 7).map Char.toUpper = "DOCTYPE".toList := by
            simpa using keyword
          have nested := opened.closed
          rw [← List.take_append_drop 7 read.reverse] at nested
          have marks := Marks.doctype known (nested.of_append (plain_of_keyword known))
            (Bool.eq_false_iff.mpr named)
          rwa [List.append_assoc "<!".toList, List.take_append_drop] at marks
    | succ outer =>
      have enters : scan.step '>' = scan.enter '>' (.doctype outer ('>' :: read)) := by
        simp [step, state]
      refine .of_enter enters (.doctype ?_)
      rw [List.reverse_cons]
      exact opened.close
  · have enters : scan.step c = scan.enter c (.doctype nesting (c :: read)) := by
      simp [step, state, opens, closes]
    refine .of_enter enters (.doctype ?_)
    rw [List.reverse_cons]
    exact opened.append (.plain (by simp [opens, closes]) .nil)

/-- A piece of markup that has been begun goes on with the next character, ends with
it, or is a fault. There is one case for each state of the scanner in which a piece
has been begun. -/
theorem advances_of_begun {pending : List Char} (begun : Begun scan.state pending) (c : Char) :
    scan.Advances pending c := by
  generalize state : scan.state = held at begun
  cases begun with
  | angle => exact advances_of_angle state
  | opening text begins => exact advances_of_opening state text begins
  | closing text => exact advances_of_closing state text
  | instruction unclosed begins => exact advances_of_instruction state unclosed begins
  | bang => exact advances_of_bang state
  | comment unclosed => exact advances_of_comment state unclosed
  | verbatim unclosed => exact advances_of_verbatim state unclosed
  | doctype opened => exact advances_of_doctype state opened

/-- Characters render tokens in front of a text: whatever row is rendered behind them, the whole is
one. -/
def LeadsToText (tokens : List Token) (done : List Char) : Prop :=
  ∀ ⦃more : List Token⦄ ⦃rest : List Char⦄, Renders more rest → Renders (tokens ++ more) (done ++ rest)

/-- Characters render tokens in front of a piece of markup. A text may be pending at
their end, which becomes a token only here. -/
def LeadsToMarkup (tokens : List Token) (done : List Char) : Prop :=
  ∀ ⦃piece : List Char⦄ ⦃token : Token⦄ ⦃more : List Token⦄ ⦃rest : List Char⦄, Marks piece token →
    Renders more rest → Renders (tokens ++ token :: more) (done ++ piece ++ rest)

/-- What has been read: tokens that are finished, and then a text or a piece of markup that has been
begun. -/
inductive HasRead (scan : Scan) : List Char → Prop where
  | text {done text : List Char} (leads : LeadsToText scan.shown done) (plain : '<' ∉ text)
      (state : scan.state = .text text.reverse) : HasRead scan (done ++ text)
  | markup {done pending : List Char} (leads : LeadsToMarkup scan.shown done)
      (begun : Begun scan.state pending) : HasRead scan (done ++ pending)
  | failed {cs : List Char} {fault : MarkupFaultAt} (failed : scan.state = .failed fault) :
      HasRead scan cs

/-- With one more character, more has been read. A finished piece joins the tokens,
and text begins behind it; a bracket in a text begins a piece. -/
theorem HasRead.next {cs : List Char} (read : scan.HasRead cs) (c : Char) :
    (scan.step c).HasRead (cs ++ [c]) := by
  cases read with
  | @text done text leads plain state =>
    by_cases bracket : c = '<'
    · subst bracket
      have passes := passes_bracket text
      have same : (scan.step '<').shown = scan.shown ++ textTokens text := passes.shown_eq state
      have reached : (scan.step '<').state = .angle := (passes scan state).1
      refine .markup ?_ (by rw [reached]; exact .angle)
      intro piece token more rest marks behind
      have whole := leads (.next plain marks behind)
      rw [same]
      simpa only [List.append_assoc] using whole
    · have enters : scan.step c = scan.enter c (.text (text ++ [c]).reverse) := by
        simp [step, state, bracket]
      rw [enters, List.append_assoc]
      refine .text leads ?_ rfl
      simp [plain, Ne.symm bracket]
  | @markup done pending leads begun =>
    rw [List.append_assoc]
    cases advances_of_begun begun c with
    | goesOn enters more =>
      rw [enters]
      exact .markup leads more
    | @finishes token emits marks =>
      have same : (scan.emit c token).shown = scan.shown ++ [token] := by simp [shown, emit]
      rw [emits, ← List.append_nil (done ++ (pending ++ [c]))]
      refine .text ?_ List.not_mem_nil rfl
      intro more rest behind
      have whole := leads marks behind
      rw [same]
      simpa only [List.append_assoc, List.singleton_append] using whole
    | fails failed => exact .failed failed
  | failed failed => exact .failed (foldl_step_failed failed [c])

/-- With more characters, more has been read, by induction on them. -/
theorem HasRead.foldl {cs : List Char} (read : scan.HasRead cs) (more : List Char) :
    (more.foldl step scan).HasRead (cs ++ more) := by
  induction more generalizing scan cs with
  | nil => rwa [List.append_nil]
  | cons c rest inductionHypothesis =>
    have later := inductionHypothesis (read.next c)
    rwa [List.append_assoc] at later

/-- What has been read to its end without a fault renders the tokens that were
found. A piece that has only been begun is a fault there, and a text is the last
token. -/
theorem HasRead.renders {cs : List Char} (read : scan.HasRead cs) (ended : scan.endFault? = none) :
    Renders (scan.finished.map (·.token)) cs := by
  cases read with
  | text leads plain state =>
    rw [finished_eq, List.map_append, trailing_of_text state]
    exact leads (.text plain)
  | markup leads begun =>
    generalize state : scan.state = held at begun
    cases begun <;> simp [endFault?, state] at ended
  | failed failed => simp [endFault?, failed] at ended

end Scan

/-! ## Rows of tokens -/

/-- The scanner reads a row of tokens exactly where one is rendered, behind the byte
order mark. From tokens to characters the scanner is followed piece by piece; back,
what it has read is an invariant of each character. -/
theorem lexemes_iff {document : List Char} {tokens : List Token} :
    ((lexemes document).2 = none ∧ (lexemes document).1.map (·.token) = tokens) ↔
      Renders tokens (withoutMark document) := by
  constructor
  · rintro ⟨ended, rfl⟩
    have nothing : Scan.HasRead {} ([] ++ []) := .text (fun _ _ behind => behind) List.not_mem_nil rfl
    exact (nothing.foldl (withoutMark document)).renders ended
  · intro renders
    exact Scan.finished_of_renders renders rfl

end ExtensionPublisher.Xml
