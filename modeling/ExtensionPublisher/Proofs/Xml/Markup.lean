import ExtensionPublisher.Proofs.Xml.Prefix

/-!
# What a row of tokens is written as

A grammar of tokens that knows nothing of the scanner. Characters render a row of tokens if they are
pieces of markup with text in front of each, and text behind the last: `Renders`. A piece of markup is
one of seven, and it is said of each what may stand inside it, `Marks`. Inside a tag `>` is quoted;
comments, verbatim sections and instructions do not hold the mark that ends them; and the brackets
inside a document type are in pairs.

What is rendered is read as what it is, `Scan.finished_of_renders`. What the characters of one token do
to the scanner is said from state to state, `Scan.Passes`, so that the passages of tokens next to each
other are put together by `trans`.
-/
namespace ExtensionPublisher.Xml

open Text (isLayout)

/-! ## The grammar -/

/-- The text inside a tag: quotation marks are in pairs, and between them `>` is an ordinary
character. -/
inductive IsTagText : List Char → Prop where
  | nil : IsTagText []
  | plain {c : Char} {rest : List Char} (other : c ∉ ['>', '"', '\'']) (behind : IsTagText rest) :
      IsTagText (c :: rest)
  | quoted {mark : Char} {inner rest : List Char} (known : mark ∈ ['"', '\''])
      (unclosed : mark ∉ inner) (behind : IsTagText rest) : IsTagText (mark :: inner ++ mark :: rest)

/-- Text whose brackets are in pairs. A document type may hold declarations in
brackets of their own, and ends at the first bracket that closes none of them. -/
inductive Nested : List Char → Prop where
  | nil : Nested []
  | plain {c : Char} {rest : List Char} (other : c ∉ ['<', '>']) (behind : Nested rest) :
      Nested (c :: rest)
  | paired {inner rest : List Char} (inside : Nested inner) (behind : Nested rest) :
      Nested ('<' :: inner ++ '>' :: rest)

/-- The characters behind a bracket that begins markup other than a start tag. -/
def markupSigns : List Char := ['!', '/', '?']

/-- The characters of one piece of markup, and its token. -/
inductive Marks : List Char → Token → Prop where
  | opening {content : List Char} (text : IsTagText content)
      (begins : ∀ c, content.head? = some c → c ∉ markupSigns)
      (unslashed : content.getLast? ≠ some '/') :
      Marks ('<' :: content ++ ['>']) (.opening (Tag.ofContent content))
  | standalone {content : List Char} (text : IsTagText content)
      (begins : ∃ c, content.head? = some c ∧ c ∉ markupSigns) :
      Marks ('<' :: content ++ "/>".toList) (.standalone (Tag.ofContent content))
  | closing {content : List Char} (text : IsTagText content) :
      Marks ("</".toList ++ content ++ ['>']) (.closing (closingName content))
  | comment {content : List Char} (unclosed : ¬"-->".toList <:+: content) :
      Marks ("<!--".toList ++ content ++ "-->".toList) (.comment content)
  | verbatim {content : List Char} (unclosed : ¬"]]>".toList <:+: content) :
      Marks ("<![CDATA[".toList ++ content ++ "]]>".toList) (.verbatim content)
  | instruction {content : List Char} (unclosed : ¬"?>".toList <:+: content)
      (begins : content.head? ≠ some '>') :
      Marks ("<?".toList ++ content ++ "?>".toList) (instructionToken content)
  | doctype {keyword content : List Char} (known : keyword.map Char.toUpper = "DOCTYPE".toList)
      (nested : Nested content) (named : content.all isLayout = false) :
      Marks ("<!".toList ++ keyword ++ content ++ ['>']) (.doctype content)

/-- The token of a text, if there is one. An empty text between two pieces of markup
is no token. -/
def Scan.textTokens : List Char → List Token
  | [] => []
  | text => [.text text]

/-- The characters of a row of tokens: pieces of markup with text in front of each, and text behind
the last. -/
inductive Renders : List Token → List Char → Prop where
  | text {text : List Char} (plain : '<' ∉ text) : Renders (Scan.textTokens text) text
  | next {text piece rest : List Char} {token : Token} {tokens : List Token} (plain : '<' ∉ text)
      (marks : Marks piece token) (behind : Renders tokens rest) :
      Renders (Scan.textTokens text ++ token :: tokens) (text ++ piece ++ rest)

/-- The text inside a tag goes on with more of it, since no quotation is left open
at the end of the first. -/
theorem IsTagText.append {cs others : List Char} (text : IsTagText cs) (more : IsTagText others) :
    IsTagText (cs ++ others) := by
  induction text with
  | nil => exact more
  | plain other _ inductionHypothesis => exact .plain other inductionHypothesis
  | quoted known unclosed _ inductionHypothesis =>
    rw [List.append_assoc, List.cons_append]
    exact .quoted known unclosed inductionHypothesis

/-- Without a slash behind it, the text inside a tag is still one. The slash cannot
close a quotation, so it was an ordinary character. -/
theorem IsTagText.of_slash {cs : List Char} (text : IsTagText (cs ++ ['/'])) : IsTagText cs := by
  generalize whole : cs ++ ['/'] = all at text
  induction text generalizing cs with
  | nil => simp at whole
  | @plain c rest other behind inductionHypothesis =>
    cases cs with
    | nil => exact .nil
    | cons first others =>
      obtain ⟨rfl, same⟩ := List.cons.inj whole
      exact .plain other (inductionHypothesis same)
  | @quoted mark inner rest known unclosed behind inductionHypothesis =>
    rcases List.eq_nil_or_concat rest with rfl | ⟨others, last, rfl⟩
    · obtain ⟨_, last⟩ := List.append_inj' whole rfl
      rw [← List.singleton_inj.mp last] at known
      exact absurd known (by decide)
    · have shape : mark :: inner ++ mark :: others.concat last =
          (mark :: inner ++ mark :: others) ++ [last] := by simp
      rw [shape] at whole
      obtain ⟨rfl, same⟩ := List.append_inj' whole rfl
      refine .quoted known unclosed (inductionHypothesis ?_)
      rw [List.concat_eq_append, same]

/-- Text with its brackets in pairs goes on with more of it. -/
theorem Nested.append {cs others : List Char} (nested : Nested cs) (more : Nested others) :
    Nested (cs ++ others) := by
  induction nested with
  | nil => exact more
  | plain other _ inductionHypothesis => exact .plain other inductionHypothesis
  | paired inside _ _ inductionHypothesis =>
    rw [List.append_assoc, List.cons_append]
    exact .paired inside inductionHypothesis

/-- Text without brackets has them in pairs. -/
theorem Nested.of_plain {cs : List Char} (plain : ∀ c ∈ cs, c ∉ ['<', '>']) : Nested cs := by
  induction cs with
  | nil => exact .nil
  | cons c rest inductionHypothesis =>
    rw [List.forall_mem_cons] at plain
    exact .plain plain.1 (inductionHypothesis plain.2)

/-- What is behind text without brackets has them in pairs if the whole has. The
text in front is stripped off one character at a time. -/
theorem Nested.of_append {cs others : List Char} (plain : ∀ c ∈ cs, c ∉ ['<', '>'])
    (nested : Nested (cs ++ others)) : Nested others := by
  induction cs with
  | nil => exact nested
  | cons c rest inductionHypothesis =>
    rw [List.forall_mem_cons] at plain
    apply inductionHypothesis plain.2
    generalize whole : c :: rest ++ others = all at nested
    cases nested with
    | nil => cases whole
    | plain other behind =>
      obtain ⟨rfl, rfl⟩ := List.cons.inj whole
      exact behind
    | paired inside behind =>
      obtain ⟨rfl, _⟩ := List.cons.inj whole
      exact absurd plain.1 (by decide)

/-! ## What is written is read -/

namespace Scan

/-- Characters lead the scanner from one state to another, and finish tokens on the
way. The tokens that were finished before stay behind the new ones, so passages can
be put one behind the other. -/
def Passes (before : ScanState) (cs : List Char) (tokens : List Token) (after : ScanState) : Prop :=
  ∀ scan : Scan, scan.state = before → (cs.foldl step scan).state = after ∧
    ∃ lexemes : List Lexeme, lexemes.map (·.token) = tokens ∧
      (cs.foldl step scan).tokens = lexemes.reverse ++ scan.tokens

namespace Passes

variable {before between after : ScanState} {front behind : List Char} {first others : List Token}

/-- One passage behind another is a passage, with the tokens of both. -/
theorem trans (passes : Passes before front first between)
    (onward : Passes between behind others after) :
    Passes before (front ++ behind) (first ++ others) after := by
  intro scan state
  obtain ⟨reached, lexemes, shown, collected⟩ := passes scan state
  obtain ⟨ended, more, shownMore, all⟩ := onward _ reached
  refine ⟨by rwa [List.foldl_append], lexemes ++ more, by rw [List.map_append, shown, shownMore], ?_⟩
  rw [List.foldl_append, all, collected, List.reverse_append, List.append_assoc]

/-- No characters lead nowhere else. -/
theorem refl (state : ScanState) : Passes state [] [] state := by
  intro scan known
  exact ⟨known, [], rfl, rfl⟩

/-- A character that is taken up is a passage that finishes nothing. The scanner may
record where it is, which no passage speaks of. -/
theorem of_enter {c : Char}
    (enters : ∀ scan : Scan, scan.state = before → scan.step c = scan.enter c after) :
    Passes before [c] [] after := by
  intro scan state
  rw [List.foldl_cons, List.foldl_nil, enters scan state]
  exact ⟨rfl, [], rfl, rfl⟩

/-- A character that finishes a token leads out of it, to where text is collected.
-/
theorem of_emit {c : Char} {token : Token}
    (emits : ∀ scan : Scan, scan.state = before → scan.step c = scan.emit c token) :
    Passes before [c] [token] (.text []) := by
  intro scan state
  rw [List.foldl_cons, List.foldl_nil, emits scan state]
  exact ⟨rfl, [_], rfl, rfl⟩

/-- Characters that are collected, where it depends on those in front of a character
whether it is. The induction moves characters from what is to come to what is done.
-/
theorem of_collect_behind {state : List Char → ScanState} {cs start : List Char}
    (collects : ∀ done c rest, cs = done ++ c :: rest → ∀ scan : Scan,
      scan.state = state (done.reverse ++ start) →
        scan.step c = scan.enter c (state (c :: done.reverse ++ start))) :
    Passes (state start) cs [] (state (cs.reverse ++ start)) := by
  suffices general : ∀ done rest, cs = done ++ rest →
      Passes (state (done.reverse ++ start)) rest [] (state (cs.reverse ++ start)) from general [] cs rfl
  intro done rest whole
  induction rest generalizing done with
  | nil =>
    rw [whole, List.append_nil]
    exact refl _
  | cons c rest inductionHypothesis =>
    have onward := inductionHypothesis (done ++ [c]) (by simp [whole])
    rw [List.reverse_append] at onward
    exact (of_enter (collects done c rest whole)).trans onward

/-- Characters that are only collected, whatever has been read in front of them. -/
theorem of_collect {state : List Char → ScanState} {cs : List Char}
    (collects : ∀ read, ∀ c ∈ cs, ∀ scan : Scan, scan.state = state read →
      scan.step c = scan.enter c (state (c :: read))) (read : List Char) :
    Passes (state read) cs [] (state (cs.reverse ++ read)) := by
  apply of_collect_behind
  intro done c rest whole scan known
  exact collects _ c (by simp [whole]) scan known

end Passes

/-- A bracket finishes the text in front of it, which is a token unless it is empty.
-/
theorem passes_bracket (text : List Char) :
    Passes (.text text.reverse) ['<'] (textTokens text) .angle := by
  intro scan state
  cases text with
  | nil => exact ⟨by simp [step, state], [], rfl, by simp [step, state]⟩
  | cons c rest =>
    exact ⟨by simp [step, state], [⟨.text (c :: rest), scan.offset⟩], rfl, by simp [step, state]⟩

/-- Text is collected up to the next bracket. -/
theorem passes_plain {text : List Char} (plain : '<' ∉ text) :
    Passes (.text []) text [] (.text text.reverse) := by
  have read : Passes (.text []) text [] (.text (text.reverse ++ [])) := by
    apply Passes.of_collect
    intro read c member scan state
    simp [step, state, ne_of_mem_of_not_mem member plain]
  rwa [List.append_nil] at read

/-- Text in front of a bracket is one token. -/
theorem passes_text {text : List Char} (plain : '<' ∉ text) :
    Passes (.text []) (text ++ ['<']) (textTokens text) .angle :=
  (passes_plain plain).trans (passes_bracket text)

/-- The text inside a tag is collected. Start tags and end tags keep quotations
alike, so the state is a parameter. A bracket in a quotation is collected like any
other character, and the quotation is closed at its end. -/
theorem passes_tag_text {state : Option Char → List Char → ScanState} {content : List Char}
    (text : IsTagText content)
    (collects : ∀ quote read c, ¬(c = '>' ∧ quote = none) → ∀ scan : Scan,
      scan.state = state quote read → scan.step c = scan.enter c (state (quoteAfter quote c) (c :: read)))
    (read : List Char) :
    Passes (state none read) content [] (state none (content.reverse ++ read)) := by
  induction text generalizing read with
  | nil => exact .refl _
  | @plain c rest other _ inductionHypothesis =>
    have taken : Passes (state none read) [c] [] (state none (c :: read)) := by
      simp only [List.mem_cons, List.not_mem_nil, or_false, not_or] at other
      have unquoted : quoteAfter none c = none := by simp [quoteAfter, other]
      have enters := collects none read c (by simp [other])
      rw [unquoted] at enters
      exact .of_enter enters
    simpa using taken.trans (inductionHypothesis (c :: read))
  | @quoted mark inner rest known unclosed _ inductionHypothesis =>
    have isMark : mark = '"' ∨ mark = '\'' := by simpa using known
    have other : mark ≠ '>' := by rcases isMark with rfl | rfl <;> decide
    have opened : Passes (state none read) [mark] [] (state (some mark) (mark :: read)) := by
      have quoted : quoteAfter none mark = some mark := by simp [quoteAfter, isMark]
      have enters := collects none read mark (by simp [other])
      rw [quoted] at enters
      exact .of_enter enters
    have held : Passes (state (some mark) (mark :: read)) inner []
        (state (some mark) (inner.reverse ++ mark :: read)) := by
      apply Passes.of_collect
      intro earlier c member scan reached
      have different : c ≠ mark := ne_of_mem_of_not_mem member unclosed
      have still : quoteAfter (some mark) c = some mark := by simp [quoteAfter, different]
      have enters := collects (some mark) earlier c (by simp) scan reached
      rwa [still] at enters
    have closed : Passes (state (some mark) (inner.reverse ++ mark :: read)) [mark] []
        (state none (mark :: inner.reverse ++ mark :: read)) := by
      have unquoted : quoteAfter (some mark) mark = none := by simp [quoteAfter]
      have enters := collects (some mark) (inner.reverse ++ mark :: read) mark (by simp)
      rw [unquoted] at enters
      exact .of_enter enters
    simpa using opened.trans (held.trans (closed.trans
      (inductionHypothesis (mark :: inner.reverse ++ mark :: read))))

/-- Behind a bracket a tag begins as if it had begun already. The first character
only decides that it is no other markup. -/
theorem passes_angle {cs : List Char} {tokens : List Token} {after : ScanState}
    (begins : ∃ c, cs.head? = some c ∧ c ∉ markupSigns)
    (passes : Passes (.opening none []) cs tokens after) : Passes .angle cs tokens after := by
  obtain ⟨c, first, other⟩ := begins
  obtain ⟨rest, rfl⟩ := List.head?_eq_some_iff.mp first
  simp only [markupSigns, List.mem_cons, List.not_mem_nil, or_false, not_or] at other
  intro scan state
  have same : scan.step c = { scan with state := .opening none [] }.step c := by
    by_cases ended : c = '>'
    · simp [step, state, ended, emit]
    · simp [step, state, ended, other, enter]
  rw [List.foldl_cons, same]
  exact passes { scan with state := .opening none [] } rfl

/-- The text inside a start tag leads to where its bracket ends it, outside of all
quotations. -/
theorem passes_opening_text {content : List Char} (text : IsTagText content) :
    Passes (.opening none []) content [] (.opening none content.reverse) := by
  have collected : Passes (.opening none []) content [] (.opening none (content.reverse ++ [])) := by
    apply passes_tag_text text
    intro quote read c inside scan state
    simp [step, state, inside]
  rwa [List.append_nil] at collected

/-- A start tag. It may be empty, and its text does not end in a slash, which would
close it. -/
theorem passes_opening {content : List Char} (text : IsTagText content)
    (begins : ∀ c, content.head? = some c → c ∉ markupSigns) (unslashed : content.getLast? ≠ some '/') :
    Passes .angle (content ++ ['>']) [.opening (Tag.ofContent content)] (.text []) := by
  have token : openingToken content.reverse = .opening (Tag.ofContent content) := by
    unfold openingToken
    split
    · next read same =>
      rw [List.getLast?_eq_head?_reverse, same] at unslashed
      exact absurd rfl unslashed
    · rw [List.reverse_reverse]
  have ended : Passes (.opening none content.reverse) ['>'] [.opening (Tag.ofContent content)]
      (.text []) := by
    apply Passes.of_emit
    intro scan state
    simp [step, state, token]
  refine passes_angle ?_ ((passes_opening_text text).trans ended)
  cases content with
  | nil => exact ⟨'>', rfl, by decide⟩
  | cons c rest => exact ⟨c, rfl, begins c rfl⟩

/-- A start tag that is its own end tag. The slash is collected like the rest, and
is found when the bracket ends the tag. -/
theorem passes_standalone {content : List Char} (text : IsTagText content)
    (begins : ∃ c, content.head? = some c ∧ c ∉ markupSigns) :
    Passes .angle (content ++ "/>".toList) [.standalone (Tag.ofContent content)] (.text []) := by
  have slash : Passes (.opening none content.reverse) ['/'] [] (.opening none ('/' :: content.reverse)) := by
    apply Passes.of_enter
    intro scan state
    simp [step, state, quoteAfter]
  have ended : Passes (.opening none ('/' :: content.reverse)) ['>']
      [.standalone (Tag.ofContent content)] (.text []) := by
    apply Passes.of_emit
    intro scan state
    simp [step, state, openingToken]
  refine passes_angle ?_ ((passes_opening_text text).trans (slash.trans ended))
  obtain ⟨c, first, other⟩ := begins
  obtain ⟨rest, rfl⟩ := List.head?_eq_some_iff.mp first
  exact ⟨c, rfl, other⟩

/-- An end tag. Its name is cut out of the text when the tag is finished. -/
theorem passes_closing {content : List Char} (text : IsTagText content) :
    Passes .angle ('/' :: content ++ ['>']) [.closing (closingName content)] (.text []) := by
  have opened : Passes .angle ['/'] [] (.closing none []) := by
    apply Passes.of_enter
    intro scan state
    simp [step, state]
  have collected : Passes (.closing none []) content [] (.closing none (content.reverse ++ [])) := by
    apply passes_tag_text text
    intro quote read c inside scan state
    simp [step, state, inside]
  have ended : Passes (.closing none (content.reverse ++ [])) ['>'] [.closing (closingName content)]
      (.text []) := by
    apply Passes.of_emit
    intro scan state
    simp [step, state]
  exact (opened.trans collected).trans ended

/-- In front of a character the mark that it would end has not been read. The mark is given as the
scanner holds it, its last character first. -/
theorem reverse_ne_of_unclosed (ending : List Char) {content done rest : List Char} {c : Char}
    (unclosed : ¬(ending.reverse ++ [c]) <:+: content) (whole : content = done ++ c :: rest)
    (others : List Char) : done.reverse ≠ ending ++ others := by
  intro known
  have same : done = others.reverse ++ ending.reverse := by
    rw [← List.reverse_reverse done, known, List.reverse_append]
  exact unclosed ⟨others.reverse, rest, by simp [whole, same]⟩

/-- A comment. Its content does not hold the mark that ends it, so the scanner is
still inside of it at every character. -/
theorem passes_comment {content : List Char} (unclosed : ¬"-->".toList <:+: content) :
    Passes .angle ("!--".toList ++ content ++ "-->".toList) [.comment content] (.text []) := by
  have opened : Passes .angle "!--".toList [] (.comment ['-', '-']) := by
    intro scan state
    simp [step, state, enter]
  have collected : Passes (.comment ['-', '-']) content [] (.comment (content.reverse ++ ['-', '-'])) := by
    apply Passes.of_collect_behind
    intro done c rest whole scan state
    simp only [step, state]
    split
    · next a b earlier read =>
      have unread := reverse_ne_of_unclosed ['-', '-'] unclosed whole
      rcases known : done.reverse with _ | ⟨x, _ | ⟨y, others⟩⟩
      · simp [known] at read
      · simp [known] at read
      · simp only [known, List.cons_append, List.cons.injEq] at read
        obtain ⟨rfl, rfl, _⟩ := read
        exact absurd known (unread others)
    · rfl
  have marks : Passes (.comment (content.reverse ++ ['-', '-'])) ['-', '-'] []
      (.comment ('-' :: '-' :: (content.reverse ++ ['-', '-']))) := by
    intro scan state
    simp [step, state, enter]
  have ended : Passes (.comment ('-' :: '-' :: (content.reverse ++ ['-', '-']))) ['>']
      [.comment content] (.text []) := by
    apply Passes.of_emit
    intro scan state
    obtain ⟨a, b, rest, same⟩ : ∃ a b rest, content.reverse ++ ['-', '-'] = a :: b :: rest := by
      rcases content.reverse with _ | ⟨a, _ | ⟨b, rest⟩⟩
      · exact ⟨_, _, _, rfl⟩
      · exact ⟨_, _, _, rfl⟩
      · exact ⟨_, _, _, rfl⟩
    simp only [step, state, same]
    rw [← same]
    simp [commentToken, inside, emitOr]
  exact (opened.trans collected).trans (marks.trans ended)

/-- A verbatim section. Nothing in it is markup up to the mark that ends it. -/
theorem passes_verbatim {content : List Char} (unclosed : ¬"]]>".toList <:+: content) :
    Passes .angle ("![CDATA[".toList ++ content ++ "]]>".toList) [.verbatim content] (.text []) := by
  have opened : Passes .angle "![CDATA[".toList [] (.verbatim "[CDATA[".toList.reverse) := by
    intro scan state
    simp [step, state, enter]
  have collected : Passes (.verbatim "[CDATA[".toList.reverse) content []
      (.verbatim (content.reverse ++ "[CDATA[".toList.reverse)) := by
    apply Passes.of_collect_behind
    intro done c rest whole scan state
    simp only [step, state]
    split
    · next earlier read =>
      have unread := reverse_ne_of_unclosed [']', ']'] unclosed whole
      rcases known : done.reverse with _ | ⟨x, _ | ⟨y, others⟩⟩
      · simp [known] at read
      · simp [known] at read
      · simp only [known, List.cons_append, List.cons.injEq] at read
        obtain ⟨rfl, rfl, _⟩ := read
        exact absurd known (unread others)
    · rfl
  have marks : Passes (.verbatim (content.reverse ++ "[CDATA[".toList.reverse)) [']', ']'] []
      (.verbatim (']' :: ']' :: (content.reverse ++ "[CDATA[".toList.reverse))) := by
    intro scan state
    simp [step, state, enter]
  have ended : Passes (.verbatim (']' :: ']' :: (content.reverse ++ "[CDATA[".toList.reverse))) ['>']
      [.verbatim content] (.text []) := by
    apply Passes.of_emit
    intro scan state
    simp [step, state, verbatimToken, inside, emitOr]
  exact (opened.trans collected).trans (marks.trans ended)

/-- An instruction or a declaration. Which of the two it is depends on its content,
and is decided at its end. -/
theorem passes_instruction {content : List Char} (unclosed : ¬"?>".toList <:+: content)
    (begins : content.head? ≠ some '>') :
    Passes .angle ('?' :: content ++ "?>".toList) [instructionToken content] (.text []) := by
  have opened : Passes .angle ['?'] [] (.instruction []) := by
    apply Passes.of_enter
    intro scan state
    simp [step, state]
  have collected : Passes (.instruction []) content [] (.instruction (content.reverse ++ [])) := by
    apply Passes.of_collect_behind
    intro done c rest whole scan state
    rw [List.append_nil] at state
    have taken : c = '>' → done.reverse ≠ [] ∧ ∀ others, done.reverse ≠ '?' :: others := by
      rintro rfl
      constructor
      · intro first
        simp [whole, List.reverse_eq_nil_iff.mp first] at begins
      · exact reverse_ne_of_unclosed ['?'] unclosed whole
    simp only [step, state, List.append_nil]
    split
    · next ended =>
      obtain ⟨behind, other⟩ := taken ended
      split
      · next first => exact absurd first behind
      · next others known => exact absurd known (other others)
      · rfl
    · rfl
  have mark : Passes (.instruction (content.reverse ++ [])) ['?'] []
      (.instruction ('?' :: content.reverse)) := by
    apply Passes.of_enter
    intro scan state
    simp [step, state]
  have ended : Passes (.instruction ('?' :: content.reverse)) ['>'] [instructionToken content]
      (.text []) := by
    apply Passes.of_emit
    intro scan state
    simp [step, state]
  exact (opened.trans collected).trans (mark.trans ended)

/-- Text whose brackets are in pairs leads nowhere else in a document type. Inside
of a pair the nesting is one deeper, so the induction is for every nesting. -/
theorem passes_nested {content : List Char} (nested : Nested content) (nesting : Nat)
    (read : List Char) :
    Passes (.doctype nesting read) content [] (.doctype nesting (content.reverse ++ read)) := by
  induction nested generalizing nesting read with
  | nil => exact .refl _
  | @plain c rest other _ inductionHypothesis =>
    have taken : Passes (.doctype nesting read) [c] [] (.doctype nesting (c :: read)) := by
      simp only [List.mem_cons, List.not_mem_nil, or_false, not_or] at other
      apply Passes.of_enter
      intro scan state
      simp [step, state, other]
    simpa using taken.trans (inductionHypothesis nesting (c :: read))
  | @paired inner rest _ _ insideHypothesis behindHypothesis =>
    have opened : Passes (.doctype nesting read) ['<'] [] (.doctype (nesting + 1) ('<' :: read)) := by
      apply Passes.of_enter
      intro scan state
      simp [step, state]
    have held := insideHypothesis (nesting + 1) ('<' :: read)
    have closed : Passes (.doctype (nesting + 1) (inner.reverse ++ '<' :: read)) ['>'] []
        (.doctype nesting ('>' :: inner.reverse ++ '<' :: read)) := by
      apply Passes.of_enter
      intro scan state
      simp [step, state]
    simpa using opened.trans (held.trans (closed.trans
      (behindHypothesis nesting ('>' :: inner.reverse ++ '<' :: read))))

/-- A letter that is made this capital is it, or the small one. The keyword of a
document type may be written with either. -/
theorem of_to_upper_d {c : Char} (upper : c.toUpper = 'D') : c = 'D' ∨ c = 'd' := by
  unfold Char.toUpper at upper
  split at upper
  · next small =>
    have code := congrArg (fun c => c.val.toNat) upper
    have least : 'a'.val.toNat ≤ c.val.toNat := UInt32.le_iff_toNat_le.mp small.1
    have greatest : c.val.toNat ≤ 'z'.val.toNat := UInt32.le_iff_toNat_le.mp small.2
    refine .inr (Char.toNat_inj.mp ?_)
    simp at code least greatest ⊢
    omega
  · exact .inl upper

/-- The keyword of a document type is no bracket. A bracket stays what it is when it
is made a capital. -/
theorem plain_of_keyword {keyword : List Char} (known : keyword.map Char.toUpper = "DOCTYPE".toList) :
    ∀ c ∈ keyword, c ∉ ['<', '>'] := by
  intro c member bracket
  have upper : c.toUpper ∈ "DOCTYPE".toList := known ▸ List.mem_map_of_mem member
  simp only [List.mem_cons, List.not_mem_nil, or_false] at bracket
  rcases bracket with rfl | rfl
  · exact absurd upper (by decide)
  · exact absurd upper (by decide)

/-- A document type. The scanner collects the keyword before it knows what the
markup is, and counts brackets only behind it. -/
theorem passes_doctype {keyword content : List Char}
    (known : keyword.map Char.toUpper = "DOCTYPE".toList) (nested : Nested content)
    (named : content.all isLayout = false) :
    Passes .angle ('!' :: keyword ++ content ++ ['>']) [.doctype content] (.text []) := by
  have plain := plain_of_keyword known
  have length : keyword.length = 7 := by simpa using congrArg List.length known
  obtain ⟨first, others, rfl⟩ := List.exists_cons_of_length_eq_add_one length
  have opened : Passes .angle ['!', first] [] (.doctype 0 [first]) := by
    have letter := of_to_upper_d (List.cons.inj known).1
    intro scan state
    rcases letter with rfl | rfl <;> simp [step, state, enter]
  have held : Passes (.doctype 0 [first]) (others ++ content) []
      (.doctype 0 ((others ++ content).reverse ++ [first])) :=
    passes_nested ((Nested.of_plain fun c member => plain c (List.mem_cons_of_mem _ member)).append nested)
      0 [first]
  have token : doctypeToken ((others ++ content).reverse ++ [first]) = .ok (.doctype content) := by
    have whole : ((others ++ content).reverse ++ [first]).reverse = (first :: others) ++ content := by
      simp
    have front : ((first :: others) ++ content).take 7 = first :: others := List.take_left' length
    have behind : ((first :: others) ++ content).drop 7 = content := List.drop_left' length
    have held : inside 7 0 ((others ++ content).reverse ++ [first]) = content := by
      rw [inside, List.drop_zero, whole, behind]
    simp only [doctypeToken, whole, front, known, held, named]
    rfl
  have ended : Passes (.doctype 0 ((others ++ content).reverse ++ [first])) ['>'] [.doctype content]
      (.text []) := by
    apply Passes.of_emit
    intro scan state
    simp only [step, state, token]
    rfl
  simpa using opened.trans (held.trans ended)

/-- Behind its bracket, a piece of markup is read as its token. -/
theorem passes_of_marks {piece : List Char} {token : Token} (marks : Marks piece token) :
    ∃ rest, piece = '<' :: rest ∧ Passes .angle rest [token] (.text []) := by
  cases marks with
  | opening text begins unslashed => exact ⟨_, rfl, passes_opening text begins unslashed⟩
  | standalone text begins => exact ⟨_, rfl, passes_standalone text begins⟩
  | closing text => exact ⟨_, rfl, passes_closing text⟩
  | comment unclosed => exact ⟨_, rfl, passes_comment unclosed⟩
  | verbatim unclosed => exact ⟨_, rfl, passes_verbatim unclosed⟩
  | instruction unclosed begins => exact ⟨_, rfl, passes_instruction unclosed begins⟩
  | doctype known nested named => exact ⟨_, rfl, passes_doctype known nested named⟩

/-- The tokens that are finished, in order. The scanner keeps the newest in front.
-/
def shown (scan : Scan) : List Token := scan.tokens.reverse.map (·.token)

/-- A passage finishes its tokens, and keeps those that were finished before. -/
theorem Passes.shown_eq {before after : ScanState} {cs : List Char} {tokens : List Token}
    (passes : Passes before cs tokens after) {scan : Scan} (state : scan.state = before) :
    (cs.foldl step scan).shown = scan.shown ++ tokens := by
  obtain ⟨_, lexemes, known, collected⟩ := passes scan state
  simp only [shown, collected, List.reverse_append, List.reverse_reverse, List.map_append, known]

/-- A text that is not finished is the token behind the others, unless it is empty.
-/
theorem trailing_of_text {scan : Scan} {text : List Char} (state : scan.state = .text text.reverse) :
    scan.trailing.map (·.token) = textTokens text := by
  rw [trailing, state]
  rcases List.eq_nil_or_concat text with rfl | ⟨init, last, rfl⟩
  · rfl
  · rw [List.concat_eq_append, List.reverse_append]
    cases init with
    | nil => rfl
    | cons c others => simp [textTokens]

/-- Between two pieces of markup, what renders a row of tokens is read as the row.
The induction is on the row: text, a piece of markup, and what is behind them. -/
theorem finished_of_renders {tokens : List Token} {cs : List Char} (renders : Renders tokens cs)
    {scan : Scan} (state : scan.state = .text []) :
    (cs.foldl step scan).endFault? = none ∧
      (cs.foldl step scan).finished.map (·.token) = scan.shown ++ tokens := by
  induction renders generalizing scan with
  | @text text plain =>
    have reached := (passes_plain plain scan state).1
    have same := (passes_plain plain).shown_eq state
    rw [List.append_nil] at same
    constructor
    · rw [endFault?, reached]
    · rw [finished_eq, List.map_append, trailing_of_text reached, ← same, shown]
  | next plain marks _ inductionHypothesis =>
    obtain ⟨rest, rfl, onward⟩ := passes_of_marks marks
    have passes := (passes_text plain).trans onward
    obtain ⟨ended, all⟩ := inductionHypothesis (passes scan state).1
    rw [passes.shown_eq state, ← List.foldl_append] at all
    rw [← List.foldl_append] at ended
    exact ⟨by simpa using ended, by simpa using all⟩

end Scan

end ExtensionPublisher.Xml
