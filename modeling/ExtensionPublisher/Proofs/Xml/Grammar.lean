import ExtensionPublisher.Proofs.Xml.Scanned

/-!
# What a document is written as

A grammar of documents that knows nothing of how they are read. Tokens are the content of an element if
each of them is a part of it, or a start tag with the content of a child behind it and then an end tag
of the same name, `Content`. A document is written as one element of the expected name, with nothing
outside it but blanks, asides, document types and verbatim sections, `Document.IsWrittenAs`.

A document is read exactly where it is written, `Document.of_chars_iff`. So a text is written as one
document at most, and what is proved of the tree that is read is proved of the text. One half goes along
the content, which adds its nodes to whatever element it stands in, `Growth.Adds`. The other half goes
along the tokens, and knows of each tree what tokens it has grown from, `Growth.HasTaken`.
-/
namespace ExtensionPublisher.Xml

open Text (isPlainBlank)

/-! ## The grammar -/

/-- The node of a token that is no tag. Tags make nodes only together with what
stands between them. -/
def Token.node? : Token → Option Node
  | .text content => some (.text content)
  | .verbatim content => some (.verbatim content)
  | .comment _ | .instruction _ | .declaration _ => some .aside
  | .doctype _ => some .doctype
  | .opening _ | .standalone _ | .closing _ => none

/-- Tokens and the content of an element that they are. Start tags and end tags are
in pairs here, which the reader finds out token by token. -/
inductive Content : List Token → List Node → Prop where
  | nil : Content [] []
  | node {token : Token} {node : Node} {tokens : List Token} {nodes : List Node}
      (known : token.node? = some node) (behind : Content tokens nodes) :
      Content (token :: tokens) (node :: nodes)
  | standalone {tag : Tag} {tokens : List Token} {nodes : List Node} (behind : Content tokens nodes) :
      Content (.standalone tag :: tokens) (.element tag [] :: nodes)
  | element {tag : Tag} {held tokens : List Token} {inner nodes : List Node}
      (inside : Content held inner) (behind : Content tokens nodes) :
      Content (.opening tag :: held ++ .closing tag.name :: tokens) (.element tag inner :: nodes)

/-- Tokens of one element: a tag by itself, or a start tag and the end tag of its
name around content. -/
inductive IsElement (tag : Tag) : List Token → List Node → Prop where
  | standalone : IsElement tag [.standalone tag] []
  | paired {held : List Token} {inner : List Node} (inside : Content held inner) :
      IsElement tag (.opening tag :: held ++ [.closing tag.name]) inner

/-- Tokens outside the root, and their nodes: no tags, and no text but blanks. -/
inductive Outside : List Token → List Node → Prop where
  | nil : Outside [] []
  | node {token : Token} {node : Node} {tokens : List Token} {nodes : List Node}
      (known : token.node? = some node)
      (blank : ∀ content, token = .text content → content.all isPlainBlank = true)
      (behind : Outside tokens nodes) : Outside (token :: tokens) (node :: nodes)

/-- A text is written as a document: one element of the expected local name, with its surroundings. -/
inductive Document.IsWrittenAs (expected : String) (document : Document) (cs : List Char) : Prop where
  | mk {front root behind : List Token} {below : List Node}
      (renders : Renders (front ++ root ++ behind) (withoutMark cs))
      (prolog : Outside front document.above) (element : IsElement document.tag root document.content)
      (named : localName document.tag.name = expected.toList) (epilog : Outside behind below)

/-- Content goes on with more of it. What is open at the end of the first is closed
there, so the nodes stand one behind the other. -/
theorem Content.append {tokens others : List Token} {nodes more : List Node}
    (content : Content tokens nodes) (behind : Content others more) :
    Content (tokens ++ others) (nodes ++ more) := by
  induction content with
  | nil => exact behind
  | node known _ inductionHypothesis => exact .node known inductionHypothesis
  | standalone _ inductionHypothesis => exact .standalone inductionHypothesis
  | element inside _ _ inductionHypothesis =>
    rw [List.append_assoc, List.cons_append]
    exact .element inside inductionHypothesis

/-- A token that is no tag is content. -/
theorem Content.single {token : Token} {node : Node} (known : token.node? = some node) :
    Content [token] [node] := .node known .nil

/-- An element is content, with no other node beside it. -/
theorem IsElement.content {tag : Tag} {tokens : List Token} {inner : List Node}
    (element : IsElement tag tokens inner) : Content tokens [.element tag inner] := by
  cases element with
  | standalone => exact .standalone .nil
  | paired inside => exact .element inside .nil

/-- What is outside the root goes on with one token more. The reader meets tokens in
their order, while the relation is built from its front. -/
theorem Outside.concat {tokens : List Token} {nodes : List Node} (outside : Outside tokens nodes)
    {token : Token} {node : Node} (known : token.node? = some node)
    (blank : ∀ content, token = .text content → content.all isPlainBlank = true) :
    Outside (tokens ++ [token]) (nodes ++ [node]) := by
  induction outside with
  | nil => exact .node known blank .nil
  | node knownFirst blankFirst _ inductionHypothesis =>
    exact .node knownFirst blankFirst inductionHypothesis

/-! ## What is written is read -/

namespace Growth

variable {expected : String} {growth : Growth}

/-- A token that is no tag adds its node, unless it is text outside the root that is
not blank. Inside the root nothing about the token is asked. -/
theorem step_of_node {token : Token} {node : Node} (known : token.node? = some node)
    (blank : growth.enclosing = [] →
      ∀ content, token = .text content → content.all isPlainBlank = true) (stop : Nat) :
    growth.step expected ⟨token, stop⟩ = .ok (growth.add node) := by
  cases token with
  | text content =>
    obtain rfl := Option.some.inj known
    have permitted : ¬(growth.enclosing.isEmpty ∧ content.any (fun c => !isPlainBlank c)) := by
      rintro ⟨outermost, visible⟩
      have all := blank (List.isEmpty_iff.mp outermost) content rfl
      simp only [List.any_eq_true, Bool.not_eq_true'] at visible
      obtain ⟨c, member, other⟩ := visible
      rw [List.all_eq_true.mp all c member] at other
      cases other
    simp only [step, if_neg permitted]
  | verbatim | comment | instruction | declaration | doctype =>
    obtain rfl := Option.some.inj known
    rfl
  | opening | standalone | closing => cases known

/-- Only text outside the root can be refused, and only if it is not blank. So a
step that succeeds tells that its text was blank. -/
theorem of_step_of_node {token : Token} {node : Node} (known : token.node? = some node) {stop : Nat}
    {next : Growth} (stepped : growth.step expected ⟨token, stop⟩ = .ok next) :
    next = growth.add node ∧ (growth.enclosing = [] →
      ∀ content, token = .text content → content.all isPlainBlank = true) := by
  have blank : growth.enclosing = [] →
      ∀ content, token = .text content → content.all isPlainBlank = true := by
    rintro outermost content rfl
    simp only [step] at stepped
    split at stepped
    · cases stepped
    · next permitted =>
      rw [List.all_eq_true]
      intro c member
      by_cases visible : isPlainBlank c = true
      · exact visible
      · refine absurd ⟨by simp [outermost], List.any_eq_true.mpr ⟨c, member, ?_⟩⟩ permitted
        simpa using visible
  rw [step_of_node known blank] at stepped
  exact ⟨(Except.ok.inj stepped).symm, blank⟩

/-- Inside an element, tokens add nodes to its content and change nothing else. This
holds for whatever encloses the element, so an inner element can use it in the place
of an outer one. -/
def Adds (tokens : List Token) (nodes : List Node) : Prop :=
  ∀ (expected : String) (growth : Growth) (lexemes : List Lexeme) (tag : Tag) (content : List Node)
    (outer : List (Tag × List Node)), lexemes.map (·.token) = tokens →
    growth.enclosing = (tag, content) :: outer →
    lexemes.foldlM (step expected) growth =
      .ok { growth with enclosing := (tag, nodes.reverse ++ content) :: outer }

namespace Adds

variable {first others tokens : List Token} {front behind nodes : List Node}

/-- Tokens next to each other add their nodes one behind the other. The first leave
the reader in the same element, where the others go on. -/
theorem trans (adds : Adds first front) (addsMore : Adds others behind) :
    Adds (first ++ others) (front ++ behind) := by
  intro expected growth lexemes tag content outer shown inside
  obtain ⟨begun, rest, rfl, shownFirst, shownOthers⟩ := List.map_eq_append_iff.mp shown
  rw [List.foldlM_append, adds expected growth begun tag content outer shownFirst inside]
  refine (addsMore expected _ rest tag _ outer shownOthers rfl).trans ?_
  rw [List.reverse_append, List.append_assoc]

/-- A token that is stepped over by adding a node adds it. The end of the token is
kept with it, but no step looks at it. -/
theorem of_token {token : Token} {node : Node}
    (adds : ∀ expected growth stop tag content outer, growth.enclosing = (tag, content) :: outer →
      step expected growth ⟨token, stop⟩ = .ok (growth.add node)) : Adds [token] [node] := by
  intro expected growth lexemes tag content outer shown inside
  obtain ⟨⟨token, stop⟩, rfl, rfl⟩ := List.map_eq_singleton_iff.mp shown
  rw [List.foldlM_cons, adds expected growth stop tag content outer inside]
  simp [add, inside, bind, Except.bind, pure, Except.pure]

/-- Where an element may begin, its start tag and the tokens inside lead to its end tag with what is
inside, and the end tag finishes it. -/
theorem fold_element {tag : Tag} (adds : Adds tokens nodes) {expected : String} {growth : Growth}
    {lexemes : List Lexeme} (shown : lexemes.map (·.token) = .opening tag :: tokens ++ [.closing tag.name])
    (enters : growth.enter expected tag =
      .ok { growth with enclosing := (tag, []) :: growth.enclosing }) :
    lexemes.foldlM (step expected) growth =
      .ok { growth with enclosing := (tag, nodes.reverse) :: growth.enclosing }.leave := by
  obtain ⟨begun, rest, rfl, shownBegun, shownLast⟩ := List.map_eq_append_iff.mp shown
  obtain ⟨⟨_, stop⟩, held, rfl, rfl, shownHeld⟩ := List.map_eq_cons_iff.mp shownBegun
  obtain ⟨⟨_, last⟩, rfl, rfl⟩ := List.map_eq_singleton_iff.mp shownLast
  have entered : step expected growth ⟨.opening tag, stop⟩ =
      .ok { growth with enclosing := (tag, []) :: growth.enclosing } := enters
  have filled := adds expected { growth with enclosing := (tag, []) :: growth.enclosing } held tag []
    growth.enclosing shownHeld rfl
  rw [List.foldlM_append, List.foldlM_cons, entered]
  simp only [bind, Except.bind] at filled ⊢
  rw [filled]
  simp [step, bind, Except.bind, pure, Except.pure]

/-- A start tag, tokens inside and the end tag add an element with what is inside.
Inside of another element any element may begin. -/
theorem element {tag : Tag} (adds : Adds tokens nodes) :
    Adds (.opening tag :: tokens ++ [.closing tag.name]) [.element tag nodes] := by
  intro expected growth lexemes around content outer shown inside
  rw [adds.fold_element shown (by simp [enter, inside])]
  simp [leave, add, inside]

/-- A start tag that is its own end tag adds an empty element: the reader enters and
leaves it in one step. -/
theorem standalone (tag : Tag) : Adds [.standalone tag] [.element tag []] := by
  apply of_token
  intro expected growth stop around content outer inside
  simp [step, enter, inside, leave, add, Except.map]

/-- Content adds its nodes. The induction is on the content, and an element inside
uses what is shown of its own content. -/
theorem of_content (content : Content tokens nodes) : Adds tokens nodes := by
  induction content with
  | nil =>
    intro expected growth lexemes tag content outer shown inside
    obtain rfl := List.map_eq_nil_iff.mp shown
    simp [← inside, pure, Except.pure]
  | node known _ inductionHypothesis =>
    have adds := of_token fun _ _ stop _ _ _ inside => step_of_node known (by simp [inside]) stop
    exact adds.trans inductionHypothesis
  | standalone _ inductionHypothesis => exact (standalone _).trans inductionHypothesis
  | element _ _ insideHypothesis behindHypothesis =>
    simpa using insideHypothesis.element.trans behindHypothesis

end Adds

/-- Tokens of an element that may begin here finish it. That it may begin is given,
as this is asked differently of the root. -/
theorem fold_of_element {tag : Tag} {tokens : List Token} {inner : List Node}
    (element : IsElement tag tokens inner) {lexemes : List Lexeme}
    (shown : lexemes.map (·.token) = tokens)
    (enters : growth.enter expected tag =
      .ok { growth with enclosing := (tag, []) :: growth.enclosing }) :
    lexemes.foldlM (step expected) growth =
      .ok { growth with enclosing := (tag, inner.reverse) :: growth.enclosing }.leave := by
  cases element with
  | paired inside => exact (Adds.of_content inside).fold_element shown enters
  | standalone =>
    obtain ⟨⟨_, stop⟩, rfl, rfl⟩ := List.map_eq_singleton_iff.mp shown
    simp [step, enters, Except.map, bind, Except.bind, pure, Except.pure]

/-- In front of the root, what is outside it is kept, the last node first. -/
theorem fold_of_prolog {tokens : List Token} {nodes : List Node} (outside : Outside tokens nodes)
    (outermost : growth.enclosing = []) (unrooted : growth.root = none) {lexemes : List Lexeme}
    (shown : lexemes.map (·.token) = tokens) :
    lexemes.foldlM (step expected) growth =
      .ok { growth with above := nodes.reverse ++ growth.above } := by
  induction outside generalizing growth lexemes with
  | nil =>
    obtain rfl := List.map_eq_nil_iff.mp shown
    rfl
  | @node _ node _ nodes known blank _ inductionHypothesis =>
    obtain ⟨lexeme, rest, rfl, rfl, shownRest⟩ := List.map_eq_cons_iff.mp shown
    have stepped : growth.step expected lexeme = .ok { growth with above := node :: growth.above } := by
      rw [step_of_node known (fun _ => blank), add, outermost, unrooted]
    have onward : rest.foldlM (step expected) { growth with above := node :: growth.above } =
        .ok { growth with above := nodes.reverse ++ node :: growth.above } :=
      @inductionHypothesis { growth with above := node :: growth.above } outermost unrooted rest shownRest
    rw [List.foldlM_cons, stepped, List.reverse_cons, List.append_assoc]
    exact onward

/-- Behind the root, what is outside it is forgotten. It still has to be blank where
it is text. -/
theorem fold_of_epilog {tokens : List Token} {nodes : List Node} (outside : Outside tokens nodes)
    (outermost : growth.enclosing = []) (rooted : growth.root.isSome = true) {lexemes : List Lexeme}
    (shown : lexemes.map (·.token) = tokens) :
    lexemes.foldlM (step expected) growth = .ok growth := by
  induction outside generalizing lexemes with
  | nil =>
    obtain rfl := List.map_eq_nil_iff.mp shown
    rfl
  | @node _ node _ _ known blank _ inductionHypothesis =>
    obtain ⟨lexeme, rest, rfl, rfl, shownRest⟩ := List.map_eq_cons_iff.mp shown
    obtain ⟨root, finished⟩ := Option.isSome_iff_exists.mp rooted
    have stepped : growth.step expected lexeme = .ok growth := by
      rw [step_of_node known (fun _ => blank), add, outermost, finished]
    rw [List.foldlM_cons, stepped]
    exact inductionHypothesis shownRest

end Growth

/-- What is written as a document is read as it. The tokens are read in three runs:
in front of the root, the root itself, and behind it. -/
theorem Document.of_chars_of_written {expected : String} {document : Document} {cs : List Char}
    (written : document.IsWrittenAs expected cs) : ofChars expected cs = .ok document := by
  obtain ⟨renders, prolog, element, named, epilog⟩ := written
  obtain ⟨ended, shown⟩ := lexemes_iff.mpr renders
  obtain ⟨begun, last, all, shownBegun, shownLast⟩ := List.map_eq_append_iff.mp shown
  obtain ⟨first, root, rfl, shownFirst, shownRoot⟩ := List.map_eq_append_iff.mp shownBegun
  let before : Growth := { above := document.above.reverse }
  let behind : Growth := { before with root := some (document.tag, document.content) }
  have fronted : first.foldlM (Growth.step expected) {} = .ok before := by
    have grown : first.foldlM (Growth.step expected) {} =
        .ok { above := document.above.reverse ++ [] } := Growth.fold_of_prolog prolog rfl rfl shownFirst
    rwa [List.append_nil] at grown
  have rooted : root.foldlM (Growth.step expected) before = .ok behind := by
    have enters : before.enter expected document.tag =
        .ok { before with enclosing := (document.tag, []) :: before.enclosing } := by
      simp [Growth.enter, before, named]
    rw [Growth.fold_of_element element shownRoot enters]
    simp [Growth.leave, before, behind]
  have passed : last.foldlM (Growth.step expected) behind = .ok behind :=
    Growth.fold_of_epilog epilog rfl rfl shownLast
  rw [of_chars_eq_ok_iff]
  refine ⟨behind, ?_, ended, ?_⟩
  · rw [all, List.foldlM_append, List.foldlM_append, fronted]
    simp only [bind, Except.bind, rooted, passed]
  · simp [Growth.finish, behind, before]

/-! ## What is read was written -/

/-- The tokens behind the root's start tag, by the unfinished elements: the content of each so far, with
the start tags between them. -/
inductive Unfinished (expected : String) : List Token → List (Tag × List Node) → Prop where
  | root {tag : Tag} {held : List Token} {inner : List Node}
      (named : localName tag.name = expected.toList) (inside : Content held inner) :
      Unfinished expected (.opening tag :: held) [(tag, inner.reverse)]
  | child {tokens held : List Token} {enclosing : List (Tag × List Node)} {tag : Tag} {inner : List Node}
      (outer : Unfinished expected tokens enclosing) (inside : Content held inner) :
      Unfinished expected (tokens ++ .opening tag :: held) ((tag, inner.reverse) :: enclosing)

/-- There is an unfinished element, and it takes in content. The others stay as they
are until it is closed. -/
theorem Unfinished.add {expected : String} {tokens : List Token} {enclosing : List (Tag × List Node)}
    (unfinished : Unfinished expected tokens enclosing) {more : List Token} {nodes : List Node}
    (content : Content more nodes) :
    ∃ tag inner outer, enclosing = (tag, inner) :: outer ∧
      Unfinished expected (tokens ++ more) ((tag, nodes.reverse ++ inner) :: outer) := by
  cases unfinished with
  | root named inside =>
    refine ⟨_, _, _, rfl, ?_⟩
    rw [← List.reverse_append]
    exact .root named (inside.append content)
  | child outer inside =>
    refine ⟨_, _, _, rfl, ?_⟩
    rw [← List.reverse_append, List.append_assoc]
    exact .child outer (inside.append content)

namespace Growth

/-- What tokens a tree has grown from: what is outside the root, in front of it or on either side, and
an unfinished root or a finished one. -/
inductive HasTaken (expected : String) : List Token → Growth → Prop where
  | above {front : List Token} {nodes : List Node} (prolog : Outside front nodes) :
      HasTaken expected front { above := nodes.reverse }
  | within {front tokens : List Token} {nodes : List Node} {enclosing : List (Tag × List Node)}
      (prolog : Outside front nodes) (unfinished : Unfinished expected tokens enclosing) :
      HasTaken expected (front ++ tokens) { enclosing, above := nodes.reverse }
  | behind {front root after : List Token} {nodes below : List Node} {tag : Tag} {inner : List Node}
      (prolog : Outside front nodes) (element : IsElement tag root inner)
      (named : localName tag.name = expected.toList) (epilog : Outside after below) :
      HasTaken expected (front ++ root ++ after) { above := nodes.reverse, root := some (tag, inner) }

variable {expected : String} {tokens : List Token} {growth next : Growth} {stop : Nat}

/-- A token that is no tag is taken in, on whichever side of the root or inside of
it. -/
theorem HasTaken.node (taken : HasTaken expected tokens growth) {token : Token} {node : Node}
    (known : token.node? = some node) (stepped : growth.step expected ⟨token, stop⟩ = .ok next) :
    HasTaken expected (tokens ++ [token]) next := by
  obtain ⟨rfl, blank⟩ := of_step_of_node known stepped
  cases taken with
  | @above _ nodes prolog =>
    have grown : HasTaken expected _ _ := .above (prolog.concat known (blank rfl))
    rwa [List.reverse_append] at grown
  | within prolog unfinished =>
    obtain ⟨tag, inner, outer, rfl, more⟩ := unfinished.add (.single known)
    rw [List.append_assoc]
    exact .within prolog more
  | behind prolog element named epilog =>
    rw [List.append_assoc]
    exact .behind prolog element named (epilog.concat known (blank rfl))

/-- Where an element may begin, nothing is finished, and outside of the others it is
the root. A second root or another name is refused. -/
theorem of_enter {tag : Tag} (entered : growth.enter expected tag = .ok next) :
    next = { growth with enclosing := (tag, []) :: growth.enclosing } ∧
      (growth.enclosing = [] → growth.root = none ∧ localName tag.name = expected.toList) := by
  unfold enter at entered
  split at entered
  · cases entered
  · next single =>
    split at entered
    · cases entered
    · next named =>
      refine ⟨(Except.ok.inj entered).symm, fun outermost => ?_⟩
      simp only [outermost, List.isEmpty_nil, true_and] at single named
      exact ⟨by simpa using single, Decidable.not_not.mp named⟩

/-- A start tag is taken in. It begins the root, or a child of the innermost
unfinished element. -/
theorem HasTaken.opening (taken : HasTaken expected tokens growth) {tag : Tag}
    (entered : growth.enter expected tag = .ok next) :
    HasTaken expected (tokens ++ [.opening tag]) next := by
  obtain ⟨rfl, root⟩ := of_enter entered
  cases taken with
  | above prolog => exact .within prolog (.root (root rfl).2 .nil)
  | within prolog unfinished =>
    rw [List.append_assoc]
    exact .within prolog (.child unfinished .nil)
  | behind => cases (root rfl).1

/-- A whole element is taken in. Outside of the others it is the finished root, and
inside of them it is content. -/
theorem HasTaken.element (taken : HasTaken expected tokens growth) {tag : Tag} {more : List Token}
    {inner : List Node} (element : IsElement tag more inner)
    (root : growth.enclosing = [] → growth.root = none ∧ localName tag.name = expected.toList) :
    HasTaken expected (tokens ++ more)
      { growth with enclosing := (tag, inner.reverse) :: growth.enclosing }.leave := by
  cases taken with
  | above prolog =>
    have grown : HasTaken expected _ _ := .behind prolog element (root rfl).2 .nil
    simpa [leave] using grown
  | within prolog unfinished =>
    obtain ⟨outerTag, content, outer, rfl, longer⟩ := unfinished.add element.content
    have grown : HasTaken expected _ _ := .within prolog longer
    simpa [leave, add] using grown
  | behind => cases (root rfl).1

/-- The end tag of the innermost unfinished element is taken in. The element becomes
content of the one around it, or the root. -/
theorem HasTaken.closing (taken : HasTaken expected tokens growth) {tag : Tag} {content : List Node}
    {outer : List (Tag × List Node)} (innermost : growth.enclosing = (tag, content) :: outer) :
    HasTaken expected (tokens ++ [.closing tag.name]) growth.leave := by
  cases taken with
  | above => cases innermost
  | behind => cases innermost
  | @within front _ nodes _ prolog unfinished =>
    -- The element is taken in as a whole by the tree in front of its start tag.
    cases unfinished with
    | @root tag held inner named inside =>
      obtain ⟨same, rfl⟩ := List.cons.inj innermost
      obtain ⟨rfl, rfl⟩ := Prod.mk.inj same
      have before : HasTaken expected front { above := nodes.reverse } := .above prolog
      have element : IsElement tag (.opening tag :: held ++ [.closing tag.name]) inner := .paired inside
      have grown := before.element element fun _ => ⟨rfl, named⟩
      rwa [List.append_assoc]
    | @child tokens held enclosing tag inner outer inside =>
      obtain ⟨same, rfl⟩ := List.cons.inj innermost
      obtain ⟨rfl, rfl⟩ := Prod.mk.inj same
      have before : HasTaken expected (front ++ tokens) { enclosing, above := nodes.reverse } :=
        .within prolog outer
      have element : IsElement tag (.opening tag :: held ++ [.closing tag.name]) inner := .paired inside
      obtain ⟨_, _, _, around, _⟩ := outer.add .nil
      have grown := before.element element fun none => by simp [around] at none
      rw [List.append_assoc] at grown ⊢
      rwa [List.append_assoc]

/-- A token that is read is taken in: an invariant of the reader, with one case for
each kind of token. -/
theorem HasTaken.step (taken : HasTaken expected tokens growth) {lexeme : Lexeme}
    (stepped : growth.step expected lexeme = .ok next) :
    HasTaken expected (tokens ++ [lexeme.token]) next := by
  obtain ⟨token, stop⟩ := lexeme
  cases token with
  | text | verbatim | comment | instruction | declaration | doctype => exact taken.node rfl stepped
  | opening tag => exact taken.opening stepped
  | standalone tag =>
    obtain ⟨entered, enters, rfl⟩ := ok_of_map stepped
    obtain ⟨rfl, root⟩ := of_enter enters
    exact taken.element .standalone root
  | closing name =>
    simp only [Growth.step] at stepped
    split at stepped
    · cases stepped
    · next tag content outer innermost =>
      split at stepped
      · next named =>
        obtain rfl := Except.ok.inj stepped
        exact named ▸ taken.closing innermost
      · cases stepped

/-- Tokens that are read are taken in, by induction on them with the invariant of
one step. -/
theorem HasTaken.fold (taken : HasTaken expected tokens growth) {lexemes : List Lexeme}
    (grown : lexemes.foldlM (Growth.step expected) growth = .ok next) :
    HasTaken expected (tokens ++ lexemes.map (·.token)) next := by
  induction lexemes generalizing growth tokens with
  | nil =>
    obtain rfl := Except.ok.inj grown
    rwa [List.map_nil, List.append_nil]
  | cons lexeme rest inductionHypothesis =>
    rw [List.foldlM_cons] at grown
    obtain ⟨between, stepped, later⟩ := ok_of_bind grown
    have whole := inductionHypothesis (taken.step stepped) later
    rwa [List.append_assoc] at whole

end Growth

/-- A text is read as a document exactly where it is written as the document. From
the text to the document the reader is followed through the three runs of tokens;
back, the invariant says from what tokens the tree has grown. -/
theorem Document.of_chars_iff {expected : String} {document : Document} {cs : List Char} :
    ofChars expected cs = .ok document ↔ document.IsWrittenAs expected cs := by
  constructor
  · intro made
    obtain ⟨growth, grown, ended, finished⟩ := of_chars_eq_ok_iff.mp made
    have renders := lexemes_iff.mp ⟨ended, rfl⟩
    have nothing : Growth.HasTaken expected [] {} := .above .nil
    have taken := nothing.fold grown
    obtain ⟨outermost, rooted⟩ := Growth.closed_of_finish finished
    generalize shown : [] ++ (lexemes cs).1.map (·.token) = tokens at taken
    rw [← List.nil_append ((lexemes cs).1.map _), shown] at renders
    cases taken with
    | above => cases rooted
    | within => cases rooted
    | behind prolog element named epilog =>
      rw [Growth.finish] at finished
      obtain rfl := Except.ok.inj finished
      refine .mk renders ?_ element named epilog
      simpa using prolog
  · exact of_chars_of_written

/-- A text is written as one document at most, because the reader gives one answer.
The grammar by itself does not show this. -/
theorem Document.unique_of_written {expected : String} {document other : Document} {cs : List Char}
    (written : document.IsWrittenAs expected cs) (otherWritten : other.IsWrittenAs expected cs) :
    document = other :=
  Except.ok.inj ((of_chars_iff.mpr written).symm.trans (of_chars_iff.mpr otherWritten))

/-- What is checked of the document that is read holds of the one that is written.
The check is evaluated, so this serves fixed texts. -/
theorem Document.written_of_any {expected : String} {cs : List Char} {check : Document → Bool}
    (checked : (ofChars expected cs).toOption.any check = true) :
    ∃ document : Document, document.IsWrittenAs expected cs ∧ check document = true := by
  cases made : ofChars expected cs with
  | error fault => simp [made, Except.toOption] at checked
  | ok document =>
    rw [made] at checked
    exact ⟨document, of_chars_iff.mp made, checked⟩

end ExtensionPublisher.Xml
