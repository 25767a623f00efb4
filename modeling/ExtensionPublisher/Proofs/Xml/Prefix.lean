import ExtensionPublisher.Proofs.Result
import ExtensionPublisher.Xml.Tree

/-!
# Documents that are cut off

The beginning of a document is a document only if it holds the whole root element, and then it is the
same document, `of_front`. What stands behind the root changes nothing, and in front of its end the
root is not finished.

The proof follows the two passes. Reading on keeps the tokens that are finished,
`foldl_step_tokens`, so the beginning has the first tokens of the whole, and perhaps some text. A
tree whose root is finished takes in nothing more, `step_of_closed`.
-/
namespace ExtensionPublisher.Xml

/-! ## Tokens that are finished -/

namespace Scan

/-- A character moves the reader on by its bytes. The tokens stay, and one that is finished now ends
no later than the character. -/
theorem step_tokens (scan : Scan) (c : Char) :
    (scan.step c).offset = scan.offset + c.utf8Size ∧
      ∃ added, (scan.step c).tokens = added ++ scan.tokens ∧
        ∀ lexeme ∈ added, lexeme.stop ≤ scan.offset + c.utf8Size := by
  have entered (state : ScanState) : (scan.enter c state).offset = scan.offset + c.utf8Size ∧
      ∃ added, (scan.enter c state).tokens = added ++ scan.tokens ∧
        ∀ lexeme ∈ added, lexeme.stop ≤ scan.offset + c.utf8Size := ⟨rfl, [], rfl, nofun⟩
  have emitted (token : Token) : (scan.emit c token).offset = scan.offset + c.utf8Size ∧
      ∃ added, (scan.emit c token).tokens = added ++ scan.tokens ∧
        ∀ lexeme ∈ added, lexeme.stop ≤ scan.offset + c.utf8Size :=
    ⟨rfl, [_], rfl, by simp⟩
  have decided (token : Except MarkupFault Token) :
      (scan.emitOr c token).offset = scan.offset + c.utf8Size ∧
        ∃ added, (scan.emitOr c token).tokens = added ++ scan.tokens ∧
          ∀ lexeme ∈ added, lexeme.stop ≤ scan.offset + c.utf8Size := by
    cases token with
    | ok token => exact emitted token
    | error fault => exact entered _
  unfold step
  repeat' split
  all_goals first
    | exact entered _
    | exact emitted _
    | exact decided _
    | exact ⟨rfl, [], rfl, nofun⟩
    | exact ⟨rfl, [_], rfl, by simp⟩

/-- Characters move the reader on by their bytes. The tokens stay, and those that are finished now
end no later than the characters. -/
theorem foldl_step_tokens (scan : Scan) (cs : List Char) :
    (cs.foldl step scan).offset = scan.offset + byteCount cs ∧
      ∃ added, (cs.foldl step scan).tokens = added ++ scan.tokens ∧
        ∀ lexeme ∈ added, lexeme.stop ≤ scan.offset + byteCount cs := by
  induction cs generalizing scan with
  | nil => exact ⟨rfl, [], rfl, nofun⟩
  | cons c rest inductionHypothesis =>
    obtain ⟨next, first, kept, early⟩ := scan.step_tokens c
    obtain ⟨last, more, all, late⟩ := inductionHypothesis (scan.step c)
    rw [next] at last late
    rw [byte_count_cons]
    refine ⟨by rw [List.foldl_cons, last, Nat.add_assoc], more ++ first, ?_, ?_⟩
    · rw [List.foldl_cons, all, kept, List.append_assoc]
    · intro lexeme member
      rcases List.mem_append.mp member with new | old
      · have bound := late lexeme new
        omega
      · have bound := early lexeme old
        omega

/-- The text behind the last token. It is no token yet, and becomes one only if the
document ends here. -/
def trailing (scan : Scan) : List Lexeme :=
  match scan.state with
  | .text (c :: read) => [⟨.text (c :: read).reverse, scan.offset⟩]
  | _ => []

/-- All tokens are the finished ones and the text behind them. A beginning of a
document shares the first with it, and not the second. -/
theorem finished_eq (scan : Scan) : scan.finished = scan.tokens.reverse ++ scan.trailing := by
  unfold finished trailing
  cases scan.state with
  | text read => cases read <;> simp
  | _ => simp

end Scan

/-- A beginning has its tokens in front of the others, and they end in it. What the
scanner has finished it does not take back. -/
theorem tokens_of_front (front behind : List Char) :
    (∀ lexeme ∈ (scan front).tokens.reverse, lexeme.stop ≤ byteCount front) ∧
      ∃ more, (scan (front ++ behind)).finished = (scan front).tokens.reverse ++ more := by
  constructor
  · obtain ⟨_, added, all, early⟩ := Scan.foldl_step_tokens {} front
    intro lexeme member
    have tokens : (scan front).tokens = added := by simpa [scan] using all
    have bound := early lexeme (tokens ▸ List.mem_reverse.mp member)
    simpa using bound
  · obtain ⟨_, added, all, _⟩ := Scan.foldl_step_tokens (scan front) behind
    refine ⟨added.reverse ++ (scan (front ++ behind)).trailing, ?_⟩
    rw [Scan.finished_eq, scan_append, all, List.reverse_append, List.append_assoc]

/-! ## The end of the root -/

/-- Where the first outermost element ends, in bytes from the first of the tokens,
at a depth. Only tags are looked at, so this asks nothing of the rest of the
document. -/
def rootStop (depth : Nat) : List Lexeme → Option Nat
  | [] => none
  | lexeme :: rest =>
    match lexeme.token with
    | .opening _ => rootStop (depth + 1) rest
    | .standalone _ => if depth = 0 then some lexeme.stop else rootStop depth rest
    | .closing _ => if depth ≤ 1 then some lexeme.stop else rootStop (depth - 1) rest
    | _ => rootStop depth rest

/-- The bytes of the mark in front of a document. The scanner does not see them and
counts behind them. -/
def markBytes (document : List Char) : Nat :=
  byteCount document - byteCount (withoutMark document)

/-- Where the root of a document ends: the number of bytes up to the end of its last tag. -/
def rootEnd (document : List Char) : Option Nat :=
  (rootStop 0 (lexemes document).1).map (markBytes document + ·)

/-- Tokens behind the root do not move its end, since the search stops there. -/
theorem root_stop_append {depth stop : Nat} {front : List Lexeme}
    (known : rootStop depth front = some stop) (behind : List Lexeme) :
    rootStop depth (front ++ behind) = some stop := by
  induction front generalizing depth with
  | nil => cases known
  | cons lexeme rest inductionHypothesis =>
    simp only [List.cons_append, rootStop] at known ⊢
    split at known
    · exact inductionHypothesis known
    · split at known
      · rw [if_pos ‹_›]
        exact known
      · rw [if_neg ‹_›]
        exact inductionHypothesis known
    · split at known
      · rw [if_pos ‹_›]
        exact known
      · rw [if_neg ‹_›]
        exact inductionHypothesis known
    · exact inductionHypothesis known

namespace Growth

variable {expected : String} {growth next : Growth} {lexeme : Lexeme}

/-- A node changes neither how deep one is nor the root. It is added to the
innermost element, or kept beside the root. -/
theorem add_eq (growth : Growth) (node : Node) :
    (growth.add node).enclosing.length = growth.enclosing.length ∧
      (growth.add node).root = growth.root := by
  unfold add
  split <;> simp_all

/-- A tree whose root is finished takes in nothing more: a tag there is refused, and
other tokens are forgotten. -/
theorem step_of_closed (outermost : growth.enclosing = []) (rooted : growth.root.isSome = true)
    (stepped : growth.step expected lexeme = .ok next) : next = growth := by
  have added (node : Node) : growth.add node = growth := by
    obtain ⟨root, known⟩ := Option.isSome_iff_exists.mp rooted
    simp [add, outermost, known]
  have entered (tag : Tag) : growth.enter expected tag = .error .severalRoots := by
    simp [enter, outermost, rooted]
  unfold step at stepped
  split at stepped
  · split at stepped
    · cases stepped
    · exact (added _ ▸ Except.ok.inj stepped).symm
  · exact (added _ ▸ Except.ok.inj stepped).symm
  · exact (added _ ▸ Except.ok.inj stepped).symm
  · exact (added _ ▸ Except.ok.inj stepped).symm
  · exact (added _ ▸ Except.ok.inj stepped).symm
  · exact (added _ ▸ Except.ok.inj stepped).symm
  · rw [entered] at stepped
    cases stepped
  · rw [entered] at stepped
    cases stepped
  · simp [outermost] at stepped

/-- A tree whose root is finished takes in no tokens but ones that change nothing,
by induction on the tokens. -/
theorem fold_of_closed {lexemes : List Lexeme} (outermost : growth.enclosing = [])
    (rooted : growth.root.isSome = true)
    (grown : lexemes.foldlM (step expected) growth = .ok next) : next = growth := by
  induction lexemes with
  | nil => exact (Except.ok.inj grown).symm
  | cons lexeme rest inductionHypothesis =>
    rw [List.foldlM_cons] at grown
    obtain ⟨between, stepped, later⟩ := ok_of_bind grown
    rw [step_of_closed outermost rooted stepped] at later
    exact inductionHypothesis later

/-- Beginning an element leads one element deeper, and finishes nothing. -/
theorem enter_of_unrooted {tag : Tag} (unrooted : growth.root = none)
    (entered : growth.enter expected tag = .ok next) :
    next.root = none ∧ next.enclosing.length = growth.enclosing.length + 1 := by
  unfold enter at entered
  split at entered
  · cases entered
  · split at entered
    · cases entered
    · obtain rfl := Except.ok.inj entered
      exact ⟨unrooted, rfl⟩

/-- Finishing the outermost element finishes the root, and any other leads one element up. -/
theorem leave_of_unrooted (unrooted : growth.root = none) (deep : 0 < growth.enclosing.length) :
    (growth.enclosing.length = 1 ∧ growth.leave.root.isSome = true) ∨
    (1 < growth.enclosing.length ∧ growth.leave.root = none ∧
      growth.leave.enclosing.length + 1 = growth.enclosing.length) := by
  unfold leave
  split
  · next none => simp [none] at deep
  · next one => exact .inl ⟨by simp [one], rfl⟩
  · next tag content outer others enclosing =>
    obtain ⟨depth, root⟩ := add_eq { growth with enclosing := outer } (.element tag content.reverse)
    have more : 0 < outer.length := List.length_pos_iff.mpr others
    refine .inr ⟨?_, root.trans unrooted, ?_⟩
    · rw [enclosing, List.length_cons]
      omega
    · rw [depth, enclosing, List.length_cons]

/-- A token in front of the end of the root is that end, and then the root is finished, or the end is
still to come, at another depth. -/
theorem step_of_unrooted (unrooted : growth.root = none)
    (stepped : growth.step expected lexeme = .ok next) (rest : List Lexeme) :
    (next.root.isSome = true ∧
      rootStop growth.enclosing.length (lexeme :: rest) = some lexeme.stop) ∨
    (next.root = none ∧
      rootStop growth.enclosing.length (lexeme :: rest) = rootStop next.enclosing.length rest) := by
  have added (node : Node) (same : .ok (growth.add node) = Except.ok (ε := DocumentFault) next) :
      next.root = none ∧ next.enclosing.length = growth.enclosing.length := by
    obtain rfl := Except.ok.inj same
    obtain ⟨depth, root⟩ := growth.add_eq node
    exact ⟨root.trans unrooted, depth⟩
  cases known : lexeme.token with
  | text content =>
    simp only [step, known] at stepped
    split at stepped
    · cases stepped
    · obtain ⟨still, depth⟩ := added _ stepped
      exact .inr ⟨still, by simp only [rootStop, known, depth]⟩
  | verbatim | comment | instruction | declaration | doctype =>
    simp only [step, known] at stepped
    obtain ⟨still, depth⟩ := added _ stepped
    exact .inr ⟨still, by simp only [rootStop, known, depth]⟩
  | opening tag =>
    simp only [step, known] at stepped
    obtain ⟨still, depth⟩ := enter_of_unrooted unrooted stepped
    exact .inr ⟨still, by simp only [rootStop, known, depth]⟩
  | standalone tag =>
    simp only [step, known] at stepped
    obtain ⟨entered, began, left⟩ := ok_of_map stepped
    obtain ⟨still, depth⟩ := enter_of_unrooted unrooted began
    rcases leave_of_unrooted still (by omega) with ⟨one, rooted⟩ | ⟨more, unfinished, shallower⟩
    · exact .inl ⟨left ▸ rooted, by simp only [rootStop, known]; exact if_pos (by omega)⟩
    · refine .inr ⟨left ▸ unfinished, ?_⟩
      have same : next.enclosing.length = growth.enclosing.length := by
        rw [← left]
        omega
      simp only [rootStop, known, same]
      exact if_neg (by omega)
  | closing name =>
    simp only [step, known] at stepped
    split at stepped
    · cases stepped
    · next tag content outer enclosing =>
      split at stepped
      · have deep : 0 < growth.enclosing.length := by simp [enclosing]
        have left := Except.ok.inj stepped
        rcases leave_of_unrooted unrooted deep with ⟨one, rooted⟩ | ⟨more, unfinished, shallower⟩
        · exact .inl ⟨left ▸ rooted, by simp only [rootStop, known]; exact if_pos (by omega)⟩
        · refine .inr ⟨left ▸ unfinished, ?_⟩
          have same : next.enclosing.length = growth.enclosing.length - 1 := by
            rw [← left]
            omega
          simp only [rootStop, known, same]
          exact if_neg (by omega)
      · cases stepped

/-- Where the root is finished, some token was its end. Each token before it hands
the search on to the next one, at the depth that the tree has by then. -/
theorem root_stop_of_grown {lexemes : List Lexeme} (unrooted : growth.root = none)
    (grown : lexemes.foldlM (step expected) growth = .ok next) (rooted : next.root.isSome = true) :
    ∃ lexeme ∈ lexemes, rootStop growth.enclosing.length lexemes = some lexeme.stop := by
  induction lexemes generalizing growth with
  | nil =>
    obtain rfl := Except.ok.inj grown
    simp [unrooted] at rooted
  | cons lexeme rest inductionHypothesis =>
    rw [List.foldlM_cons] at grown
    obtain ⟨between, stepped, later⟩ := ok_of_bind grown
    rcases step_of_unrooted unrooted stepped rest with ⟨_, known⟩ | ⟨still, known⟩
    · exact ⟨lexeme, List.mem_cons_self, known⟩
    · obtain ⟨last, member, found⟩ := inductionHypothesis still later
      exact ⟨last, List.mem_cons_of_mem _ member, known.trans found⟩

/-- The tree of a document is outermost, and its root is finished. Otherwise the
document ends in an element, or has none. -/
theorem closed_of_finish {document : Document} (finished : growth.finish expected = .ok document) :
    growth.enclosing = [] ∧ growth.root.isSome = true := by
  unfold finish at finished
  split at finished
  · cases finished
  · cases finished
  · next outermost rooted => exact ⟨outermost, by simp [rooted]⟩

/-- Text behind the tokens of a document does not change the tree. It is outside the
root, where it has to be blank. -/
theorem closed_before_trailing {scan : Scan} {document : Document}
    (grown : scan.trailing.foldlM (step expected) growth = .ok next)
    (finished : next.finish expected = .ok document) :
    growth.enclosing = [] ∧ growth.root.isSome = true ∧ next = growth := by
  obtain ⟨outermost, rooted⟩ := closed_of_finish finished
  unfold Scan.trailing at grown
  split at grown
  · simp only [List.foldlM_cons, List.foldlM_nil] at grown
    obtain ⟨between, stepped, same⟩ := ok_of_bind grown
    obtain rfl := Except.ok.inj same
    have before : growth.enclosing = [] ∧ growth.root.isSome = true := by
      simp only [step] at stepped
      split at stepped
      · cases stepped
      · obtain rfl := Except.ok.inj stepped
        obtain ⟨depth, root⟩ := growth.add_eq _
        exact ⟨List.length_eq_zero_iff.mp (depth ▸ List.length_eq_zero_iff.mpr outermost),
          root ▸ rooted⟩
    exact ⟨before.1, before.2, step_of_closed before.1 before.2 stepped⟩
  · obtain rfl := Except.ok.inj grown
    exact ⟨outermost, rooted, rfl⟩

end Growth

/-! ## Documents -/

namespace Document

/-- A document is the tree of its tokens, if there is no fault among them. The fault
of a tree comes before that of the tokens, but a document has neither. -/
theorem of_chars_eq_ok_iff {expected : String} {cs : List Char} {document : Document} :
    ofChars expected cs = .ok document ↔
      ∃ growth, (lexemes cs).1.foldlM (Growth.step expected) {} = .ok growth ∧
        (lexemes cs).2 = none ∧ growth.finish expected = .ok document := by
  unfold ofChars
  constructor
  · intro made
    obtain ⟨growth, grown, made⟩ := ok_of_bind made
    split at made
    · cases made
    · next none => exact ⟨growth, grown, none, made⟩
  · rintro ⟨growth, grown, none, finished⟩
    simp [grown, none, finished, bind, Except.bind]

/-- Nothing is no document. This is why a mark in front of a beginning can be spoken
of: the beginning is not empty. -/
theorem of_chars_nil (expected : String) : ofChars expected [] = .error (.noRoot expected) := rfl

/-- A mark in front of a document is in front of its beginning, unless that is
nothing. So the bytes of the mark are the same in both. -/
theorem without_mark_append {front : List Char} (some_ : front ≠ []) (behind : List Char) :
    withoutMark (front ++ behind) = withoutMark front ++ behind ∧
      markBytes (front ++ behind) + byteCount (withoutMark front) = byteCount front := by
  obtain ⟨c, rest, rfl⟩ := List.exists_cons_of_ne_nil some_
  have unmarked : withoutMark (c :: rest ++ behind) = withoutMark (c :: rest) ++ behind := by
    by_cases mark : c = '\uFEFF'
    · subst mark
      rfl
    · simp [withoutMark, mark]
  have fewer : byteCount (withoutMark (c :: rest)) ≤ byteCount (c :: rest) := by
    by_cases mark : c = '\uFEFF'
    · subst mark
      exact Nat.le_add_left _ _
    · simp [withoutMark, mark]
  refine ⟨unmarked, ?_⟩
  rw [markBytes, unmarked, byte_count_append, byte_count_append]
  omega

/-- The beginning of a document that is a document holds the whole root, and it is
the same document. The tokens of the beginning finish a root; the others come behind
it and change nothing, and the end of the root is among the first. -/
theorem of_front {expected : String} {front behind : List Char} {whole document : Document}
    (made : ofChars expected (front ++ behind) = .ok whole)
    (beginning : ofChars expected front = .ok document) :
    document = whole ∧ ∃ stop, rootEnd (front ++ behind) = some stop ∧ stop ≤ byteCount front := by
  have some_ : front ≠ [] := by
    rintro rfl
    rw [of_chars_nil] at beginning
    cases beginning
  obtain ⟨unmarked, bytes⟩ := without_mark_append some_ behind
  obtain ⟨early, more, tokens⟩ := tokens_of_front (withoutMark front) behind
  obtain ⟨grown, grows, _, finished⟩ := of_chars_eq_ok_iff.mp made
  obtain ⟨last, ends, _, done⟩ := of_chars_eq_ok_iff.mp beginning
  simp only [lexemes, unmarked, tokens, Scan.finished_eq, List.foldlM_append] at grows ends
  -- Both trees grow from what the tokens of the beginning make.
  obtain ⟨between, first, behindFirst⟩ := ok_of_bind grows
  obtain ⟨same, again, trailing⟩ := ok_of_bind ends
  obtain rfl : between = same := Except.ok.inj (first.symm.trans again)
  obtain ⟨outermost, rooted, rfl⟩ := Growth.closed_before_trailing trailing done
  obtain rfl := Growth.fold_of_closed outermost rooted behindFirst
  refine ⟨Except.ok.inj (done.symm.trans finished), ?_⟩
  obtain ⟨lexeme, member, stop⟩ := Growth.root_stop_of_grown rfl first rooted
  have bound := early lexeme member
  refine ⟨markBytes (front ++ behind) + lexeme.stop, ?_, by omega⟩
  have found : rootStop 0 (lexemes (front ++ behind)).1 = some lexeme.stop := by
    simp only [lexemes, unmarked, tokens]
    exact root_stop_append stop more
  rw [rootEnd, found, Option.map_some]

/-- The root of a document has an end, as a document is a beginning of itself. -/
theorem root_end_of_made {expected : String} {cs : List Char} {document : Document}
    (made : ofChars expected cs = .ok document) : ∃ stop, rootEnd cs = some stop := by
  have itself : ofChars expected (cs ++ []) = .ok document := by rwa [List.append_nil]
  obtain ⟨_, stop, known, _⟩ := of_front itself made
  exact ⟨stop, by rwa [List.append_nil] at known⟩

example : rootEnd "<a b='>'><a/></a> <!-- c -->".toList = some 17 := by decide

end Document

end ExtensionPublisher.Xml
