import ExtensionPublisher.Proofs.Answer.Truncation
import ExtensionPublisher.Proofs.Xml.Grammar
import ExtensionPublisher.Proofs.Xml.Records
import Mathlib.Data.List.DropRight

/-!
# Answers have one root

A text that is read as an answer is one element of the expected name, in which every start tag has its
end tag. What may stand outside is said token by token, `HasOneRoot`: on either side blanks, comments,
instructions, declarations and document types, and none of them says anything.

Text in front of the root is refused, however it is written, and so is plain text behind it. A verbatim
section behind the root is text as well, but it is passed over: an answer has nothing that speaks
outside its root exactly if there is no such section behind its last tag, `answers_have_one_root`.
-/
namespace ExtensionPublisher

open Text (isPlainBlank)

namespace Xml

/-! ## What speaks -/

/-- Whether a token is a tag. -/
def Token.isTag : Token → Bool
  | .opening _ | .standalone _ | .closing _ => true
  | _ => false

/-- Whether a token is text that stands for itself. Such text is no blank, even
where there are only blanks in it. -/
def Token.isVerbatim : Token → Bool
  | .verbatim _ => true
  | _ => false

/-- Whether a token says nothing: markup that is neither a tag nor text, or text that is blank. -/
def Token.isMute : Token → Bool
  | .text content => content.all isPlainBlank
  | .comment _ | .instruction _ | .declaration _ | .doctype _ => true
  | .verbatim _ | .opening _ | .standalone _ | .closing _ => false

/-- A text is one element of some local name. In front of it nothing speaks, and behind it is only what
is permitted there. A byte order mark at the beginning is no part of it. -/
inductive HasOneRoot (root : String) (permitted : Token → Bool) (cs : List Char) : Prop where
  | mk {front element behind : List Token} {tag : Tag} {content : List Node}
      (renders : Renders (front ++ element ++ behind) (withoutMark cs))
      (single : IsElement tag element content) (named : localName tag.name = root.toList)
      (above : ∀ token ∈ front, token.isMute = true)
      (below : ∀ token ∈ behind, permitted token = true)

/-- The tokens of a text behind its last tag. They are found by the scanner alone,
without looking for the root. -/
def tokensBehind (cs : List Char) : List Token :=
  ((lexemes cs).1.map (·.token)).rtakeWhile fun token => !token.isTag

/-- What is outside the root says nothing, verbatim sections apart. The grammar asks
blanks only of texts, and a verbatim section is none. -/
theorem Outside.mute_or_verbatim {tokens : List Token} {nodes : List Node}
    (outside : Outside tokens nodes) :
    ∀ token ∈ tokens, (token.isMute || token.isVerbatim) = true := by
  induction outside with
  | nil => exact nofun
  | @node token _ _ _ known blank _ inductionHypothesis =>
    rw [List.forall_mem_cons]
    refine ⟨?_, inductionHypothesis⟩
    cases token with
    | text content => simpa [Token.isMute, Token.isVerbatim] using blank content rfl
    | verbatim | comment | instruction | declaration | doctype => rfl
    | opening | standalone | closing => cases known

/-- A verbatim section outside the root is kept among the nodes. -/
theorem Outside.verbatim_mem {tokens : List Token} {nodes : List Node}
    (outside : Outside tokens nodes) {said : List Char} (member : .verbatim said ∈ tokens) :
    .verbatim said ∈ nodes := by
  induction outside with
  | nil => cases member
  | node known _ _ inductionHypothesis =>
    rcases List.mem_cons.mp member with rfl | later
    · obtain rfl := Option.some.inj known
      exact List.mem_cons_self
    · exact List.mem_cons_of_mem _ (inductionHypothesis later)

/-- There are no elements outside the root, because no token there is a tag. -/
theorem Outside.childless {tokens : List Token} {nodes : List Node} (outside : Outside tokens nodes) :
    elements nodes = [] := by
  induction outside with
  | nil => rfl
  | @node token _ _ _ known _ _ inductionHypothesis =>
    cases token with
    | opening | standalone | closing => cases known
    | _ =>
      obtain rfl := Option.some.inj known
      exact inductionHypothesis

/-! ## In front of the root -/

/-- A verbatim section is kept, whatever layout is in front of it. So a run with one
is never empty. -/
theorem without_lead_ne_nil {pieces : List Piece} {said : List Char}
    (member : .verbatim said ∈ pieces) : withoutLead pieces ≠ [] := by
  induction pieces with
  | nil => cases member
  | cons piece rest inductionHypothesis =>
    cases piece with
    | verbatim content => simp [withoutLead]
    | plain content =>
      rw [withoutLead]
      split
      · exact inductionHypothesis (by simpa using member)
      · simp

/-- A node that is no document type is in one of the stretches between document
types. Dividing content there drops only the document types. -/
theorem exists_stretch {content : List Node} {node : Node} (member : node ∈ content)
    (inside : node.isDoctype = false) : ∃ stretch ∈ content.splitOnP Node.isDoctype, node ∈ stretch := by
  induction content with
  | nil => cases member
  | cons first rest inductionHypothesis =>
    rw [List.splitOnP_cons_eq_if_modifyHead]
    rcases List.mem_cons.mp member with rfl | later
    · rw [inside]
      rcases known : rest.splitOnP Node.isDoctype with _ | ⟨stretch, others⟩
      · exact (List.splitOnP_ne_nil _ _ known).elim
      · exact ⟨_, List.mem_cons_self, List.mem_cons_self⟩
    · obtain ⟨stretch, met, within⟩ := inductionHypothesis later
      split
      · exact ⟨stretch, List.mem_cons_of_mem _ met, within⟩
      · rcases known : rest.splitOnP Node.isDoctype with _ | ⟨head, others⟩
        · exact (List.splitOnP_ne_nil _ _ known).elim
        · rw [known] at met
          rcases List.mem_cons.mp met with rfl | other
          · exact ⟨_, List.mem_cons_self, List.mem_cons_of_mem _ within⟩
          · exact ⟨stretch, List.mem_cons_of_mem _ other, within⟩

/-- Among nodes without a run of text there is no verbatim section. It would make a
run of the stretch it is in. -/
theorem not_verbatim_of_silent {content : List Node} (silent : runs content = []) (said : List Char) :
    .verbatim said ∉ content := by
  intro member
  obtain ⟨stretch, met, within⟩ := exists_stretch member rfl
  have piece : .verbatim said ∈ stretch.filterMap Node.piece? := List.mem_filterMap.mpr ⟨_, within, rfl⟩
  rw [runs, runsOf, List.filter_eq_nil_iff] at silent
  have nothing := silent _ (List.mem_map_of_mem met)
  exact without_lead_ne_nil piece (by simpa using nothing)

/-- What is outside the root says nothing if there is no run of text. Only a
verbatim section could speak there, and it is a run. -/
theorem Outside.mute_of_silent {tokens : List Token} {nodes : List Node}
    (outside : Outside tokens nodes) (silent : runs nodes = []) :
    ∀ token ∈ tokens, token.isMute = true := by
  intro token member
  have known := outside.mute_or_verbatim token member
  cases token with
  | verbatim said => exact absurd (outside.verbatim_mem member) (not_verbatim_of_silent silent said)
  | _ => simpa [Token.isVerbatim] using known

/-! ## Behind the root -/

/-- A token that says nothing is no tag, and neither is a verbatim section. -/
theorem not_tag_of_mute_or_verbatim {token : Token}
    (outside : (token.isMute || token.isVerbatim) = true) : token.isTag = false := by
  cases token with
  | opening | standalone | closing => cases outside
  | _ => rfl

/-- The last token of an element is a tag: the only one, or the end tag. -/
theorem IsElement.exists_last {tag : Tag} {tokens : List Token} {content : List Node}
    (element : IsElement tag tokens content) :
    ∃ others last, tokens = others ++ [last] ∧ last.isTag = true := by
  cases element with
  | standalone => exact ⟨[], _, rfl, rfl⟩
  | paired => exact ⟨_, _, rfl, rfl⟩

/-- What stands behind the root is what stands behind the last tag. The root ends in
a tag, and behind it there is none. -/
theorem tokens_behind_of_renders {cs : List Char} {front element behind : List Token} {tag : Tag}
    {content : List Node} (renders : Renders (front ++ element ++ behind) (withoutMark cs))
    (single : IsElement tag element content) (plain : ∀ token ∈ behind, token.isTag = false) :
    tokensBehind cs = behind := by
  obtain ⟨_, shown⟩ := lexemes_iff.mpr renders
  obtain ⟨others, last, rfl, isTag⟩ := single.exists_last
  have all : ∀ token ∈ behind.reverse, (!token.isTag) = true := by
    intro token member
    simp [plain token (List.mem_reverse.mp member)]
  rw [tokensBehind, shown, List.rtakeWhile, List.reverse_append, List.takeWhile_append_of_pos all]
  simp [isTag]

/-- Where nothing speaks outside the root, there is no verbatim section behind the
last tag, as these tokens are the same. -/
theorem HasOneRoot.not_verbatim {root : String} {cs : List Char}
    (rooted : HasOneRoot root Token.isMute cs) : ∀ token ∈ tokensBehind cs, token.isVerbatim = false := by
  obtain ⟨renders, single, _, _, below⟩ := rooted
  rw [tokens_behind_of_renders renders single fun token member =>
    not_tag_of_mute_or_verbatim (by simp [below token member])]
  intro token member
  have mute := below token member
  cases token with
  | verbatim => cases mute
  | _ => rfl

end Xml

/-! ## Answers -/

open Xml (Document HasOneRoot Token tokensBehind)

/-- What is read in a text has one root there. Nothing speaks outside it but verbatim sections behind
it, and none of these either exactly if none is behind the last tag. -/
def IsReadInRoot {α : Type} (read : String → Except AnswerFault α) (root text : String) : Prop :=
  ∀ value, decode read text = .ok value →
    HasOneRoot root (fun token => token.isMute || token.isVerbatim) text.toList ∧
    (HasOneRoot root Token.isMute text.toList ↔
      ∀ token ∈ tokensBehind text.toList, token.isVerbatim = false)

/-- What is read as an answer has one root. In front of it a verbatim section would
be text that the reader refuses; behind it the reader does not look. -/
theorem rooted_of_answer {α : Type} {root kind text : String}
    {read : Xml.Scope → Xml.Tag → List Xml.Node → Except Xml.RecordFault α} {value : α}
    (answered : readAnswer root kind read text = .ok value) :
    HasOneRoot root (fun token => token.isMute || token.isVerbatim) text.toList ∧
    (HasOneRoot root Token.isMute text.toList ↔
      ∀ token ∈ tokensBehind text.toList, token.isVerbatim = false) := by
  obtain ⟨document, made, later⟩ := ok_of_bind answered
  obtain ⟨renders, prolog, single, named, epilog⟩ := Document.of_chars_iff.mp (ok_of_map_error made)
  have silent := Xml.silent_of_read prolog.childless (ok_of_map_error later)
  have below := epilog.mute_or_verbatim
  have above := prolog.mute_of_silent silent
  refine ⟨.mk renders single named above below, HasOneRoot.not_verbatim, ?_⟩
  intro quiet
  rw [Xml.tokens_behind_of_renders renders single fun token member =>
    Xml.not_tag_of_mute_or_verbatim (below token member)] at quiet
  refine .mk renders single named above ?_
  intro token member
  simpa [quiet token member] using below token member

/-- Answers have one root. A text that is read as a list of versions, as a list of replication states or
as a report is one element of the expected name, with every start tag in it closed by an end tag of its
name. Outside of it are only blanks, comments, instructions, declarations and document types, and behind
it perhaps verbatim sections. None of these is there exactly if none is behind the last tag. -/
theorem answers_have_one_root (text : String) :
    IsReadInRoot PublishedVersion.readAll "ExtensionImages" text ∧
    IsReadInRoot Replication.readAll "ReplicationStatusList" text ∧
    IsReadInRoot OperationReport.read "Operation" text := by
  refine ⟨?_, ?_, ?_⟩
  · intro published known
    exact rooted_of_answer (ok_of_map_error known)
  · intro states known
    exact rooted_of_answer (ok_of_map_error known)
  · intro report known
    obtain ⟨_, answered, _⟩ := ok_of_bind (ok_of_map_error known)
    exact rooted_of_answer answered

/-- A list between a declaration and an instruction, with a byte order mark in front of it and a form
feed behind it, has nothing that speaks outside its root. -/
theorem surrounded_list_has_one_root :
    HasOneRoot "ReplicationStatusList" Token.isMute
      ("\uFEFF<?xml version='1.0'?><!-- a --><!DOCTYPE a>\n<s:ReplicationStatusList>b" ++
        "</s:ReplicationStatusList >\x0c<?c?>").toList := by
  have read : decode Replication.readAll
      ("\uFEFF<?xml version='1.0'?><!-- a --><!DOCTYPE a>\n<s:ReplicationStatusList>b" ++
        "</s:ReplicationStatusList >\x0c<?c?>") = .ok [] := by
    decide +kernel
  exact ((answers_have_one_root _).2.1 _ read).2.mpr (by decide +kernel)

/-- A report with a verbatim section behind its root is read, although there is text outside the root. -/
theorem text_behind_root_is_read :
    decode OperationReport.read
        "<Operation><Status>Succeeded</Status></Operation><![CDATA[x]]>" = .ok .succeeded ∧
      ¬HasOneRoot "Operation" Token.isMute
        "<Operation><Status>Succeeded</Status></Operation><![CDATA[x]]>".toList := by
  refine ⟨rfl, ?_⟩
  intro rooted
  exact absurd rooted.not_verbatim (by decide +kernel)

end ExtensionPublisher
