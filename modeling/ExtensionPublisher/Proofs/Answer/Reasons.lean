import ExtensionPublisher.Proofs.Answer.Arrangement
import ExtensionPublisher.Proofs.Answer.Complete

/-!
# Refusals are reported faithfully

A response that is refused becomes a fault with its status, a code and a message. A body that is read
as a document of reasons gives its own code and message, each empty where it is absent. Any other body
is its own message: what is left of it without the blanks around it, cut to a length that is fit to be
shown. Whether asking again may help is told by the status, whatever the body is:
`refusal_is_reported_faithfully`.

Reasons that are written down and refused with come back as they are, however long. What is read of the
body decides all of this, and so a document type that divides a code or a message leaves no fault at
all. There the reader fails itself, `divided_reasons_are_not_reported`.
-/
namespace ExtensionPublisher

open Text (isBlank isLayout isTight trim)
open Xml (children Document enclosed IsDivided Node writtenChild)

/-! ## Bodies that are shown -/

/-- A text is shown by the longest beginning of what is left of it without the blanks around it, among
those of a bounded length. -/
inductive IsExcerpt (bound : Nat) (whole shown : List Char) : Prop where
  | mk {before core after : List Char} (same : whole = before ++ core ++ after)
      (front : ∀ c ∈ before, isBlank c = true) (back : ∀ c ∈ after, isBlank c = true)
      (tight : isTight isBlank core = true) (begins : shown <+: core)
      (longest : shown.length = min bound core.length)

/-- Trimming and cutting shows a text. What is trimmed off is blank, and what is
left begins and ends with something else. -/
theorem excerpt_of_take (bound : Nat) (whole : List Char) :
    IsExcerpt bound whole ((trim isBlank whole).take bound) := by
  obtain ⟨before, after, same, front, back⟩ := Text.exists_append_trim isBlank whole
  have tight : isTight isBlank (trim isBlank whole) = true :=
    Text.trim_eq_self_iff.mp (Text.trim_trim (fun _ blank => blank) whole)
  exact .mk same front back tight (List.take_prefix ..) List.length_take

namespace Rejection

/-! ## Reasons in a document -/

/-- The content of a document gives reasons: its own children say the code and the message, and what
they do not say is empty. -/
structure IsDescribed (content : List Node) (reasons : Rejection) : Prop where
  code : ∃ text?, Bears "Code" content text? ∧ text?.getD "" = reasons.code
  message : ∃ text?, Bears "Message" content text? ∧ text?.getD "" = reasons.message

/-- Reasons that are read are described by the content they are read in. Both fields
may be missing, and then stand for the empty text. -/
theorem described_of_read {scope : Xml.Scope} {tag : Xml.Tag} {content : List Node}
    {reasons : Rejection} (read : readElement scope tag content = .ok reasons) :
    IsDescribed content reasons := by
  obtain ⟨found, record, described⟩ := ok_of_bind read
  have bears (name : String) (member : Xml.Field.text name ∈ fields) :
      Bears name content (found.lookup name) :=
    (bears_of_read_record (by decide) record member).1
  obtain rfl := Except.ok.inj described
  constructor
  case code => exact ⟨_, bears "Code" (by simp [fields]), rfl⟩
  case message => exact ⟨_, bears "Message" (by simp [fields]), rfl⟩

/-- Where the reader of reasons fails itself, a document type divides one of its
texts. Putting the reasons together never fails. -/
theorem divided_of_read {scope : Xml.Scope} {tag : Xml.Tag} {content : List Node}
    (failed : readElement scope tag content = .error .dividedText) :
    ∃ name ∈ fields.map (·.name), ∃ child ∈ children name content, IsDivided child.2 := by
  refine divided_of_read_record ?texts ?sound failed
  case sound => exact fun found broken => nomatch broken
  case texts =>
    intro field member scope tag content failed
    simp only [fields, List.mem_cons, List.not_mem_nil, or_false] at member
    rcases member with rfl | rfl
    · exact divided_of_field (by simp) failed
    · exact divided_of_field (by simp) failed

/-- The document of reasons, with its texts escaped. -/
def written (reasons : Rejection) : String :=
  String.ofList (enclosed "Error"
    (writtenChild ("Code", reasons.code) ++ writtenChild ("Message", reasons.message)))

/-- The document of reasons is one of their arrangements: nothing is left out, moved
or put between. -/
theorem arranged_of_written (reasons : Rejection) :
    reasons.IsArranged
      (writtenChild ("Code", reasons.code) ++ writtenChild ("Message", reasons.message)) := by
  refine .mk (.written _) (.written _) (.mk (.refl _) (.own (.own .nil)) ?_)
  simpa using Xml.spaced_flatten
    [writtenChild ("Code", reasons.code), writtenChild ("Message", reasons.message)]

end Rejection

/-! ## Refused responses -/

/-- A fault reports that a request was refused with a status and for some reasons. The status alone
tells whether asking again may help. -/
structure Fault.Reports (fault : Fault) (status : Nat) (reasons : Rejection) : Prop where
  same : fault = .rejected status reasons.code reasons.message
  transient : fault.isTransient = true ↔ status = 429 ∨ 500 ≤ status

/-- The fault of a refused request reports its status and what is taken for its
reasons. Whether it is transient is decided by the status, whatever the reasons are.
-/
theorem Response.reports_rejection (response : Response) {reasons : Rejection}
    (taken : Rejection.ofBody response.body = .ok reasons) :
    response.rejection.Reports response.status reasons := by
  have same : response.rejection = .rejected response.status reasons.code reasons.message := by
    rw [rejection, taken]
  exact ⟨same, same ▸ Fault.transient_rejected_iff⟩

/-- A refused response is reported faithfully. A body that is read is a document of reasons, and these
are reported. A body that is refused is reported by its beginning. If the reader fails itself, the body
is a document in which a document type divides the code or the message, and the program breaks down. -/
structure Response.IsReportedFaithfully (response : Response) : Prop where
  explained : ∀ reasons, Rejection.read response.body = .ok reasons →
    response.rejection.Reports response.status reasons ∧
      ∃ document : Document, document.IsWrittenAs "Error" response.body.toList ∧
        Rejection.IsDescribed document.content reasons
  unexplained : IsRefused Rejection.read response.body → ∃ shown,
    response.rejection.Reports response.status ⟨"Unknown", shown⟩ ∧
      IsExcerpt 512 response.body.toList shown.toList
  divided : (∀ reasons, Rejection.read response.body ≠ .ok reasons) →
    ¬IsRefused Rejection.read response.body →
      response.rejection = .brokenDown .unreachable ∧
      ∃ document : Document, document.IsWrittenAs "Error" response.body.toList ∧
        ∃ name ∈ ["Code", "Message"], ∃ child ∈ children name document.content, IsDivided child.2

/-- A refusal is reported faithfully, whatever its status and its body. A body that is read as a document
of reasons gives the code and the message that its own children say, each empty where it is absent. A
body that is refused gives an unknown code, and for a message the longest beginning of at most 512
characters of what is left of it without the blanks around it. There is no other body, but for one in
which a document type divides the code or the message. Reasons without layout at their ends that are
written as a document are given back, and the status alone tells whether asking again may help. -/
theorem refusal_is_reported_faithfully (response : Response) :
    response.IsReportedFaithfully ∧
    ∀ reasons : Rejection, response.body = reasons.written →
      isTight isLayout reasons.code.toList = true → isTight isLayout reasons.message.toList = true →
      response.rejection.Reports response.status reasons := by
  refine ⟨⟨?explained, ?unexplained, ?divided⟩, ?written⟩
  case explained =>
    intro reasons read
    obtain ⟨document, written, scope, known⟩ := document_of_answer read
    refine ⟨response.reports_rejection ?_, document, written, Rejection.described_of_read known⟩
    simp only [Rejection.ofBody, read]
  case unexplained =>
    rintro ⟨fault, read, readable⟩
    have taken : Rejection.ofBody response.body = .ok (Rejection.excerpt response.body) := by
      simp only [Rejection.ofBody, read, AnswerFault.breakdown_of_readable readable]
    refine ⟨_, response.reports_rejection taken, ?_⟩
    rw [String.toList_ofList]
    exact excerpt_of_take 512 response.body.toList
  case divided =>
    intro unread unrefused
    have failed : Rejection.read response.body = .error (.record .dividedText) := by
      cases read : Rejection.read response.body with
      | ok reasons => exact absurd read (unread reasons)
      | error fault =>
        by_contra other
        exact unrefused ⟨fault, read, fun same => other (congrArg Except.error same)⟩
    obtain ⟨document, written, scope, known⟩ := failure_of_answer failed
    exact ⟨response.rejection_of_divided failed, document, written, Rejection.divided_of_read known⟩
  case written =>
    intro reasons body tightCode tightMessage
    have same := rejection_of_arranged reasons.arranged_of_written body
    rw [Rejection.unpadded, Text.unpadded_of_tight tightCode, Text.unpadded_of_tight tightMessage]
      at same
    exact ⟨same, same ▸ Fault.transient_rejected_iff⟩

/-- An overloaded service that says so in words of its own is shown as it says it, and reasons with
brackets come back. -/
theorem plain_refusal_is_shown :
    (∃ shown, (⟨503, [], "\n Busy <soon>\n"⟩ : Response).rejection.Reports 503 ⟨"Unknown", shown⟩ ∧
      shown = "Busy <soon>") ∧
    (⟨409, [], "<Error><Code>Taken</Code><Message>a &lt; b</Message></Error>"⟩ : Response).rejection =
      .rejected 409 "Taken" "a < b" := by
  constructor
  · have refused : IsRefused Rejection.read "\n Busy <soon>\n" := ⟨_, rfl, by decide⟩
    have known : (⟨503, [], "\n Busy <soon>\n"⟩ : Response).rejection =
        .rejected 503 "Unknown" "Busy <soon>" := by decide +kernel
    obtain ⟨shown, reports, _⟩ :=
      (refusal_is_reported_faithfully ⟨503, [], "\n Busy <soon>\n"⟩).1.unexplained refused
    obtain ⟨-, -, rfl⟩ := Fault.rejected.inj (reports.same.symm.trans known)
    exact ⟨_, reports, rfl⟩
  · have body : "<Error><Code>Taken</Code><Message>a &lt; b</Message></Error>" =
        (⟨"Taken", "a < b"⟩ : Rejection).written := by decide
    exact ((refusal_is_reported_faithfully ⟨409, [], _⟩).2 ⟨"Taken", "a < b"⟩ body
      (by decide) (by decide)).same

/-- The code of this refusal is divided, and so the reader fails itself: the body is neither read nor
refused, and there is no fault that reports the status. -/
theorem divided_reasons_are_not_reported :
    (∀ reasons, Rejection.read "<Error><Code>a<!DOCTYPE x>b</Code></Error>" ≠ .ok reasons) ∧
      ¬IsRefused Rejection.read "<Error><Code>a<!DOCTYPE x>b</Code></Error>" ∧
      ∀ reasons, ¬(⟨500, [], "<Error><Code>a<!DOCTYPE x>b</Code></Error>"⟩ : Response).rejection.Reports
        500 reasons := by
  have failed : Rejection.read "<Error><Code>a<!DOCTYPE x>b</Code></Error>" =
      .error (.record .dividedText) := by
    decide +kernel
  refine ⟨?_, ?_, ?_⟩
  · intro reasons read
    cases failed.symm.trans read
  · rintro ⟨fault, known, other⟩
    exact other (Except.error.inj (known.symm.trans failed))
  · intro reasons reports
    cases (Response.rejection_of_divided ⟨500, [], _⟩ failed).symm.trans reports.same

end ExtensionPublisher
