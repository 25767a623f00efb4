import ExtensionPublisher.Answer.Fault
import ExtensionPublisher.Text.Blank

/-!
# Rejections

The service explains a refusal by a code and a message, each empty when left out. A body that
is no such document is its own message, cut to a length that is fit to be shown. Where the
reader breaks down over a body, there is no time left to fall back on that.
-/
namespace ExtensionPublisher

/-- The service's reasons: a code and a message. Either may be empty. -/
structure Rejection where
  code : String
  message : String
  deriving DecidableEq, Repr

namespace Rejection

/-- The fields of a rejection. -/
def fields : List (Xml.Field String) := [.text "Code", .text "Message"]

/-- Read the reasons from an element. What is missing is empty, so there are always
both. -/
def readElement (scope : Xml.Scope) (tag : Xml.Tag) (content : List Xml.Node) :
    Except Xml.RecordFault Rejection := do
  let found ← Xml.readRecord fields scope tag content
  return ⟨(found.lookup "Code").getD "", (found.lookup "Message").getD ""⟩

/-- Read the reasons from a text. -/
def read (text : String) : Except AnswerFault Rejection :=
  readAnswer "Error" "ErrorDocument" readElement text

/-- The greatest number of characters of a body that are shown. -/
def shownLength : Nat := 512

/-- A body as its own message. It is cut, since a body may be a whole page. -/
def excerpt (body : String) : Rejection :=
  ⟨"Unknown", String.ofList ((Text.trim Text.isBlank body.toList).take shownLength)⟩

/-- The reasons in the body of a refusal, whatever it is, unless the reader breaks
down. A body that cannot be read gives itself. -/
def ofBody (body : String) : Except Breakdown Rejection :=
  match read body with
  | .ok rejection => .ok rejection
  | .error fault =>
    match fault.breakdown? with
    | some breakdown => .error breakdown
    | none => .ok (excerpt body)

/-- A body gives reasons, those that are read in it or itself, unless the reader
breaks down over it. -/
theorem of_body_cases (body : String) :
    (∃ reasons, ofBody body = .ok reasons ∧ read body ≠ .error (.record .dividedText)) ∨
      ofBody body = .error .unreachable ∧ read body = .error (.record .dividedText) := by
  unfold ofBody
  cases read body with
  | ok reasons => exact .inl ⟨reasons, rfl, nofun⟩
  | error fault =>
    cases broken : fault.breakdown? with
    | none =>
      refine .inl ⟨excerpt body, by simp only [broken], ?_⟩
      rintro ⟨⟩
      cases broken
    | some breakdown =>
      obtain ⟨rfl, rfl⟩ := AnswerFault.breakdown_eq_some_iff.mp broken
      exact .inr ⟨rfl, rfl⟩

end Rejection

end ExtensionPublisher
