import ExtensionPublisher.Fault
import ExtensionPublisher.Xml.Record

/-!
# Faults of answers

The service answers with documents. A text is no answer of the expected kind when it is no
document with the right root, when an element of it is no record of the right shape, or when
it reports a state that no operation has. Each of these makes the response malformed, but for
one: at a text that a document type divides the reader itself breaks down.
-/
namespace ExtensionPublisher

/-- Why a text is no answer of the expected kind: it is no document, its content is
none of the kind, or it reports what is not known. -/
inductive AnswerFault where
  | document (fault : Xml.DocumentFault)
  | record (fault : Xml.RecordFault)
  | unknownStatus (status : String)
  deriving DecidableEq, Repr

namespace AnswerFault

/-- The fault in words, as it is told of the response. -/
def message : AnswerFault → String
  | .document fault => fault.message
  | .record fault => fault.message
  | .unknownStatus status => "unknown operation status " ++ Text.quoted status

/-- The breakdown of the reader, if that is what the fault is. -/
def breakdown? : AnswerFault → Option Breakdown
  | .record .dividedText => some .unreachable
  | _ => none

/-- The fault of the response that the text came in. A breakdown of the reader is no
fault of the response, and is kept apart. -/
def toFault (fault : AnswerFault) : Fault :=
  match fault.breakdown? with
  | some breakdown => .brokenDown breakdown
  | none => .malformedResponse fault.message

/-- The reader breaks down at a divided text and at nothing else. -/
theorem breakdown_eq_some_iff {fault : AnswerFault} {breakdown : Breakdown} :
    fault.breakdown? = some breakdown ↔
      fault = .record .dividedText ∧ breakdown = .unreachable := by
  unfold breakdown?
  split
  · simp [eq_comm]
  · next other => exact ⟨nofun, fun divided => (other divided.1).elim⟩

/-- The reader gets over every other fault of a text, and refuses the text. -/
theorem breakdown_of_readable {fault : AnswerFault} (readable : fault ≠ .record .dividedText) :
    fault.breakdown? = none := by
  cases broken : fault.breakdown? with
  | none => rfl
  | some breakdown => exact absurd (breakdown_eq_some_iff.mp broken).1 readable

/-- Every fault of an answer but a divided text makes the response malformed. -/
theorem to_fault_of_readable {fault : AnswerFault} (readable : fault ≠ .record .dividedText) :
    fault.toFault = .malformedResponse fault.message := by
  simp [toFault, breakdown_of_readable readable]

/-- The response of a text is a breakdown exactly if the text is divided. Every
other fault makes it malformed. -/
theorem broken_down_iff {fault : AnswerFault} {breakdown : Breakdown} :
    fault.toFault = .brokenDown breakdown ↔
      fault = .record .dividedText ∧ breakdown = .unreachable := by
  unfold toFault
  rw [← breakdown_eq_some_iff]
  cases fault.breakdown? <;> simp

end AnswerFault

/-- Read a text as a document with a root of the given name, which holds a value of the given
kind. -/
def readAnswer {α : Type} (root kind : String)
    (read : Xml.Scope → Xml.Tag → List Xml.Node → Except Xml.RecordFault α) (text : String) :
    Except AnswerFault α := do
  let document ← (Xml.Document.ofChars root text.toList).mapError .document
  (document.read kind read).mapError .record

end ExtensionPublisher
