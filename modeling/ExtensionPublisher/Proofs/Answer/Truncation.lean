import ExtensionPublisher.Answer.Replications
import ExtensionPublisher.Answer.Report
import ExtensionPublisher.Answer.Versions
import ExtensionPublisher.Proofs.Xml.Prefix

/-!
# Answers that are cut off

An answer that arrives in part is not taken for another answer. Each kind of answer is made of the
document and nothing else, so what is read in the beginning of a text is what is read in the whole,
or the response is malformed; and it is malformed if the root element is not all there,
`truncation_is_noticed`.
-/
namespace ExtensionPublisher

variable {α : Type} {read : String → Except AnswerFault α}

/-- An answer as it is found in the body of a response. -/
def decode (read : String → Except AnswerFault α) (body : String) : Except Fault α :=
  (read body).mapError AnswerFault.toFault

/-- A response is malformed, for whatever reason is given. -/
def IsMalformed (decoded : Except Fault α) : Prop :=
  ∃ reason, decoded = .error (.malformedResponse reason)

/-- The beginning of a body brings the answer in the whole, or is malformed. It is malformed if it
ends in front of the last character of the root. -/
structure NoticesCut (read : String → Except AnswerFault α) (front behind : String) (answer : α) :
    Prop where
  kept : decode read front = .ok answer ∨ IsMalformed (decode read front)
  rooted : ∃ stop, Xml.rootEnd (front ++ behind).toList = some stop ∧
    (Xml.byteCount front.toList < stop → IsMalformed (decode read front))

/-- An answer is made of the document with a root of some name. Nothing else of the
text is looked at, so two texts with one document have one answer. -/
def IsOfDocument (read : String → Except AnswerFault α) : Prop :=
  ∃ (root : String) (answer : Xml.Document → Except AnswerFault α), ∀ text,
    read text = (Xml.Document.ofChars root text.toList).mapError .document >>= answer

/-- The list of versions is made of the document. -/
theorem PublishedVersion.of_document : IsOfDocument PublishedVersion.readAll :=
  ⟨_, _, fun _ => rfl⟩

/-- The list of replication states is made of the document. -/
theorem Replication.of_document : IsOfDocument Replication.readAll :=
  ⟨_, _, fun _ => rfl⟩

/-- The report on an operation is made of the document. What its status means is
worked out behind the parser. -/
theorem OperationReport.of_document : IsOfDocument OperationReport.read := by
  refine ⟨"Operation", fun document =>
    (document.read "OperationDocument" readElement).mapError .record >>= fun known =>
      ofStatus known.1 known.2, ?_⟩
  intro text
  unfold OperationReport.read readAnswer
  cases Xml.Document.ofChars "Operation" text.toList <;> rfl

/-- An answer that is read in no other way than in a document does not survive a cut
as another one. A beginning that is a document is the same document, and any other
beginning is refused as malformed. -/
theorem notices_cut (ofDocument : IsOfDocument read) {front behind : String} {answer : α}
    (whole : decode read (front ++ behind) = .ok answer) : NoticesCut read front behind answer := by
  obtain ⟨root, make, reads⟩ := ofDocument
  have wholeRead := ok_of_map_error whole
  rw [reads] at wholeRead
  obtain ⟨document, made, answered⟩ := ok_of_bind wholeRead
  have known := ok_of_map_error made
  rw [String.toList_append] at known
  -- A beginning that is a document is the whole one, so it fails only by being none.
  cases begins : Xml.Document.ofChars root front.toList with
  | error fault =>
    have malformed : IsMalformed (decode read front) := by
      refine ⟨(AnswerFault.document fault).message, ?_⟩
      rw [decode, reads, begins]
      rfl
    obtain ⟨stop, ends⟩ := Xml.Document.root_end_of_made known
    exact ⟨.inr malformed, stop, by rwa [String.toList_append], fun _ => malformed⟩
  | ok begun =>
    obtain ⟨rfl, stop, ends, complete⟩ := Xml.Document.of_front known begins
    have readFront : read front = .ok answer := by
      rw [reads, begins]
      exact answered
    refine ⟨.inl ?_, stop, by rwa [String.toList_append], ?_⟩
    · rw [decode, readFront]
      rfl
    · intro short
      omega

/-- An answer that is cut off is never taken for another one. What is found in the beginning of a body
is what is found in the whole, or the response is malformed; and it is malformed if the beginning ends
in front of the last character of the root. -/
theorem truncation_is_noticed (front behind : String) :
    (∀ published, decode PublishedVersion.readAll (front ++ behind) = .ok published →
      NoticesCut PublishedVersion.readAll front behind published) ∧
    (∀ states, decode Replication.readAll (front ++ behind) = .ok states →
      NoticesCut Replication.readAll front behind states) ∧
    ∀ report, decode OperationReport.read (front ++ behind) = .ok report →
      NoticesCut OperationReport.read front behind report :=
  ⟨fun _ => notices_cut PublishedVersion.of_document, fun _ => notices_cut Replication.of_document,
    fun _ => notices_cut OperationReport.of_document⟩

/-- The report that an operation succeeded is malformed without its last bracket. -/
theorem cut_report_is_malformed :
    decode OperationReport.read
        ("<Operation><Status>Succeeded</Status></Operation" ++ ">\n") = .ok .succeeded ∧
      IsMalformed (decode OperationReport.read
        "<Operation><Status>Succeeded</Status></Operation") := by
  have whole : decode OperationReport.read
      ("<Operation><Status>Succeeded</Status></Operation" ++ ">\n") = .ok .succeeded := rfl
  obtain ⟨stop, ends, malformed⟩ := ((truncation_is_noticed _ _).2.2 _ whole).rooted
  have position : Xml.rootEnd ("<Operation><Status>Succeeded</Status></Operation" ++ ">\n").toList =
      some 49 := by decide
  obtain rfl : 49 = stop := Option.some.inj (position.symm.trans ends)
  exact ⟨whole, malformed (by decide)⟩

end ExtensionPublisher
