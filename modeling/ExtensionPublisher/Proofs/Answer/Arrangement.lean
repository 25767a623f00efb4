import ExtensionPublisher.Answer.Report
import ExtensionPublisher.Exchange.Response
import ExtensionPublisher.Proofs.Answer.RoundTrip
import ExtensionPublisher.Proofs.Xml.Arranged
import Mathlib.Data.List.Permutation

/-!
# Answers in any arrangement

The service is free in how it arranges an answer. In every kind of record the known children may stand
in any order, elements that nobody knows may stand among them, with anything inside, and comments and
layout anywhere between. An answer says the same in every arrangement, and only its own children say it:
`arrangement_makes_no_difference`.

The reasons of a failed operation are a record in a record. They have an arrangement of their own, and
are found at every place in the report.
-/
namespace ExtensionPublisher

open Text (trimmed unpadded)
open Xml (Arranges childElement enclosed fieldValues Holds IsRead IsRecord isBareName Spaced writtenChild)

/-! ## Lists -/

namespace PublishedVersion

/-- The element of a published version, with its children in any arrangement. A flag
that is not set and an empty list of regions may be left out. -/
inductive IsArranged (published : PublishedVersion) : List Char → Prop where
  | mk {flag regions : List (List Char)} {text : List Char}
      (flagged : WritesFlag published.replicated flag)
      (offered : WritesRegions published.regions regions)
      (arranged : Arranges (fields.map (·.name))
        ((nameChildren published.name).map writtenChild ++ flag ++ regions) text) :
      IsArranged published (enclosed "ExtensionImage" text)

/-- What a version is depends only on what is looked up among its fields, each of
them by its name. -/
theorem of_fields_of_lookups (found other : List (String × String))
    (same : ∀ name, found.lookup name = other.lookup name) : ofFields found = ofFields other := by
  simp only [ofFields, Xml.required, same]

/-- A version in any arrangement is a record, and is read as itself. The texts come
without the layout around them. -/
theorem record_of_arranged {published : PublishedVersion} {piece : List Char}
    (arranged : published.IsArranged piece) : ∃ tag content,
      Xml.SpellsNode piece (.element tag content) ∧
        IsRecord listShape [] (tag, content) published.unpadded := by
  obtain ⟨flagged, offered, arranged⟩ := arranged
  obtain ⟨children, holds, names, takes, described⟩ := children_of_writes flagged offered
  exact Xml.record_of_arranged names_of_fields.1 names_of_fields.2 names takes list_shape_read
    of_fields_of_lookups described (by decide) arranged holds []

end PublishedVersion

namespace Replication

/-- The element of a replication state, with its children in any arrangement. -/
inductive IsArranged (state : Replication) : List Char → Prop where
  | mk {text : List Char}
      (arranged : Arranges (fields.map (·.name)) (state.childrenOf.map writtenChild) text) :
      IsArranged state (enclosed "ReplicationStatus" text)

/-- What a replication state is depends only on what is looked up among its fields.
-/
theorem of_fields_of_lookups (found other : List (String × String))
    (same : ∀ name, found.lookup name = other.lookup name) : ofFields found = ofFields other := by
  simp only [ofFields, Xml.required, same]

/-- A replication state in any arrangement is a record, and is read as itself. Both
of its children are written, so none has to be told apart from a missing one. -/
theorem record_of_arranged {state : Replication} {piece : List Char}
    (arranged : state.IsArranged piece) : ∃ tag content,
      Xml.SpellsNode piece (.element tag content) ∧
        IsRecord listShape [] (tag, content) state.unpadded := by
  obtain ⟨arranged⟩ := arranged
  have names : (state.childrenOf.map (·.1)).Sublist (fields.map (·.name)) := List.Sublist.refl _
  exact Xml.record_of_arranged names_of_fields.1 names_of_fields.2 names (fun child _ => field_takes child)
    list_shape_read of_fields_of_lookups state.of_field_values (by decide) arranged
    (Xml.holds_children state.bare_children) []

end Replication

/-! ## Reasons -/

namespace Rejection

/-- The reasons without layout around their texts. -/
def unpadded (rejection : Rejection) : Rejection :=
  ⟨Text.unpadded rejection.code, Text.unpadded rejection.message⟩

/-- The element of a text, which may be left out where the text is empty. An empty
element says the same. -/
inductive WritesText (name : String) : String → List (String × String) → Prop where
  | leftOut : WritesText name "" []
  | written (text : String) : WritesText name text [(name, text)]

/-- The inside of an element that gives reasons, with its children in any
arrangement. The same element stands in a report and is the root of a refusal. -/
inductive IsArranged (rejection : Rejection) : List Char → Prop where
  | mk {code message : List (String × String)} {text : List Char}
      (coded : WritesText "Code" rejection.code code)
      (told : WritesText "Message" rejection.message message)
      (arranged : Arranges (fields.map (·.name)) ((code ++ message).map writtenChild) text) :
      IsArranged rejection text

variable {rejection : Rejection} {text : List Char}

/-- Reasons in any arrangement are read as themselves. A code or a message that is
left out is looked up as nothing, which stands for the empty text. -/
theorem read_of_arranged (arranged : rejection.IsArranged text) : ∃ content,
    Xml.Spells text content ∧ ∀ scope tag, tag.attributeFault? = none →
      readElement scope tag content = .ok rejection.unpadded := by
  obtain @⟨code, message, text, coded, told, arranged⟩ := arranged
  have names : ((code ++ message).map (·.1)).Sublist (fields.map (·.name)) := by
    generalize rejection.code = first at coded
    generalize rejection.message = second at told
    cases coded <;> cases told <;>
      simp only [List.map_cons, List.map_nil, List.cons_append, List.nil_append] <;> decide
  have bare : ∀ field ∈ fields, isBareName field.name = true := by
    have all : ∀ name ∈ fields.map (·.name), isBareName name = true := by decide
    exact fun field member => all _ (List.mem_map_of_mem member)
  have takes : ∀ child ∈ code ++ message, ∀ field ∈ fields, field.name = child.1 →
      field.Takes child.2 := by
    intro child _ field member _
    simp only [fields, List.mem_cons, List.not_mem_nil, or_false] at member
    rcases member with rfl | rfl
    · exact Xml.takes_of_admitted rfl
    · exact Xml.takes_of_admitted rfl
  obtain ⟨content, found, spells, same, read⟩ := Xml.read_texts_of_arranged bare (by decide) names takes
    arranged (Xml.holds_children (Xml.bare_of_names bare names))
  refine ⟨content, spells, ?_⟩
  intro scope tag written
  have described : (⟨((fieldValues fields (code ++ message)).lookup "Code").getD "",
      ((fieldValues fields (code ++ message)).lookup "Message").getD ""⟩ : Rejection) =
        rejection.unpadded := by
    obtain ⟨first, second⟩ := rejection
    dsimp only at coded told
    have nothing : Text.unpadded "" = "" := by decide
    cases coded <;> cases told <;>
      simp [fieldValues, fields, Xml.Field.text, List.lookup_cons, unpadded, nothing]
  simp only [readElement, read scope tag written, same, bind, Except.bind, pure, Except.pure, described]

end Rejection

/-! ## Reports -/

namespace OperationReport

/-- The element of the reasons, which may be left out. -/
inductive WritesReasons : Option Rejection → List (List Char) → Prop where
  | leftOut : WritesReasons none []
  | written {rejection : Rejection} {text : List Char} (arranged : rejection.IsArranged text) :
      WritesReasons (some rejection) [enclosed "Error" text]

/-- The inside of a report, with its children in any arrangement. What stands inside
the reasons may be arranged as well. -/
inductive IsArranged (status : String) (reasons : Option Rejection) (text : List Char) : Prop where
  | mk {error : List (List Char)} (explained : WritesReasons reasons error)
      (arranged : Arranges ["Status", "Error"] (writtenChild ("Status", status) :: error) text)

/-- The report of a bare tag. -/
def reportTag : Xml.Tag := Xml.bareTag "Operation"

/-- The status is read from its element, with no regard to the scope. -/
theorem is_read_status (status : String) : IsRead (fields reportTag) (childElement ("Status", status))
    ("Status", .status (Text.unpadded status)) := by
  have known : Xml.fieldOf? (fields reportTag) (Xml.bareTag "Status") =
      some ((fields reportTag).head (List.cons_ne_nil _ _)) := by rfl
  refine ⟨_, known, rfl, fun scope => ⟨scope, Xml.enter_bare_tag scope "Status", ?_⟩⟩
  simp [fields, childElement, Xml.element_text_of_escape, Text.unpadded, bind, Except.bind, pure,
    Except.pure]

/-- A bare tag does not declare that it stands for no value, as it has no attribute.
-/
theorem not_nil_of_bare (name : String) (scope : Xml.Scope) :
    (Xml.bareTag name).isNil scope = false := by
  rw [Xml.Tag.isNil, Xml.Tag.attribute_list_of_bare rfl, List.any_nil]

/-- The reasons are read from their element, in any arrangement. That the element
stands for no value is asked first, and a bare tag does not say so. -/
theorem is_read_reasons {rejection : Rejection} {content : List Xml.Node}
    (read : ∀ scope tag, tag.attributeFault? = none →
      Rejection.readElement scope tag content = .ok rejection) :
    IsRead (fields reportTag) (Xml.bareTag "Error", content) ("Error", .reasons (some rejection)) := by
  have known : Xml.fieldOf? (fields reportTag) (Xml.bareTag "Error") =
      some ((fields reportTag).getLast (List.cons_ne_nil _ _)) := by rfl
  refine ⟨_, known, rfl, fun scope => ⟨scope, Xml.enter_bare_tag scope "Error", ?_⟩⟩
  have given : lacksReasons reportTag scope (Xml.bareTag "Error") content = false := by
    simp only [lacksReasons, reportTag, not_nil_of_bare, Bool.or_false]
  have reasons := read scope (Xml.bareTag "Error") (Xml.attribute_fault_of_bare "Error")
  simp [fields, given, reasons, bind, Except.bind, pure, Except.pure]

/-- The values of a report. -/
def values (status : String) (reasons : Option Rejection) : List (String × Part) :=
  ("Status", .status status) :: (reasons.map fun given => ("Error", Part.reasons (some given))).toList

/-- The values of a report say the same in any order. There are one or two of them,
so every order can be looked at. -/
theorem of_fields_of_perm {found : List (String × Part)} {status : String} {reasons : Option Rejection}
    (permuted : found.Perm (values status reasons)) : ofFields found = .ok (status, reasons) := by
  cases reasons with
  | none =>
    obtain rfl := List.perm_singleton.mp permuted
    rfl
  | some rejection =>
    rcases List.perm_pair.mp permuted with rfl | rfl
    · rfl
    · rfl

/-- A status says the same with layout around it, because it is trimmed once more
before it is compared. -/
theorem of_status_unpadded (status : String) (reasons : Option Rejection) :
    ofStatus (Text.unpadded status) reasons = ofStatus status reasons := by
  rw [ofStatus, ofStatus, Text.trimmed_unpadded]

/-- A report in any arrangement says what its own status and reasons make. Its
children are read as the values of two fields, in an order that makes no difference.
-/
theorem read_of_arranged {status : String} {reasons : Option Rejection} {text : List Char}
    (arranged : IsArranged status reasons text) :
    read (String.ofList (enclosed "Operation" text)) =
      ofStatus status (reasons.map Rejection.unpadded) := by
  obtain @⟨error, explained, arranged⟩ := arranged
  have bare : isBareName "Status" = true ∧ isBareName "Error" = true := by decide
  obtain ⟨elements, holds, reads⟩ : ∃ elements,
      Holds (writtenChild ("Status", status) :: error) elements ∧
        List.Forall₂ (IsRead (fields reportTag)) elements
          (values (Text.unpadded status) (reasons.map Rejection.unpadded)) := by
    have first := Xml.spells_enclosed bare.1 (.text (Xml.not_bracket_of_escape status.toList))
    cases explained with
    | leftOut => exact ⟨_, .element first .nil, .cons (is_read_status status) .nil⟩
    | written given =>
      obtain ⟨content, spells, read⟩ := Rejection.read_of_arranged given
      exact ⟨_, .element first (.element (Xml.spells_enclosed bare.2 spells) .nil),
        .cons (is_read_status status) (.cons (is_read_reasons read) .nil)⟩
  have once : ((values (Text.unpadded status) (reasons.map Rejection.unpadded)).map (·.1)).Nodup := by
    cases reasons <;> simp [values]
  have own : Arranges ((fields reportTag).map (·.name)) (writtenChild ("Status", status) :: error) text :=
    arranged
  obtain ⟨content, found, spells, permuted, record⟩ := Xml.read_record_of_arranged own holds reads once
  have read : readElement [] reportTag content =
      .ok (Text.unpadded status, reasons.map Rejection.unpadded) := by
    rw [readElement, record [] reportTag (Xml.attribute_fault_of_bare "Operation")]
    exact of_fields_of_perm permuted
  have answer : readAnswer "Operation" "OperationDocument" readElement
      (String.ofList (enclosed "Operation" text)) =
        .ok (Text.unpadded status, reasons.map Rejection.unpadded) := by
    rw [Xml.read_answer_of_spells (by decide) spells, ← reportTag, read, map_error_ok]
  rw [← of_status_unpadded]
  simp only [OperationReport.read, answer, bind, Except.bind]

end OperationReport

/-! ## Answers -/

/-- A refusal in any arrangement gives its own reasons. Its body is a document with
the reasons as its root, so it is never taken for a body that cannot be read. -/
theorem rejection_of_arranged {rejection : Rejection} {text : List Char}
    (arranged : rejection.IsArranged text) {response : Response}
    (body : response.body = String.ofList (enclosed "Error" text)) :
    response.rejection =
      .rejected response.status rejection.unpadded.code rejection.unpadded.message := by
  obtain ⟨content, spells, known⟩ := Rejection.read_of_arranged arranged
  have given := known [] (Xml.bareTag "Error") (Xml.attribute_fault_of_bare "Error")
  have read : Rejection.read response.body = .ok rejection.unpadded := by
    rw [body, Rejection.read, Xml.read_answer_of_spells (by decide) spells, given, map_error_ok]
  simp only [Response.rejection, Rejection.ofBody, read]

/-- The arrangement of an answer makes no difference. In each kind of record, the children may stand in
any order, with any elements of other names among them, whatever these hold, and with comments and
layout anywhere between: a list has the same records, a refusal the same reasons, and a report is made
of the same status and reasons. In particular a failed operation has the code and the message of its
own reasons, at every place where they may stand. -/
theorem arrangement_makes_no_difference :
    (∀ {published : List PublishedVersion} {pieces : List (List Char)} {text : List Char},
      List.Forall₂ PublishedVersion.IsArranged published pieces → Spaced pieces text →
      PublishedVersion.readAll (String.ofList (enclosed "ExtensionImages" text)) =
        .ok (published.map (·.unpadded))) ∧
    (∀ {states : List Replication} {pieces : List (List Char)} {text : List Char},
      List.Forall₂ Replication.IsArranged states pieces → Spaced pieces text →
      Replication.readAll (String.ofList (enclosed "ReplicationStatusList" text)) =
        .ok (states.map (·.unpadded))) ∧
    (∀ {rejection : Rejection} {text : List Char} {response : Response}, rejection.IsArranged text →
      response.body = String.ofList (enclosed "Error" text) → response.rejection =
        .rejected response.status rejection.unpadded.code rejection.unpadded.message) ∧
    ∀ {status : String} {reasons : Option Rejection} {text : List Char},
      OperationReport.IsArranged status reasons text →
      OperationReport.read (String.ofList (enclosed "Operation" text)) =
        OperationReport.ofStatus status (reasons.map (·.unpadded)) ∧
      ∀ rejection, trimmed status = "Failed" → reasons = some rejection →
        OperationReport.read (String.ofList (enclosed "Operation" text)) =
          .ok (.failed rejection.unpadded.code rejection.unpadded.message) := by
  refine ⟨?_, ?_, fun arranged => rejection_of_arranged arranged, ?_⟩
  · intro published pieces text arranged spaced
    have each := arranged.imp fun one piece => PublishedVersion.record_of_arranged
    obtain ⟨elements, holds, records⟩ := Xml.holds_of_records (List.forall₂_map_left_iff.mpr each)
    exact Xml.read_answer_of_spaced (by decide) (by decide) spaced holds records _
  · intro states pieces text arranged spaced
    have each := arranged.imp fun one piece => Replication.record_of_arranged
    obtain ⟨elements, holds, records⟩ := Xml.holds_of_records (List.forall₂_map_left_iff.mpr each)
    exact Xml.read_answer_of_spaced (by decide) (by decide) spaced holds records _
  · intro status reasons text arranged
    have read := OperationReport.read_of_arranged arranged
    refine ⟨read, ?_⟩
    rintro rejection failed rfl
    rw [read, OperationReport.ofStatus, failed]
    rfl

/-- A failed operation whose reasons stand in front of its status, message first,
with a look-alike of the status between them. The arrangement is built piece by
piece. -/
theorem early_reasons_are_read :
    OperationReport.read (
        "<Operation><!-- a > b --><Error><Message>No &amp; no</Message>\n<Code>E</Code></Error>" ++
        "<x><Status>Succeeded</Status></x><Status> Failed </Status></Operation>") =
      .ok (.failed "E" "No & no") := by
  have nothing : ∀ c ∈ [], Text.isLayout c = true := nofun
  have bare : isBareName "Status" = true ∧ isBareName "x" = true := by decide
  have given : Rejection.IsArranged ⟨"E", "No & no"⟩ _ :=
    .mk (.written "E") (.written "No & no") (.mk (.swap _ _ _) (.own (.own .nil))
      (.next nothing (.next Xml.layout_newline (.last nothing))))
  have inside := Xml.spells_enclosed bare.1 (.text (Xml.not_bracket_of_escape "Succeeded".toList))
  have strange : Xml.IsStranger ["Status", "Error"]
      (enclosed "x" (writtenChild ("Status", "Succeeded"))) := by
    refine Xml.stranger_of_bare bare.2 (by decide) inside.alone ?_
    rintro child ⟨⟩
    exact Xml.declared_of_bare "Status"
  have unclosed : ¬"-->".toList <:+: " a > b ".toList :=
    Xml.not_infix_of_not_mem (by decide : '-' ∈ "-->".toList) (by decide)
  have arranged : OperationReport.IsArranged " Failed " (some ⟨"E", "No & no"⟩) _ :=
    .mk (.written given) (.mk (.swap _ _ _)
      (.comment unclosed (.own (.stranger strange (.own .nil)))) (Xml.spaced_flatten _))
  have status : trimmed " Failed " = "Failed" := by decide
  have failed := (arrangement_makes_no_difference.2.2.2 arranged).2 _ status rfl
  refine Eq.trans (congrArg _ ?_) failed
  decide +kernel

end ExtensionPublisher
