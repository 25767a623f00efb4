import ExtensionPublisher.Answer.Rejection
import ExtensionPublisher.Operation

/-!
# The report on an operation

The report has a status, which is required and one of three words, and may have the reasons
of a failure. The reasons count as left out when either they or the whole report declare by
the attribute `nil` to stand for no value.
-/
namespace ExtensionPublisher.OperationReport

/-- A field of a report: its status, or the reasons of a failure. Reasons may be
there and stand for none. -/
inductive Part where
  | status (text : String)
  | reasons (given : Option Rejection)
  deriving DecidableEq, Repr

/-- Whether the reasons stand for no value. The declarations of the child that they begin with
count as well. -/
def lacksReasons (report : Xml.Tag) (scope : Xml.Scope) (tag : Xml.Tag) (content : List Xml.Node) :
    Bool :=
  let scope := match Xml.firstChild? content with
    | none => scope
    | some child => (child.extend scope).toOption.getD scope
  report.isNil scope || tag.isNil scope

/-- The fields of a report with the given tag, which may declare that reasons stand
for nothing. -/
def fields (report : Xml.Tag) : List (Xml.Field Part) := [
  { name := "Status"
    read := fun _ _ content => return .status (String.ofList (← Xml.elementText content)) },
  { name := "Error"
    standsForNothing := lacksReasons report
    read := fun scope tag content => do
      if lacksReasons report scope tag content then
        let _ ← Xml.passOver scope scope content
        return .reasons none
      else return .reasons (some (← Rejection.readElement scope tag content)) }]

/-- The status and the reasons that fields describe. Only the status may not be
missing. -/
def ofFields (found : List (String × Part)) :
    Except Xml.RecordFault (String × Option Rejection) :=
  let status? := found.findSome? fun
    | (_, .status text) => some text
    | _ => none
  let reasons := found.findSome? fun
    | (_, .reasons given) => given
    | _ => none
  match status? with
  | some status => .ok (status, reasons)
  | none => .error (.missingField "Status")

/-- Read the status and the reasons from an element. -/
def readElement (scope : Xml.Scope) (tag : Xml.Tag) (content : List Xml.Node) :
    Except Xml.RecordFault (String × Option Rejection) := do
  ofFields (← Xml.readRecord (fields tag) scope tag content)

/-- The report that a status and reasons make. Reasons count only for a failure, and
a failure without them has empty ones. -/
def ofStatus (status : String) (reasons : Option Rejection) : Except AnswerFault OperationReport :=
  match Text.trimmed status with
  | "InProgress" => .ok .inProgress
  | "Succeeded" => .ok .succeeded
  | "Failed" =>
    let reasons := reasons.getD ⟨"", ""⟩
    .ok (.failed reasons.code reasons.message)
  | other => .error (.unknownStatus other)

/-- Read the report on an operation. The document is read first, and then it is seen
what its status means. -/
def read (text : String) : Except AnswerFault OperationReport := do
  let (status, reasons) ← readAnswer "Operation" "OperationDocument" readElement text
  ofStatus status reasons

end ExtensionPublisher.OperationReport
