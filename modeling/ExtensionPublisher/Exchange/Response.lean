import ExtensionPublisher.Answer.Rejection
import ExtensionPublisher.Text.Blank
import ExtensionPublisher.Text.Case

/-!
# Responses

A response has a status, headers in the order of their arrival, and a body of text. The
names of headers are words without case, and the first header of a name counts.

A status from 200 to 299 means that the request was accepted. Accepting an operation includes
naming it in a header, so that it can be asked about later.
-/
namespace ExtensionPublisher

/-- What the service sends back. Header names are in lower case, and the body is a
text. -/
structure Response where
  status : Nat
  headers : List (String × String) := []
  body : String := ""
  deriving DecidableEq, Repr

namespace Response

/-- The header that names an operation. -/
def operationHeader : String := "x-ms-request-id"

/-- The response with one more header. -/
def withHeader (response : Response) (name value : String) : Response :=
  { response with headers := response.headers ++ [(Text.lowered name, value)] }

/-- The first value of a header. Others of the name do not count. -/
def header? (response : Response) (name : String) : Option String :=
  (response.headers.find? fun header => Text.sameWord header.1 name).map (·.2)

/-- Whether the request was accepted. -/
def isSuccess (response : Response) : Bool := 200 ≤ response.status && response.status < 300

/-- The operation that was accepted. A header that is there and says nothing is as
good as none. -/
def operationId (response : Response) : Except Fault String :=
  match (response.header? operationHeader).map Text.trimmed with
  | none | some "" => .error .missingOperationId
  | some id => .ok id

/-- The fault of a refused request. The reader may break down over the body, and
then the status is lost. -/
def rejection (response : Response) : Fault :=
  match Rejection.ofBody response.body with
  | .ok reasons => .rejected response.status reasons.code reasons.message
  | .error breakdown => .brokenDown breakdown

/-- A refusal is a rejection with its status, unless the reader breaks down over its
body. -/
theorem rejection_cases (response : Response) :
    (∃ reasons, Rejection.ofBody response.body = .ok reasons ∧
      response.rejection = .rejected response.status reasons.code reasons.message) ∨
      Rejection.read response.body = .error (.record .dividedText) ∧
        response.rejection = .brokenDown .unreachable := by
  rcases Rejection.of_body_cases response.body with ⟨reasons, known, _⟩ | ⟨known, divided⟩
  · exact .inl ⟨reasons, known, by simp only [rejection, known]⟩
  · exact .inr ⟨divided, by simp only [rejection, known]⟩

/-- There is no rejection where the reasons are divided. -/
theorem rejection_of_divided (response : Response)
    (divided : Rejection.read response.body = .error (.record .dividedText)) :
    response.rejection = .brokenDown .unreachable := by
  rw [rejection, Rejection.ofBody, divided]
  rfl

/-- The response of a request that was accepted. A refusal is made a fault here,
whatever was asked. -/
def accepted (response : Response) : Except Fault Response :=
  if response.isSuccess then .ok response else .error response.rejection

end Response

end ExtensionPublisher
