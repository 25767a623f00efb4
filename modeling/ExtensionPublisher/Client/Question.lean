import ExtensionPublisher.Answer.Replications
import ExtensionPublisher.Answer.Report
import ExtensionPublisher.Answer.Versions
import ExtensionPublisher.Exchange.Request
import ExtensionPublisher.Exchange.Response

/-!
# Questions to the service

A question is one request and the way its response is read. Its parts are checked when the
request is made: a part that is nothing but blanks makes no request. A refused request is a
rejection, whatever the question; an accepted one is read by the question.
-/
namespace ExtensionPublisher

/-- A question whose answer is a value of a type: what is asked for, and how the
answer is found in a response. How the two are brought together is the same for all
questions. -/
structure Question (α : Type) where
  /-- The request, if what it is made of is usable. -/
  request : Except Fault Request
  /-- The answer in an accepted response. -/
  read : Response → Except Fault α

/-- What is received for a request: a response or a fault, after some time. -/
structure Delivery where
  result : Except Fault Response
  took : Nat := 0
  /-- Whether the caller lost interest while the request was under way. -/
  calledOff : Bool := false

/-- Someone who delivers requests: what is received for a request, and how that changes what
is received for later ones. -/
abbrev Transport (σ : Type) := Request → σ → Delivery × σ

/-- What became of a question, and what is left of the transport. -/
structure Asked (α σ : Type) where
  result : Except Fault α
  /-- The request that was sent. -/
  request? : Option Request
  took : Nat
  calledOff : Bool
  transport : σ

namespace Question

/-- The answer in whatever was received. A fault on the way and a refusal come
first, and then the response is read. -/
def conclude {α : Type} (question : Question α) (received : Except Fault Response) : Except Fault α :=
  received >>= Response.accepted >>= question.read

/-- A response that is not accepted is the result, whatever is asked. -/
theorem conclude_of_refused {α : Type} (question : Question α) {response : Response}
    (refused : response.isSuccess = false) :
    question.conclude (.ok response) = .error response.rejection := by
  simp [conclude, Response.accepted, refused, bind, Except.bind]

/-- A response that is accepted is read by the question. -/
theorem conclude_of_accepted {α : Type} (question : Question α) {response : Response}
    (accepted : response.isSuccess = true) :
    question.conclude (.ok response) = question.read response := by
  simp [conclude, Response.accepted, accepted, bind, Except.bind]

/-- Ask a question. If what it is made of is unusable, there is no request, and the
transport is left as it was. -/
def ask {α σ : Type} (question : Question α) (transport : Transport σ) (state : σ) : Asked α σ :=
  match question.request with
  | .error fault => ⟨.error fault, none, 0, false, state⟩
  | .ok request =>
    let (delivery, state) := transport request state
    ⟨question.conclude delivery.result, some request, delivery.took, delivery.calledOff, state⟩

/-- Refuse a part of a request that says nothing. The part is named in the fault. -/
def require (part value : String) : Except Fault Unit :=
  if Text.blank value then .error (.invalidArgument (part ++ " must not be empty")) else .ok ()

/-- Refuse a name of which a part says nothing. The first such part is named. -/
def requireName (name : VersionName) : Except Fault Unit := do
  require "namespace" name.provider
  require "name" name.type
  require "version" name.version

/-- The bytes of a manifest as they are sent. Bytes that are all plain blanks are no
manifest. -/
def manifestBody (manifest : List UInt8) : Except Fault (List UInt8) :=
  if manifest.all fun b => b < 128 && Text.isPlainBlank (Char.ofNat b.toNat) then
    .error (.invalidArgument "manifest must not be empty")
  else .ok manifest

/-- Which versions the subscription has published, in the order of the service. -/
def versions : Question (List PublishedVersion) where
  request := .ok { method := .get, segments := ["services", "publisherextensions"] }
  read response := (PublishedVersion.readAll response.body).mapError AnswerFault.toFault

/-- How far the replication of a version has come, at each of its locations. -/
def replications (name : VersionName) : Question (List Replication) where
  request := do
    requireName name
    return {
      method := .get
      segments := ["services", "extensions", name.provider, name.type, name.version,
        "replicationstatus"] }
  read response := (Replication.readAll response.body).mapError AnswerFault.toFault

/-- Publish, change or unpublish what a manifest describes. The answer names the operation. -/
def update (manifest : List UInt8) : Question String where
  request := do
    let body ← manifestBody manifest
    return {
      method := .put
      segments := ["services", "extensions"]
      query := [("action", "update")]
      body := some body }
  read := Response.operationId

/-- Delete a version. The answer names the operation. -/
def delete (name : VersionName) : Question String where
  request := do
    requireName name
    return {
      method := .delete
      segments := ["services", "extensions", name.provider, name.type, name.version] }
  read := Response.operationId

/-- How an operation stands, by the id that the service gave it. -/
def report (operation : String) : Question OperationReport where
  request := do
    require "operation id" operation
    return { method := .get, segments := ["operations", operation] }
  read response := (OperationReport.read response.body).mapError AnswerFault.toFault

end Question

end ExtensionPublisher
