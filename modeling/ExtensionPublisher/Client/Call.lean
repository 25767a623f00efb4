import ExtensionPublisher.Client.Question
import ExtensionPublisher.Wait.Run

/-!
# Calls of a client

A client asks questions and waits for operations. Each call is carried out on the transport
that the calls before it left behind; all of them share one clock. A question sends at most
one request, at once. A wait sends one request for each query, when the query begins.
-/
namespace ExtensionPublisher

/-- What a client is asked to do. A call makes one request, or waits for an
operation with several. -/
inductive Call where
  | versions
  | replications (name : VersionName)
  | update (manifest : List UInt8)
  | delete (name : VersionName)
  | report (operation : String)
  /-- Wait for an operation, unless called off at an instant after the beginning. -/
  | wait (operation : String) (cancelAt : Option Nat)
  deriving DecidableEq, Repr

/-- What a call brings, for each kind of call a value of its own. -/
inductive Outcome where
  | versions (published : List PublishedVersion)
  | replications (states : List Replication)
  | operation (id : String)
  | report (report : OperationReport)
  | completion (completion : Completion)
  deriving DecidableEq, Repr

/-- How a call went. Requests are given with the instants at which they were sent. -/
structure Performed (σ : Type) where
  result : Except Fault Outcome
  requests : List (Nat × Request)
  ended : Nat
  transport : σ

/-- The breakdown that the program met with over a call, if it met with one. -/
def Performed.breakdown? {σ : Type} (performed : Performed σ) : Option Breakdown :=
  match performed.result with
  | .ok _ => none
  | .error fault => fault.breakdown?

/-- The reports on operations that a transport brings. Each is asked for by a
question of its own. -/
def statusSource {σ : Type} (transport : Transport σ) : StatusSource σ := fun operation state =>
  let asked := (Question.report operation).ask transport state
  (⟨asked.result, asked.took, asked.calledOff⟩, asked.transport)

namespace Call

/-- What became of a question, at an instant. A question that is not asked makes no
request and takes no time. -/
def ofAsked {α σ : Type} (outcome : α → Outcome) (now : Nat) (asked : Asked α σ) : Performed σ where
  result := asked.result.map outcome
  requests := asked.request?.toList.map fun request => (now, request)
  ended := now + asked.took
  transport := asked.transport

/-- Carry out a call that begins at an instant. A wait asks its questions at
instants behind that. -/
def perform {σ : Type} (settings : WaitSettings) (transport : Transport σ) (now : Nat) (state : σ) :
    Call → Performed σ
  | .versions => ofAsked .versions now (Question.versions.ask transport state)
  | .replications name => ofAsked .replications now ((Question.replications name).ask transport state)
  | .update manifest => ofAsked .operation now ((Question.update manifest).ask transport state)
  | .delete name => ofAsked .operation now ((Question.delete name).ask transport state)
  | .report operation => ofAsked .report now ((Question.report operation).ask transport state)
  | .wait operation cancelAt =>
    let run := settings.wait none (statusSource transport) cancelAt operation state
    let requests := run.starts.flatMap fun start =>
      (Question.report operation).request.toOption.toList.map fun request => (now + start, request)
    ⟨run.result.map .completion, requests, now + run.ended, run.source⟩

/-- Carry out calls one after another. There are no calls behind one that the program breaks down
over. -/
def performAll {σ : Type} (settings : WaitSettings) (transport : Transport σ) :
    Nat → σ → List Call → List (Performed σ)
  | _, _, [] => []
  | now, state, call :: rest =>
    let performed := call.perform settings transport now state
    performed ::
      match performed.breakdown? with
      | some _ => []
      | none => performAll settings transport performed.ended performed.transport rest

end Call

/-- Deliveries in order, whatever is requested; behind the last one nothing is delivered. -/
def rehearsed : Transport (List Delivery) := fun _ deliveries =>
  match deliveries with
  | [] => (⟨.error (.transportFailed "no reply scripted"), 0, false⟩, [])
  | delivery :: rest => (delivery, rest)

end ExtensionPublisher
