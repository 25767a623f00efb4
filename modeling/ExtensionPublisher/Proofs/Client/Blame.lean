import ExtensionPublisher.Client.Call
import ExtensionPublisher.Http.Connection
import ExtensionPublisher.Proofs.Result
import ExtensionPublisher.Proofs.Wait.Outcome

/-!
# Who is to blame

What a connection delivers does not blame the input, and neither does what a question reads in
it: only making a request can, so nothing has been sent by then.

An operation that the service has accepted has a name, `blank_of_operation_id`, so asking about
it makes a request, and waiting for it is blameless, `wait_blameless`.

A response can be to blame for more than a failure: where a document type divides a text in it, the
program breaks down. No question of the client breaks down over anything else.
-/
namespace ExtensionPublisher

/-- An answer that cannot be read is not the fault of who asked. What becomes of it
is a malformed response or a breakdown, and neither blames an argument. -/
theorem blameless_of_answer {α : Type} (answer : Except AnswerFault α) :
    Blameless (answer.mapError AnswerFault.toFault) := by
  intro reason blamed
  cases answer with
  | ok value => cases blamed
  | error fault =>
    rw [map_error_error, AnswerFault.toFault] at blamed
    split at blamed
    · cases blamed
    · cases blamed

namespace Response

/-- A refusal by the service blames nobody here, whatever the service itself says
about the arguments. -/
theorem accepted_blameless (response : Response) : Blameless response.accepted := by
  unfold accepted rejection
  split
  · nofun
  · split <;> nofun

/-- An operation that is not named blames nobody, for it is the service that should
have named it. -/
theorem operation_id_blameless (response : Response) : Blameless response.operationId := by
  unfold operationId
  split <;> nofun

/-- The name of an operation that was accepted says something. The blanks around it
are taken away first, and a name of which nothing is left is none. -/
theorem blank_of_operation_id {response : Response} {operation : String}
    (accepted : response.operationId = .ok operation) : Text.blank operation = false := by
  unfold operationId at accepted
  split at accepted
  · cases accepted
  · cases accepted
  · next id named known =>
    cases accepted
    obtain ⟨value, _, rfl⟩ := Option.map_eq_some_iff.mp known
    -- A name that says nothing would have been trimmed to the empty one.
    apply Bool.eq_false_iff.mpr
    intro blank
    exact named (Text.trimmed_eq_empty_of_blank blank)

end Response

/-- A document type divides a text that the client reads in a response: one of the reasons of a
refusal, or a text of what an accepted response is asked for. -/
inductive Response.HoldsDivided (response : Response) : Prop where
  | reasons (refused : response.isSuccess = false)
      (divided : Rejection.read response.body = .error (.record .dividedText))
  | versions (accepted : response.isSuccess = true)
      (divided : PublishedVersion.readAll response.body = .error (.record .dividedText))
  | replications (accepted : response.isSuccess = true)
      (divided : Replication.readAll response.body = .error (.record .dividedText))
  | report (accepted : response.isSuccess = true)
      (divided : OperationReport.read response.body = .error (.record .dividedText))

/-- A refusal is a breakdown only if its reasons are divided. Reasons that cannot be
read for another cause are shown as they are. -/
theorem Response.divided_of_rejection {response : Response} {breakdown : Breakdown}
    (refused : response.isSuccess = false) (broken : response.rejection = .brokenDown breakdown) :
    breakdown = .unreachable ∧ response.HoldsDivided := by
  rcases response.rejection_cases with ⟨reasons, _, same⟩ | ⟨divided, same⟩
  · cases same.symm.trans broken
  · obtain rfl := Fault.brokenDown.inj (same.symm.trans broken)
    exact ⟨rfl, .reasons refused divided⟩

namespace Question

variable {α σ : Type}

/-- Nothing in a response makes a question blame its input. So a blamed input was
blamed before anything was sent. -/
def Candid (question : Question α) : Prop := ∀ response, Blameless (question.read response)

/-- The list of versions is read candidly, because what is wrong with a text is
never an argument. -/
theorem versions_candid : versions.Candid := fun _ => blameless_of_answer _

/-- The list of replication states is read candidly, and so is any other answer in a
text. -/
theorem replications_candid (name : VersionName) : (replications name).Candid := fun _ =>
  blameless_of_answer _

/-- The acceptance of an operation is read candidly: it lacks the name of the
operation at worst. -/
theorem candid_of_operation_id {question : Question String}
    (reads : question.read = Response.operationId) : question.Candid := by
  intro response
  rw [reads]
  exact response.operation_id_blameless

/-- The report on an operation is read candidly. That the operation has failed is a
report and no fault. -/
theorem report_candid (operation : String) : (report operation).Candid := fun _ =>
  blameless_of_answer _

/-- A question that has made its request is blameless where deliveries are. The
arguments have been checked in making the request. -/
theorem ask_blameless {question : Question α} (candid : question.Candid) {request : Request}
    (made : question.request = .ok request) {transport : Transport σ} {state : σ}
    (delivers : Blameless (transport request state).1.result) :
    Blameless (question.ask transport state).result := by
  simp only [ask, made]
  exact blameless_bind (blameless_bind delivers Response.accepted_blameless) candid

/-- A question breaks down over divided responses and over nothing else. In particular it never does so
before it is asked. -/
structure BreaksOverDivided (question : Question α) : Prop where
  made : ∀ breakdown, question.request ≠ .error (.brokenDown breakdown)
  concluded : ∀ response breakdown,
    question.conclude (.ok response) = .error (.brokenDown breakdown) →
      breakdown = .unreachable ∧ response.HoldsDivided

/-- What is found in a response is a breakdown only if the reasons of a refusal are divided, or if
reading an accepted response is a breakdown. -/
theorem divided_of_conclude {question : Question α} {response : Response} {breakdown : Breakdown}
    (broken : question.conclude (.ok response) = .error (.brokenDown breakdown))
    (read : response.isSuccess = true → question.read response = .error (.brokenDown breakdown) →
      breakdown = .unreachable ∧ response.HoldsDivided) :
    breakdown = .unreachable ∧ response.HoldsDivided := by
  cases success : response.isSuccess with
  | false =>
    rw [conclude_of_refused question success] at broken
    exact Response.divided_of_rejection success (Except.error.inj broken)
  | true =>
    rw [conclude_of_accepted question success] at broken
    exact read success broken

/-- Reading an answer in a text is a breakdown only if the text is divided. Any
other fault of reading is a malformed response. -/
theorem divided_of_answer {answer : Except AnswerFault α} {breakdown : Breakdown}
    (broken : answer.mapError AnswerFault.toFault = .error (.brokenDown breakdown)) :
    breakdown = .unreachable ∧ answer = .error (.record .dividedText) := by
  cases answer with
  | ok value => cases broken
  | error fault =>
    obtain ⟨rfl, rfl⟩ := AnswerFault.broken_down_iff.mp (Except.error.inj broken)
    exact ⟨rfl, rfl⟩

/-- A part that says nothing is bad input, and no breakdown. The check of a part has
no other outcome. -/
theorem require_unbroken (part value : String) (breakdown : Breakdown) :
    require part value ≠ .error (.brokenDown breakdown) := by
  unfold require
  split <;> nofun

/-- A name of which a part says nothing is bad input, and no breakdown, whichever of
its parts it is. -/
theorem require_name_unbroken (name : VersionName) (breakdown : Breakdown) :
    requireName name ≠ .error (.brokenDown breakdown) := by
  intro broken
  rcases error_of_bind broken with first | ⟨_, _, broken⟩
  · exact require_unbroken _ _ _ first
  · rcases error_of_bind broken with second | ⟨_, _, third⟩
    · exact require_unbroken _ _ _ second
    · exact require_unbroken _ _ _ third

/-- The list of versions breaks down over divided responses alone, and only where a
text in the list or in the reasons of a refusal is divided. -/
theorem versions_breaks_over_divided : versions.BreaksOverDivided where
  made := nofun
  concluded response breakdown broken := divided_of_conclude broken fun accepted read => by
    obtain ⟨rfl, divided⟩ := divided_of_answer read
    exact ⟨rfl, .versions accepted divided⟩

/-- The list of replication states breaks down over divided responses alone. The
name that is asked about is checked without any. -/
theorem replications_breaks_over_divided (name : VersionName) :
    (replications name).BreaksOverDivided where
  made breakdown broken := by
    rcases error_of_bind broken with unnamed | ⟨_, _, made⟩
    · exact require_name_unbroken name breakdown unnamed
    · cases made
  concluded response breakdown broken := divided_of_conclude broken fun accepted read => by
    obtain ⟨rfl, divided⟩ := divided_of_answer read
    exact ⟨rfl, .replications accepted divided⟩

/-- The report on an operation breaks down over divided responses alone, so a wait
does too as long as it can count its queries. -/
theorem report_breaks_over_divided (operation : String) : (report operation).BreaksOverDivided where
  made breakdown broken := by
    rcases error_of_bind broken with unnamed | ⟨_, _, made⟩
    · exact require_unbroken _ _ breakdown unnamed
    · cases made
  concluded response breakdown broken := divided_of_conclude broken fun accepted read => by
    obtain ⟨rfl, divided⟩ := divided_of_answer read
    exact ⟨rfl, .report accepted divided⟩

/-- The acceptance of an operation is not read in a body, so only the reasons of a refusal can be
divided. -/
theorem divided_of_operation {question : Question String}
    (reads : question.read = Response.operationId) {response : Response} {breakdown : Breakdown}
    (broken : question.conclude (.ok response) = .error (.brokenDown breakdown)) :
    breakdown = .unreachable ∧ response.HoldsDivided := by
  refine divided_of_conclude broken fun _ read => ?_
  rw [reads, Response.operationId] at read
  split at read <;> cases read

/-- The submission of a manifest breaks down over divided responses alone, since the
manifest is sent without being read. -/
theorem update_breaks_over_divided (manifest : List UInt8) :
    (update manifest).BreaksOverDivided where
  made breakdown broken := by
    rcases error_of_bind broken with unfit | ⟨_, _, made⟩
    · unfold manifestBody at unfit
      split at unfit <;> cases unfit
    · cases made
  concluded _ _ := divided_of_operation rfl

/-- A deletion breaks down over divided responses alone, and those are refusals of
it. -/
theorem delete_breaks_over_divided (name : VersionName) : (delete name).BreaksOverDivided where
  made breakdown broken := by
    rcases error_of_bind broken with unnamed | ⟨_, _, made⟩
    · exact require_name_unbroken name breakdown unnamed
    · cases made
  concluded _ _ := divided_of_operation rfl

/-- An operation with a name can be asked about. The name is one segment of the
address, as it is. -/
theorem request_of_named {operation : String} (named : Text.blank operation = false) :
    (report operation).request = .ok { method := .get, segments := ["operations", operation] } := by
  simp [report, require, named, bind, Except.bind, pure, Except.pure]

end Question

/-- A connection delivers a response or a fault on the way. Whatever keeps a
response from being had is told as such a fault. -/
theorem Http.Connection.fault_of_transport {σ : Type} (network : Http.Network σ)
    (connection : Http.Connection) (request : Request) (state : σ) {fault : Fault}
    (failed : (connection.transport network request state).1.result = .error fault) :
    ∃ message, fault = .transportFailed message := by
  simp only [transport] at failed
  cases received : (connection.send network request state).result.bind Received.response with
  | ok response => simp [received] at failed
  | error fault =>
    rw [received, map_error_error] at failed
    exact ⟨_, (Except.error.inj failed).symm⟩

/-- What a connection delivers is blameless, because faults on the way blame nobody.
-/
theorem Http.Connection.transport_blameless {σ : Type} (network : Http.Network σ)
    (connection : Http.Connection) (request : Request) (state : σ) :
    Blameless (connection.transport network request state).1.result := by
  intro reason failed
  obtain ⟨message, other⟩ := connection.fault_of_transport network request state failed
  cases other

/-- A wait that meets blameless replies is blameless. Its result is one of theirs,
or tells that they were too many faults, or that time was up or the wait called off.
-/
theorem Course.blameless_of_outcome {course : Course} {result : Except Fault Completion}
    {ended : Nat} (replies : ∀ index, Blameless (course.replies index).result)
    (outcome : course.Outcome result ended) : Blameless result := by
  cases outcome with
  | unbegun => nofun
  | closed _ closes =>
    cases closes with
    | settled settles =>
      cases settles with
      | succeeded | failed | exhausted => nofun
      | @refused fault given =>
        rintro reason ⟨⟩
        exact replies _ reason given
    | calledOffUnderWay | calledOffInPause | timedOut | brokenDown => nofun

/-- A wait over a connection for an operation with a name is blameless. Only a name
that says nothing, or settings that are refused, would be blamed. -/
theorem Http.Connection.wait_blameless {σ : Type} {settings : WaitSettings} {operation : String}
    (accepted : settings.validate = .ok ()) (named : Text.blank operation = false)
    (deadline? : Option Nat) (network : Http.Network σ) (connection : Http.Connection)
    (cancelAt : Option Nat) (state : σ) :
    Blameless (settings.wait deadline? (statusSource (connection.transport network)) cancelAt
      operation state).result := by
  have follows := settings.wait_follows accepted named deadline?
    (statusSource (connection.transport network)) cancelAt state
  refine Course.blameless_of_outcome ?_ follows.outcome
  intro index
  exact Question.ask_blameless (Question.report_candid operation)
    (Question.request_of_named named) (connection.transport_blameless network _ _)

end ExtensionPublisher
