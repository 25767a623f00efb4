import ExtensionPublisher.Proofs.Client.Blame
import ExtensionPublisher.Proofs.Wait.Bounds
import Mathlib.Data.List.Basic

/-!
# Waiting on deliveries

A client that waits for an operation asks how it stands, again and again, with the same request. So
a transport comes down to a sequence of deliveries, and a wait over the transport is the wait on the
reports that the deliveries hold, `wait_on_deliveries`: a fault of the transport is the reply itself,
a refused response is a rejection, and an accepted one is read.

What ends a wait is told from the delivery alone. A delivery stops the wait at once if it reports
that the operation has ended, if it refuses for good, or if the transport fails for good. Any other
fault is put up with until there are too many in a row. A delivery in which a document type divides a
text is no fault of this kind, although it cannot be read: the reader breaks down over it, and the wait
with the reader, `divided_report_is_not_retried`.
-/
namespace ExtensionPublisher

variable {σ : Type}

/-! ## Deliveries for one request -/

namespace Transport

/-- A transport behind a number of deliveries for a request, asked for one after
another. -/
def after (transport : Transport σ) (request : Request) (state : σ) : Nat → σ
  | 0 => state
  | count + 1 => (transport request (transport.after request state count)).2

/-- The deliveries for a request that is sent again and again, in order. -/
def deliveries (transport : Transport σ) (request : Request) (state : σ) (index : Nat) : Delivery :=
  (transport request (transport.after request state index)).1

/-- The transport that brings a sequence of deliveries in order, whatever is requested. -/
def ofDeliveries (deliveries : Nat → Delivery) : Transport Nat := fun _ given =>
  (deliveries given, given + 1)

/-- Every sequence of deliveries is what some transport brings, so a statement about
all transports leaves no sequence out. -/
theorem deliveries_of_deliveries (deliveries : Nat → Delivery) (request : Request) :
    (ofDeliveries deliveries).deliveries request 0 = deliveries := by
  have given (count : Nat) : (ofDeliveries deliveries).after request 0 count = count := by
    induction count with
    | zero => rfl
    | succ count inductionHypothesis => simp [after, inductionHypothesis, ofDeliveries]
  funext index
  simp [Transport.deliveries, given, ofDeliveries]

/-- The transport that writes down what is requested, and otherwise is the one that
it is made of. -/
def logged (transport : Transport σ) : Transport (σ × List Request) := fun request state =>
  let (delivery, next) := transport request state.1
  (delivery, next, state.2 ++ [request])

end Transport

namespace Delivery

/-- The report in a delivery. A fault of the transport is kept, a response that is not accepted is a
rejection, and an accepted one is read. -/
def report (delivery : Delivery) : Except Fault OperationReport :=
  match delivery.result with
  | .error fault => .error fault
  | .ok response =>
    if 200 ≤ response.status ∧ response.status < 300 then
      (OperationReport.read response.body).mapError AnswerFault.toFault
    else .error response.rejection

/-- A delivery as the reply to a query. -/
def classified (delivery : Delivery) : Reply where
  result := delivery.report
  took := delivery.took
  calledOff := delivery.calledOff

/-- A delivery stops a wait for an operation by itself, with a result. -/
inductive StopsWith (delivery : Delivery) (operation : String) (queries elapsed : Nat) :
    Except Fault Completion → Prop where
  | succeeded {response : Response} (delivered : delivery.result = .ok response)
      (accepted : 200 ≤ response.status ∧ response.status < 300)
      (read : OperationReport.read response.body = .ok .succeeded) :
      StopsWith delivery operation queries elapsed (.ok ⟨operation, queries, elapsed⟩)
  | failed {response : Response} {code message : String}
      (delivered : delivery.result = .ok response)
      (accepted : 200 ≤ response.status ∧ response.status < 300)
      (read : OperationReport.read response.body = .ok (.failed code message)) :
      StopsWith delivery operation queries elapsed
        (.error (.operationFailed operation code message))
  | refused {response : Response} {reasons : Rejection}
      (delivered : delivery.result = .ok response)
      (refused : ¬(200 ≤ response.status ∧ response.status < 300))
      (lasting : response.status < 500 ∧ response.status ≠ 429)
      (explained : Rejection.ofBody response.body = .ok reasons) :
      StopsWith delivery operation queries elapsed
        (.error (.rejected response.status reasons.code reasons.message))
  | broken {fault : Fault} (delivered : delivery.result = .error fault)
      (lasting : fault.isTransient = false) :
      StopsWith delivery operation queries elapsed (.error fault)
  | dividedReport {response : Response} (delivered : delivery.result = .ok response)
      (accepted : 200 ≤ response.status ∧ response.status < 300)
      (divided : OperationReport.read response.body = .error (.record .dividedText)) :
      StopsWith delivery operation queries elapsed (.error (.brokenDown .unreachable))
  | dividedReasons {response : Response} (delivered : delivery.result = .ok response)
      (refused : ¬(200 ≤ response.status ∧ response.status < 300))
      (divided : Rejection.read response.body = .error (.record .dividedText)) :
      StopsWith delivery operation queries elapsed (.error (.brokenDown .unreachable))

/-- A delivery is put up with: the transport failed for now, the service was busy or broken, or what
it said could not be read. -/
inductive IsRetried (delivery : Delivery) : Prop where
  | broken {fault : Fault} (delivered : delivery.result = .error fault)
      (transient : fault.isTransient = true)
  | busy {response : Response} {reasons : Rejection} (delivered : delivery.result = .ok response)
      (refused : response.status = 429 ∨ 500 ≤ response.status)
      (explained : Rejection.ofBody response.body = .ok reasons)
  | garbled {response : Response} {fault : AnswerFault} (delivered : delivery.result = .ok response)
      (accepted : 200 ≤ response.status ∧ response.status < 300)
      (unread : OperationReport.read response.body = .error fault)
      (whole : fault ≠ .record .dividedText)

variable {delivery : Delivery}

/-- What the question about an operation finds in a delivery is the report in it, so
the two need not be told apart. -/
theorem conclude_report (operation : String) (delivery : Delivery) :
    (Question.report operation).conclude delivery.result = delivery.report := by
  unfold Question.conclude report Response.accepted
  cases delivery.result with
  | error fault => rfl
  | ok response =>
    by_cases accepted : 200 ≤ response.status ∧ response.status < 300
    · simp [accepted, Response.isSuccess, bind, Except.bind, Question.report]
    · simp [accepted, Response.isSuccess, bind, Except.bind]

/-- A report is read in an accepted response. A fault of the transport or a refusal
brings none, and neither does a body that cannot be read. -/
theorem report_eq_ok_iff {report : OperationReport} :
    delivery.report = .ok report ↔
      ∃ response, delivery.result = .ok response ∧
        (200 ≤ response.status ∧ response.status < 300) ∧
        OperationReport.read response.body = .ok report := by
  constructor
  · intro known
    unfold Delivery.report at known
    split at known
    · cases known
    · next response delivered =>
      split at known
      · next accepted => exact ⟨response, delivered, accepted, ok_of_map_error known⟩
      · cases known
  · rintro ⟨response, delivered, accepted, read⟩
    simp [Delivery.report, delivered, accepted, read]

/-- What a refused response comes to: its rejection, for the reasons in its body. -/
theorem report_of_refused {response : Response} (delivered : delivery.result = .ok response)
    (refused : ¬(200 ≤ response.status ∧ response.status < 300)) :
    delivery.report = .error response.rejection := by
  rw [report, delivered]
  exact if_neg refused

/-- What an accepted response comes to that cannot be read: the fault that reading
its body makes. -/
theorem report_of_unread {response : Response} {fault : AnswerFault}
    (delivered : delivery.result = .ok response)
    (accepted : 200 ≤ response.status ∧ response.status < 300)
    (unread : OperationReport.read response.body = .error fault) :
    delivery.report = .error fault.toFault := by
  simp [report, delivered, accepted, unread]

/-- Everything that the fault in a delivery can be. It comes from the transport,
from a refusal, or from an accepted response that cannot be read. -/
theorem fault_cases {fault : Fault} (known : delivery.report = .error fault) :
    delivery.result = .error fault ∨
    ∃ response, delivery.result = .ok response ∧
      (¬(200 ≤ response.status ∧ response.status < 300) ∧ fault = response.rejection ∨
        (200 ≤ response.status ∧ response.status < 300) ∧
          ∃ unread, OperationReport.read response.body = .error unread ∧ fault = unread.toFault) := by
  unfold report at known
  split at known
  · next delivered =>
    obtain rfl := Except.error.inj known
    exact .inl delivered
  · next response delivered =>
    refine .inr ⟨response, delivered, ?_⟩
    split at known
    · next accepted =>
      cases unread : OperationReport.read response.body with
      | error fault =>
        rw [unread, map_error_error] at known
        exact .inr ⟨accepted, fault, rfl, (Except.error.inj known).symm⟩
      | ok report => simp [unread] at known
    · next refused => exact .inl ⟨refused, (Except.error.inj known).symm⟩

/-- A delivery is put up with exactly if the fault in it is transient. The three
kinds of such deliveries are the three kinds of transient faults, and a breakdown is
not among them. -/
theorem is_retried_iff :
    delivery.IsRetried ↔ ∃ fault, delivery.report = .error fault ∧ fault.isTransient = true := by
  constructor
  · intro retried
    cases retried with
    | broken delivered transient => exact ⟨_, by rw [report, delivered], transient⟩
    | @busy response reasons delivered refused explained =>
      have outside : ¬(200 ≤ response.status ∧ response.status < 300) := by omega
      refine ⟨_, report_of_refused delivered outside, ?_⟩
      simp only [Response.rejection, explained, Fault.transient_rejected_iff]
      exact refused
    | @garbled response fault delivered accepted unread whole =>
      refine ⟨_, report_of_unread delivered accepted unread, ?_⟩
      rw [AnswerFault.to_fault_of_readable whole]
      rfl
  · rintro ⟨fault, known, transient⟩
    rcases fault_cases known with delivered | ⟨response, delivered, ⟨refused, rfl⟩ | ⟨accepted, unread, read, rfl⟩⟩
    · exact .broken delivered transient
    · rcases response.rejection_cases with ⟨reasons, explained, same⟩ | ⟨_, same⟩
      · rw [same, Fault.transient_rejected_iff] at transient
        exact .busy delivered transient explained
      · rw [same] at transient
        cases transient
    · refine .garbled delivered accepted read ?_
      rintro rfl
      cases transient

/-- A delivery with a lasting fault stops the wait with the fault, and so does one
that the program breaks down over. -/
theorem stops_with_lasting {fault : Fault} (known : delivery.report = .error fault)
    (lasting : fault.isTransient = false) (operation : String) (queries elapsed : Nat) :
    delivery.StopsWith operation queries elapsed (.error fault) := by
  rcases fault_cases known with delivered | ⟨response, delivered, ⟨refused, rfl⟩ | ⟨accepted, unread, read, rfl⟩⟩
  · exact .broken delivered lasting
  · rcases response.rejection_cases with ⟨reasons, explained, same⟩ | ⟨divided, same⟩
    · rw [same] at lasting ⊢
      have quiet := mt Fault.transient_rejected_iff.mpr (Bool.eq_false_iff.mp lasting)
      exact .refused delivered refused (by omega) explained
    · rw [same]
      exact .dividedReasons delivered refused divided
  · by_cases divided : unread = .record .dividedText
    · subst divided
      exact .dividedReport delivered accepted read
    · rw [AnswerFault.to_fault_of_readable divided] at lasting
      cases lasting

/-- A delivery that stops a wait with a fault has the fault, and it is a lasting
one. The other possibility is a report that the operation has failed. -/
theorem fault_of_stops {operation : String} {queries elapsed : Nat} {fault : Fault}
    (stops : delivery.StopsWith operation queries elapsed (.error fault)) :
    delivery.report = .error fault ∧ fault.isTransient = false ∨
      ∃ code message, fault = .operationFailed operation code message ∧
        delivery.report = .ok (.failed code message) := by
  cases stops with
  | failed delivered accepted read =>
    exact .inr ⟨_, _, rfl, report_eq_ok_iff.mpr ⟨_, delivered, accepted, read⟩⟩
  | refused delivered refused lasting explained =>
    refine .inl ⟨?_, ?_⟩
    · rw [report_of_refused delivered refused]
      simp only [Response.rejection, explained]
    · apply Bool.eq_false_iff.mpr
      rw [Ne, Fault.transient_rejected_iff]
      omega
  | broken delivered lasting => exact .inl ⟨by rw [report, delivered], lasting⟩
  | dividedReport delivered accepted divided =>
    exact .inl ⟨report_of_unread delivered accepted divided, rfl⟩
  | @dividedReasons response delivered refused divided =>
    refine .inl ⟨?_, rfl⟩
    rw [report_of_refused delivered refused]
    rcases response.rejection_cases with ⟨reasons, explained, _⟩ | ⟨_, same⟩
    · rcases Rejection.of_body_cases response.body with ⟨_, _, whole⟩ | ⟨broken, _⟩
      · exact absurd divided whole
      · rw [broken] at explained
        cases explained
    · rw [same]

end Delivery

namespace Course

variable {course : Course} {deliveries : Nat → Delivery} {index : Nat}

/-- A reply settles a wait if the delivery stops it, or if it is a fault too many in
a row. Only the second looks at deliveries in front of this one. -/
theorem settles_iff (met : course.replies index = (deliveries index).classified)
    {result : Except Fault Completion} :
    course.Settles index result ↔
      (deliveries index).StopsWith course.operation (index + 1) (course.replied index) result ∨
      ∃ fault, (deliveries index).report = .error fault ∧ fault.isTransient = true ∧
        course.FaultsInARow course.failureBound (index + 1) ∧
        result = .error (.statusUnavailable course.operation course.failureBound fault) := by
  have same : (course.replies index).result = (deliveries index).report := by rw [met]; rfl
  constructor
  · intro settles
    cases settles with
    | succeeded given =>
      obtain ⟨response, delivered, accepted, read⟩ := Delivery.report_eq_ok_iff.mp (same ▸ given)
      exact .inl (.succeeded delivered accepted read)
    | failed given =>
      obtain ⟨response, delivered, accepted, read⟩ := Delivery.report_eq_ok_iff.mp (same ▸ given)
      exact .inl (.failed delivered accepted read)
    | refused given lasting =>
      exact .inl (Delivery.stops_with_lasting (same ▸ given) lasting _ _ _)
    | exhausted given transient inARow => exact .inr ⟨_, same ▸ given, transient, inARow, rfl⟩
  · rintro (stops | ⟨fault, given, transient, inARow, rfl⟩)
    · cases result with
      | ok completion =>
        cases stops with
        | succeeded delivered accepted read =>
          exact .succeeded (same ▸ Delivery.report_eq_ok_iff.mpr ⟨_, delivered, accepted, read⟩)
      | error fault =>
        rcases Delivery.fault_of_stops stops with ⟨known, lasting⟩ | ⟨code, message, rfl, known⟩
        · exact .refused (same ▸ known) lasting
        · exact .failed (same ▸ known)
    · exact .exhausted (same ▸ given) transient inARow

/-- A row of transient faults is made of deliveries that are put up with, as many as
are counted. -/
theorem retried_of_row (met : ∀ index, course.replies index = (deliveries index).classified)
    {count : Nat} (inARow : course.FaultsInARow count (index + 1)) :
    count ≤ index + 1 ∧ ∀ earlier ≤ index, index < earlier + count →
      (deliveries earlier).IsRetried := by
  obtain ⟨first, size, faults, _⟩ := inARow
  refine ⟨by omega, ?_⟩
  intro earlier before inside
  obtain ⟨fault, given, transient⟩ := faults earlier (by omega) (by omega)
  rw [met] at given
  exact Delivery.is_retried_iff.mpr ⟨fault, given, transient⟩

/-- What the last query of a wait ends it with: its delivery stops the wait, or it is a fault too many
in a row, or time is up, or the wait is called off. -/
theorem ending_of_closes (met : ∀ index, course.replies index = (deliveries index).classified)
    {result : Except Fault Completion} {ended : Nat} (closes : course.Closes index result ended) :
    (deliveries index).StopsWith course.operation (index + 1) ended result ∨
    (∃ fault, result = .error (.statusUnavailable course.operation course.failureBound fault) ∧
      (deliveries index).report = .error fault ∧ course.failureBound ≤ index + 1 ∧
      ∀ earlier ≤ index, index < earlier + course.failureBound → (deliveries earlier).IsRetried) ∨
    (result = .error (.timedOut course.operation ended) ∧ course.deadline ≤ ended) ∨
    (result = .error (.cancelled course.operation) ∧
      ((∃ instant, course.cancelAt = some instant ∧ instant ≤ ended) ∨
        ∃ earlier ≤ index, (deliveries earlier).calledOff = true)) ∨
    (result = .error (.brokenDown .overflow) ∧ index + 1 = greatestCount) := by
  cases closes with
  | settled settles =>
    rcases (settles_iff (met index)).mp settles with stops | ⟨fault, given, _, inARow, rfl⟩
    · exact .inl stops
    · obtain ⟨enough, retried⟩ := retried_of_row met inARow
      exact .inr (.inl ⟨fault, rfl, given, enough, retried⟩)
  | calledOffUnderWay unsettled calledOff =>
    refine .inr (.inr (.inr (.inl ⟨rfl, ?_⟩)))
    rcases calledOff with ⟨instant, cancelled, before⟩ | ⟨earlier, before, flagged⟩
    · exact .inl ⟨instant, cancelled, before⟩
    · rw [met] at flagged
      exact .inr ⟨earlier, Nat.le_of_lt_succ before, flagged⟩
  | calledOffInPause unsettled wanted cancelled sooner =>
    exact .inr (.inr (.inr (.inl ⟨rfl, .inl ⟨_, cancelled, Nat.le_refl _⟩⟩)))
  | timedOut unsettled wanted late => exact .inr (.inr (.inl ⟨rfl, Nat.le_max_right _ _⟩))
  | brokenDown due full => exact .inr (.inr (.inr (.inr ⟨rfl, full⟩)))

end Course

/-! ## Waits over a transport -/

section Logged

variable (transport : Transport σ) {operation : String} (state : σ)

/-- The request that a wait for an operation sends. -/
def reportRequest (operation : String) : Request :=
  { method := .get, segments := ["operations", operation] }

/-- A query over a transport that is written down sends one request, and brings the report in what is
delivered for it. -/
theorem query_logged (named : Text.blank operation = false) (log : List Request) :
    statusSource transport.logged operation (state, log) =
      ((transport (reportRequest operation) state).1.classified,
        (transport (reportRequest operation) state).2, log ++ [reportRequest operation]) := by
  simp only [statusSource, Question.ask, Question.request_of_named named, Transport.logged,
    Delivery.conclude_report]
  rfl

/-- Queries in a row send their request once each, and leave the transport behind as
many deliveries. -/
theorem after_logged (named : Text.blank operation = false) (count : Nat) :
    (statusSource transport.logged).after operation (state, []) count =
      (transport.after (reportRequest operation) state count,
        List.replicate count (reportRequest operation)) := by
  induction count with
  | zero => rfl
  | succ count inductionHypothesis =>
    rw [StatusSource.after, inductionHypothesis, query_logged transport _ named,
      List.replicate_succ']
    rfl

/-- Queries in a row bring the reports in what is delivered for their request. So a
wait over a transport meets the replies that its deliveries are. -/
theorem reply_logged (named : Text.blank operation = false) :
    (statusSource transport.logged).reply operation (state, []) =
      fun index => (transport.deliveries (reportRequest operation) state index).classified := by
  funext index
  rw [StatusSource.reply, after_logged transport state named, query_logged transport _ named]
  rfl

/-- A wait over a transport is the wait on the reports in its deliveries: it ends alike, at the same
instant, and asks at the same instants. It sends its request once for each query, and nothing else.

A delivery that stops the wait is the last one, and the wait ends with what it says when it arrives; a
delivery that the reader breaks down over does the same with the breakdown. Where the last delivery does
not stop the wait, it is a fault and as many of them as are put up with came in a row, or time was up,
or the wait was called off, or another query could not be counted. There is no condition on the transport, and
each sequence of deliveries has one, `Transport.deliveries_of_deliveries`. -/
theorem wait_on_deliveries {settings : WaitSettings} (accepted : settings.validate = .ok ())
    (named : Text.blank operation = false) (cancelAt : Option Nat) (now : Nat) :
    let deliveries := transport.deliveries (reportRequest operation) state
    let run := settings.wait none (.ofReplies fun index => (deliveries index).classified) cancelAt
      operation 0
    let performed := (Call.wait operation cancelAt).perform settings transport.logged now (state, [])
    (performed.result = run.result.map .completion ∧ performed.ended = now + run.ended) ∧
    (performed.requests = run.starts.map (fun start => (now + start, reportRequest operation)) ∧
      performed.transport.2 = List.replicate run.starts.length (reportRequest operation)) ∧
    ∀ index, (begun : index < run.starts.length) →
      (∀ result, (deliveries index).StopsWith operation (index + 1)
          (run.starts[index] + (deliveries index).took) result →
        index + 1 = run.starts.length ∧ run.result = result ∧
          run.ended = run.starts[index] + (deliveries index).took) ∧
      (index + 1 = run.starts.length →
        (deliveries index).StopsWith operation (index + 1) run.ended run.result ∨
        (∃ fault, run.result = .error (.statusUnavailable operation settings.failureBound fault) ∧
          (deliveries index).report = .error fault ∧ settings.failureBound ≤ index + 1 ∧
          ∀ earlier ≤ index, index < earlier + settings.failureBound →
            (deliveries earlier).IsRetried) ∨
        (run.result = .error (.timedOut operation run.ended) ∧ settings.deadline ≤ run.ended) ∨
        (run.result = .error (.cancelled operation) ∧
          ((∃ instant, cancelAt = some instant ∧ instant ≤ run.ended) ∨
            ∃ earlier ≤ index, (deliveries earlier).calledOff = true)) ∨
        (run.result = .error (.brokenDown .overflow) ∧ index + 1 = greatestCount)) := by
  intro deliveries run performed
  let course := settings.course none (.ofReplies fun index => (deliveries index).classified) cancelAt
    operation 0
  have replies : course.replies = fun index => (deliveries index).classified :=
    StatusSource.reply_of_replies (fun index => (deliveries index).classified) operation
  have met (index : Nat) : course.replies index = (deliveries index).classified := by rw [replies]
  have follows : course.Follows _ 0 run := settings.wait_follows accepted named none _ cancelAt 0
  -- The wait over the transport follows the same course.
  let query := statusSource transport.logged
  have same : settings.course none query cancelAt operation (state, []) = course := by
    simp only [course, WaitSettings.course, query, reply_logged transport state named,
      StatusSource.reply_of_replies, deliveries]
  have logged := settings.wait_follows accepted named none query cancelAt (state, [])
  rw [same] at logged
  obtain ⟨result, starts, ended⟩ := Course.alike_of_follows logged follows
  refine ⟨⟨?_, ?_⟩, ⟨?_, ?_⟩, ?_⟩
  · exact congrArg (Except.map Outcome.completion) result
  · exact congrArg (now + ·) ended
  · simp only [performed, Call.perform, Question.request_of_named named, Except.toOption,
      Option.toList_some, List.map_cons, List.map_nil]
    rw [starts]
    exact List.map_eq_flatMap.symm
  · have left := congrArg Prod.snd (logged.source.trans (after_logged transport state named _))
    rw [starts] at left
    exact left
  · intro index begun
    have replied : run.starts[index] + (deliveries index).took = course.replied index := by
      rw [follows.start_of_query begun, Course.replied, met]
      rfl
    rw [replied]
    constructor
    · intro result stops
      -- The run that the delivery closes is the only one.
      have closes := Course.Closes.settled ((Course.settles_iff (met index)).mpr (.inl stops))
      have whole := Course.follows_unique follows
        (Course.follows_of_closes _ 0 ((follows.starts_iff index).mpr begun) closes)
      refine ⟨?_, congrArg Run.result whole, congrArg Run.ended whole⟩
      simpa using (congrArg (·.starts.length) whole).symm
    · intro last
      rcases follows.last_query with ⟨none, _⟩ | ⟨final, count, _, closes⟩
      · simp [none] at begun
      · obtain rfl : final = index := by omega
        exact Course.ending_of_closes met closes

end Logged

/-- A service that is busy at first, for a unit of time, and does not know the operation then. -/
def busyThenUnknown (index : Nat) : Delivery :=
  if index = 0 then { result := .ok { status := 503 }, took := 1 }
  else { result := .ok { status := 404 } }

/-- The wait puts up with the busy service, and ends with the refusal. A service
that does not know the operation is not asked again. -/
theorem wait_ends_with_refusal :
    let settings : WaitSettings := { interval := 3, deadline := 9, failureBound := 2 }
    let performed := (Call.wait "op-1" none).perform settings
      (Transport.ofDeliveries busyThenUnknown).logged 0 (0, [])
    performed.result = .error (.rejected 404 "Unknown" "") ∧ performed.ended = 4 ∧
      performed.transport.2 = [reportRequest "op-1", reportRequest "op-1"] := by
  intro settings performed
  have accepted : settings.validate = .ok () := rfl
  have named : Text.blank "op-1" = false := by decide
  obtain ⟨⟨result, ended⟩, ⟨_, log⟩, each⟩ :=
    wait_on_deliveries (.ofDeliveries busyThenUnknown) 0 accepted named none 0
  rw [Transport.deliveries_of_deliveries] at result ended log each
  let query := StatusSource.ofReplies fun index => (busyThenUnknown index).classified
  have follows := settings.wait_follows accepted named none query none 0
  have second : (settings.course none query none "op-1" 0).Starts 1 := by
    refine ⟨⟨?_, ?_, .inr (by decide)⟩, by decide⟩
    · intro earlier inside
      obtain rfl := Nat.lt_one_iff.mp inside
      refine Course.unsettled_iff.mpr (.inr ⟨⟨_, rfl, by decide⟩, ?_⟩)
      rintro ⟨first, size, _⟩
      have two : (settings.course none query none "op-1" 0).failureBound = 2 := rfl
      omega
    · rintro (⟨_, ⟨⟩, _⟩ | ⟨index, inside, flagged⟩)
      obtain rfl := Nat.lt_one_iff.mp inside
      cases flagged
  have begun := (follows.starts_iff 1).mp second
  have start := follows.start_of_query begun
  obtain ⟨count, stopped, ending⟩ := (each 1 begun).1 _ (.refused rfl (by decide) (by decide) rfl)
  rw [stopped] at result
  rw [ending, start] at ended
  rw [← count] at log
  exact ⟨result, ended, log⟩

/-- A report that a document type divides, and the report that the operation has succeeded. -/
def dividedThenSucceeded : List Delivery :=
  [{ result := .ok {
      status := 200, body := "<Operation><Status>Succ<!DOCTYPE x>eeded</Status></Operation>" } },
    { result := .ok { status := 200, body := "<Operation><Status>Succeeded</Status></Operation>" } }]

/-- The wait breaks down over the divided report. It does not ask again, and the success is left over. -/
theorem divided_report_is_not_retried :
    let settings : WaitSettings := { interval := 3, deadline := 9, failureBound := 2 }
    let performed := (Call.wait "op-1" none).perform settings rehearsed 0 dividedThenSucceeded
    performed.result = .error (.brokenDown .unreachable) ∧
      performed.requests = [(0, reportRequest "op-1")] ∧ performed.transport.length = 1 := by
  refine ⟨?_, ?_, ?_⟩ <;> decide +kernel

end ExtensionPublisher
