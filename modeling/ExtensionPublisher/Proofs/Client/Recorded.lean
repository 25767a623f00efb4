import ExtensionPublisher.Proofs.Client.Blame
import ExtensionPublisher.Proofs.Http.Interrupted
import ExtensionPublisher.Proofs.Wait.Bounds

/-!
# Questions and waits over recorded networks

What is asked over a recorded network is answered as over the network itself, and a wait takes
the same course. The record shows where an answer comes from: the last exchange brought it,
with a status that means acceptance. For a wait that ends well this is the report that the
operation succeeded, `wait_recorded`, however many queries went wrong before it.

The record shows just as well where a breakdown comes from: the program met with the response of the
last exchange and broke down over it. There is one other way for a wait to break down, which is to ask
more often than can be counted.
-/
namespace ExtensionPublisher

open Http

variable {α σ : Type}

/-- A question whose network has a record. Nothing else of it is changed. -/
def Asked.withRecord (asked : Asked α σ) (record : Record) : Asked α (σ × Record) where
  result := asked.result
  request? := asked.request?
  took := asked.took
  calledOff := asked.calledOff
  transport := (asked.transport, record)

/-- A run whose network has a record. Nothing else of it is changed. -/
def Run.withRecord (run : Run σ) (record : Record) : Run (σ × Record) where
  result := run.result
  starts := run.starts
  ended := run.ended
  calledOff := run.calledOff
  source := (run.source, record)

/-- A record tells what became of a question: it was found in the response of the last exchange. -/
def Http.Record.Tells (record : Record) (question : Question α) (result : Except Fault α) : Prop :=
  ∃ received response, record.EndsWith received ∧ received.response = .ok response ∧
    question.conclude (.ok response) = result

/-- A record that tells what became of a question does so behind any other record.
-/
theorem Http.Record.tells_append {record : Record} {question : Question α} {result : Except Fault α}
    (tells : record.Tells question result) (earlier : Record) :
    Record.Tells (earlier ++ record) question result := by
  obtain ⟨received, response, ends, rest⟩ := tells
  exact ⟨received, response, Record.ends_with_append ends earlier, rest⟩

/-- What is accepted is the response itself. It is a success, or it would have been
refused. -/
theorem Response.of_accepted {response taken : Response} (accepted : response.accepted = .ok taken) :
    response.isSuccess = true ∧ taken = response := by
  unfold Response.accepted at accepted
  split at accepted
  · next success =>
    cases accepted
    exact ⟨success, rfl⟩
  · cases accepted

/-- The answer to a question is in an accepted response. A fault in front of that
would be the conclusion. -/
theorem Question.of_conclude {question : Question α} {received : Except Fault Response} {answer : α}
    (concluded : question.conclude received = .ok answer) :
    ∃ response, received = .ok response ∧ response.isSuccess = true ∧
      question.read response = .ok answer := by
  obtain ⟨taken, accepted, read⟩ := ok_of_bind concluded
  obtain ⟨response, delivered, accepted⟩ := ok_of_bind accepted
  obtain ⟨success, rfl⟩ := Response.of_accepted accepted
  exact ⟨taken, delivered, success, read⟩

variable (network : Network σ) (connection : Connection)

/-- A question over a recorded network fares as over the network itself. The record shows no
exchange for a question that makes no request. For one that makes a request it tells what became of
it, unless that is a fault on the way. -/
theorem Question.ask_recorded (question : Question α) (state : σ) (record : Record) :
    ∃ more : Record,
      question.ask (connection.transport network.recorded) (state, record) =
        (question.ask (connection.transport network) state).withRecord (record ++ more) ∧
      (∀ fault, question.request = .error fault → more = []) ∧
      ∀ request, question.request = .ok request →
        (∃ message, (question.ask (connection.transport network) state).result =
          .error (.transportFailed message)) ∨
        more.Tells question (question.ask (connection.transport network) state).result := by
  cases made : question.request with
  | error fault =>
    refine ⟨[], ?_, fun _ _ => rfl, ?_⟩
    · simp [ask, made, Asked.withRecord]
    · intro request sent
      cases sent
  | ok request =>
    obtain ⟨more, same, ends⟩ := connection.transport_recorded network request state record
    refine ⟨more, ?_, ?_, ?_⟩
    · simp [ask, made, same, Asked.withRecord]
    · intro fault unsent
      cases unsent
    · intro _ _
      simp only [ask, made]
      cases delivered : (connection.transport network request state).1.result with
      | error fault =>
        obtain ⟨message, rfl⟩ := connection.fault_of_transport network request state delivered
        exact .inl ⟨message, rfl⟩
      | ok response =>
        obtain ⟨received, last, response_of⟩ := ends response delivered
        exact .inr ⟨received, response, last, response_of, rfl⟩

/-- A question may be asked over a recorded network until there is an interruption. What is more in the
record ends with the interruption, or the question fares as it would without any: the record shows no
exchange if there is no request, and otherwise it tells what became of the question, unless that is a
fault on the way. -/
theorem Question.ask_until_interrupted (question : Question α) (state : σ) (record : Record) :
    let asked := question.ask (connection.transport network.untilInterrupted) (state, false)
    ∃ more : Record,
      question.ask (connection.transport network.recorded.untilInterrupted) ((state, record), false) =
        ⟨asked.result, asked.request?, asked.took, asked.calledOff,
          (asked.transport.1, record ++ more), asked.transport.2⟩ ∧
      (asked.calledOff = true → more.EndsInterrupted) ∧
      (asked.calledOff = false →
        (∀ fault, question.request = .error fault → more = []) ∧
        ∀ request, question.request = .ok request →
          (∃ message, asked.result = .error (.transportFailed message)) ∨
          more.Tells question asked.result) := by
  intro asked
  let wide := question.ask (connection.transport network.recorded.untilInterrupted)
    ((state, record), false)
  have alike := connection.transport_view (Network.until_interrupted_goes_like network.recorded_goes_like)
  have same : asked = wide.view (Prod.map Prod.fst id) :=
    question.ask_view alike ((state, record), false)
  have wider (more : Record) (left : wide.transport.1.2 = record ++ more) :
      wide = ⟨asked.result, asked.request?, asked.took, asked.calledOff,
        (asked.transport.1, record ++ more), asked.transport.2⟩ := by
    rw [same, ← left]
    rfl
  have calledOff : asked.calledOff = wide.calledOff := congrArg Asked.calledOff same
  have result : asked.result = wide.result := congrArg Asked.result same
  obtain ⟨plainly, asksPlainly, unsent, tells⟩ :=
    question.ask_recorded network connection state record
  cases made : question.request with
  | error fault =>
    have quiet : wide.calledOff = false := by simp only [wide, ask, made]
    have left : wide.transport.1.2 = record ++ [] := by simp [wide, ask, made]
    refine ⟨[], wider [] left, ?_, fun _ => ⟨fun _ _ => rfl, ?_⟩⟩
    · intro loud
      exact absurd (calledOff.symm.trans loud) (by rw [quiet]; exact Bool.false_ne_true)
    · intro request sent
      cases sent
  | ok request =>
    rcases connection.transport_until_interrupted request network state record with
      ⟨heard, quiet⟩ | ⟨loud, more, rest, left, _, cut⟩
    · let plain := question.ask (connection.transport network.recorded) (state, record)
      have ended : wide = ⟨plain.result, plain.request?, plain.took, plain.calledOff,
          plain.transport, false⟩ := by
        simp only [wide, plain, ask, made, heard]
      rw [show plain = _ from asksPlainly] at ended
      refine ⟨plainly, wider plainly (by rw [ended]; rfl), ?_, fun _ => ⟨?_, ?_⟩⟩
      · have uninterrupted : wide.calledOff = false := by simpa only [wide, ask, made, heard] using quiet
        intro loud
        exact absurd (calledOff.symm.trans loud) (by rw [uninterrupted]; exact Bool.false_ne_true)
      · intro fault unsent
        cases unsent
      · intro request known
        rw [result, ended]
        exact tells request (made.trans known)
    · have ends : wide.calledOff = true := by simpa only [wide, ask, made] using loud
      refine ⟨more, wider more ?_, fun _ => cut.ends, ?_⟩
      · simpa only [wide, ask, made] using left
      · intro quiet
        exact absurd (calledOff.symm.trans quiet) (by rw [ends]; exact Bool.false_ne_true.symm)

section Queries

variable (operation : String) (state : σ) (record : Record)

/-- A query over a recorded network brings what it brings over the network itself.
The record tells what becomes of it. -/
theorem query_recorded :
    ∃ more : Record,
      statusSource (connection.transport network.recorded) operation (state, record) =
        ((statusSource (connection.transport network) operation state).1,
          (statusSource (connection.transport network) operation state).2, record ++ more) ∧
      ∀ request, (Question.report operation).request = .ok request →
        (∃ message, (statusSource (connection.transport network) operation state).1.result =
          .error (.transportFailed message)) ∨
        more.Tells (Question.report operation)
          (statusSource (connection.transport network) operation state).1.result := by
  obtain ⟨more, same, _, tells⟩ :=
    (Question.report operation).ask_recorded network connection state record
  refine ⟨more, ?_, tells⟩
  simp only [statusSource, same, Asked.withRecord]

/-- Queries in a row leave the same network behind, with a record. The induction is
on their number, and each adds its own exchanges. -/
theorem queries_recorded (count : Nat) :
    ∃ more : Record,
      (statusSource (connection.transport network.recorded)).after operation (state, record) count =
        ((statusSource (connection.transport network)).after operation state count,
          record ++ more) := by
  induction count with
  | zero => exact ⟨[], by simp [StatusSource.after]⟩
  | succ count inductionHypothesis =>
    obtain ⟨earlier, before⟩ := inductionHypothesis
    obtain ⟨more, same, _⟩ := query_recorded network connection operation
      ((statusSource (connection.transport network)).after operation state count) (record ++ earlier)
    refine ⟨earlier ++ more, ?_⟩
    rw [StatusSource.after, before, same, List.append_assoc]
    rfl

/-- Queries in a row bring the same replies, since no query can look at the record.
-/
theorem reply_recorded :
    (statusSource (connection.transport network.recorded)).reply operation (state, record) =
      (statusSource (connection.transport network)).reply operation state := by
  funext index
  obtain ⟨earlier, before⟩ := queries_recorded network connection operation state record index
  obtain ⟨more, same, _⟩ := query_recorded network connection operation
    ((statusSource (connection.transport network)).after operation state index) (record ++ earlier)
  rw [StatusSource.reply, before, same]
  rfl

/-- The record tells what became of the last of some queries. The exchanges of the
others stand in front of it. -/
theorem last_recorded (named : Text.blank operation = false) (index : Nat) :
    let reply := (statusSource (connection.transport network)).reply operation state index
    ∃ more : Record,
      (statusSource (connection.transport network.recorded)).after operation (state, record)
          (index + 1) =
        ((statusSource (connection.transport network)).after operation state (index + 1),
          record ++ more) ∧
      ((∃ message, reply.result = .error (.transportFailed message)) ∨
        more.Tells (Question.report operation) reply.result) := by
  obtain ⟨earlier, before⟩ := queries_recorded network connection operation state record index
  obtain ⟨more, same, tells⟩ := query_recorded network connection operation
    ((statusSource (connection.transport network)).after operation state index) (record ++ earlier)
  refine ⟨earlier ++ more, ?_, ?_⟩
  · rw [StatusSource.after, before, same, List.append_assoc]
    rfl
  · rcases tells _ (Question.request_of_named named) with failed | told
    · exact .inl failed
    · exact .inr (Record.tells_append told earlier)

end Queries

/-- A run that succeeds has the report of success as its last reply. Every other way
to close a run is a fault. -/
theorem Course.Follows.succeeded {course : Course} {query : StatusSource σ} {source : σ}
    {run : Run σ} (follows : course.Follows query source run) {completion : Completion}
    (succeeded : run.result = .ok completion) :
    ∃ last, run.starts.length = last + 1 ∧
      (course.replies last).result = .ok .succeeded := by
  rcases follows.last_query with ⟨none, _⟩ | ⟨last, count, _, closes⟩
  · have outcome := follows.outcome
    rw [succeeded] at outcome
    cases outcome with
    | closed starts _ =>
      have begun := (follows.starts_iff _).mp starts
      simp [none] at begun
  · refine ⟨last, count, ?_⟩
    rw [succeeded] at closes
    generalize run.ended = ended at closes
    cases closes with
    | settled settles =>
      cases settles with
      | succeeded given => exact given

/-- A run that breaks down does so over its last reply, or because it has asked as often as can be
counted. -/
theorem Course.Follows.broken_down {course : Course} {query : StatusSource σ} {source : σ}
    {run : Run σ} (follows : course.Follows query source run) {breakdown : Breakdown}
    (broken : run.result = .error (.brokenDown breakdown)) :
    ∃ last, run.starts.length = last + 1 ∧
      ((course.replies last).result = .error (.brokenDown breakdown) ∨
        breakdown = .overflow ∧ last + 1 = greatestCount) := by
  rcases follows.last_query with ⟨none, _⟩ | ⟨last, count, _, closes⟩
  · have outcome := follows.outcome
    rw [broken] at outcome
    cases outcome with
    | closed starts _ =>
      have begun := (follows.starts_iff _).mp starts
      simp [none] at begun
  · refine ⟨last, count, ?_⟩
    rw [broken] at closes
    generalize run.ended = ended at closes
    cases closes with
    | settled settles =>
      cases settles with
      | refused given => exact .inl given
    | brokenDown _ full => exact .inr ⟨rfl, full⟩

/-- A wait over a recorded network goes as over the network itself. If it ends well, its record
tells the report that the operation succeeded. If it breaks down, the record tells over what, unless
there were as many queries as can be counted.

The replies are the same, so both runs follow one course, and a course has one run. -/
theorem wait_recorded {settings : WaitSettings} {operation : String}
    (accepted : settings.validate = .ok ()) (named : Text.blank operation = false)
    (deadline? cancelAt : Option Nat) (state : σ) (record : Record) :
    let run := settings.wait deadline? (statusSource (connection.transport network)) cancelAt operation
      state
    ∃ more : Record,
      settings.wait deadline? (statusSource (connection.transport network.recorded)) cancelAt
          operation (state, record) = run.withRecord (record ++ more) ∧
      (∀ completion, run.result = .ok completion →
        more.Tells (Question.report operation) (.ok .succeeded)) ∧
      ∀ breakdown, run.result = .error (.brokenDown breakdown) →
        more.Tells (Question.report operation) (.error (.brokenDown breakdown)) ∨
          breakdown = .overflow ∧ run.starts.length = greatestCount := by
  intro run
  have follows : Course.Follows _ _ _ run := settings.wait_follows accepted named deadline?
    (statusSource (connection.transport network)) cancelAt state
  have recorded := settings.wait_follows accepted named deadline?
    (statusSource (connection.transport network.recorded)) cancelAt (state, record)
  have course : settings.course deadline? (statusSource (connection.transport network.recorded))
      cancelAt operation (state, record) =
        settings.course deadline? (statusSource (connection.transport network)) cancelAt operation
          state := by
    simp only [WaitSettings.course, reply_recorded]
  rw [course] at recorded
  have again (more : Record)
      (left : (statusSource (connection.transport network.recorded)).after operation
        (state, record) run.starts.length = (run.source, record ++ more)) :
      settings.wait deadline? (statusSource (connection.transport network.recorded)) cancelAt
        operation (state, record) = run.withRecord (record ++ more) :=
    Course.follows_unique recorded
      ⟨follows.starts_iff, follows.starts, follows.outcome, follows.calledOff, left.symm⟩
  cases count : run.starts.length with
  | zero =>
    have left : (statusSource (connection.transport network.recorded)).after operation
        (state, record) run.starts.length = (run.source, record ++ []) := by
      rw [follows.source, count, List.append_nil]
      rfl
    refine ⟨[], again [] left, ?_, ?_⟩
    · intro completion succeeded
      obtain ⟨last, several, _⟩ := follows.succeeded succeeded
      omega
    · intro breakdown broken
      obtain ⟨last, several, _⟩ := follows.broken_down broken
      omega
  | succ last =>
    obtain ⟨more, left, tells⟩ :=
      last_recorded network connection operation state record named last
    have told {result : Except Fault OperationReport}
        (given : ((statusSource (connection.transport network)).reply operation state last).result =
          result)
        (brought : ∀ message, result ≠ .error (.transportFailed message)) :
        more.Tells (Question.report operation) result := by
      rw [given] at tells
      rcases tells with ⟨message, failed⟩ | told
      · exact absurd failed (brought message)
      · exact told
    refine ⟨more, again more ?_, ?_, ?_⟩
    · rw [follows.source, count, left]
      rfl
    · intro completion succeeded
      obtain ⟨final, several, given⟩ := follows.succeeded succeeded
      obtain rfl : last = final := by omega
      refine told given ?_
      intro message failed
      cases failed
    · intro breakdown broken
      obtain ⟨final, several, cause⟩ := follows.broken_down broken
      obtain rfl : last = final := by omega
      rcases cause with given | ⟨overflow, full⟩
      · refine .inl (told given ?_)
        intro message failed
        cases failed
      · exact .inr ⟨overflow, full⟩

end ExtensionPublisher
