import ExtensionPublisher.Program
import ExtensionPublisher.Proofs.Client.Recorded
import ExtensionPublisher.Proofs.Http.Interrupted

/-!
# How the program ends

The exit code is all that a script sees of a change, so it must not say more than the service
did. The program is run over a recorded network, which changes nothing else about it, and what
it leaves behind is compared with its record.

A change that ends well has a last exchange that brought the report of success, received in full.
Input is blamed only before anything is sent. The main statement, `ending_is_justified`, says so
of every command line that is carried out, whatever the files hold, whatever the service answers
and whenever the user loses patience.

Not every other ending is a failure with the one exit code for failures. Where a document type divides
a text of the last response, the program breaks down over it and has no failure to report,
`divided_refusal_is_not_reported`. An interruption before the program listens for one leaves no exit
code at all. The record shows both of these, too.
-/
namespace ExtensionPublisher

open Http

/-- The text of a body. What follows the announced bytes is no part of it. -/
def Http.Received.bodyText (received : Received) : String :=
  let announced := received.announced.getD received.body.length
  String.ofList (Text.Utf8.decodeLossy (received.body.take announced))

/-- An answer that confirms an operation: the request was accepted, the body was received in full,
and it is the report of success. -/
structure Http.Received.Confirms (received : Received) : Prop where
  accepted : 200 ≤ received.status ∧ received.status < 300
  whole : ∀ announced, received.announced = some announced → announced ≤ received.body.length
  succeeded : OperationReport.read received.bodyText = .ok .succeeded

/-- A record ends with the confirmation of an operation. -/
def Http.Record.EndsWell (record : Record) : Prop :=
  ∃ received, record.EndsWith received ∧ received.Confirms

/-- A record that ends well does so behind any other record. -/
theorem Http.Record.ends_well_append {record : Record} (well : record.EndsWell)
    (earlier : Record) : Record.EndsWell (earlier ++ record) := by
  obtain ⟨received, ends, confirms⟩ := well
  exact ⟨received, Record.ends_with_append ends earlier, confirms⟩

/-- Nothing is no report of success. -/
theorem OperationReport.read_empty : OperationReport.read "" ≠ .ok .succeeded := nofun

/-- An accepted answer whose content is a report of success was received in full. An answer without
content by its status is none, since nothing is no report. -/
theorem Http.Received.confirms_of_content {received : Received} {content : List UInt8}
    (accepted : 200 ≤ received.status ∧ received.status < 300)
    (known : received.content? = some content)
    (succeeded : OperationReport.read (String.ofList (Text.Utf8.decodeLossy content)) =
      .ok .succeeded) : received.Confirms := by
  unfold content? at known
  split at known
  · cases known
    exact absurd succeeded OperationReport.read_empty
  · cases announced : received.announced with
    | none =>
      simp only [announced, Option.some.injEq] at known
      refine ⟨accepted, ?_, ?_⟩
      · intro told same
        cases announced.symm.trans same
      · simpa [bodyText, announced, known] using succeeded
    | some count =>
      simp only [announced, Option.ite_none_right_eq_some, Option.some.injEq] at known
      obtain ⟨whole, taken⟩ := known
      refine ⟨accepted, ?_, ?_⟩
      · intro told same
        cases announced.symm.trans same
        exact whole
      · simpa [bodyText, announced, taken] using succeeded

/-- A record that tells of a query that the operation succeeded ends well. The
response has the status and the text of the answer, and the content was there in
full. -/
theorem Http.Record.ends_well_of_tells {record : Record} {operation : String}
    (tells : record.Tells (Question.report operation) (.ok .succeeded)) : record.EndsWell := by
  obtain ⟨received, response, ends, made, concluded⟩ := tells
  obtain ⟨_, same, accepted, read⟩ := Question.of_conclude concluded
  obtain rfl := Except.ok.inj same
  obtain ⟨status, content, known, body⟩ := Received.of_response made
  refine ⟨received, ends, Received.confirms_of_content ?_ known ?_⟩
  · simpa [Response.isSuccess, status] using accepted
  · rw [← body]
    exact ok_of_map_error read

/-- A record ends with a response that a document type divides. Decoding such a
response breaks the program down. -/
def Http.Record.EndsDivided (record : Record) : Prop :=
  ∃ received response, record.EndsWith received ∧ received.response = .ok response ∧
    response.HoldsDivided

/-- A record that tells of a breakdown ends with a divided response. No question
breaks down over anything else. -/
theorem Http.Record.ends_divided_of_tells {α : Type} {record : Record} {question : Question α}
    {breakdown : Breakdown} (breaks : question.BreaksOverDivided)
    (tells : record.Tells question (.error (.brokenDown breakdown))) :
    breakdown = .unreachable ∧ record.EndsDivided := by
  obtain ⟨received, response, ends, made, concluded⟩ := tells
  obtain ⟨rfl, divided⟩ := breaks.concluded response breakdown concluded
  exact ⟨rfl, received, response, ends, made, divided⟩

/-- A question that breaks down has met with a divided response, and the record ends with it. -/
theorem divided_of_ask {α σ : Type} {question : Question α} (breaks : question.BreaksOverDivided)
    {transport : Transport σ} {state : σ} {breakdown : Breakdown} {record : Record}
    (broken : (question.ask transport state).result = .error (.brokenDown breakdown))
    (tells : ∀ request, question.request = .ok request →
      (∃ message, (question.ask transport state).result = .error (.transportFailed message)) ∨
        record.Tells question (question.ask transport state).result) :
    breakdown = .unreachable ∧ record.EndsDivided := by
  cases made : question.request with
  | error fault =>
    simp only [Question.ask, made] at broken
    obtain rfl := Except.error.inj broken
    exact absurd made (breaks.made breakdown)
  | ok request =>
    rcases tells request made with ⟨message, failed⟩ | told
    · cases broken.symm.trans failed
    · rw [broken] at told
      exact Record.ends_divided_of_tells breaks told

/-- A record that ends with a divided response does so behind any other record. -/
theorem Http.Record.ends_divided_append {record : Record} (divided : record.EndsDivided)
    (earlier : Record) : Record.EndsDivided (earlier ++ record) := by
  obtain ⟨received, response, ends, rest⟩ := divided
  exact ⟨received, response, Record.ends_with_append ends earlier, rest⟩

/-- Settings that are accepted have a wait that is accepted. The wait is the last
thing about them that is checked. -/
theorem Settings.wait_of_validate {settings : Settings} (accepted : settings.validate = .ok ()) :
    settings.wait.validate = .ok () := by
  obtain ⟨address, _, accepted⟩ := ok_of_bind accepted
  dsimp only at accepted
  split at accepted
  · cases accepted
  · split at accepted
    · cases accepted
    · exact accepted

/-- Whether a command asks the service for a change. -/
def CommandLine.Command.isChange : CommandLine.Command → Bool
  | .newManifest _ | .listVersions _ | .replicationStatus .. => false
  | .updateVersion .. | .unpublishVersion .. | .deleteVersion .. => true

namespace Program

variable {σ τ : Type}

/-- The same surroundings, where the network has a record. The user loses patience
at the same instant. -/
def Surroundings.recorded (surroundings : Surroundings σ) : Surroundings (σ × Record) where
  files := surroundings.files
  network := surroundings.network.recorded
  interruptedAt? := surroundings.interruptedAt?

/-- A report whose network has a record. -/
def Report.withRecord (report : Report σ) (record : Record) : Report (σ × Record) where
  conclusion := report.conclusion
  output := report.output
  warnings := report.warnings
  operation? := report.operation?
  waitedFrom := report.waitedFrom
  requests := report.requests
  ended := report.ended
  network := (report.network, record)

/-- An ending whose network has a record. -/
def Ending.withRecord (ending : Ending σ) (record : Record) : Ending (σ × Record) where
  exitCode := ending.exitCode
  output := ending.output
  log := ending.log
  notice := ending.notice
  network := (ending.network, record)

/-- The requests that a command line leads to, with what happens to them. The record
begins empty. -/
def exchanges (environment : CommandLine.Values) (arguments : List String)
    (surroundings : Surroundings σ) (network : σ) : Record :=
  (run environment arguments surroundings.recorded (network, [])).network.2

/-- A conclusion blames the input: it is a failure with such a fault, whatever it says besides. -/
def Conclusion.Blames (conclusion : Conclusion) : Prop :=
  ∃ failure reason, conclusion = .failed failure ∧ failure.fault? = some (.invalidArgument reason)

/-- What a fault comes to blames the input only if the fault does. Wrapping it in a
failure keeps it, and a breakdown blames nothing. -/
theorem Conclusion.fault_of_blames {wrap : Fault → Failure} {fault : Fault}
    (wraps : (wrap fault).fault? = some fault) (blames : (ofFault wrap fault).Blames) :
    ∃ reason, fault = .invalidArgument reason := by
  obtain ⟨failure, reason, failed, blamed⟩ := blames
  unfold ofFault at failed
  split at failed
  · cases failed
  · obtain rfl := Conclusion.failed.inj failed
    exact ⟨reason, Option.some.inj (wraps.symm.trans blamed)⟩

/-- What a fault comes to is a breakdown only if the fault is one. -/
theorem Conclusion.fault_of_broken_down {wrap : Fault → Failure} {fault : Fault}
    {breakdown : Breakdown} (broken : ofFault wrap fault = .brokenDown breakdown) :
    fault = .brokenDown breakdown := by
  unfold ofFault at broken
  split at broken
  · next known =>
    obtain rfl := Conclusion.brokenDown.inj broken
    unfold Fault.breakdown? at known
    split at known
    · obtain rfl := Option.some.inj known
      rfl
    · cases known
  · cases broken

/-- What a fault comes to is neither a success nor a sudden end. It is a failure, or
a breakdown that goes its own way past every handler. -/
theorem Conclusion.of_fault_cases (wrap : Fault → Failure) (fault : Fault) :
    ofFault wrap fault ≠ .succeeded ∧ ofFault wrap fault ≠ .killed := by
  unfold ofFault
  split
  · exact ⟨nofun, nofun⟩
  · exact ⟨nofun, nofun⟩

/-- A question that blames its input has not made a request. Once it has, neither
the transport nor the answer can blame the input. -/
theorem request_of_blamed {α : Type} {question : Question α} (candid : question.Candid)
    (network : Network σ) (connection : Connection) (state : σ) {reason : String}
    (blamed : (question.ask (connection.transport network) state).result =
      .error (.invalidArgument reason)) :
    ∃ fault, question.request = .error fault := by
  cases made : question.request with
  | error fault => exact ⟨fault, rfl⟩
  | ok request =>
    have delivers := connection.transport_blameless network request state
    exact absurd blamed (Question.ask_blameless candid made delivers reason)

/-- A connection that is opened has settings with which it can wait. So no wait over
it is refused for its settings. -/
theorem wait_of_connect {files : Files} {subscription : CommandLine.Subscription}
    {connection : Connection} (connected : connect files subscription = .ok connection) :
    connection.settings.wait.validate = .ok () := by
  obtain ⟨text, _, connected⟩ := ok_of_bind connected
  obtain ⟨credentials, _, connected⟩ := ok_of_bind connected
  obtain ⟨settings, _, accepted⟩ := Connection.settings_of_establish (ok_of_map_error connected)
  rw [settings]
  exact Settings.wait_of_validate accepted

/-- How a record bears out what is said in a report. A change has succeeded only if the record ends well.
If the input is to blame, nothing was sent. The program has broken down only over a divided response, or
because it asked more often than can be counted. It was killed by an interruption. And nothing but a
success has printed anything. -/
structure Report.IsBorneOut (change : Bool) (report : Report σ) (record : Record) : Prop where
  succeeded : change = true → report.conclusion = .succeeded → record.EndsWell
  blamed : report.conclusion.Blames → record = []
  brokenDown : ∀ breakdown, report.conclusion = .brokenDown breakdown →
    breakdown = .unreachable ∧ record.EndsDivided ∨
      breakdown = .overflow ∧ greatestCount < report.requests.length
  killed : report.conclusion = .killed → record.EndsInterrupted
  silent : report.conclusion ≠ .succeeded → report.output = ""

/-- A report that is made over a recorded network is the report that is made over the network
itself, with more in the record. What is more bears out the report. -/
def Report.IsRecorded (change : Bool) (report : Report σ) (record : Record)
    (recorded : Report (σ × Record)) : Prop :=
  ∃ more : Record, recorded = report.withRecord (record ++ more) ∧ report.IsBorneOut change more

/-- What a fault comes to is borne out where blame is, and where a breakdown is. It
is no success and no sudden end, so the other two parts say nothing. -/
theorem Report.borne_out_of_fault {report : Report σ} {wrap : Fault → Failure} {fault : Fault}
    {record : Record} (change : Bool) (ended : report.conclusion = .ofFault wrap fault)
    (wraps : (wrap fault).fault? = some fault) (silent : report.output = "")
    (blamed : ∀ reason, fault = .invalidArgument reason → record = [])
    (brokenDown : ∀ breakdown, fault = .brokenDown breakdown →
      breakdown = .unreachable ∧ record.EndsDivided ∨
        breakdown = .overflow ∧ greatestCount < report.requests.length) :
    report.IsBorneOut change record := by
  obtain ⟨notSucceeded, notKilled⟩ := Conclusion.of_fault_cases wrap fault
  constructor
  case succeeded => exact fun _ succeeded => absurd (ended.symm.trans succeeded) notSucceeded
  case blamed =>
    intro blames
    rw [ended] at blames
    obtain ⟨reason, known⟩ := Conclusion.fault_of_blames wraps blames
    exact blamed reason known
  case brokenDown =>
    intro breakdown broken
    rw [ended] at broken
    exact brokenDown breakdown (Conclusion.fault_of_broken_down broken)
  case killed => exact fun killed => absurd (ended.symm.trans killed) notKilled
  case silent => exact fun _ => silent

/-- The end of a program that is killed is borne out by the exchange that was interrupted. -/
theorem Report.borne_out_of_killed {report : Report σ} {record : Record} (change : Bool)
    (killed : report.conclusion = .killed) (silent : report.output = "")
    (interrupted : record.EndsInterrupted) : report.IsBorneOut change record := by
  constructor
  case succeeded => exact fun _ succeeded => absurd (killed.symm.trans succeeded) nofun
  case blamed =>
    rintro ⟨failure, reason, failed, _⟩
    cases killed.symm.trans failed
  case brokenDown => exact fun _ broken => absurd (killed.symm.trans broken) nofun
  case killed => exact fun _ => interrupted
  case silent => exact fun _ => silent

/-- A success is borne out where it is no change, or where the record ends well.
Only a success may print. -/
theorem Report.borne_out_of_succeeded {report : Report σ} {record : Record} {change : Bool}
    (succeeded : report.conclusion = .succeeded) (well : change = true → record.EndsWell) :
    report.IsBorneOut change record := by
  constructor
  case succeeded => exact fun changes _ => well changes
  case blamed =>
    rintro ⟨failure, reason, failed, _⟩
    cases succeeded.symm.trans failed
  case brokenDown => exact fun _ broken => absurd (succeeded.symm.trans broken) nofun
  case killed => exact fun killed => absurd (succeeded.symm.trans killed) nofun
  case silent => exact fun other => absurd succeeded other


variable (surroundings : Surroundings σ) (state : σ) (record : Record)

/-- A failure in front of every request leaves nothing in the record. -/
theorem Report.is_recorded_of_failure (change : Bool) (failure : Failure) :
    Report.IsRecorded change { conclusion := .failed failure, network := state } record
      { conclusion := .failed failure, network := (state, record) } := by
  refine ⟨[], by simp [withRecord], ?_⟩
  constructor
  case succeeded => exact fun _ succeeded => nomatch succeeded
  case blamed => exact fun _ => rfl
  case brokenDown => exact fun _ broken => nomatch broken
  case killed => exact fun killed => nomatch killed
  case silent => exact fun _ => rfl

/-- An inquiry goes over a recorded network as over the network itself. It has one
question, and fails in front of it or with what its record tells. -/
theorem inquire_recorded {α : Type} {question : Question α} (candid : question.Candid)
    (breaks : question.BreaksOverDivided) (subscription : CommandLine.Subscription)
    (shown : α → List String) :
    (inquire surroundings subscription question shown state).IsRecorded false record
      (inquire surroundings.recorded subscription question shown (state, record)) := by
  have files : surroundings.recorded.files = surroundings.files := rfl
  have network : surroundings.recorded.network = surroundings.network.recorded := rfl
  simp only [inquire, files, network]
  cases connect surroundings.files subscription with
  | error failure => exact Report.is_recorded_of_failure state record false failure
  | ok connection =>
    obtain ⟨more, same, interrupted, told⟩ :=
      question.ask_until_interrupted surroundings.network connection state record
    simp only [same]
    cases calledOff : (question.ask (connection.transport surroundings.network.untilInterrupted)
      (state, false)).calledOff with
    | true => exact ⟨more, rfl, Report.borne_out_of_killed _ rfl rfl (interrupted calledOff)⟩
    | false =>
      obtain ⟨unsent, tells⟩ := told calledOff
      cases result : (question.ask (connection.transport surroundings.network.untilInterrupted)
        (state, false)).result with
      | ok answer => exact ⟨more, rfl, Report.borne_out_of_succeeded rfl nofun⟩
      | error fault =>
        refine ⟨more, rfl, Report.borne_out_of_fault _ rfl rfl rfl ?_ ?_⟩
        · rintro reason rfl
          obtain ⟨fault, refused⟩ := request_of_blamed candid _ connection _ result
          exact unsent fault refused
        · rintro breakdown rfl
          exact .inl (divided_of_ask breaks result tells)

/-- A wait for an operation with a name asks about it as often as it begins to. -/
theorem count_of_queries {id : String} (named : Text.blank id = false) (since : Nat)
    (starts : List Nat) :
    (starts.flatMap fun start => (Question.report id).request.toOption.toList.map fun request =>
      (since + start, request)).length = starts.length := by
  simp only [Question.request_of_named named, Except.toOption, Option.toList_some, List.map_cons,
    List.map_nil]
  rw [← List.map_eq_flatMap, List.length_map]

/-- A wait goes over a recorded network as over the network itself, behind the record of the submission.

It blames nobody, for the service has named the operation and the settings are accepted. -/
theorem await_recorded {connection : Connection}
    (accepted : connection.settings.wait.validate = .ok ()) {id : String}
    (named : Text.blank id = false) (operation : String) (warnings : List Log.Entry)
    (asked : Asked String σ) (sent : asked.request?.isSome = true) (earlier : Record) :
    let report := await surroundings connection operation id warnings asked
    ∃ more : Record,
      await surroundings.recorded connection operation id warnings
          { asked with transport := (asked.transport, record ++ earlier) } =
        report.withRecord (record ++ (earlier ++ more)) ∧
      report.IsBorneOut true (earlier ++ more) := by
  intro report
  have network : surroundings.recorded.network = surroundings.network.recorded := rfl
  have interrupted : surroundings.recorded.interruptedAt? = surroundings.interruptedAt? := rfl
  obtain ⟨more, same, success, broken⟩ := wait_recorded surroundings.network connection accepted named
    none surroundings.interruptedAt? asked.transport (record ++ earlier)
  have blameless := connection.wait_blameless accepted named none surroundings.network
    surroundings.interruptedAt? asked.transport
  refine ⟨more, ?_, ?_⟩
  · simp only [report, await, network, interrupted, same, Run.withRecord, Report.withRecord,
      List.append_assoc]
    rfl
  · let run := connection.settings.wait.wait none
      (statusSource (connection.transport surroundings.network)) surroundings.interruptedAt? id
      asked.transport
    cases result : run.result with
    | ok completion =>
      refine Report.borne_out_of_succeeded (by simp only [report, await, run] at result ⊢; rw [result]) ?_
      intro _
      exact Record.ends_well_append (Record.ends_well_of_tells (success completion result)) earlier
    | error fault =>
      refine Report.borne_out_of_fault true
        (by simp only [report, await, run] at result ⊢; rw [result]) rfl rfl ?_ ?_
      · rintro reason rfl
        exact absurd result (blameless reason)
      · rintro breakdown rfl
        rcases broken breakdown result with told | ⟨overflow, full⟩
        · obtain ⟨unreachable, divided⟩ :=
            Record.ends_divided_of_tells (Question.report_breaks_over_divided id) told
          exact .inl ⟨unreachable, Record.ends_divided_append divided earlier⟩
        · refine .inr ⟨overflow, ?_⟩
          obtain ⟨request, known⟩ := Option.isSome_iff_exists.mp sent
          simp only [report, await, known, List.length_append, count_of_queries named]
          have all : run.starts.length = greatestCount := full
          simp only [Option.toList_some, List.map_cons, List.map_nil, List.length_singleton]
          rw [← all]
          exact Nat.lt_add_of_pos_left Nat.one_pos

/-- A submission that was accepted was sent, and the operation has a name. An answer
without a name would have been refused. -/
theorem submission_of_accepted {question : Question String}
    (reads : question.read = Response.operationId) {transport : Transport τ} {standing : τ}
    {id : String} {more : Record} (accepted : (question.ask transport standing).result = .ok id)
    (tells : ∀ request, question.request = .ok request →
      (∃ message, (question.ask transport standing).result = .error (.transportFailed message)) ∨
        more.Tells question (question.ask transport standing).result) :
    (question.ask transport standing).request?.isSome = true ∧ Text.blank id = false := by
  cases made : question.request with
  | error fault => simp [Question.ask, made] at accepted
  | ok request =>
    refine ⟨by simp [Question.ask, made], ?_⟩
    rcases tells request made with ⟨message, failed⟩ | told
    · cases accepted.symm.trans failed
    · rw [accepted] at told
      obtain ⟨_, _, _, _, concluded⟩ := told
      obtain ⟨_, _, _, read⟩ := Question.of_conclude concluded
      exact Response.blank_of_operation_id (reads ▸ read)

/-- A change goes over a recorded network as over the network itself. While it is
submitted an interruption kills the program; behind that it only ends the wait, as a
failure. -/
theorem change_recorded {connection : Connection} {question : Question String}
    (accepted : connection.settings.wait.validate = .ok ())
    (reads : question.read = Response.operationId) (breaks : question.BreaksOverDivided)
    (operation : String) (warnings : List Log.Entry) :
    (change surroundings connection operation warnings question state).IsRecorded true record
      (change surroundings.recorded connection operation warnings question (state, record)) := by
  have candid : question.Candid := Question.candid_of_operation_id reads
  have network : surroundings.recorded.network = surroundings.network.recorded := rfl
  obtain ⟨more, same, interrupted, told⟩ :=
    question.ask_until_interrupted surroundings.network connection state record
  simp only [change, network, same]
  cases calledOff : (question.ask (connection.transport surroundings.network.untilInterrupted)
    (state, false)).calledOff with
  | true => exact ⟨more, rfl, Report.borne_out_of_killed _ rfl rfl (interrupted calledOff)⟩
  | false =>
    obtain ⟨unsent, tells⟩ := told calledOff
    cases result : (question.ask (connection.transport surroundings.network.untilInterrupted)
      (state, false)).result with
    | error fault =>
      refine ⟨more, rfl, Report.borne_out_of_fault _ rfl rfl rfl ?_ ?_⟩
      · rintro reason rfl
        obtain ⟨fault, refused⟩ := request_of_blamed candid _ connection _ result
        exact unsent fault refused
      · rintro breakdown rfl
        exact .inl (divided_of_ask breaks result tells)
    | ok id =>
      obtain ⟨sent, named⟩ := submission_of_accepted reads result tells
      generalize question.ask (connection.transport surroundings.network.untilInterrupted)
        (state, false) = asked at sent ⊢
      obtain ⟨later, waited, borneOut⟩ := await_recorded surroundings record accepted named operation
        warnings { asked with transport := asked.transport.1 } sent more
      exact ⟨more ++ later, waited, borneOut⟩

/-- A command goes over a recorded network as over the network itself. There is one
case for each command: a manifest that is written, an inquiry, or a change behind
its warnings. -/
theorem perform_recorded (command : CommandLine.Command) :
    (perform surroundings state command).IsRecorded command.isChange record
      (perform surroundings.recorded (state, record) command) := by
  have files : surroundings.recorded.files = surroundings.files := rfl
  cases command with
  | newManifest details =>
    exact ⟨[], by simp [perform, Report.withRecord], Report.borne_out_of_succeeded rfl nofun⟩
  | listVersions subscription =>
    exact inquire_recorded surroundings state record Question.versions_candid
      Question.versions_breaks_over_divided subscription _
  | replicationStatus subscription name =>
    exact inquire_recorded surroundings state record (Question.replications_candid name)
      (Question.replications_breaks_over_divided name) subscription _
  | updateVersion subscription path =>
    simp only [perform, files]
    cases readManifest surroundings.files path with
    | error failure => exact Report.is_recorded_of_failure state record true failure
    | ok manifest =>
      dsimp only
      cases connected : connect surroundings.files subscription with
      | error failure => exact Report.is_recorded_of_failure state record true failure
      | ok connection =>
        exact change_recorded surroundings state record (wait_of_connect connected) rfl
          (Question.update_breaks_over_divided _) _ _
  | unpublishVersion subscription name =>
    simp only [perform, files]
    cases connected : connect surroundings.files subscription with
    | error failure => exact Report.is_recorded_of_failure state record true failure
    | ok connection =>
      exact change_recorded surroundings state record (wait_of_connect connected) rfl
        (Question.update_breaks_over_divided _) _ _
  | deleteVersion subscription name =>
    simp only [perform, files]
    cases connected : connect surroundings.files subscription with
    | error failure => exact Report.is_recorded_of_failure state record true failure
    | ok connection =>
      exact change_recorded surroundings state record (wait_of_connect connected) rfl
        (Question.delete_breaks_over_divided name) _ _

/-- The exit code of a failure tells whether the input is to blame, by the fault
that it holds. -/
theorem Failure.exit_code_cases (failure : Failure) :
    ((∃ reason, failure.fault? = some (.invalidArgument reason)) ∧ failure.exitCode = 2) ∨
      (∀ reason, failure.fault? ≠ some (.invalidArgument reason)) ∧ failure.exitCode = 1 := by
  unfold exitCode
  split
  · next reason blamed => exact .inl ⟨⟨reason, blamed⟩, rfl⟩
  · next other => exact .inr ⟨other, rfl⟩

section ExitCode

variable {conclusion : Conclusion}

/-- Only a success has zero for its exit code. -/
theorem Conclusion.succeeded_of_exit_code (zero : conclusion.exitCode = some 0) :
    conclusion = .succeeded := by
  cases conclusion with
  | succeeded => rfl
  | failed failure => rcases failure.exit_code_cases with ⟨_, code⟩ | ⟨_, code⟩ <;> simp [exitCode, code] at zero
  | brokenDown | killed => cases zero

/-- The exit code is two exactly if the input is to blame. The code of a breakdown
is another one. -/
theorem Conclusion.exit_code_eq_two_iff : conclusion.exitCode = some 2 ↔ conclusion.Blames := by
  cases conclusion with
  | succeeded | brokenDown | killed => simp [exitCode, brokenCode, Blames]
  | failed failure =>
    rcases failure.exit_code_cases with ⟨blamed, code⟩ | ⟨other, code⟩
    · simpa [exitCode, code, Blames] using blamed
    · simpa [exitCode, code, Blames] using other

/-- Whatever the exit code is otherwise, a program that has one has failed or broken
down. A program that is killed has none. -/
theorem Conclusion.exit_code_cases {code : Nat} (known : conclusion.exitCode = some code) :
    code ∈ [0, 1, 2] ∨ code = brokenCode ∧ ∃ breakdown, conclusion = .brokenDown breakdown := by
  cases conclusion with
  | succeeded => simp [← Option.some.inj known]
  | failed failure =>
    rcases failure.exit_code_cases with ⟨_, two⟩ | ⟨_, one⟩
    · simp [← Option.some.inj known, two]
    · simp [← Option.some.inj known, one]
  | brokenDown breakdown => exact .inr ⟨(Option.some.inj known).symm, breakdown, rfl⟩
  | killed => cases known

end ExitCode

/-- A command line that is carried out goes over a recorded network as over the network itself.
Its exit code is zero for a change only if its last exchange brought the report of success, with
a status of acceptance and in full. It is two exactly if the input is to blame, and then nothing
was sent. It is one for every other failure, and only a success prints anything.

There are no other exit codes but that of a breakdown. Then the last response is divided by a document
type, or the program has asked as often as it can count. A program without an exit code was killed by
the interruption of its last exchange, while it did not listen for one yet.

There is no condition on the files, on what the service answers, on how often a request is led on
to another address, or on when the user loses patience. -/
theorem ending_is_justified {environment : CommandLine.Values} {arguments : List String}
    {command : CommandLine.Command} (parsed : CommandLine.read environment arguments = .ok command)
    (surroundings : Surroundings σ) (network : σ) :
    let report := perform surroundings network command
    let ending := run environment arguments surroundings network
    let exchanges := exchanges environment arguments surroundings network
    run environment arguments surroundings.recorded (network, []) = ending.withRecord exchanges ∧
      (command.isChange = true → ending.exitCode = some 0 → exchanges.EndsWell) ∧
      (ending.exitCode = some 2 ↔ report.conclusion.Blames) ∧
      (report.conclusion.Blames → exchanges = []) ∧
      (∀ failure, report.conclusion = .failed failure → ¬report.conclusion.Blames →
        ending.exitCode = some 1) ∧
      (ending.exitCode ≠ some 0 → ending.output = "") ∧
      (∀ code, ending.exitCode = some code → code ∈ [0, 1, 2] ∨
        code = 101 ∧ (exchanges.EndsDivided ∨ greatestCount < report.requests.length)) ∧
      (ending.exitCode = none → exchanges.EndsInterrupted) := by
  intro report ending exchanged
  obtain ⟨more, same, borneOut⟩ := perform_recorded surroundings network [] command
  have recorded : run environment arguments surroundings.recorded (network, []) =
      ending.withRecord more := by
    simp only [ending, run, parsed, same, List.nil_append]
    rfl
  obtain rfl : exchanged = more := by
    simp only [exchanged, exchanges, recorded]
    rfl
  have code : ending.exitCode = report.conclusion.exitCode := by
    simp only [ending, run, parsed]
    rfl
  have output : ending.output = report.output := by
    simp only [ending, run, parsed]
    rfl
  rw [code, output]
  refine ⟨recorded, ?zero, Conclusion.exit_code_eq_two_iff, borneOut.blamed, ?one, ?silent, ?others,
    ?none⟩
  case zero =>
    intro changes zero
    exact borneOut.succeeded changes (Conclusion.succeeded_of_exit_code zero)
  case one =>
    intro failure failed blameless
    rcases failure.exit_code_cases with ⟨⟨reason, blamed⟩, _⟩ | ⟨_, one⟩
    · exact absurd ⟨failure, reason, failed, blamed⟩ blameless
    · rw [failed, Conclusion.exitCode, one]
  case silent =>
    intro other
    refine borneOut.silent fun succeeded => other ?_
    rw [succeeded]
    rfl
  case others =>
    intro code known
    rcases Conclusion.exit_code_cases known with usual | ⟨broken, breakdown, ended⟩
    · exact .inl usual
    · refine .inr ⟨broken, ?_⟩
      exact (borneOut.brokenDown breakdown ended).imp And.right And.right
  case none =>
    intro none
    refine borneOut.killed ?_
    cases ended : report.conclusion with
    | killed => rfl
    | _ => simp [ended, Conclusion.exitCode] at none

/-- A subscription of which the id is a blank is bad input, which is found before the service is
asked to delete anything. -/
theorem blank_subscription_asks_nothing :
    let arguments := ["delete-version", "--subscription-id", " ", "--subscription-cert", "own.pem",
      "--namespace", "Contoso", "--name", "Agent", "--version", "1.0"]
    let surroundings : Surroundings Unit :=
      { files := fun _ => .ok [], network := fun _ state => ({ reaction := .silent }, state) }
    CommandLine.read [] arguments =
        .ok (.deleteVersion ⟨" ", "own.pem", {}⟩ ⟨"Contoso", "Agent", "1.0"⟩) ∧
      (run [] arguments surroundings ()).exitCode = some 2 ∧
      exchanges [] arguments surroundings () = [] := by
  intro arguments surroundings
  have parsed : CommandLine.read [] arguments =
      .ok (.deleteVersion ⟨" ", "own.pem", {}⟩ ⟨"Contoso", "Agent", "1.0"⟩) := rfl
  have code : (run [] arguments surroundings ()).exitCode = some 2 := rfl
  obtain ⟨_, _, blamed, unsent, _⟩ := ending_is_justified parsed surroundings ()
  exact ⟨parsed, code, unsent (blamed.mp code)⟩

/-! ## A refusal that is not reported -/

/-- The bytes of a certificate for the curve P-256 and of its private key, both in
armor. -/
def armoredCredentials : List UInt8 := [
  45, 45, 45, 45, 45, 66, 69, 71, 73, 78, 32, 67, 69, 82, 84, 73, 70, 73, 67, 65, 84, 69, 45, 45, 45,
  45, 45, 10, 77, 73, 72, 115, 77, 73, 71, 84, 111, 65, 77, 67, 65, 81, 73, 67, 65, 81, 69, 119, 67,
  103, 89, 73, 75, 111, 90, 73, 122, 106, 48, 69, 65, 119, 73, 119, 65, 68, 65, 101, 70, 119, 48, 121,
  77, 68, 65, 120, 77, 68, 69, 119, 77, 68, 65, 119, 77, 68, 66, 97, 70, 119, 48, 48, 10, 79, 84, 65,
  120, 77, 68, 69, 119, 77, 68, 65, 119, 77, 68, 66, 97, 77, 65, 65, 119, 87, 84, 65, 84, 66, 103, 99,
  113, 104, 107, 106, 79, 80, 81, 73, 66, 66, 103, 103, 113, 104, 107, 106, 79, 80, 81, 77, 66, 66,
  119, 78, 67, 65, 65, 81, 78, 109, 100, 56, 78, 105, 105, 102, 76, 10, 88, 102, 47, 50, 71, 43, 48,
  85, 106, 83, 49, 85, 85, 118, 105, 103, 73, 120, 69, 86, 99, 54, 52, 107, 80, 72, 43, 82, 82, 115,
  111, 78, 71, 117, 117, 81, 72, 69, 78, 69, 99, 75, 54, 99, 54, 51, 53, 110, 102, 101, 78, 49, 67, 51,
  116, 57, 54, 49, 51, 85, 98, 107, 69, 115, 10, 117, 90, 66, 43, 99, 116, 115, 112, 90, 79, 87, 54,
  77, 65, 111, 71, 67, 67, 113, 71, 83, 77, 52, 57, 66, 65, 77, 67, 65, 48, 103, 65, 77, 69, 85, 67,
  73, 66, 47, 110, 122, 52, 75, 65, 81, 51, 118, 66, 67, 66, 106, 117, 103, 66, 52, 80, 76, 69, 86,
  112, 98, 53, 65, 114, 10, 53, 74, 83, 111, 110, 113, 103, 117, 53, 66, 82, 87, 72, 106, 56, 68, 65,
  105, 69, 65, 115, 70, 110, 102, 118, 68, 77, 104, 85, 71, 56, 54, 87, 108, 77, 84, 81, 88, 75, 69,
  49, 49, 120, 104, 86, 43, 89, 121, 90, 88, 80, 43, 112, 54, 115, 75, 121, 52, 47, 104, 84, 116, 69,
  61, 10, 45, 45, 45, 45, 45, 69, 78, 68, 32, 67, 69, 82, 84, 73, 70, 73, 67, 65, 84, 69, 45, 45, 45,
  45, 45, 10, 45, 45, 45, 45, 45, 66, 69, 71, 73, 78, 32, 69, 67, 32, 80, 82, 73, 86, 65, 84, 69, 32,
  75, 69, 89, 45, 45, 45, 45, 45, 10, 77, 72, 99, 67, 65, 81, 69, 69, 73, 80, 43, 104, 122, 86, 122,
  69, 53, 108, 119, 82, 116, 88, 65, 104, 56, 84, 85, 113, 54, 122, 81, 52, 89, 71, 82, 67, 112, 107,
  111, 71, 105, 115, 55, 52, 118, 112, 74, 83, 51, 98, 105, 113, 111, 65, 111, 71, 67, 67, 113, 71, 83,
  77, 52, 57, 10, 65, 119, 69, 72, 111, 85, 81, 68, 81, 103, 65, 69, 68, 90, 110, 102, 68, 89, 111,
  110, 121, 49, 51, 47, 57, 104, 118, 116, 70, 73, 48, 116, 86, 70, 76, 52, 111, 67, 77, 82, 70, 88,
  79, 117, 74, 68, 120, 47, 107, 85, 98, 75, 68, 82, 114, 114, 107, 66, 120, 68, 82, 72, 67, 117, 10,
  110, 79, 116, 43, 90, 51, 51, 106, 100, 81, 116, 55, 102, 101, 116, 100, 49, 71, 53, 66, 76, 76, 109,
  81, 102, 110, 76, 98, 75, 87, 84, 108, 117, 103, 61, 61, 10, 45, 45, 45, 45, 45, 69, 78, 68, 32, 69,
  67, 32, 80, 82, 73, 86, 65, 84, 69, 32, 75, 69, 89, 45, 45, 45, 45, 45, 10]

/-- A service that knows no version, and says so in words that a document type
divides. Requests are counted. -/
def dividedRefusal : Network Nat := fun _ count =>
  ({ reaction := .answered {
      status := 404, body := Text.Utf8.encode "<Error><Code>a<!DOCTYPE x>b</Code></Error>".toList } },
    count + 1)

/-- A deletion that the service refuses so is a failure with the exit code of a breakdown, and the log says
nothing of the refusal. -/
theorem divided_refusal_is_not_reported :
    let arguments := ["delete-version", "--subscription-id", "sub-1", "--subscription-cert", "own.pem",
      "--namespace", "Contoso", "--name", "Agent", "--version", "1.0"]
    let surroundings : Surroundings Nat :=
      { files := fun _ => .ok armoredCredentials, network := dividedRefusal }
    let ending := run [] arguments surroundings 0
    (CommandLine.read [] arguments).toOption.isSome = true ∧ ending.exitCode = some 101 ∧
      ending.log.map (·.severity) = [.warning] ∧ ending.network = 1 := by
  decide +kernel

end Program

end ExtensionPublisher
