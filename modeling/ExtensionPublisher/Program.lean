import ExtensionPublisher.Client.Call
import ExtensionPublisher.CommandLine.Usage
import ExtensionPublisher.Http.Connection
import ExtensionPublisher.Listing
import ExtensionPublisher.Log.Filter
import ExtensionPublisher.Text.Utf8

/-!
# The program

A command line leads to at most one command. A command that needs the service reads the
certificate of its subscription and opens a connection; then it asks one question and shows
the answer, or it asks for a change and waits until the service has made it.

A failure is the last entry of the log. Its words go from what was attempted to what went
wrong, and on to the fault behind that. Bad input ends the program with another exit code than
everything else, wherever it was found.

Two endings are no failures that the program knows of. It may break down, and then it says so
in words that are no entry of the log. And the user may interrupt it. Only a wait listens for
that: an interruption calls the wait off, and the program goes on to say what became of it. At any
other time an interruption kills the program, which then has no exit code at all.
-/
namespace ExtensionPublisher

/-- Why the system does not give out a file, in its own words and with its own
number. -/
structure FileFault where
  reason : String
  code : Nat
  deriving DecidableEq, Repr

/-- The reason in words. -/
def FileFault.message (fault : FileFault) : String :=
  fault.reason ++ " (os error " ++ toString fault.code ++ ")"

/-- The contents of files by their paths. A file is read once in a run, so nothing
changes meanwhile. -/
abbrev Files := String → Except FileFault (List UInt8)

namespace Program

/-- Why a command does not succeed. A failure is made of what happened and of what
the command was about. -/
inductive Failure where
  /-- A file cannot be used as what it should be. -/
  | unreadable (what path reason : String)
  /-- A manifest must not be submitted. -/
  | unsubmittable (flaw : Manifest.Flaw)
  /-- The service cannot be asked, or gives no answer. -/
  | unanswered (fault : Fault)
  /-- An operation was begun, and waiting for it came to nothing. -/
  | unfinished (operation : String) (fault : Fault)
  deriving DecidableEq, Repr

namespace Failure

/-- A fault in words, and the faults behind it, from the outermost to the innermost.
-/
def account : Fault → String
  | .statusUnavailable operation attempts last =>
    (Fault.statusUnavailable operation attempts last).message ++ ": " ++ account last
  | fault => fault.message

/-- The failure in words, as the log tells it. -/
def message : Failure → String
  | .unreadable what path reason => "failed to read " ++ what ++ " " ++ path ++ ": " ++ reason
  | .unsubmittable flaw => flaw.message
  | .unanswered fault => account fault
  | .unfinished operation fault =>
    operation ++ " operation did not succeed: " ++ account fault

/-- The fault of the client that is behind a failure. A file or a manifest that
cannot be used is no matter of the client. -/
def fault? : Failure → Option Fault
  | .unreadable .. | .unsubmittable _ => none
  | .unanswered fault | .unfinished _ fault => some fault

/-- The exit code of a failure: two for bad input, and one for everything else. -/
def exitCode (failure : Failure) : Nat :=
  match failure.fault? with
  | some (.invalidArgument _) => 2
  | _ => 1

/-- The entry of the log for a failure. It is an error, and has no details beside
the message. -/
def entry (failure : Failure) : Log.Entry :=
  { severity := .error, topic := "azure_extensions_cli", message := failure.message }

end Failure

/-- A warning of a command. -/
def warning (message : String) (details : List (String × String) := []) : Log.Entry :=
  { severity := .warning, topic := "azure_extensions_cli::commands", message, details }

/-- How a command comes to its end. Only the first two are ends that the program
comes to by itself. -/
inductive Conclusion where
  | succeeded
  | failed (failure : Failure)
  /-- The program itself broke down. -/
  | brokenDown (breakdown : Breakdown)
  /-- The user interrupted the program while it did not listen. -/
  | killed
  deriving DecidableEq, Repr

namespace Conclusion

/-- What a fault of the client comes to. No failure is made of a breakdown, as it
goes past everything that would report one. -/
def ofFault (failure : Fault → Failure) (fault : Fault) : Conclusion :=
  match fault.breakdown? with
  | some breakdown => .brokenDown breakdown
  | none => .failed (failure fault)

/-- The exit code of a program that breaks down, which no command gives itself. -/
def brokenCode : Nat := 101

/-- The exit code, if the program is there to give one. A program that is killed
leaves it to the system to say so. -/
def exitCode : Conclusion → Option Nat
  | .succeeded => some 0
  | .failed failure => some failure.exitCode
  | .brokenDown _ => some brokenCode
  | .killed => none

/-- The last entry of the log. Neither a success nor a sudden end has one. -/
def entry? : Conclusion → Option Log.Entry
  | .failed failure => some failure.entry
  | _ => none

end Conclusion

/-- How a command went. -/
structure Report (σ : Type) where
  conclusion : Conclusion
  /-- What is printed. -/
  output : String := ""
  warnings : List Log.Entry := []
  /-- The operation that was begun. -/
  operation? : Option String := none
  /-- When the wait for the operation was begun. -/
  waitedFrom : Nat := 0
  /-- The requests, and when they were begun. -/
  requests : List (Nat × Request) := []
  /-- When the command ended. -/
  ended : Nat := 0
  network : σ

/-- Everything that goes to the log, in the order in which it does. -/
def Report.entries {σ : Type} (report : Report σ) : List Log.Entry :=
  report.warnings ++ report.conclusion.entry?.toList

/-- What a command works with: the files, the service, and the instant at which the user loses
patience with a wait, if that does not happen while a request is under way. It is counted from the
beginning of the wait; before that, time passes only while requests are under way. -/
structure Surroundings (σ : Type) where
  files : Files
  network : Http.Network σ
  interruptedAt? : Option Nat := none

/-- Open a connection for a subscription: read the certificate and its key from
their file, and check the settings. Nothing is sent. -/
def connect (files : Files) (subscription : CommandLine.Subscription) :
    Except Failure Http.Connection := do
  let text ← (files subscription.certificate).mapError fun fault =>
    Failure.unreadable "subscription certificate" subscription.certificate fault.message
  let credentials ← (CredentialsBy.read .usual subscription.id text).mapError Failure.unanswered
  (Http.Connection.establish credentials subscription.settings).mapError Failure.unanswered

/-- The manifest in a file, if it may be submitted. It has to be a text, since what
is looked for in it is one. -/
def readManifest (files : Files) (path : String) : Except Failure String := do
  let unreadable := Failure.unreadable "manifest" path
  let bytes ← (files path).mapError fun fault => unreadable fault.message
  match Text.Utf8.decode? bytes with
  | none => throw (unreadable "stream did not contain valid UTF-8")
  | some text =>
    let manifest := String.ofList text
    (Manifest.check manifest).mapError Failure.unsubmittable
    return manifest

/-- A table as it is printed, with a line break behind every line. -/
def printed (table : List String) : String := String.intercalate "\n" table ++ "\n"

/-- Ask a question and print the answer. An interruption kills the program here, as
it does not listen for one. -/
def inquire {α σ : Type} (surroundings : Surroundings σ) (subscription : CommandLine.Subscription)
    (question : Question α) (shown : α → List String) (network : σ) : Report σ :=
  match connect surroundings.files subscription with
  | .error failure => { conclusion := .failed failure, network }
  | .ok connection =>
    let transport := connection.transport surroundings.network.untilInterrupted
    let asked := question.ask transport (network, false)
    let report (conclusion : Conclusion) (output : String) : Report σ := {
      conclusion, output
      requests := asked.request?.toList.map fun request => (0, request)
      ended := asked.took
      network := asked.transport.1 }
    if asked.calledOff then report .killed ""
    else
      match asked.result with
      | .error fault => report (.ofFault .unanswered fault) ""
      | .ok answer => report .succeeded (printed (shown answer))

/-- The warnings of a wait that is over. An interruption is told first, and then
that the operation did not complete, with its id. -/
def waitWarnings {σ : Type} (operation : String) (cancelAt : Option Nat) (run : Run σ) :
    List Log.Entry :=
  let interrupted := run.calledOff || Schedule.calledOffBy cancelAt run.ended
  let patience :=
    if interrupted then [warning "Interrupted, no longer waiting for the operation"] else []
  let incomplete :=
    match run.result with
    | .ok _ => []
    | .error fault => fault.operation?.toList.map fun id =>
      warning (operation ++ " operation did not complete") [("operation_id", id)]
  patience ++ incomplete

/-- Wait for an operation that was begun, and say what became of it. The program
listens for an interruption now, and ends the wait when there is one. -/
def await {σ : Type} (surroundings : Surroundings σ) (connection : Http.Connection)
    (operation id : String) (warnings : List Log.Entry) (asked : Asked String σ) : Report σ :=
  let transport := connection.transport surroundings.network
  let cancelAt := surroundings.interruptedAt?
  let run := connection.settings.wait.wait none (statusSource transport) cancelAt id asked.transport
  let queries := run.starts.flatMap fun start =>
    (Question.report id).request.toOption.toList.map fun request => (asked.took + start, request)
  { conclusion :=
      match run.result with
      | .ok _ => .succeeded
      | .error fault => .ofFault (.unfinished operation) fault
    warnings := warnings ++ waitWarnings operation cancelAt run
    operation? := some id
    waitedFrom := asked.took
    requests := asked.request?.toList.map (fun request => (0, request)) ++ queries
    ended := asked.took + run.ended
    network := run.source }

/-- Ask for a change over a connection, and wait until the service has made it. An
interruption before the service has answered kills the program; the wait begins with
the answer. -/
def change {σ : Type} (surroundings : Surroundings σ) (connection : Http.Connection)
    (operation : String) (warnings : List Log.Entry) (question : Question String) (network : σ) :
    Report σ :=
  let transport := connection.transport surroundings.network.untilInterrupted
  let asked := question.ask transport (network, false)
  let unbegun (conclusion : Conclusion) : Report σ := {
    conclusion, warnings
    requests := asked.request?.toList.map fun request => (0, request)
    ended := asked.took
    network := asked.transport.1 }
  if asked.calledOff then unbegun .killed
  else
    match asked.result with
    | .error fault => unbegun (.ofFault .unanswered fault)
    | .ok id =>
      await surroundings connection operation id warnings
        { asked with transport := asked.transport.1 }

/-- Carry out a command. What can be checked without the service is checked first,
so that bad input is never sent. -/
def perform {σ : Type} (surroundings : Surroundings σ) (network : σ) :
    CommandLine.Command → Report σ
  | .newManifest details => { conclusion := .succeeded, output := Manifest.publish details, network }
  | .listVersions subscription =>
    inquire surroundings subscription Question.versions versionsTable network
  | .replicationStatus subscription name =>
    inquire surroundings subscription (Question.replications name) replicationTable network
  | .updateVersion subscription path =>
    match readManifest surroundings.files path with
    | .error failure => { conclusion := .failed failure, network }
    | .ok manifest =>
      match connect surroundings.files subscription with
      | .error failure => { conclusion := .failed failure, network }
      | .ok connection =>
        let body := Text.Utf8.encode manifest.toList
        change surroundings connection "UpdateExtension" [] (Question.update body) network
  | .unpublishVersion subscription name =>
    match connect surroundings.files subscription with
    | .error failure => { conclusion := .failed failure, network }
    | .ok connection =>
      let body := Text.Utf8.encode (Manifest.unpublish name).toList
      change surroundings connection "UpdateExtension" [] (Question.update body) network
  | .deleteVersion subscription name =>
    match connect surroundings.files subscription with
    | .error failure => { conclusion := .failed failure, network }
    | .ok connection =>
      let advice :=
        warning "Make sure the extension version is unpublished before deleting it"
      change surroundings connection "DeleteExtension" [advice] (Question.delete name) network

/-- What the program leaves behind. -/
structure Ending (σ : Type) where
  /-- The exit code, if the program was not killed. -/
  exitCode : Option Nat
  output : String
  log : List Log.Entry
  /-- What is said beside the log: about the command line, or in the end of a breakdown. -/
  notice : String := ""
  network : σ

/-- The environment variable that says what the log shows. -/
def logVariable : String := "RUST_LOG"

/-- The end of a program of which a command is all. -/
def Report.ending {σ : Type} (report : Report σ) (filter : Log.Filter) : Ending σ where
  exitCode := report.conclusion.exitCode
  output := report.output
  log := report.entries.filter filter.shows
  notice :=
    match report.conclusion with
    | .brokenDown breakdown => breakdown.message
    | _ => ""
  network := report.network

/-- The end of a program whose command line is not carried out. Only the version is
printed, for it was asked for. -/
def refuse {σ : Type} (refusal : CommandLine.Refusal) (network : σ) : Ending σ where
  exitCode := some refusal.exitCode
  output := if refusal = .versionAsked then Release.banner ++ "\n" else ""
  log := []
  notice := if refusal = .versionAsked then "" else refusal.message
  network := network

/-- The environment variables that matter. Nothing else of the environment is looked
at. -/
def environmentNames : List String :=
  logVariable :: CommandLine.subscriptionFlags.filterMap (·.environment?)

/-- Carry out a command line. What cannot be understood is refused before anything
is read or sent. -/
def run {σ : Type} (environment : CommandLine.Values) (arguments : List String)
    (surroundings : Surroundings σ) (network : σ) : Ending σ :=
  match CommandLine.read environment arguments with
  | .error refusal => refuse refusal network
  | .ok command =>
    (perform surroundings network command).ending
      (Log.Filter.ofSetting (environment.lookup logVariable))

end Program

end ExtensionPublisher
