import ExtensionPublisher.Http.Message
import ExtensionPublisher.Http.Transcript
import ExtensionPublisher.Program
import Std.Async.DNS
import Std.Async.Signal
import Std.Async.TCP
import Std.Async.Timer

/-!
# The command line

The outer layer of the program: it reads files and the environment, sends what the program
wants to send, keeps the time, and prints what the program leaves behind. The program is run
again and again on what happened so far, each time one request further.

Connections are not encrypted here. A server that asks for encryption is not reached.
-/
namespace ExtensionPublisher.Main

open Std.Async

/-- The instant now, counted in nanoseconds from some instant in the past. -/
def now : IO Nat := IO.monoNanosNow

/-- The number of a fault of the system, which may be given as what is missing to a power of
two. -/
def systemCode (code : UInt32) : Nat := min code.toNat (UInt32.size - code.toNat)

/-- What the system has under a path. A fault keeps the number and the words of the
system. -/
def readFile (path : String) : IO (Except FileFault (List UInt8)) := do
  try
    return .ok (← IO.FS.readBinFile path).toList
  catch
    | .noFileOrDirectory _ code reason | .permissionDenied _ code reason
    | .inappropriateType _ code reason | .resourceExhausted _ code reason
    | .invalidArgument _ code reason => return .error ⟨reason.capitalize, systemCode code⟩
    | fault => return .error ⟨fault.toString, 5⟩

/-- Read all that comes in until it is a whole answer. -/
partial def receive (socket : TCP.Socket.Client) (sofar : List UInt8) : Async Http.Reaction := do
  match ← socket.recv? 65536 with
  | none =>
    match Http.Received.read? true sofar with
    | some received => return .answered received
    | none => return .closed
  | some bytes =>
    let sofar := sofar ++ bytes.toList
    match Http.Received.read? false sofar with
    | some received => return .answered received
    | none => receive socket sofar

/-- Send a request to an address. -/
def sendTo (sent : Http.Sent) (address : Std.Net.IPAddr) : Async Http.Reaction := do
  let port := sent.port.toUInt16
  let server : Std.Net.SocketAddress :=
    match address with
    | .v4 addr => .v4 { addr, port }
    | .v6 addr => .v6 { addr, port }
  let socket ← TCP.Socket.Client.mk
  try
    socket.connect server
  catch _ => return .unreachable
  try
    socket.send ⟨sent.bytes.toArray⟩
    receive socket []
  catch _ => return .closed

/-- Send a request to the host that it names. Each of its addresses is tried; a host
that has to be reached under a cipher counts as one that cannot be. -/
def send (sent : Http.Sent) : Async Http.Reaction := do
  if sent.secure then return .unreachable
  let name := String.ofList (sent.host.filter fun c => c != '[' && c != ']')
  try
    let addresses ← DNS.getAddrInfo name (toString sent.port)
    match addresses.toList with
    | [] => return .unreachable
    | address :: _ => sendTo sent address
  catch _ => return .unreachable

/-- Whether a task came to an end before an instant. -/
partial def endedBy {α : Type} (task : AsyncTask α) (instant : Nat) : IO Bool := do
  if ← IO.hasFinished task then return true
  let left := instant - (← now)
  if left = 0 then return false
  IO.sleep (min 20 (left / 1000000 + 1)).toUInt32
  endedBy task instant

/-- Send a request and wait for what happens, at most as long as is allowed. What
comes later is not looked at. -/
def exchange (sent : Http.Sent) (allowed : Nat) : IO Http.Encounter := do
  let begun ← now
  let task ← (send sent).asTask
  if ← endedBy task (begun + allowed) then
    let reaction ← task.block
    return { reaction, took := (← now) - begun }
  else return { reaction := .silent }

/-- Run a command on what happened so far, and go on until it ends. From when it waits for an
operation it listens for interruptions; until then an interruption kills the process. -/
partial def converse (command : CommandLine.Command) (files : Files) (begun : Nat)
    (interrupt? : Option (AsyncTask Int)) (interruptedAt? : Option Nat)
    (encounters : List Http.Encounter) : IO (Program.Report Http.Transcript) := do
  let report := Program.perform { files, network := Http.Transcript.network, interruptedAt? }
    { encounters } command
  let interrupt? ←
    if report.operation?.isSome && interrupt?.isNone then
      some <$> (← Signal.Waiter.mk .sigint false).wait
    else pure interrupt?
  let isInterruptedBy (instant : Nat) : IO Bool :=
    match interrupt?, interruptedAt? with
    | some task, none => endedBy task instant
    | _, _ => return false
  let due :=
    if report.network.wanted?.isSome then (report.requests.getLast?.map (·.1)).getD 0
    else report.ended
  if ← isInterruptedBy (begun + due) then
    converse command files begun interrupt? (some ((← now) - (begun + report.waitedFrom))) encounters
  else
    match report.network.wanted? with
    | none => return report
    | some sent =>
      let allowed := (command.subscription?.map (·.settings.requestTimeout)).getD 0
      let encounter ← exchange sent allowed
      let calledOff ← isInterruptedBy 0
      converse command files begun interrupt? interruptedAt?
        (encounters ++ [{ encounter with calledOff }])

/-- What a process is said to end with that an interruption kills. -/
def killedCode : Nat := 130

/-- Print what the program leaves behind: the output where it can be used by other
programs, and the log beside it. -/
def finish {σ : Type} (ending : Program.Ending σ) : IO UInt32 := do
  let output ← IO.getStdout
  output.putStr ending.output
  output.flush
  for entry in ending.log do
    IO.eprintln entry.text
  if ending.notice != "" then
    if ending.exitCode = some 0 then IO.println ending.notice else IO.eprintln ending.notice
  return (ending.exitCode.getD killedCode).toUInt32

/-- Carry out a command line. The instants of the program are counted from here. -/
def start (arguments : List String) : IO UInt32 := do
  let begun ← now
  let environment ← Program.environmentNames.filterMapM fun name => do
    return (← IO.getEnv name).map fun value => (name, value)
  match CommandLine.read environment arguments with
  | .error refusal => finish (Program.refuse refusal ())
  | .ok command =>
    let contents ← command.paths.mapM fun path => do return (path, ← readFile path)
    let files : Files := fun path =>
      (contents.lookup path).getD (.error ⟨"No such file or directory", 2⟩)
    let report ← converse command files begun none none []
    finish (report.ending (Log.Filter.ofSetting (environment.lookup Program.logVariable)))

end ExtensionPublisher.Main

/-- Carry out the command line of the process. -/
def main (arguments : List String) : IO UInt32 := ExtensionPublisher.Main.start arguments
