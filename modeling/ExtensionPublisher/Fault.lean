import ExtensionPublisher.Breakdown
import ExtensionPublisher.Duration

/-!
# Faults

Everything that can go wrong with a request or with waiting for an operation, each with its
text. A fault is transient when asking again may help: the connection failed, the answer
was not readable, or the service was overloaded or broken. A transient fault says nothing
about an operation, so it never names one.

A breakdown of the program stands among the faults because whatever meets one ends with it. It is
neither transient nor about an operation, so it goes up through every wait as it is.
-/
namespace ExtensionPublisher

/-- Why a request or a wait came to nothing. A fault says who is to blame, and what
has to be known to ask again. -/
inductive Fault where
  /-- Something given by the caller is unusable. -/
  | invalidArgument (reason : String)
  /-- The certificate or its key is unusable. -/
  | unusableCertificate (reason : String)
  /-- No complete answer arrived. -/
  | transportFailed (reason : String)
  /-- The answer is not what was asked for. -/
  | malformedResponse (reason : String)
  /-- The service accepted an operation and did not name it. -/
  | missingOperationId
  /-- The service refused the request. -/
  | rejected (status : Nat) (code message : String)
  /-- The operation ended badly. -/
  | operationFailed (operation code message : String)
  /-- Asking about the operation failed too many times in a row. -/
  | statusUnavailable (operation : String) (attempts : Nat) (last : Fault)
  /-- The operation was not finished when time was up. -/
  | timedOut (operation : String) (elapsed : Nat)
  /-- The wait was called off. -/
  | cancelled (operation : String)
  /-- The program itself broke down. -/
  | brokenDown (breakdown : Breakdown)
  deriving DecidableEq, Repr

namespace Fault

/-- The fault in words. A fault behind it is not told, as whoever shows the fault
goes on to that. -/
def message : Fault → String
  | .invalidArgument reason => "invalid argument: " ++ reason
  | .unusableCertificate reason => "invalid certificate: " ++ reason
  | .transportFailed reason => "transport failure: " ++ reason
  | .malformedResponse reason => "malformed response: " ++ reason
  | .missingOperationId => "response did not carry an operation id"
  | .rejected status code message =>
    "service returned HTTP " ++ toString status ++ ": " ++ code ++ ": " ++ message
  | .operationFailed operation code message =>
    "operation " ++ operation ++ " failed: " ++ code ++ ": " ++ message
  | .statusUnavailable operation attempts last =>
    "operation " ++ operation ++ " status could not be queried after " ++ toString attempts ++
      " attempts: " ++ last.message
  | .timedOut operation elapsed =>
    "operation " ++ operation ++ " did not finish within " ++ Duration.text elapsed
  | .cancelled operation => "waiting for operation " ++ operation ++ " was cancelled"
  | .brokenDown breakdown => breakdown.message

/-- Whether asking again may help. A refusal may go away if the service says that it
is busy or broken, and what did not arrive whole may arrive the next time. -/
def isTransient : Fault → Bool
  | .transportFailed _ | .malformedResponse _ => true
  | .rejected status _ _ => status ≥ 500 || status == 429
  | _ => false

/-- The operation that a fault is about, if there is one. Then the operation goes on
without being watched. -/
def operation? : Fault → Option String
  | .operationFailed operation _ _ | .statusUnavailable operation _ _ | .timedOut operation _
  | .cancelled operation => some operation
  | _ => none

/-- The fault behind a fault: only a wait that gave up has one, which is that of its
last query. -/
def cause? : Fault → Option Fault
  | .statusUnavailable _ _ last => some last
  | _ => none

/-- The breakdown that a fault stands for. A fault behind another one was met in the past, and the
program has outlived it. -/
def breakdown? : Fault → Option Breakdown
  | .brokenDown breakdown => some breakdown
  | _ => none

/-- Whether a refusal may go away is told by its status. Its code and its message do
not matter. -/
theorem transient_rejected_iff {status : Nat} {code message : String} :
    (rejected status code message).isTransient = true ↔ status = 429 ∨ 500 ≤ status := by
  simp [isTransient, or_comm]

end Fault

end ExtensionPublisher
