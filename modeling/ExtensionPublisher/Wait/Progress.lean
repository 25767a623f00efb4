import ExtensionPublisher.Fault
import ExtensionPublisher.Operation

/-!
# The progress of a wait

A wait is pending until its first query and polling from then on; it ends by success, by a
fault, by the deadline or by being called off. What ends it is the first observation that
settles it: from then on no observation changes its phase, `observe_of_terminal`.

Transient faults are counted as long as they follow each other. A report that the operation
is still running begins the count anew, and reaching the bound ends the wait. So this count never
is too great, but the count of the queries may be: it goes on as long as the wait does.
-/
namespace ExtensionPublisher

/-- How a wait stands. The first two phases are left again; every other one is for
good. -/
inductive Phase where
  /-- Nothing has been asked yet. -/
  | pending
  | polling
  | succeeded
  | failed (fault : Fault)
  | timedOut
  | cancelled
  deriving DecidableEq, Repr

/-- Whether a wait in this phase is over. -/
def Phase.isTerminal : Phase → Bool
  | .pending | .polling => false
  | _ => true

/-- What a wait learns, from a query or from the time that passes. -/
inductive Observation where
  | report (report : OperationReport)
  | queryFault (fault : Fault)
  | deadlineReached
  | cancelRequested
  deriving DecidableEq, Repr

/-- What a query learns: a report, or why there is none. -/
def Observation.ofQuery : Except Fault OperationReport → Observation
  | .ok given => .report given
  | .error fault => .queryFault fault

/-- What a successful wait leads to. There is none for an operation that failed. -/
structure Completion where
  operation : String
  /-- How many queries were made. -/
  queries : Nat
  elapsed : Nat
  deriving DecidableEq, Repr

/-- The state of a wait for one operation. Nothing else is kept from one query to
the next. -/
structure Progress where
  operation : String
  failureBound : Nat
  phase : Phase := .pending
  /-- The queries begun. -/
  queries : Nat := 0
  /-- The transient faults since the last report, or since the beginning. -/
  failures : Nat := 0
  deriving DecidableEq, Repr

namespace Progress

/-- The state in which a query has been begun, by a count of the queries. Only the
first query changes the phase. -/
def asking (progress : Progress) (queries : Nat) : Progress :=
  { progress with
    queries := queries
    phase := if progress.phase = .pending then .polling else progress.phase }

/-- Begin a query, if it can be counted. The count is raised before the query is
sent. -/
def beginQuery (overflow : Overflow) (progress : Progress) : Except Breakdown Progress :=
  (overflow.succ progress.queries).map progress.asking

/-- Take in an observation. A wait that is over takes in nothing, so the first thing
that ends it stands. -/
def observe (progress : Progress) (observation : Observation) : Progress :=
  if progress.phase.isTerminal then progress
  else
    match observation with
    | .report .inProgress => { progress with phase := .polling, failures := 0 }
    | .report .succeeded => { progress with phase := .succeeded }
    | .report (.failed code message) =>
      { progress with phase := .failed (.operationFailed progress.operation code message) }
    | .queryFault fault =>
      if fault.isTransient then
        let failures := progress.failures + 1
        if progress.failureBound ≤ failures then
          { progress with
            failures := failures
            phase := .failed (.statusUnavailable progress.operation failures fault) }
        else { progress with failures := failures, phase := .polling }
      else { progress with phase := .failed fault }
    | .deadlineReached => { progress with phase := .timedOut }
    | .cancelRequested => { progress with phase := .cancelled }

/-- The result of a wait that is over, after the time that it took. While the wait
goes on there is none. -/
def outcome? (progress : Progress) (elapsed : Nat) : Option (Except Fault Completion) :=
  match progress.phase with
  | .pending | .polling => none
  | .succeeded => some (.ok ⟨progress.operation, progress.queries, elapsed⟩)
  | .failed fault => some (.error fault)
  | .timedOut => some (.error (.timedOut progress.operation elapsed))
  | .cancelled => some (.error (.cancelled progress.operation))

@[simp] theorem asking_operation (progress : Progress) (queries : Nat) :
    (progress.asking queries).operation = progress.operation := rfl

@[simp] theorem asking_failure_bound (progress : Progress) (queries : Nat) :
    (progress.asking queries).failureBound = progress.failureBound := rfl

@[simp] theorem asking_queries (progress : Progress) (queries : Nat) :
    (progress.asking queries).queries = queries := rfl

@[simp] theorem asking_failures (progress : Progress) (queries : Nat) :
    (progress.asking queries).failures = progress.failures := rfl

/-- A query is over for a wait exactly when the wait was over before it. Beginning
one never ends a wait. -/
@[simp] theorem terminal_of_asking (progress : Progress) (queries : Nat) :
    (progress.asking queries).phase.isTerminal = progress.phase.isTerminal := by
  by_cases fresh : progress.phase = .pending <;> simp [asking, fresh, Phase.isTerminal]

/-- Where there is room for one more query, every build begins it alike. -/
theorem begin_query_of_room (overflow : Overflow) {progress : Progress}
    (room : progress.queries < greatestCount) :
    progress.beginQuery overflow = .ok (progress.asking (progress.queries + 1)) := by
  rw [beginQuery, Overflow.succ_of_room overflow room]
  rfl

/-- A query that is begun without a count is one that could not be counted on. So
the count is zero only where it began anew. -/
theorem full_of_begin_query {overflow : Overflow} {progress begun : Progress}
    (counted : progress.beginQuery overflow = .ok begun) (anew : begun.queries = 0) :
    ¬progress.queries < greatestCount := by
  intro room
  rw [begin_query_of_room overflow room] at counted
  cases counted
  cases anew

/-- A query that cannot be counted is not begun where sums are checked. -/
theorem begin_query_of_full {progress : Progress} (full : ¬progress.queries < greatestCount) :
    progress.beginQuery .breaksDown = .error .overflow := by
  rw [beginQuery, Overflow.succ_of_full full]
  rfl

/-- What is observed changes neither the operation nor the count of the queries.
There is one case for each observation. -/
theorem observe_keeps (progress : Progress) (observation : Observation) :
    (progress.observe observation).operation = progress.operation ∧
      (progress.observe observation).queries = progress.queries := by
  by_cases settled : progress.phase.isTerminal = true
  · simp [observe, settled]
  · cases observation with
    | report given => cases given <;> simp [observe, settled]
    | queryFault fault =>
      by_cases transient : fault.isTransient = true
      · by_cases reached : progress.failureBound ≤ progress.failures + 1 <;>
          simp [observe, settled, transient, reached]
      · simp [observe, settled, transient]
    | deadlineReached | cancelRequested => simp [observe, settled]

/-- There is a result exactly when the wait is over, whatever time it took. -/
theorem outcome_is_some_iff (progress : Progress) (elapsed : Nat) :
    (progress.outcome? elapsed).isSome ↔ progress.phase.isTerminal = true := by
  unfold outcome? Phase.isTerminal
  cases progress.phase <;> simp

/-- A wait that is over learns nothing more. -/
theorem observe_of_terminal {progress : Progress} (settled : progress.phase.isTerminal = true)
    (observation : Observation) : progress.observe observation = progress := by
  simp [observe, settled]

/-- Beginning a query does not begin a wait again that is over. -/
theorem phase_of_asking {progress : Progress} (settled : progress.phase.isTerminal = true)
    (queries : Nat) : (progress.asking queries).phase = progress.phase := by
  have started : progress.phase ≠ .pending := by
    intro same
    simp [same, Phase.isTerminal] at settled
  simp [asking, started]

end Progress

end ExtensionPublisher
