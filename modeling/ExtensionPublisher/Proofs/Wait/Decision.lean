import ExtensionPublisher.Proofs.Result
import ExtensionPublisher.Wait.Progress
import Mathlib.Data.List.DropRight

/-!
# What decides a wait

A wait is moved by queries that are begun and by observations, in whatever order they come. Which
observation decides it is told here from the moves alone: a final report, a lasting fault, the deadline,
being called off, or as many transient faults as are put up with, counted since the last report that the
operation is running. The first of these decides, `Reported`.

The state that a wait keeps agrees with this, `stands_of_moves`. As long as it goes on, nothing has
decided it, and its count of faults is the number of transient faults in a row, below the bound. From
the first decision on, its phase and this count stay, and its result is what was decided:
`first_decision_stands`.

The count of the queries is bounded by nothing but the word that holds it. Where sums are checked, moves
with more queries than that come to nothing; where they are not, what is counted is the number of the
queries, less whole turns of the count.
-/
namespace ExtensionPublisher

/-- What moves a wait: a query is begun, or something is observed. Moves may come in
any order. -/
inductive Move where
  | query
  | learn (observation : Observation)
  deriving DecidableEq, Repr

/-- A wait behind a move. Only the beginning of a query can come to nothing, where
it cannot be counted. -/
def Progress.take (overflow : Overflow) (progress : Progress) : Move → Except Breakdown Progress
  | .query => progress.beginQuery overflow
  | .learn observation => .ok (progress.observe observation)

/-- A wait behind moves, taken one after another. A breakdown ends them, and then
there is no state. -/
def Progress.takeAll (overflow : Overflow) (progress : Progress) (moves : List Move) :
    Except Breakdown Progress :=
  moves.foldlM (Progress.take overflow) progress

/-- How many queries are counted behind moves: their number, less whole turns of the
count. -/
def queriesCounted (moves : List Move) : Nat := moves.count .query % (greatestCount + 1)

/-- Whether a move is a report that the operation is running. -/
def Move.isRunning (move : Move) : Bool := move == .learn (.report .inProgress)

/-- Whether a move is a transient fault. -/
def Move.isTransientFault : Move → Bool
  | .learn (.queryFault fault) => fault.isTransient
  | _ => false

/-- The transient faults since the last report that the operation is running, or since the
beginning. -/
def faultsInARow (moves : List Move) : Nat :=
  (moves.rtakeWhile (!·.isRunning)).countP Move.isTransientFault

/-- An observation behind other moves decides a wait, with a result. The result of a success tells how
many queries were begun, and how long the wait took. -/
inductive Decides (operation : String) (bound : Nat) (front : List Move) (queries elapsed : Nat) :
    Observation → Except Fault Completion → Prop where
  | succeeded : Decides operation bound front queries elapsed (.report .succeeded)
      (.ok ⟨operation, queries, elapsed⟩)
  | failed {code message : String} :
      Decides operation bound front queries elapsed (.report (.failed code message))
        (.error (.operationFailed operation code message))
  | refused {fault : Fault} (lasting : fault.isTransient = false) :
      Decides operation bound front queries elapsed (.queryFault fault) (.error fault)
  | exhausted {fault : Fault} (transient : fault.isTransient = true)
      (inARow : faultsInARow front + 1 = bound) :
      Decides operation bound front queries elapsed (.queryFault fault)
        (.error (.statusUnavailable operation bound fault))
  | timedOut : Decides operation bound front queries elapsed .deadlineReached
      (.error (.timedOut operation elapsed))
  | calledOff : Decides operation bound front queries elapsed .cancelRequested
      (.error (.cancelled operation))

/-- No observation among moves decides a wait. -/
def Undecided (operation : String) (bound : Nat) (moves : List Move) : Prop :=
  ∀ front observation behind, moves = front ++ .learn observation :: behind →
    ∀ queries elapsed result, ¬Decides operation bound front queries elapsed observation result

/-- The first observation that decides a wait, among moves, and its result. -/
def Reported (operation : String) (bound : Nat) (moves : List Move) (elapsed : Nat)
    (result : Except Fault Completion) : Prop :=
  ∃ front observation behind, moves = front ++ .learn observation :: behind ∧
    Undecided operation bound front ∧
    Decides operation bound front (queriesCounted moves) elapsed observation result

variable {operation : String} {bound : Nat} {moves front : List Move} {progress : Progress}
  {overflow : Overflow}

/-! ## Faults in a row -/

/-- What is no fault and no report leaves the row as it is. A query is such a move,
so queries do not divide a row. -/
theorem faults_in_a_row_of_other {move : Move} (silent : move.isRunning = false)
    (other : move.isTransientFault = false) : faultsInARow (moves ++ [move]) = faultsInARow moves := by
  rw [faultsInARow, List.rtakeWhile_concat_pos _ _ _ (by simp [silent]), List.countP_append]
  simp [other, faultsInARow]

/-- A transient fault makes the row longer, whatever stands between it and the fault
before. -/
theorem faults_in_a_row_of_fault {fault : Fault} (transient : fault.isTransient = true) :
    faultsInARow (moves ++ [.learn (.queryFault fault)]) = faultsInARow moves + 1 := by
  have silent : (Move.learn (.queryFault fault)).isRunning = false := by simp [Move.isRunning]
  rw [faultsInARow, List.rtakeWhile_concat_pos _ _ _ (by simp [silent]), List.countP_append]
  simp [Move.isTransientFault, transient, faultsInARow]

/-- A report that the operation is running ends the row, and the count begins anew.
-/
theorem faults_in_a_row_of_running : faultsInARow (moves ++ [.learn (.report .inProgress)]) = 0 := by
  rw [faultsInARow, List.rtakeWhile_concat_neg _ _ _ (by simp [Move.isRunning])]
  rfl

/-! ## Decisions -/

/-- Nothing has decided a wait at its beginning, where there are no moves. -/
theorem undecided_nil : Undecided operation bound [] := by
  intro front observation behind same
  simp at same

/-- A move decides nothing behind other moves. -/
def IsMute (operation : String) (bound : Nat) (front : List Move) (move : Move) : Prop :=
  ∀ observation, move = .learn observation → ∀ queries elapsed result,
    ¬Decides operation bound front queries elapsed observation result

/-- A wait stays undecided by a move exactly if the move decides nothing. Whether a
move decides depends only on what is in front of it. -/
theorem undecided_concat_iff {move : Move} :
    Undecided operation bound (moves ++ [move]) ↔
      Undecided operation bound moves ∧ IsMute operation bound moves move := by
  constructor
  · intro undecided
    constructor
    · intro front observation behind same
      exact undecided front observation (behind ++ [move]) (by simp [same])
    · rintro observation rfl
      exact undecided moves observation [] rfl
  · rintro ⟨undecided, mute⟩ front observation behind same
    rcases List.eq_nil_or_concat behind with rfl | ⟨init, last, rfl⟩
    · obtain ⟨rfl, own⟩ := List.append_inj' same rfl
      exact mute observation (List.singleton_inj.mp own)
    · rw [List.concat_eq_append, ← List.cons_append, ← List.append_assoc] at same
      exact undecided front observation init (List.append_inj' same rfl).1

/-- Whether an observation decides does not depend on what a success tells. The
number of queries and the time are told, and not asked for. -/
theorem Decides.told {observation : Observation} {queries elapsed : Nat}
    {result : Except Fault Completion}
    (decides : Decides operation bound front queries elapsed observation result) (count time : Nat) :
    ∃ told, Decides operation bound front count time observation told := by
  cases decides with
  | succeeded => exact ⟨_, .succeeded⟩
  | failed => exact ⟨_, .failed⟩
  | refused lasting => exact ⟨_, .refused lasting⟩
  | exhausted transient inARow => exact ⟨_, .exhausted transient inARow⟩
  | timedOut => exact ⟨_, .timedOut⟩
  | calledOff => exact ⟨_, .calledOff⟩

/-- Moves are undecided, or one of them is the first that decides. The induction
adds moves at the end, so that the first one stays the first. -/
theorem undecided_or_reported (operation : String) (bound : Nat) (moves : List Move) (elapsed : Nat) :
    Undecided operation bound moves ∨ ∃ result, Reported operation bound moves elapsed result := by
  induction moves using List.reverseRecOn with
  | nil => exact .inl undecided_nil
  | append_singleton front move inductionHypothesis =>
    rcases inductionHypothesis with undecided | ⟨result, earlier, observation, behind, rfl, first, decides⟩
    · by_cases mute : IsMute operation bound front move
      · exact .inl (undecided_concat_iff.mpr ⟨undecided, mute⟩)
      · simp only [IsMute, not_forall, not_not] at mute
        obtain ⟨observation, rfl, queries, instant, result, decides⟩ := mute
        obtain ⟨told, decides⟩ :=
          decides.told (queriesCounted (front ++ [Move.learn observation])) elapsed
        exact .inr ⟨told, front, observation, [], rfl, undecided, decides⟩
    · obtain ⟨told, decides⟩ := decides.told
        (queriesCounted (earlier ++ Move.learn observation :: behind ++ [move])) elapsed
      exact .inr ⟨told, earlier, observation, behind ++ [move], by simp, first, decides⟩

/-! ## The state of a wait -/

namespace Progress

/-- A query moves a wait by its count alone. The phase changes only where nothing
was asked before. -/
theorem take_query_eq_ok {later : Progress} (taken : progress.take overflow .query = .ok later) :
    ∃ queries, overflow.succ progress.queries = .ok queries ∧ later = progress.asking queries := by
  obtain ⟨queries, counted, rfl⟩ := ok_of_map taken
  exact ⟨queries, counted, rfl⟩

/-- Moves are taken one by one, so a state behind several of them has passed through
the state behind the first. -/
theorem take_all_cons_eq_ok {move : Move} {later : Progress}
    (taken : progress.takeAll overflow (move :: moves) = .ok later) :
    ∃ next, progress.take overflow move = .ok next ∧ next.takeAll overflow moves = .ok later := by
  rw [takeAll, List.foldlM_cons] at taken
  exact ok_of_bind taken

/-- A wait stays one for its operation, and counts the queries that are begun, less
whole turns of the count. No observation changes either. -/
theorem take_all_keeps {later : Progress} (taken : progress.takeAll overflow moves = .ok later)
    {begun : Nat} (counted : progress.queries = begun % (greatestCount + 1)) :
    later.operation = progress.operation ∧
      later.queries = (begun + moves.count .query) % (greatestCount + 1) := by
  induction moves generalizing progress begun with
  | nil =>
    cases taken
    exact ⟨rfl, counted⟩
  | cons move rest inductionHypothesis =>
    obtain ⟨next, first, others⟩ := take_all_cons_eq_ok taken
    cases move with
    | query =>
      obtain ⟨queries, succ, rfl⟩ := take_query_eq_ok first
      have more : queries = (begun + 1) % (greatestCount + 1) := Overflow.succ_mod (counted ▸ succ)
      obtain ⟨operation, total⟩ := inductionHypothesis others more
      refine ⟨operation, ?_⟩
      rw [total, List.count_cons_self, Nat.add_assoc, Nat.add_comm 1]
    | learn observation =>
      cases first
      obtain ⟨sameOperation, sameQueries⟩ := progress.observe_keeps observation
      obtain ⟨operation, total⟩ := inductionHypothesis others (sameQueries.trans counted)
      refine ⟨operation.trans sameOperation, ?_⟩
      simpa using total

/-- Moves come to nothing only where sums are checked, if there are more queries
than can be counted. It is the query beyond the greatest count that cannot be begun,
whatever phase the wait is in. -/
theorem take_all_eq_error_iff {breakdown : Breakdown} (counted : progress.queries ≤ greatestCount) :
    progress.takeAll overflow moves = .error breakdown ↔
      breakdown = .overflow ∧ overflow = .breaksDown ∧
        greatestCount < progress.queries + moves.count .query := by
  induction moves generalizing progress with
  | nil =>
    refine ⟨nofun, ?_⟩
    rintro ⟨_, _, many⟩
    exact absurd many (Nat.not_lt_of_le counted)
  | cons move rest inductionHypothesis =>
    rw [takeAll, List.foldlM_cons]
    cases move with
    | query =>
      rw [List.count_cons_self, take]
      by_cases room : progress.queries < greatestCount
      · rw [begin_query_of_room overflow room]
        have others := inductionHypothesis
          (show (progress.asking (progress.queries + 1)).queries ≤ greatestCount from room)
        rwa [asking_queries, Nat.add_assoc, Nat.add_comm 1] at others
      · have many : greatestCount < progress.queries + (rest.count .query + 1) := by omega
        cases overflow with
        | breaksDown =>
          rw [begin_query_of_full room]
          simp [bind, Except.bind, many, eq_comm]
        | beginsAnew =>
          have others := inductionHypothesis
            (show (progress.asking 0).queries ≤ greatestCount from Nat.zero_le _)
          rw [beginQuery, Overflow.succ_anew room]
          exact others.trans (by simp)
    | learn observation =>
      have same := (progress.observe_keeps observation).2
      have others := inductionHypothesis (same.symm ▸ counted)
      rw [same] at others
      refine others.trans ?_
      simp

/-- A wait that is over is over behind any moves, in the same phase and with the
same count of faults. A query may still be counted. -/
theorem take_all_of_terminal {later : Progress} (settled : progress.phase.isTerminal = true)
    (taken : progress.takeAll overflow moves = .ok later) :
    later.phase = progress.phase ∧ later.failures = progress.failures := by
  induction moves generalizing progress with
  | nil =>
    cases taken
    exact ⟨rfl, rfl⟩
  | cons move rest inductionHypothesis =>
    obtain ⟨next, first, others⟩ := take_all_cons_eq_ok taken
    cases move with
    | query =>
      obtain ⟨queries, _, rfl⟩ := take_query_eq_ok first
      have same := phase_of_asking settled queries
      rw [← same] at settled
      have kept := inductionHypothesis settled others
      exact ⟨kept.1.trans same, kept.2⟩
    | learn observation =>
      cases first
      rw [observe_of_terminal settled] at others
      exact inductionHypothesis settled others

/-- The state of a wait that nothing has decided. -/
structure StandsBehind (progress : Progress) (operation : String) (bound : Nat) (moves : List Move) :
    Prop where
  operation : progress.operation = operation
  failureBound : progress.failureBound = bound
  goesOn : progress.phase.isTerminal = false
  failures : progress.failures = faultsInARow moves
  patient : progress.failures < bound

/-- An observation that decides ends a wait, and its result is told in any state
with its phase. The states behind the end differ only in the number of queries,
which a success tells. -/
theorem outcome_of_decides {later : Progress} {observation : Observation} {elapsed : Nat}
    {result : Except Fault Completion} (stands : progress.StandsBehind operation bound front)
    (decides : Decides operation bound front later.queries elapsed observation result)
    (same : later.phase = (progress.observe observation).phase) (own : later.operation = operation) :
    later.outcome? elapsed = some result := by
  unfold outcome?
  cases decides with
  | exhausted transient inARow =>
    simp [same, observe, stands.goesOn, transient, stands.failures, stands.failureBound, inARow,
      stands.operation]
  | refused lasting => simp [same, observe, stands.goesOn, lasting]
  | _ => simp [same, observe, stands.goesOn, stands.operation, own]

/-- A report that the operation is running lets a wait go on and count anew,
whatever its phase was before. -/
theorem observe_running (goesOn : progress.phase.isTerminal = false) :
    progress.observe (.report .inProgress) = { progress with phase := .polling, failures := 0 } := by
  simp [observe, goesOn]

/-- A transient fault that does not reach the bound lets a wait go on and is
counted, and nothing else changes. -/
theorem observe_transient {fault : Fault} (goesOn : progress.phase.isTerminal = false)
    (transient : fault.isTransient = true) (short : progress.failures + 1 < progress.failureBound) :
    progress.observe (.queryFault fault) =
      { progress with phase := .polling, failures := progress.failures + 1 } := by
  simp [observe, goesOn, transient, Nat.not_le_of_lt short]

/-- A wait that nothing has decided goes on, with its count of faults, behind a move that decides
nothing.

Proof: a query changes none of what is said. An observation that decides nothing is a report that the
operation is running, which ends the row of faults, or a transient fault. The fault makes the row longer
by one and would have decided if the row had reached the bound. -/
theorem stands_of_mute {move : Move} {later : Progress}
    (stands : progress.StandsBehind operation bound front) (mute : IsMute operation bound front move)
    (taken : progress.take overflow move = .ok later) :
    later.StandsBehind operation bound (front ++ [move]) := by
  cases move with
  | query =>
    obtain ⟨queries, _, rfl⟩ := take_query_eq_ok taken
    refine ⟨stands.operation, stands.failureBound, ?_, ?_, stands.patient⟩
    · exact (progress.terminal_of_asking queries).trans stands.goesOn
    · rw [faults_in_a_row_of_other rfl rfl]
      exact stands.failures
  | learn observation =>
    have decides := mute observation rfl 0 0
    cases taken
    cases observation with
    | report given =>
      cases given with
      | inProgress =>
        rw [observe_running stands.goesOn]
        exact ⟨stands.operation, stands.failureBound, rfl, faults_in_a_row_of_running.symm,
          Nat.lt_of_le_of_lt (Nat.zero_le _) stands.patient⟩
      | succeeded => exact absurd .succeeded (decides _)
      | failed => exact absurd .failed (decides _)
    | queryFault fault =>
      by_cases transient : fault.isTransient = true
      · -- The fault would decide if it reached the bound, so the count stays below it.
        have unreached : progress.failures + 1 ≠ bound := by
          rw [stands.failures]
          exact mt (.exhausted transient) (decides _)
        have short : progress.failures + 1 < bound := Nat.lt_of_le_of_ne stands.patient unreached
        rw [observe_transient stands.goesOn transient (stands.failureBound ▸ short)]
        refine ⟨stands.operation, stands.failureBound, rfl, ?_, short⟩
        rw [faults_in_a_row_of_fault transient, ← stands.failures]
      · exact absurd (.refused (Bool.eq_false_iff.mpr transient)) (decides _)
    | deadlineReached => exact absurd .timedOut (decides _)
    | cancelRequested => exact absurd .calledOff (decides _)

/-- An observation makes the count greater by one at most, so a count below the
bound does not pass it. -/
theorem observe_failures_le (progress : Progress) (observation : Observation) :
    (progress.observe observation).failures ≤ progress.failures + 1 := by
  by_cases settled : progress.phase.isTerminal = true
  · rw [observe_of_terminal settled]
    exact Nat.le_succ _
  · cases observation with
    | report given => cases given <;> simp [observe, settled]
    | queryFault fault =>
      by_cases transient : fault.isTransient = true
      · by_cases reached : progress.failureBound ≤ progress.failures + 1 <;>
          simp [observe, settled, transient, reached]
      · simp [observe, settled, transient]
    | deadlineReached | cancelRequested => simp [observe, settled]

/-- There is no result exactly when the wait goes on. Each phase in which a wait is
over has its own result. -/
theorem outcome_eq_none_iff (progress : Progress) (elapsed : Nat) :
    progress.outcome? elapsed = none ↔ progress.phase.isTerminal = false := by
  rw [← Option.not_isSome_iff_eq_none, outcome_is_some_iff, Bool.not_eq_true]

/-- The state of a wait behind moves that began with it. -/
def behind (overflow : Overflow) (operation : String) (bound : Nat) (moves : List Move) :
    Except Breakdown Progress :=
  takeAll overflow { operation := operation, failureBound := bound } moves

/-- A move follows the moves in front of it: the state behind all of them is reached
from the state behind the first ones. -/
theorem behind_append {more : List Move}
    (taken : behind overflow operation bound (front ++ more) = .ok progress) :
    ∃ earlier, behind overflow operation bound front = .ok earlier ∧
      earlier.takeAll overflow more = .ok progress := by
  rw [behind, takeAll, List.foldlM_append] at taken
  exact ok_of_bind taken

/-- A wait has its operation, and counts the queries that are begun, in whatever
order they came. -/
theorem behind_keeps (taken : behind overflow operation bound moves = .ok progress) :
    progress.operation = operation ∧ progress.queries = queriesCounted moves := by
  obtain ⟨own, queries⟩ := take_all_keeps taken (Nat.zero_mod _).symm
  exact ⟨own, queries.trans (by rw [Nat.zero_add, queriesCounted])⟩

/-- Moves that decide nothing leave a wait that goes on, with its count of faults
below the bound. Each of them takes the wait from one such state to the next, by
`stands_of_mute`. -/
theorem stands_of_moves (bounded : 0 < bound) (undecided : Undecided operation bound moves)
    (taken : behind overflow operation bound moves = .ok progress) :
    progress.StandsBehind operation bound moves := by
  induction moves using List.reverseRecOn generalizing progress with
  | nil =>
    cases taken
    exact ⟨rfl, rfl, rfl, rfl, bounded⟩
  | append_singleton front move inductionHypothesis =>
    obtain ⟨undecided, mute⟩ := undecided_concat_iff.mp undecided
    obtain ⟨earlier, before, last⟩ := behind_append taken
    obtain ⟨later, moved, rest⟩ := take_all_cons_eq_ok last
    cases rest
    exact stands_of_mute (inductionHypothesis undecided before) mute moved

/-- The first move that decides ends a wait with its result, whatever follows. In
front of it the wait stands, and behind it nothing changes the phase any more. -/
theorem outcome_of_reported (bounded : 0 < bound) {elapsed : Nat} {result : Except Fault Completion}
    (taken : behind overflow operation bound moves = .ok progress)
    (reported : Reported operation bound moves elapsed result) :
    progress.outcome? elapsed = some result ∧ progress.failures ≤ bound := by
  obtain ⟨front, observation, more, rfl, undecided, decides⟩ := reported
  obtain ⟨named, queries⟩ := behind_keeps taken
  obtain ⟨earlier, before, rest⟩ := behind_append taken
  obtain ⟨decided, observed, rest⟩ := take_all_cons_eq_ok rest
  have stands := stands_of_moves bounded undecided before
  obtain rfl : earlier.observe observation = decided := Except.ok.inj observed
  have own : (earlier.observe observation).operation = operation :=
    (observe_keeps _ _).1.trans stands.operation
  have ended : (earlier.observe observation).phase.isTerminal = true := by
    obtain ⟨told, again⟩ := decides.told (earlier.observe observation).queries elapsed
    rw [← outcome_is_some_iff _ elapsed, outcome_of_decides stands again rfl own]
    rfl
  obtain ⟨phase, failures⟩ := take_all_of_terminal ended rest
  refine ⟨outcome_of_decides stands (queries ▸ decides) phase named, ?_⟩
  have patient := stands.patient
  have counted := observe_failures_le earlier observation
  omega

/-- A wait goes on as long as nothing has decided it, or has the result that was
decided first. There is no third possibility. -/
theorem stands_or_reported (bounded : 0 < bound)
    (taken : behind overflow operation bound moves = .ok progress) (elapsed : Nat) :
    progress.StandsBehind operation bound moves ∨
      ∃ result, Reported operation bound moves elapsed result ∧
        progress.outcome? elapsed = some result ∧ progress.failures ≤ bound := by
  rcases undecided_or_reported operation bound moves elapsed with undecided | ⟨result, reported⟩
  · exact .inl (stands_of_moves bounded undecided taken)
  · exact .inr ⟨result, reported, outcome_of_reported bounded taken reported⟩

/-- A wait that goes on stands where nothing has decided it, for a decision would
have given it a result. -/
theorem stands_of_goes_on (bounded : 0 < bound)
    (taken : behind overflow operation bound moves = .ok progress)
    (goesOn : progress.phase.isTerminal = false) : progress.StandsBehind operation bound moves := by
  rcases stands_or_reported bounded taken 0 with stands | ⟨result, _, told, _⟩
  · exact stands
  · rw [(outcome_eq_none_iff _ 0).mpr goesOn] at told
    cases told

/-- A transient fault that ends a wait is the cause that is told, with as many attempts as the bound
says. -/
theorem exhausted_of_terminal {fault : Fault} (stands : progress.StandsBehind operation bound moves)
    (transient : fault.isTransient = true)
    (ended : (progress.observe (.queryFault fault)).phase.isTerminal = true) :
    (progress.observe (.queryFault fault)).phase =
      .failed (.statusUnavailable operation bound fault) := by
  by_cases short : progress.failures + 1 < progress.failureBound
  · rw [observe_transient stands.goesOn transient short] at ended
    cases ended
  · have bounded := stands.patient
    have reached : progress.failures + 1 = bound := by
      rw [stands.failureBound] at short
      omega
    simp [observe, stands.goesOn, transient, stands.failureBound, stands.operation, reached]

end Progress

/-- The state of a wait behind any moves, in every build. Once it is over, no move changes its phase or
its count of faults. As long as it goes on, this count is the number of transient faults since the last
report that the operation is running, or since the beginning, and is below the bound; so it never passes
the bound. A transient fault that ends the wait is told as its cause, with the operation and as many
attempts as the bound says. There is no result exactly as long as the wait goes on, and from then on it
is that of the first observation that decides.

There is such a state behind all moves, unless sums are checked and there are more queries than can be
counted: then the wait breaks down. The number of queries that a success tells is the number of those
begun, less whole turns of the count, so it is that number wherever sums are checked. -/
theorem first_decision_stands (overflow : Overflow) (operation : String) {bound : Nat}
    (bounded : 0 < bound) (moves : List Move) :
    (∀ breakdown, Progress.behind overflow operation bound moves = .error breakdown ↔
      breakdown = .overflow ∧ overflow = .breaksDown ∧ greatestCount < moves.count .query) ∧
    (moves.count .query ≤ greatestCount → queriesCounted moves = moves.count .query) ∧
    ∀ progress, Progress.behind overflow operation bound moves = .ok progress →
      (progress.phase.isTerminal = true → ∀ more later,
        progress.takeAll overflow more = .ok later →
          later.phase = progress.phase ∧ later.failures = progress.failures) ∧
      (progress.phase.isTerminal = false →
        progress.failures = faultsInARow moves ∧ progress.failures < bound) ∧
      progress.failures ≤ bound ∧
      (progress.phase.isTerminal = false → ∀ fault, fault.isTransient = true →
        (progress.observe (.queryFault fault)).phase.isTerminal = true →
        (progress.observe (.queryFault fault)).phase =
          .failed (.statusUnavailable operation bound fault)) ∧
      ∀ elapsed, (progress.outcome? elapsed = none ↔ progress.phase.isTerminal = false) ∧
        ∀ result, progress.outcome? elapsed = some result ↔
          Reported operation bound moves elapsed result := by
  refine ⟨?_, fun few => Nat.mod_eq_of_lt (Nat.lt_succ_of_le few), ?_⟩
  · intro breakdown
    refine (Progress.take_all_eq_error_iff (Nat.zero_le _)).trans ?_
    rw [Nat.zero_add]
  · intro progress taken
    refine ⟨fun settled _ _ => Progress.take_all_of_terminal settled, ?_, ?_, ?_, ?_⟩
    · intro goesOn
      have stands := Progress.stands_of_goes_on bounded taken goesOn
      exact ⟨stands.failures, stands.patient⟩
    · rcases Progress.stands_or_reported bounded taken 0 with stands | ⟨_, _, _, kept⟩
      · exact stands.patient.le
      · exact kept
    · intro goesOn fault transient ended
      exact Progress.exhausted_of_terminal (Progress.stands_of_goes_on bounded taken goesOn) transient
        ended
    · intro elapsed
      refine ⟨progress.outcome_eq_none_iff elapsed, fun result => ⟨?_, ?_⟩⟩
      · intro told
        rcases Progress.stands_or_reported bounded taken elapsed with
          stands | ⟨first, reported, same, _⟩
        · have nothing := (progress.outcome_eq_none_iff elapsed).mpr stands.goesOn
          rw [nothing] at told
          cases told
        · exact Option.some.inj (same.symm.trans told) ▸ reported
      · intro reported
        exact (Progress.outcome_of_reported bounded taken reported).1

/-- Observations may come in any order, also in front of the first query and behind the end. Two faults
in a row end this wait, and neither the fault in front of the report nor the success behind the end
counts. -/
theorem faults_behind_report_decide :
    let fault := Fault.transportFailed "connection reset"
    let moves : List Move := [.learn (.queryFault fault), .query, .learn (.report .inProgress), .query,
      .learn (.queryFault fault), .learn (.queryFault (.malformedResponse "empty")),
      .learn (.report .succeeded), .query]
    0 < 2 ∧ Reported "op-1" 2 moves 7
      (.error (.statusUnavailable "op-1" 2 (.malformedResponse "empty"))) := by
  intro fault moves
  have bounded : 0 < 2 := by decide
  have stands := (first_decision_stands .breaksDown "op-1" bounded moves).2.2
    ⟨"op-1", 2, .failed (.statusUnavailable "op-1" 2 (.malformedResponse "empty")), 3, 2⟩ rfl
  exact ⟨bounded, ((stands.2.2.2.2 7).2 _).mp rfl⟩

end ExtensionPublisher
