import ExtensionPublisher.Proofs.Wait.Bounds

/-!
# Waits that nothing settles

An operation may never be decided: every query takes the same time, every reply reports that the
operation is running or is a transient fault, and there are never too many faults in a row. Then the
queries begin at the multiples of a period, which is the interval and the time of a query, and the
wait is over when time is up. So the number of its queries and the instant of its end are told by
the period and the deadline alone, `undecided_wait_runs_out`.

Queries that take no time are as many as there are intervals until the deadline, rounded up, and the
wait is over at the deadline.

That is so for an operation with a name and for as many periods as can be counted,
`periods_are_not_asked_in`. With more periods a build that checks its sums breaks down in the first one
that it cannot count.
-/
namespace ExtensionPublisher

/-- As many periods as a deadline has, the last one begun being counted, and one in any case. -/
def periodsUntil (deadline period : Nat) : Nat :=
  max 1 ((deadline + period - 1) / period)

/-- The last of the periods until a deadline begins in front of it or is the first one, and it ends no
earlier than the deadline. -/
theorem periods_until_eq (deadline : Nat) {period : Nat} (positive : 0 < period) :
    ∃ last, periodsUntil deadline period = last + 1 ∧
      (last = 0 ∨ last * period < deadline) ∧ deadline ≤ (last + 1) * period := by
  obtain ⟨last, count⟩ : ∃ last, periodsUntil deadline period = last + 1 :=
    ⟨periodsUntil deadline period - 1, by unfold periodsUntil; omega⟩
  refine ⟨last, count, ?_, ?_⟩
  · rcases Nat.eq_zero_or_pos last with first | later
    · exact .inl first
    · have most : last + 1 ≤ (deadline + period - 1) / period := by
        unfold periodsUntil at count
        omega
      have room : (last + 1) * period ≤ deadline + period - 1 :=
        (Nat.le_div_iff_mul_le positive).mp most
      rw [Nat.succ_mul] at room
      exact .inr (by omega)
  · have least : (deadline + period - 1) / period < last + 2 := by
      unfold periodsUntil at count
      omega
    have filled : deadline + period - 1 < (last + 2) * period :=
      (Nat.div_lt_iff_lt_mul positive).mp least
    rw [Nat.succ_mul] at filled
    omega

/-- Where there is time until the deadline, it has a period, so that the least
number need not be imposed. -/
theorem periods_until_of_pos {deadline period : Nat} (positive : 0 < period) (time : 0 < deadline) :
    periodsUntil deadline period = (deadline + period - 1) / period := by
  apply Nat.max_eq_right
  apply (Nat.le_div_iff_mul_le positive).mpr
  omega

namespace Course

variable {course : Course} {took index : Nat}

/-- Nothing ever settles the wait, and nobody calls it off. All queries take the same time. -/
structure IsUndecided (course : Course) (took : Nat) : Prop where
  steady : ∀ index, (course.replies index).took = took
  never : course.cancelAt = none
  quiet : course.Quiet
  undecided : ∀ index,
    (course.replies index).result = .ok .inProgress ∨ course.TransientAt index
  /-- Never are there as many faults in a row as are put up with. -/
  patient : ¬∃ first, ∀ index, first ≤ index → index < first + course.failureBound →
    course.TransientAt index

/-- Queries that take the same time would begin at the multiples of a period, which
is the interval and that time. -/
theorem start_of_steady (steady : ∀ index, (course.replies index).took = took) (index : Nat) :
    course.start index = index * (course.interval + took) := by
  induction index with
  | zero => simp [start]
  | succ index inductionHypothesis =>
    rw [start, inductionHypothesis, steady, Nat.succ_mul]
    omega

namespace IsUndecided

variable (undecided : course.IsUndecided took)

include undecided

/-- No reply settles the wait. A fault that filled the row would be the last of as
many as are put up with. -/
theorem unsettled (index : Nat) : course.Unsettled index := by
  apply unsettled_iff.mpr
  rcases undecided.undecided index with running | transient
  · exact .inl running
  · refine .inr ⟨transient, ?_⟩
    rintro ⟨first, size, row, _⟩
    exact undecided.patient ⟨first, fun earlier behind before => row earlier behind (by omega)⟩

/-- The wait is not called off, neither by a query nor by an instant. -/
theorem wanted (count instant : Nat) : ¬course.CalledOff count instant := by
  rw [called_off_of_quiet undecided.quiet, undecided.never]
  rintro ⟨_, ⟨⟩, _⟩

/-- The queries that are due are those of the periods until the deadline, and time is up behind the
last one. -/
theorem last_query (positive : 0 < course.interval) :
    ∃ last, periodsUntil course.deadline (course.interval + took) = last + 1 ∧
      course.Due last ∧ ¬course.Due (last + 1) ∧
      course.Closes last (.error (.timedOut course.operation
          (max (last * (course.interval + took) + took) course.deadline)))
        (max (last * (course.interval + took) + took) course.deadline) := by
  have start := start_of_steady undecided.steady
  obtain ⟨last, count, early, late⟩ :=
    periods_until_eq course.deadline (Nat.add_pos_left positive took)
  have replied : course.replied last = last * (course.interval + took) + took := by
    rw [replied, start, undecided.steady]
  have past : course.deadline ≤ course.start (last + 1) := by rwa [start]
  have due : course.Due last :=
    ⟨fun earlier _ => undecided.unsettled earlier, undecided.wanted _ _, by rwa [start]⟩
  refine ⟨last, count, due, fun next => Nat.not_lt_of_le past next.early_of_succ, ?_⟩
  rw [← replied]
  exact .timedOut (undecided.unsettled last) (undecided.wanted _ _) past

end IsUndecided

end Course

section Waits

variable {σ : Type} {operation : String} {settings : WaitSettings}
  (accepted : settings.validate = .ok ()) (named : Text.blank operation = false)
  (deadline? : Option Nat) (query : StatusSource σ) (source : σ) {took : Nat}
  (undecided : (settings.course deadline? query none operation source).IsUndecided took)

include accepted named undecided

/-- Where the periods until the deadline can be counted, every build makes a query at the beginning of
each of them. Nothing but the deadline ends the wait. -/
theorem undecided_wait_of_few
    (few : periodsUntil (deadline?.getD settings.deadline) (settings.interval + took) ≤ greatestCount)
    (overflow : Overflow) :
    ∃ last, periodsUntil (deadline?.getD settings.deadline) (settings.interval + took) = last + 1 ∧
      (settings.course deadline? query none operation source).Starts last ∧
      let run := settings.waitCounting overflow deadline? query none operation source
      let ended := max (last * (settings.interval + took) + took) (deadline?.getD settings.deadline)
      run.starts = (List.range (last + 1)).map (· * (settings.interval + took)) ∧
        run.ended = ended ∧ run.result = .error (.timedOut operation ended) := by
  obtain ⟨last, known, due, past, closes⟩ := undecided.last_query (settings.interval_pos accepted)
  have size : periodsUntil (deadline?.getD settings.deadline) (settings.interval + took) = last + 1 :=
    known
  have starts : (settings.course deadline? query none operation source).Starts last := ⟨due, by omega⟩
  have counted : ¬(settings.course deadline? query none operation source).Due greatestCount :=
    fun full => past (Course.due_of_le full (by omega))
  have whole := (settings.counting_eq_wait accepted overflow deadline? query none operation source
    counted).trans (Course.follows_unique
      (settings.wait_follows accepted named deadline? query none source)
      (Course.follows_of_closes query source starts closes))
  have instants : (settings.course deadline? query none operation source).start =
      (· * (settings.interval + took)) :=
    funext (Course.start_of_steady undecided.steady)
  refine ⟨last, size, starts, ?_, congrArg Run.ended whole, congrArg Run.result whole⟩
  rw [← instants]
  exact congrArg Run.starts whole

/-- Where there are more periods than can be counted, a build that checks its sums makes as many queries
as it can count. It breaks down where the next one would begin. -/
theorem undecided_wait_of_many
    (many : greatestCount < periodsUntil (deadline?.getD settings.deadline) (settings.interval + took)) :
    let run := settings.wait deadline? query none operation source
    run.starts = (List.range greatestCount).map (· * (settings.interval + took)) ∧
      run.ended = greatestCount * (settings.interval + took) ∧
      run.result = .error (.brokenDown .overflow) := by
  intro run
  obtain ⟨last, known, due, _⟩ := undecided.last_query (settings.interval_pos accepted)
  have size : periodsUntil (deadline?.getD settings.deadline) (settings.interval + took) = last + 1 :=
    known
  obtain ⟨final, full⟩ : ∃ final, final + 1 = greatestCount := ⟨greatestCount - 1, by decide⟩
  have starts : (settings.course deadline? query none operation source).Starts final :=
    ⟨Course.due_of_le due (by omega), by omega⟩
  have next : (settings.course deadline? query none operation source).Due (final + 1) :=
    Course.due_of_le due (by omega)
  have whole := Course.follows_unique (settings.wait_follows accepted named deadline? query none source)
    (Course.follows_of_closes query source starts (.brokenDown next full))
  have instants : (settings.course deadline? query none operation source).start =
      (· * (settings.interval + took)) :=
    funext (Course.start_of_steady undecided.steady)
  rw [instants] at whole
  rw [← full]
  exact ⟨congrArg Run.starts whole, congrArg Run.ended whole, congrArg Run.result whole⟩

end Waits

variable {σ : Type} {operation : String}

/-- A wait that nothing settles runs out of time. No query and no instant calls it off, each query
takes the same time, and each brings a report that the operation is running or a transient fault,
with fewer faults in a row than end a wait. Then there is a query at the beginning of each period
until the deadline, where a period is the interval and the time of a query, and one query in any case.
The wait ends at the deadline or with the reply to its last query, whichever is later. Where queries
take no time it ends at the deadline, and there are as many queries as intervals until then.

That is so in every build as long as the periods can be counted. Where there are more of them, a build
that checks its sums breaks down when it comes to the first query that it cannot count. -/
theorem undecided_wait_runs_out {settings : WaitSettings} (accepted : settings.validate = .ok ())
    (named : Text.blank operation = false) (deadline? : Option Nat) (query : StatusSource σ)
    (source : σ) {took : Nat}
    (undecided : (settings.course deadline? query none operation source).IsUndecided took) :
    let deadline := deadline?.getD settings.deadline
    let period := settings.interval + took
    let count := periodsUntil deadline period
    let ended := max deadline ((count - 1) * period + took)
    (count ≤ greatestCount → ∀ overflow,
      let run := settings.waitCounting overflow deadline? query none operation source
      run.starts = (List.range count).map (· * period) ∧ run.ended = ended ∧
        run.result = .error (.timedOut operation ended) ∧
        (took = 0 → ended = deadline ∧
          (0 < deadline →
            run.starts.length = (deadline + settings.interval - 1) / settings.interval))) ∧
    (greatestCount < count →
      let run := settings.wait deadline? query none operation source
      run.starts = (List.range greatestCount).map (· * period) ∧
        run.ended = greatestCount * period ∧ run.result = .error (.brokenDown .overflow)) := by
  intro deadline period count ended
  have positive : 0 < period := Nat.add_pos_left (settings.interval_pos accepted) took
  refine ⟨?_, undecided_wait_of_many accepted named deadline? query source undecided⟩
  intro few overflow run
  obtain ⟨last, size, starts, queries, finished, result⟩ :=
    undecided_wait_of_few accepted named deadline? query source undecided few overflow
  have size : count = last + 1 := size
  have expiry : ended = max (last * period + took) deadline := by
    simp only [ended, size, Nat.add_sub_cancel, Nat.max_comm]
  have queries : run.starts = (List.range count).map (· * period) := by
    rw [size]
    exact queries
  refine ⟨queries, ?_, ?_, ?_⟩
  · rw [expiry]
    exact finished
  · rw [expiry]
    exact result
  · rintro rfl
    have early : last * period ≤ deadline := by
      have start := Course.start_le_deadline starts
      rwa [Course.start_of_steady undecided.steady] at start
    refine ⟨expiry.trans (Nat.max_eq_right early), ?_⟩
    intro time
    rw [queries, List.length_map, List.length_range]
    exact periods_until_of_pos positive time

/-- A transient fault and a report that the operation is running by turns, each after a unit of
time. -/
def faultsByTurns (index : Nat) : Reply :=
  if index % 2 = 0 then { result := .error (.transportFailed "connection reset"), took := 1 }
  else { result := .ok .inProgress, took := 1 }

/-- With an interval of three a period is four, and a deadline of eight is the end of the second one. A
third query would begin at the deadline, so there are two. -/
theorem two_periods_until_eight :
    let settings : WaitSettings := { interval := 3, deadline := 8, failureBound := 2 }
    let run := settings.wait none (.ofReplies faultsByTurns) none "op-1" 0
    settings.validate = .ok () ∧ Text.blank "op-1" = false ∧
      (settings.course none (.ofReplies faultsByTurns) none "op-1" 0).IsUndecided 1 ∧
      run.starts = [0, 4] ∧ run.ended = 8 ∧ run.result = .error (.timedOut "op-1" 8) := by
  intro settings run
  have accepted : settings.validate = .ok () := rfl
  have named : Text.blank "op-1" = false := by decide
  have replies : (settings.course none (.ofReplies faultsByTurns) none "op-1" 0).replies =
      faultsByTurns := StatusSource.reply_of_replies faultsByTurns "op-1"
  have undecided : (settings.course none (.ofReplies faultsByTurns) none "op-1" 0).IsUndecided 1 := by
    refine ⟨?_, rfl, ?_, ?_, ?_⟩
    · intro index
      rw [replies, faultsByTurns]
      split <;> rfl
    · intro index
      rw [replies, faultsByTurns]
      split <;> rfl
    · intro index
      rw [Course.TransientAt, replies, faultsByTurns]
      split
      · exact .inr ⟨_, rfl, rfl⟩
      · exact .inl rfl
    · rintro ⟨first, row⟩
      -- One of two replies in a row is a report.
      obtain ⟨odd, behind, before, report⟩ : ∃ odd, first ≤ odd ∧ odd < first + 2 ∧ odd % 2 ≠ 0 := by
        rcases Nat.mod_two_eq_zero_or_one first with even | odd
        · exact ⟨first + 1, by omega, by omega, by omega⟩
        · exact ⟨first, by omega, by omega, by omega⟩
      obtain ⟨fault, given, _⟩ := row odd behind before
      rw [replies, faultsByTurns, if_neg report] at given
      cases given
  obtain ⟨starts, ended, result, _⟩ :=
    (undecided_wait_runs_out accepted named none (.ofReplies faultsByTurns) 0 undecided).1 (by decide)
      .breaksDown
  have instants : (List.range (periodsUntil 8 4)).map (· * 4) = [0, 4] := by decide
  have expiry : max 8 ((periodsUntil 8 4 - 1) * 4 + 1) = 8 := by decide
  exact ⟨accepted, named, undecided, starts.trans instants, ended.trans expiry,
    result.trans (congrArg (Except.error ∘ Fault.timedOut "op-1") expiry)⟩

/-- A report that the operation is running, at once and for ever. -/
def foreverRunning (_ : Nat) : Reply := { result := .ok .inProgress }

/-- Nothing but reports that the operation is running settles no wait, as there is
no fault that could fill a row. -/
theorem undecided_of_running {settings : WaitSettings} (accepted : settings.validate = .ok ())
    (deadline? : Option Nat) (operation : String) :
    (settings.course deadline? (.ofReplies foreverRunning) none operation 0).IsUndecided 0 := by
  have replies : (settings.course deadline? (.ofReplies foreverRunning) none operation 0).replies =
      foreverRunning := StatusSource.reply_of_replies foreverRunning operation
  refine ⟨?_, rfl, ?_, ?_, ?_⟩
  · intro index
    rw [replies]
    rfl
  · intro index
    rw [replies]
    rfl
  · intro index
    rw [replies]
    exact .inl rfl
  · rintro ⟨first, row⟩
    obtain ⟨fault, given, _⟩ := row first (Nat.le_refl _)
      (Nat.lt_add_of_pos_right (settings.failure_bound_pos accepted))
    rw [replies] at given
    cases given

/-- Two waits that nothing settles, and that do not make a query in each of their periods. The one is for
an operation without a name: it is refused, and asks nothing. The other has a period more than can be
counted, and breaks down over it. -/
theorem periods_are_not_asked_in :
    (let settings : WaitSettings := { interval := 1000, deadline := 2000, failureBound := 3 }
     let run := settings.wait none (.ofReplies foreverRunning) none " " 0
     settings.validate = .ok () ∧
       (settings.course none (.ofReplies foreverRunning) none " " 0).IsUndecided 0 ∧
       periodsUntil 2000 1000 = 2 ∧ run.starts = [] ∧
       run.result = .error (.invalidArgument "operation id must not be empty")) ∧
    let settings : WaitSettings := { interval := 1, deadline := greatestCount + 1, failureBound := 3 }
    let run := settings.wait none (.ofReplies foreverRunning) none "op-1" 0
    settings.validate = .ok () ∧ Text.blank "op-1" = false ∧
      (settings.course none (.ofReplies foreverRunning) none "op-1" 0).IsUndecided 0 ∧
      periodsUntil (greatestCount + 1) 1 = greatestCount + 1 ∧ run.starts.length = greatestCount ∧
      run.result = .error (.brokenDown .overflow) := by
  refine ⟨?_, ?_⟩
  · intro settings run
    exact ⟨rfl, undecided_of_running rfl none " ", by decide, rfl, rfl⟩
  · intro settings run
    have accepted : settings.validate = .ok () := rfl
    have named : Text.blank "op-1" = false := by decide
    have undecided := undecided_of_running accepted none "op-1"
    have periods : periodsUntil (greatestCount + 1) 1 = greatestCount + 1 := by
      rw [periods_until_of_pos Nat.one_pos (Nat.succ_pos _), Nat.add_sub_cancel, Nat.div_one]
    obtain ⟨starts, _, result⟩ := undecided_wait_of_many accepted named none (.ofReplies foreverRunning)
      0 undecided (periods ▸ Nat.lt_succ_self greatestCount)
    refine ⟨accepted, named, undecided, periods, ?_, result⟩
    rw [starts, List.length_map, List.length_range]

end ExtensionPublisher
