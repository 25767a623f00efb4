import ExtensionPublisher.Proofs.Result
import ExtensionPublisher.Proofs.Wait.Course

/-!
# A wait follows its course

What a wait keeps between two queries is a state, a count of queries and a count of failures.
The invariant `Stands` says what they are: the queries begun, and the transient faults in a row
that the course has in front of the next query. Taking in a reply either settles the wait as the
course does or keeps the invariant for the query behind it.

From this a whole run follows by induction on the time left until the deadline: it begins the
queries that the course begins, at their instants, and ends with the outcome of the course,
`wait_follows_course`.
-/
namespace ExtensionPublisher

/-- The course of a wait on a schedule. -/
def Schedule.course {σ : Type} (schedule : Schedule) (query : StatusSource σ)
    (cancelAt : Option Nat) (operation : String) (source : σ) : Course where
  operation := operation
  interval := schedule.interval
  deadline := schedule.deadline
  failureBound := schedule.failureBound
  cancelAt := cancelAt
  replies := query.reply operation source

namespace Course

/-- The state of a wait that has come to a query: how far it has counted, with the
faults in a row that the replies in front of the query make up, and fewer than are
put up with. -/
structure Stands (course : Course) (index : Nat) (progress : Progress) : Prop where
  operation : progress.operation = course.operation
  failureBound : progress.failureBound = course.failureBound
  goesOn : progress.phase.isTerminal = false
  queries : progress.queries = index
  failures : course.FaultsInARow progress.failures index
  patient : progress.failures < course.failureBound

/-- The state of a wait that has come to a query and takes in its reply. -/
def taken (course : Course) (progress : Progress) (index : Nat) : Progress :=
  (progress.asking (index + 1)).observe (.ofQuery (course.replies index).result)

variable {course : Course} {index : Nat} {progress : Progress}

/-! ## Faults in a row -/

/-- Nothing is in front of the first query, so the row of faults is empty there. -/
theorem no_faults_at_beginning (course : Course) : course.FaultsInARow 0 0 :=
  ⟨0, rfl, fun _ _ inside => absurd inside (Nat.not_lt_zero _), .inl rfl⟩

/-- One more transient fault is one more in the row, which begins where it began
before. -/
theorem faults_in_a_row_succ {count : Nat} (counted : course.FaultsInARow count index)
    (transient : course.TransientAt index) : course.FaultsInARow (count + 1) (index + 1) := by
  obtain ⟨first, size, faults, beginning⟩ := counted
  refine ⟨first, by omega, ?_, beginning⟩
  intro earlier behind inside
  rcases Nat.lt_succ_iff_lt_or_eq.mp inside with before | rfl
  · exact faults earlier behind before
  · exact transient

/-- A report that the operation is running ends the row, and the next fault is the
first of another one. -/
theorem no_faults_behind_report (running : (course.replies index).result = .ok .inProgress) :
    course.FaultsInARow 0 (index + 1) := by
  refine ⟨index + 1, rfl, ?_, .inr ⟨index, rfl, running⟩⟩
  intro earlier behind inside
  exact absurd inside (Nat.not_lt_of_le behind)

/-! ## Taking in a reply -/

/-- A wait that has asked nothing stands at the first query, as long as it puts up
with some fault. -/
theorem stands_at_beginning (bounded : 0 < course.failureBound) :
    course.Stands 0 { operation := course.operation, failureBound := course.failureBound } where
  operation := rfl
  failureBound := rfl
  goesOn := rfl
  queries := rfl
  failures := course.no_faults_at_beginning
  patient := bounded

/-- A query that can be counted is begun alike in every build, because the count is
the number of the queries in front of it. -/
theorem begin_query_of_stands (stands : course.Stands index progress) (overflow : Overflow)
    (room : index < greatestCount) :
    progress.beginQuery overflow = .ok (progress.asking (index + 1)) := by
  have counted : progress.queries < greatestCount := stands.queries ▸ room
  rw [Progress.begin_query_of_room overflow counted, stands.queries]

/-- A reply that settles the wait ends it with its result. The fault that reaches the bound is
the one behind the faults counted so far, because a row of faults has one length. -/
theorem outcome_of_settles {result : Except Fault Completion} (stands : course.Stands index progress)
    (settles : course.Settles index result) :
    (course.taken progress index).outcome? (course.replied index) = some result := by
  have goesOn := (progress.terminal_of_asking (index + 1)).trans stands.goesOn
  cases settles with
  | succeeded given =>
    simp [taken, Progress.observe, goesOn, Observation.ofQuery, given, Progress.outcome?,
      stands.operation]
  | failed given =>
    simp [taken, Progress.observe, goesOn, Observation.ofQuery, given, Progress.outcome?,
      stands.operation]
  | refused given lasting =>
    simp [taken, Progress.observe, goesOn, Observation.ofQuery, given, lasting, Progress.outcome?]
  | @exhausted fault given transient inARow =>
    have more : course.FaultsInARow (progress.failures + 1) (index + 1) :=
      faults_in_a_row_succ stands.failures ⟨fault, given, transient⟩
    have reached : course.failureBound = progress.failures + 1 :=
      faults_in_a_row_unique inARow more
    simp [taken, Progress.observe, goesOn, Observation.ofQuery, given, transient,
      Progress.outcome?, stands.operation, stands.failureBound, reached]

/-- A reply that settles nothing leaves a wait that stands at the next query. It is
a report that the operation is running, which empties the row of faults, or a fault
that does not fill it. -/
theorem stands_of_unsettled (stands : course.Stands index progress)
    (unsettled : course.Unsettled index) : course.Stands (index + 1) (course.taken progress index) := by
  have goesOn := (progress.terminal_of_asking (index + 1)).trans stands.goesOn
  rcases unsettled_iff.mp unsettled with running | ⟨⟨fault, given, transient⟩, short⟩
  · have same : course.taken progress index =
        { progress.asking (index + 1) with phase := .polling, failures := 0 } := by
      simp [taken, Progress.observe, goesOn, Observation.ofQuery, running]
    rw [same]
    exact ⟨stands.operation, stands.failureBound, rfl, rfl,
      no_faults_behind_report running, Nat.lt_of_le_of_lt (Nat.zero_le _) stands.patient⟩
  · have more : course.FaultsInARow (progress.failures + 1) (index + 1) :=
      faults_in_a_row_succ stands.failures ⟨fault, given, transient⟩
    have patient : progress.failures + 1 < course.failureBound := by
      apply Nat.lt_of_le_of_ne stands.patient
      intro reached
      exact short (reached ▸ more)
    have same : course.taken progress index =
        { progress.asking (index + 1) with phase := .polling, failures := progress.failures + 1 } := by
      simp [taken, Progress.observe, goesOn, Observation.ofQuery, given, transient,
        stands.failureBound, Nat.not_le_of_lt patient]
    rw [same]
    exact ⟨stands.operation, stands.failureBound, rfl, rfl, more,
      patient⟩

/-- A wait that goes on has no result, whatever time has passed. -/
theorem outcome_of_stands (stands : course.Stands index progress) (elapsed : Nat) :
    progress.outcome? elapsed = none := by
  have goesOn := stands.goesOn
  unfold Progress.outcome?
  cases known : progress.phase <;> simp_all [Phase.isTerminal]

/-- A wait that goes on can be called off, and then it ends at once and tells its
operation. -/
theorem stop_cancelled {σ : Type} (stands : course.Stands index progress) (now : Nat) (source : σ) :
    progress.stop .cancelRequested now source =
      ⟨.error (.cancelled course.operation), [], now, false, source⟩ := by
  simp [Progress.stop, Progress.observe, stands.goesOn, Progress.outcome?, stands.operation]

/-- A wait that goes on can be ended by its deadline, and then it tells how long it
has taken. -/
theorem stop_timed_out {σ : Type} (stands : course.Stands index progress) (now : Nat) (source : σ) :
    progress.stop .deadlineReached now source =
      ⟨.error (.timedOut course.operation now), [], now, false, source⟩ := by
  simp [Progress.stop, Progress.observe, stands.goesOn, Progress.outcome?, stands.operation]

/-- A query that is begun closes the wait, or another one follows it. So a course
does not come to a stop without an outcome. -/
theorem closes_or_starts (starts : course.Starts index) :
    (∃ result ended, course.Closes index result ended) ∨
      course.Unsettled index ∧ course.Starts (index + 1) := by
  by_cases unsettled : course.Unsettled index
  · by_cases underWay : course.CalledOff (index + 1) (course.replied index)
    · exact .inl ⟨_, _, .calledOffUnderWay unsettled underWay⟩
    · by_cases paused : course.CalledOff (index + 1) (course.wake index)
      · rcases paused with ⟨instant, cancelled, sooner⟩ | flagged
        · exact .inl ⟨_, _, .calledOffInPause unsettled underWay cancelled sooner⟩
        · exact absurd (.inr flagged) underWay
      · by_cases early : course.start (index + 1) < course.deadline
        · have due := due_succ starts.toDue unsettled (wake_of_early early ▸ paused) early
          rcases starts_or_closes_of_due starts due with next | closes
          · exact .inr ⟨unsettled, next⟩
          · exact .inl ⟨_, _, closes⟩
        · exact .inl ⟨_, _, .timedOut unsettled paused (Nat.le_of_not_lt early)⟩
  · obtain ⟨result, settles⟩ := Classical.not_forall.mp unsettled
    exact .inl ⟨result, _, .settled (Classical.not_not.mp settles)⟩

end Course

/-- A build keeps the count of the queries as long as it matters: it checks its sums, or no query is
due that cannot be counted. -/
def Course.IsCountedBy (course : Course) (overflow : Overflow) : Prop :=
  overflow = .breaksDown ∨ ¬course.Due greatestCount

namespace Schedule

variable {σ : Type} {schedule : Schedule} {query : StatusSource σ} {cancelAt : Option Nat}
  {operation : String} {source : σ} {course : Course} {index : Nat} {progress : Progress}

/-- The pause behind a reply ends when the course says. The schedule reckons from
the time that has passed, and the course from the instant of the next query. -/
theorem wake_at_replied (met : course = schedule.course query cancelAt operation source)
    (index : Nat) : schedule.wakeAt (course.replied index) = course.wake index := by
  have interval : schedule.interval = course.interval := met ▸ rfl
  have deadline : schedule.deadline = course.deadline := met ▸ rfl
  simp only [wakeAt, Course.wake, Course.start_succ, interval, deadline]
  omega

/-- A reply that settles the wait ends the run when it arrives. Whether the wait has
been called off meanwhile is not asked any more. -/
theorem run_from_of_settles {result : Except Fault Completion} (overflow : Overflow)
    (met : course = schedule.course query cancelAt operation source) (room : index < greatestCount)
    (stands : course.Stands index progress) (settles : course.Settles index result) :
    schedule.runFrom overflow query cancelAt progress (course.start index)
        (query.after operation source index) =
      ⟨result, [course.start index], course.replied index, (course.replies index).calledOff,
        query.after operation source (index + 1)⟩ := by
  have named : (progress.asking (index + 1)).operation = operation :=
    stands.operation.trans (met ▸ rfl)
  have asked : query operation (query.after operation source index) =
      (course.replies index, query.after operation source (index + 1)) := met ▸ rfl
  have took : course.start index + (course.replies index).took = course.replied index := rfl
  have next : (progress.asking (index + 1)).observe (.ofQuery (course.replies index).result) =
      course.taken progress index := rfl
  rw [run_from_of_counted (Course.begin_query_of_stands stands overflow room), named, asked]
  simp [took, next, Course.outcome_of_settles stands settles, Run.after]

/-- A reply that settles nothing is followed by a pause. Being called off is noticed at its
beginning or in it; a pause that ends at the deadline is the last one. -/
theorem run_from_of_unsettled (overflow : Overflow)
    (met : course = schedule.course query cancelAt operation source) (room : index < greatestCount)
    (stands : course.Stands index progress) (unsettled : course.Unsettled index) :
    schedule.runFrom overflow query cancelAt progress (course.start index)
        (query.after operation source index) =
      Run.after
        (if (course.replies index).calledOff || calledOffBy course.cancelAt (course.replied index) then
          ⟨.error (.cancelled course.operation), [], course.replied index, false,
            query.after operation source (index + 1)⟩
        else if calledOffBy course.cancelAt (course.wake index) then
          ⟨.error (.cancelled course.operation), [], course.cancelAt.getD (course.wake index), false,
            query.after operation source (index + 1)⟩
        else if course.wake index < course.deadline then
          schedule.runFrom overflow query cancelAt (course.taken progress index) (course.wake index)
            (query.after operation source (index + 1))
        else
          ⟨.error (.timedOut course.operation (course.wake index)), [], course.wake index, false,
            query.after operation source (index + 1)⟩)
        (course.start index) (course.replies index).calledOff := by
  have named : (progress.asking (index + 1)).operation = operation :=
    stands.operation.trans (met ▸ rfl)
  have wakes : schedule.wakeAt (course.replied index) = course.wake index :=
    wake_at_replied met index
  have deadline : schedule.deadline = course.deadline := met ▸ rfl
  have cancelled : course.cancelAt = cancelAt := met ▸ rfl
  have asked : query operation (query.after operation source index) =
      (course.replies index, query.after operation source (index + 1)) := met ▸ rfl
  have took : course.start index + (course.replies index).took = course.replied index := rfl
  have next : (progress.asking (index + 1)).observe (.ofQuery (course.replies index).result) =
      course.taken progress index := rfl
  have goesOn : course.Stands (index + 1) (course.taken progress index) :=
    Course.stands_of_unsettled stands unsettled
  have counts : (course.taken progress index).queries ≠ 0 := goesOn.queries ▸ Nat.succ_ne_zero index
  rw [run_from_of_counted (Course.begin_query_of_stands stands overflow room), named, asked]
  simp only [took, next, wakes, deadline, cancelled, counts, false_or,
    Course.outcome_of_stands goesOn, Course.stop_cancelled goesOn, Course.stop_timed_out goesOn]

/-- A query behind which another one is due comes in front of the rest of the run,
which begins one interval behind its reply. -/
theorem run_from_of_due (overflow : Overflow)
    (met : course = schedule.course query cancelAt operation source)
    (starts : course.Starts index) (stands : course.Stands index progress)
    (next : course.Due (index + 1)) :
    schedule.runFrom overflow query cancelAt progress (course.start index)
        (query.after operation source index) =
      (schedule.runFrom overflow query cancelAt (course.taken progress index) (course.start (index + 1))
        (query.after operation source (index + 1))).after (course.start index) false := by
  have noticed := Course.called_off_succ starts.wanted
  have inPause := mt (fun paused => (noticed _).mpr (.inr paused)) next.wanted
  have underWay : ¬((course.replies index).calledOff = true ∨
      calledOffBy course.cancelAt (course.replied index) = true) := by
    intro calledOff
    exact next.wanted (Course.called_off_monotone ((noticed _).mpr calledOff) (Nat.le_refl _)
      (course.replied_le_start (Nat.lt_succ_self index)))
  rw [run_from_of_unsettled overflow met starts.counted stands next.unsettled_of_succ, if_neg (by simpa using underWay),
    next.wake_of_succ, if_neg inPause, if_pos next.early_of_succ, next.called_off_of_succ]

/-- A query that closes the wait ends the run with what closes it. A build that does not check its
sums would go on where the next query is due and cannot be counted. -/
theorem run_from_of_closes {overflow : Overflow} {result : Except Fault Completion} {ended : Nat}
    (met : course = schedule.course query cancelAt operation source)
    (counts : course.IsCountedBy overflow) (starts : course.Starts index)
    (stands : course.Stands index progress) (closes : course.Closes index result ended) :
    schedule.runFrom overflow query cancelAt progress (course.start index)
        (query.after operation source index) =
      ⟨result, [course.start index], ended, (course.replies index).calledOff,
        query.after operation source (index + 1)⟩ := by
  have noticed := Course.called_off_succ starts.wanted
  cases closes with
  | settled settles => exact run_from_of_settles overflow met starts.counted stands settles
  | calledOffUnderWay unsettled calledOff =>
    have underWay := (noticed _).mp calledOff
    rw [run_from_of_unsettled overflow met starts.counted stands unsettled, if_pos (by simpa using underWay)]
    simp [Run.after]
  | calledOffInPause unsettled wanted cancelled sooner =>
    have underWay := mt (noticed _).mpr wanted
    have inPause : calledOffBy course.cancelAt (course.wake index) = true := by
      simp [calledOffBy, cancelled, sooner]
    rw [run_from_of_unsettled overflow met starts.counted stands unsettled, if_neg (by simpa using underWay), if_pos inPause]
    simp [Run.after, cancelled]
  | timedOut unsettled wanted late =>
    have wake : course.wake index = max (course.replied index) course.deadline :=
      Course.wake_of_late late
    have underWay : ¬((course.replies index).calledOff = true ∨
        calledOffBy course.cancelAt (course.replied index) = true) := by
      intro calledOff
      exact wanted (Course.called_off_monotone ((noticed _).mpr calledOff) (Nat.le_refl _)
        (course.replied_le_wake index))
    have inPause := mt (fun paused => (noticed _).mpr (.inr paused)) wanted
    have atDeadline : ¬course.wake index < course.deadline := by omega
    rw [run_from_of_unsettled overflow met starts.counted stands unsettled, if_neg (by simpa using underWay),
      if_neg inPause, if_neg atDeadline, wake]
    simp [Run.after]
  | brokenDown due full =>
    have checked : overflow = .breaksDown := counts.resolve_right fun uncounted =>
      uncounted (full ▸ due)
    have uncounted : (course.taken progress index).beginQuery overflow = .error .overflow := by
      have stands := Course.stands_of_unsettled stands due.unsettled_of_succ
      rw [checked]
      apply Progress.begin_query_of_full
      rw [stands.queries, full]
      exact Nat.lt_irrefl _
    rw [run_from_of_due overflow met starts stands due, run_from_of_broken uncounted]
    simp [Run.after, due.called_off_of_succ]

/-- From a query that is begun, a run begins the queries up to the one that closes the wait, and
ends as that query says.

Proof: induction on the time left until the deadline. A query that does not close the wait is
followed by one that begins before the deadline, and at least the interval later. -/
theorem run_from_follows {overflow : Overflow}
    (met : course = schedule.course query cancelAt operation source)
    (counts : course.IsCountedBy overflow) (starts : course.Starts index) (stands : course.Stands index progress) :
    ∃ more result ended, course.Starts (index + more) ∧
      course.Closes (index + more) result ended ∧
      schedule.runFrom overflow query cancelAt progress (course.start index)
          (query.after operation source index) =
        ⟨result, (List.range' index (more + 1)).map course.start, ended,
          (course.replies (index + more)).calledOff,
          query.after operation source (index + more + 1)⟩ := by
  generalize size : course.deadline - course.start index = remaining
  induction remaining using Nat.strongRecOn generalizing index progress with
  | ind remaining inductionHypothesis =>
    rcases Course.closes_or_starts starts with ⟨result, ended, closes⟩ | ⟨unsettled, next⟩
    · refine ⟨0, result, ended, starts, closes, ?_⟩
      rw [run_from_of_closes met counts starts stands closes]
      simp
    · have early : course.start (index + 1) < course.deadline := next.early_of_succ
      have interval : 0 < course.interval := met ▸ schedule.interval_pos
      have later : course.start index + course.interval ≤ course.start (index + 1) := by
        have reply : course.start index ≤ course.replied index := course.start_le_replied index
        rw [Course.start_succ]
        omega
      obtain ⟨more, result, ended, begun, closes, rest⟩ :=
        inductionHypothesis (course.deadline - course.start (index + 1)) (by omega) next
          (Course.stands_of_unsettled stands unsettled) rfl
      refine ⟨more + 1, result, ended, ?_, ?_, ?_⟩
      · simpa only [Nat.add_assoc, Nat.add_comm 1] using begun
      · simpa only [Nat.add_assoc, Nat.add_comm 1] using closes
      · rw [run_from_of_due overflow met starts stands next.toDue, rest]
        simp [Run.after, List.range'_succ, Nat.add_assoc, Nat.add_comm 1]

end Schedule

/-! ## Whole waits -/

/-- A run is what a course says: it begins the queries of the course and no other, and it ends
with the outcome of the course, the source behind the queries left over. -/
structure Course.Follows {σ : Type} (course : Course) (query : StatusSource σ) (source : σ)
    (run : Run σ) : Prop where
  starts_iff : ∀ index, course.Starts index ↔ index < run.starts.length
  starts : run.starts = (List.range run.starts.length).map course.start
  outcome : course.Outcome run.result run.ended
  calledOff : run.calledOff = true ↔
    ∃ index < run.starts.length, (course.replies index).calledOff = true
  source : run.source = query.after course.operation source run.starts.length

variable {σ : Type} {query : StatusSource σ} {cancelAt : Option Nat} {operation : String}
  {source : σ}

namespace Course

variable {course : Course}

/-- A wait that is called off from the beginning makes no query, whatever its source
would bring. -/
theorem follows_of_called_off (query : StatusSource σ) (source : σ)
    (calledOff : course.CalledOff 0 0) :
    course.Follows query source ⟨.error (.cancelled course.operation), [], 0, false, source⟩ := by
  have begun (index : Nat) : ¬course.Starts index := by
    intro starts
    exact starts_zero_iff.mp (starts_of_le starts (Nat.zero_le _)) calledOff
  exact ⟨by simpa using begun, rfl, .unbegun calledOff, by simp, rfl⟩

/-- A query that is begun and closes the wait is the last one of the run. This makes
a run out of a course, and with `follows_unique` it is the run that takes place. -/
theorem follows_of_closes {last : Nat} {result : Except Fault Completion} {ended : Nat}
    (query : StatusSource σ) (source : σ) (starts : course.Starts last)
    (closes : course.Closes last result ended) :
    course.Follows query source
      ⟨result, (List.range (last + 1)).map course.start, ended, (course.replies last).calledOff,
        query.after course.operation source (last + 1)⟩ := by
  refine ⟨?_, by simp, .closed starts closes, ?_, by simp⟩
  · intro index
    simp only [List.length_map, List.length_range, Nat.lt_succ_iff]
    constructor
    · exact le_of_closes closes
    · exact starts_of_le starts
  · -- A query in front of the last one that calls the wait off would be the last one.
    simp only [List.length_map, List.length_range, Nat.lt_succ_iff_lt_or_eq]
    constructor
    · intro flagged
      exact ⟨last, .inr rfl, flagged⟩
    · rintro ⟨index, before | rfl, flagged⟩
      · exact absurd (.inr ⟨index, before, flagged⟩) starts.wanted
      · exact flagged

/-- A course has one run. The number of queries is that of the queries begun, and
everything else is told by it and by the outcome. -/
theorem follows_unique {run other : Run σ} (follows : course.Follows query source run)
    (again : course.Follows query source other) : run = other := by
  have count : run.starts.length = other.starts.length := by
    apply Nat.le_antisymm
    · apply Nat.le_of_not_lt
      intro fewer
      exact Nat.lt_irrefl _ ((again.starts_iff _).mp ((follows.starts_iff _).mpr fewer))
    · apply Nat.le_of_not_lt
      intro fewer
      exact Nat.lt_irrefl _ ((follows.starts_iff _).mp ((again.starts_iff _).mpr fewer))
  have starts : run.starts = other.starts := by rw [follows.starts, again.starts, count]
  have outcome := outcome_unique follows.outcome again.outcome
  have calledOff : run.calledOff = other.calledOff := by
    rw [Bool.eq_iff_iff, follows.calledOff, again.calledOff, count]
  have left : run.source = other.source := by rw [follows.source, again.source, count]
  cases run
  cases other
  simp_all

/-- Runs of one course are alike, wherever the replies come from. Only what is left
of the source can differ. -/
theorem alike_of_follows {τ : Type} {query : StatusSource σ} {other : StatusSource τ} {source : σ}
    {beginning : τ} {run : Run σ} {again : Run τ} (follows : course.Follows query source run)
    (others : course.Follows other beginning again) :
    run.result = again.result ∧ run.starts = again.starts ∧ run.ended = again.ended := by
  have moved : course.Follows query source ⟨again.result, again.starts, again.ended,
      again.calledOff, query.after course.operation source again.starts.length⟩ :=
    ⟨others.starts_iff, others.starts, others.outcome, others.calledOff, rfl⟩
  rw [follows_unique follows moved]
  exact ⟨rfl, rfl, rfl⟩

end Course

/-- A run on a schedule follows its course. It is called off from the beginning, or
the first query is begun and the run goes on from there. -/
theorem Schedule.run_follows {schedule : Schedule} {overflow : Overflow}
    (counts : (schedule.course query cancelAt operation source).IsCountedBy overflow) :
    (schedule.course query cancelAt operation source).Follows query source
      (schedule.run overflow query cancelAt operation source) := by
  generalize met : schedule.course query cancelAt operation source = course at counts ⊢
  have noticed : course.CalledOff 0 0 ↔ Schedule.calledOffBy cancelAt 0 = true := by
    simp [← met, Course.CalledOff, Schedule.course, Schedule.calledOffBy, Option.any_eq_true]
  have bounded : 0 < course.failureBound := met ▸ schedule.failure_bound_pos
  have stands := Course.stands_at_beginning bounded
  by_cases calledOff : Schedule.calledOffBy cancelAt 0 = true
  · have ran : schedule.run overflow query cancelAt operation source =
        ⟨.error (.cancelled course.operation), [], 0, false, source⟩ := by
      rw [Schedule.run, if_pos calledOff]
      subst met
      exact Course.stop_cancelled stands 0 source
    rw [ran]
    exact Course.follows_of_called_off query source (noticed.mpr calledOff)
  · have starts : course.Starts 0 := Course.starts_zero_iff.mpr (mt noticed.mp calledOff)
    obtain ⟨last, result, ended, begun, closes, ran⟩ :=
      Schedule.run_from_follows met.symm counts starts stands
    have whole : schedule.run overflow query cancelAt operation source =
        ⟨result, (List.range (last + 1)).map course.start, ended, (course.replies last).calledOff,
          query.after course.operation source (last + 1)⟩ := by
      rw [Nat.zero_add, ← List.range_eq_range'] at ran
      rw [Schedule.run, if_neg calledOff]
      subst met
      exact ran
    rw [Nat.zero_add] at begun closes
    rw [whole]
    exact Course.follows_of_closes query source begun closes

/-- Settings that are accepted describe a schedule, because they are checked by
making one. -/
theorem WaitSettings.schedule_of_validate {settings : WaitSettings}
    (accepted : settings.validate = .ok ()) : ∃ schedule, settings.schedule = .ok schedule := by
  obtain ⟨schedule, known, _⟩ := ok_of_map accepted
  exact ⟨schedule, known⟩

/-- A schedule is the settings that it is made of, with a proof that it can be
carried out. -/
theorem WaitSettings.of_schedule {settings : WaitSettings} {schedule : Schedule}
    (known : settings.schedule = .ok schedule) :
    schedule.interval = settings.interval ∧ schedule.deadline = settings.deadline ∧
      schedule.failureBound = settings.failureBound := by
  unfold WaitSettings.schedule at known
  split at known
  · split at known
    · cases known
      exact ⟨rfl, rfl, rfl⟩
    · cases known
  · cases known

/-- Settings that are accepted have a pause. Without it a wait could ask for ever
before the deadline. -/
theorem WaitSettings.interval_pos {settings : WaitSettings}
    (accepted : settings.validate = .ok ()) : 0 < settings.interval := by
  obtain ⟨schedule, known⟩ := settings.schedule_of_validate accepted
  exact (WaitSettings.of_schedule known).1 ▸ schedule.interval_pos

/-- Settings that are accepted put up with some fault, so a wait does not end before
its first query has brought one. -/
theorem WaitSettings.failure_bound_pos {settings : WaitSettings}
    (accepted : settings.validate = .ok ()) : 0 < settings.failureBound := by
  obtain ⟨schedule, known⟩ := settings.schedule_of_validate accepted
  exact (WaitSettings.of_schedule known).2.2 ▸ schedule.failure_bound_pos

/-- Settings that are refused are refused whatever is waited for, before anything is
asked and before any time has passed. -/
theorem WaitSettings.wait_of_refused {settings : WaitSettings} {fault : Fault}
    (refused : settings.validate = .error fault) (deadline? : Option Nat) (query : StatusSource σ)
    (cancelAt : Option Nat) (operation : String) (source : σ) :
    settings.wait deadline? query cancelAt operation source = ⟨.error fault, [], 0, false, source⟩ := by
  rw [WaitSettings.validate] at refused
  cases known : settings.schedule with
  | error other =>
    rw [known] at refused
    obtain rfl := Except.error.inj refused
    simp only [wait, waitCounting, known]
  | ok schedule =>
    rw [known] at refused
    cases refused

/-- A wait that is not refused follows its course, in every build that keeps the
count. The settings make the same course as the schedule that they describe. -/
theorem WaitSettings.counting_follows {settings : WaitSettings} {overflow : Overflow}
    (accepted : settings.validate = .ok ()) (named : Text.blank operation = false)
    (deadline? : Option Nat) (query : StatusSource σ) (cancelAt : Option Nat) (source : σ)
    (counts : (settings.course deadline? query cancelAt operation source).IsCountedBy overflow) :
    (settings.course deadline? query cancelAt operation source).Follows query source
      (settings.waitCounting overflow deadline? query cancelAt operation source) := by
  obtain ⟨schedule, known⟩ := settings.schedule_of_validate accepted
  have same : (schedule.until (deadline?.getD schedule.deadline)).course query cancelAt operation source
      = settings.course deadline? query cancelAt operation source := by
    obtain ⟨interval, deadline, failureBound⟩ := WaitSettings.of_schedule known
    simp only [Schedule.course, Schedule.until, WaitSettings.course, interval, deadline,
      failureBound]
  have waits : settings.waitCounting overflow deadline? query cancelAt operation source =
      (schedule.until (deadline?.getD schedule.deadline)).run overflow query cancelAt operation
        source := by
    simp [WaitSettings.waitCounting, known, named]
  rw [waits, ← same]
  exact Schedule.run_follows (same ▸ counts)

/-- A wait that is not refused follows its course where sums are checked. Then a
query that cannot be counted is the end of the course. -/
theorem WaitSettings.wait_follows {settings : WaitSettings} (accepted : settings.validate = .ok ())
    (named : Text.blank operation = false) (deadline? : Option Nat) (query : StatusSource σ)
    (cancelAt : Option Nat) (source : σ) :
    (settings.course deadline? query cancelAt operation source).Follows query source
      (settings.wait deadline? query cancelAt operation source) :=
  settings.counting_follows accepted named deadline? query cancelAt source (.inl rfl)

/-- Every build waits alike as long as no query is due that cannot be counted. Both
runs follow one course then, and a course has one run. -/
theorem WaitSettings.counting_eq_wait {settings : WaitSettings}
    (accepted : settings.validate = .ok ()) (overflow : Overflow) (deadline? : Option Nat)
    (query : StatusSource σ) (cancelAt : Option Nat) (operation : String) (source : σ)
    (counted : ¬(settings.course deadline? query cancelAt operation source).Due greatestCount) :
    settings.waitCounting overflow deadline? query cancelAt operation source =
      settings.wait deadline? query cancelAt operation source := by
  cases named : Text.blank operation with
  | true =>
    obtain ⟨schedule, known⟩ := settings.schedule_of_validate accepted
    simp only [wait, waitCounting, known, named, if_true]
  | false =>
    exact Course.follows_unique
      (settings.counting_follows accepted named deadline? query cancelAt source (.inr counted))
      (settings.wait_follows accepted named deadline? query cancelAt source)

/-- No query is due that cannot be counted where the deadline has no more intervals than there are
counts. -/
theorem Course.not_due_of_roomy {course : Course}
    (roomy : course.deadline ≤ greatestCount * course.interval) : ¬course.Due greatestCount :=
  fun due => Nat.lt_irrefl _ (counted_of_roomy due roomy)

/-- A transient fault that takes a unit of time, and from then on reports that the operation is
running, which take none. -/
def faultThenRunning (index : Nat) : Reply :=
  if index = 0 then { result := .error (.transportFailed "connection reset"), took := 1 }
  else { result := .ok .inProgress }

/-- A wait that meets these replies. Its queries begin at zero and at four, and the third one would
begin at the deadline. -/
def faultyStart (cancelAt : Option Nat) : Course :=
  WaitSettings.course { interval := 3, deadline := 7, failureBound := 2 } none
    (.ofReplies faultThenRunning) cancelAt "op-1" 0

/-- None of these replies calls the wait off, so only the instant that is given
does. -/
theorem faulty_start_quiet (cancelAt : Option Nat) : (faultyStart cancelAt).Quiet := by
  have replies : (faultyStart cancelAt).replies = faultThenRunning :=
    StatusSource.reply_of_replies faultThenRunning "op-1"
  intro index
  rw [replies]
  unfold faultThenRunning
  split <;> rfl

/-- One fault settles nothing, and the second query is begun unless the wait is called off by
then. -/
theorem faulty_start_starts {cancelAt : Option Nat}
    (wanted : ∀ cancelled, cancelAt = some cancelled → 4 < cancelled) :
    (faultyStart cancelAt).Starts 1 := by
  have first : (faultyStart cancelAt).Unsettled 0 := by
    apply Course.unsettled_iff.mpr
    refine .inr ⟨⟨_, rfl, rfl⟩, ?_⟩
    rintro ⟨first, size, _⟩
    have two : (faultyStart cancelAt).failureBound = 2 := rfl
    omega
  have early : (faultyStart cancelAt).start 1 < (faultyStart cancelAt).deadline :=
    show 4 < 7 by decide
  refine ⟨⟨?_, ?_, .inr early⟩, by decide⟩
  · intro earlier inside
    exact Nat.lt_one_iff.mp inside ▸ first
  · rw [Course.called_off_of_quiet (faulty_start_quiet cancelAt)]
    rintro ⟨cancelled, known, before⟩
    exact Nat.not_lt_of_le before (wanted cancelled known)

end ExtensionPublisher
