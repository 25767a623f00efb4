import ExtensionPublisher.Proofs.Wait.Bounds

/-!
# Patience

Of two waits that meet the same replies, and that are called off alike, one has the later deadline
and puts up with more faults in a row. It does what the other does, for as long as the other does
anything: the deadline occurs in a course only where a pause is cut to what is left, and such a pause
is the last one. A row of faults that is too long for both is too long for the less patient one
first.

So patience adds queries at the end and moves none, and it changes nothing about a wait that came
to its end before it ran out of patience, `patience_keeps_answers`.
-/
namespace ExtensionPublisher

namespace Course

variable {course : Course} {index : Nat}

/-- The same course, with another deadline and another number of faults that are put up with. -/
def withPatience (course : Course) (deadline failureBound : Nat) : Course :=
  { course with deadline := deadline, failureBound := failureBound }

/-- The deadline ends the wait: its last query settles nothing, the pause behind it is not cut
short by being called off, and there is no time for another query. -/
def Expires (course : Course) : Prop :=
  ∃ last, course.Starts last ∧ course.Unsettled last ∧
    ¬course.CalledOff (last + 1) (course.wake last) ∧ course.deadline ≤ course.start (last + 1)

/-- The wait gives up: its last query brings as many transient faults in a row as are put up
with. -/
def GivesUp (course : Course) : Prop :=
  ∃ last, course.Starts last ∧ course.TransientAt last ∧
    course.FaultsInARow course.failureBound (last + 1)

/-- A wait that expires has the outcome that time was up. So whoever sees another
outcome knows that the wait did not expire. -/
theorem outcome_of_expires (expires : course.Expires) :
    ∃ ended, course.Outcome (.error (.timedOut course.operation ended)) ended := by
  obtain ⟨last, starts, unsettled, wanted, late⟩ := expires
  exact ⟨_, .closed starts (.timedOut unsettled wanted late)⟩

/-- A wait that gives up has the outcome that the last of the faults was one too
many, with as many attempts as were allowed. -/
theorem outcome_of_gives_up (givesUp : course.GivesUp) :
    ∃ fault ended, course.Outcome
      (.error (.statusUnavailable course.operation course.failureBound fault)) ended := by
  obtain ⟨last, starts, ⟨fault, given, transient⟩, inARow⟩ := givesUp
  exact ⟨fault, _, .closed starts (.settled (.exhausted given transient inARow))⟩

variable {deadline failureBound : Nat}

/-! ## What patience does not change -/

/-- Queries would begin at the same instants, for neither the deadline nor the bound
says when a query begins. -/
@[simp] theorem start_with_patience (course : Course) (deadline failureBound index : Nat) :
    (course.withPatience deadline failureBound).start index = course.start index := by
  induction index with
  | zero => rfl
  | succ index inductionHypothesis =>
    simp only [start, inductionHypothesis]
    rfl

/-- Replies would arrive at the same instants, because no query is cut short by a
deadline. -/
@[simp] theorem replied_with_patience (course : Course) (deadline failureBound index : Nat) :
    (course.withPatience deadline failureBound).replied index = course.replied index := by
  simp only [replied, start_with_patience]
  rfl

/-- A pause does not end earlier where the deadline is later. It may end later, if
it was cut short. -/
theorem wake_le_with_patience (time : course.deadline ≤ deadline) (index : Nat) :
    course.wake index ≤ (course.withPatience deadline failureBound).wake index := by
  have later : (course.withPatience deadline failureBound).deadline = deadline := rfl
  simp only [wake, start_with_patience, replied_with_patience, later]
  omega

/-- Where no reply up to one of them settles the wait, that one does not settle it with more
patience. A longer row of faults would have begun with the shorter one. -/
theorem unsettled_with_patience (bounded : 0 < course.failureBound)
    (faults : course.failureBound ≤ failureBound)
    (unsettled : ∀ earlier ≤ index, course.Unsettled earlier) :
    (course.withPatience deadline failureBound).Unsettled index := by
  apply unsettled_iff.mpr
  rcases unsettled_iff.mp (unsettled index (Nat.le_refl _)) with running | ⟨transient, _⟩
  · exact .inl running
  · refine .inr ⟨transient, ?_⟩
    rintro ⟨first, size, row, beginning⟩
    have larger : (course.withPatience deadline failureBound).failureBound = failureBound := rfl
    -- The shorter row ends with this reply.
    obtain ⟨last, behind⟩ : ∃ last, last + 1 = first + course.failureBound :=
      ⟨first + course.failureBound - 1, by omega⟩
    have shorter : course.FaultsInARow course.failureBound (last + 1) :=
      ⟨first, behind.symm, fun earlier from_ before => row earlier from_ (by omega), beginning⟩
    obtain ⟨fault, given, transient⟩ := row last (by omega) (by omega)
    exact unsettled last (by omega) _ (.exhausted given transient shorter)

/-! ## What is done with more patience -/

section

variable (bounded : 0 < course.failureBound) (time : course.deadline ≤ deadline)
  (faults : course.failureBound ≤ failureBound)

include bounded time faults

/-- A query that is due is due with more patience: nothing has settled the wait, and
there is more time. -/
theorem due_with_patience (due : course.Due index) :
    (course.withPatience deadline failureBound).Due index := by
  refine ⟨?_, ?_, ?_⟩
  · intro earlier inside
    exact unsettled_with_patience bounded faults fun other before =>
      due.unsettled other (Nat.lt_of_le_of_lt before inside)
  · rw [start_with_patience]
    exact due.wanted
  · rw [start_with_patience]
    exact due.early.imp_right fun early => Nat.lt_of_lt_of_le early time

/-- A query that is begun is begun with more patience. The count is the same, so
there is room for it. -/
theorem starts_with_patience (starts : course.Starts index) :
    (course.withPatience deadline failureBound).Starts index :=
  ⟨due_with_patience bounded time faults starts.toDue, starts.counted⟩

/-- A query that closes the wait closes it with more patience, unless it is the last
one because patience ran out. A wait that is called off in a pause is called off in
the same pause, which does not end earlier. -/
theorem closes_with_patience {result : Except Fault Completion} {ended : Nat}
    (starts : course.Starts index) (closes : course.Closes index result ended)
    (inTime : ¬course.Expires) (patient : ¬course.GivesUp) :
    (course.withPatience deadline failureBound).Closes index result ended := by
  have unsettledStill (unsettled : course.Unsettled index) :
      (course.withPatience deadline failureBound).Unsettled index := by
    apply unsettled_with_patience bounded faults
    intro earlier before
    rcases Nat.lt_or_eq_of_le before with inside | rfl
    · exact starts.unsettled earlier inside
    · exact unsettled
  cases closes with
  | settled settles =>
    rw [← course.replied_with_patience deadline failureBound index]
    apply Closes.settled
    cases settles with
    | succeeded given =>
      rw [← course.replied_with_patience deadline failureBound index]
      exact .succeeded given
    | failed given => exact .failed given
    | refused given lasting => exact .refused given lasting
    | exhausted given transient inARow =>
      exact absurd ⟨index, starts, ⟨_, given, transient⟩, inARow⟩ patient
  | calledOffUnderWay unsettled calledOff =>
    rw [← course.replied_with_patience deadline failureBound index] at calledOff ⊢
    exact .calledOffUnderWay (unsettledStill unsettled) calledOff
  | calledOffInPause unsettled wanted cancelled sooner =>
    rw [← course.replied_with_patience deadline failureBound index] at wanted
    exact .calledOffInPause (unsettledStill unsettled) wanted cancelled
      (Nat.le_trans sooner (wake_le_with_patience time index))
  | timedOut unsettled wanted late =>
    exact absurd ⟨index, starts, unsettled, wanted, late⟩ inTime
  | brokenDown due full =>
    rw [← course.start_with_patience deadline failureBound (index + 1)]
    exact .brokenDown (due_with_patience bounded time faults due) full

variable {σ : Type} {query : StatusSource σ} {source : σ} {run longer : Run σ}
  (follows : course.Follows query source run)
  (longerFollows : (course.withPatience deadline failureBound).Follows query source longer)

include follows longerFollows

/-- The queries of a wait are the first ones of a wait with more patience, since
each of them is begun there too. -/
theorem Follows.starts_prefix : run.starts <+: longer.starts := by
  have count : run.starts.length ≤ longer.starts.length := by
    apply Nat.le_of_not_lt
    intro fewer
    have starts := starts_with_patience bounded time faults ((follows.starts_iff _).mpr fewer)
    exact Nat.lt_irrefl _ ((longerFollows.starts_iff _).mp starts)
  have instants : (course.withPatience deadline failureBound).start = course.start :=
    funext (course.start_with_patience deadline failureBound)
  have first : List.range run.starts.length <+: List.range longer.starts.length := by
    rw [← Nat.min_eq_left count, ← List.take_range]
    exact List.take_prefix _ _
  rw [follows.starts, longerFollows.starts, instants]
  exact first.map course.start

/-- A wait that did not run out of patience is the same with more of it. Its last
query closes both, and a course has one run. -/
theorem Follows.eq_of_patient (inTime : ¬course.Expires) (patient : ¬course.GivesUp) :
    longer = run := by
  have instants : (course.withPatience deadline failureBound).start = course.start :=
    funext (course.start_with_patience deadline failureBound)
  rcases outcome_cases follows.outcome with calledOff | ⟨last, starts, closes⟩
  · have whole := follows_unique follows (follows_of_called_off query source calledOff)
    have again := follows_unique longerFollows (follows_of_called_off query source calledOff)
    exact again.trans whole.symm
  · have whole := follows_unique follows (follows_of_closes query source starts closes)
    have again := follows_unique longerFollows (follows_of_closes query source
      (starts_with_patience bounded time faults starts)
      (closes_with_patience bounded time faults starts closes inTime patient))
    rw [instants] at again
    exact again.trans whole.symm

end

end Course

/-- More patience is accepted where less is. The pause is the same, and a greater
bound is no less positive. -/
theorem WaitSettings.validate_of_patience {settings patient : WaitSettings}
    (accepted : settings.validate = .ok ()) (interval : patient.interval = settings.interval)
    (faults : settings.failureBound ≤ patient.failureBound) : patient.validate = .ok () := by
  have pause : 0 < patient.interval := interval ▸ settings.interval_pos accepted
  have bound : 0 < patient.failureBound :=
    Nat.lt_of_lt_of_le (settings.failure_bound_pos accepted) faults
  simp [validate, schedule, pause, bound, Except.map]

variable {σ : Type}

end ExtensionPublisher
