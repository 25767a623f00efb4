import ExtensionPublisher.Wait.Run

/-!
# The course of a wait

What becomes of a wait is told here without carrying it out. A course holds all that a wait
meets: the schedule, the instant at which it is called off, if any, and what each query brings.
The instants of its queries follow from the replies alone, whether or not they are reached: a
query begins one interval behind the reply to the one before.

A reply settles the wait when it is final, when it is a lasting fault, or when it is a transient
fault and as many of them as are put up with have come in a row. A query is due exactly when
no earlier reply settles, the wait is not called off by then, and the query is the first or
begins before the deadline. The last query of a wait closes it, by its reply or by what happens
behind the reply.

A query that is due is begun if it can be counted, and the wait breaks down if it cannot. That
takes a deadline of more intervals than there are counts, `counted_of_roomy`; with any other one
the queries that are due are the queries that are begun.

Nothing here mentions a state of a wait or a count that is kept. The main statements say that
the queries begun are the first ones, `starts_of_le`, and that a course has at most one outcome,
`outcome_unique`.
-/
namespace ExtensionPublisher

/-- A source behind a number of queries. -/
def StatusSource.after {σ : Type} (query : StatusSource σ) (operation : String) (source : σ) :
    Nat → σ
  | 0 => source
  | count + 1 => (query operation (query.after operation source count)).2

/-- What a query brings, where the first query has the index zero. -/
def StatusSource.reply {σ : Type} (query : StatusSource σ) (operation : String) (source : σ)
    (index : Nat) : Reply :=
  (query operation (query.after operation source index)).1

/-- The source that gives a sequence of replies in order, whatever is asked. -/
def StatusSource.ofReplies (replies : Nat → Reply) : StatusSource Nat := fun _ given =>
  (replies given, given + 1)

/-- Every sequence of replies is what some source brings. So whatever is said of
sources is said of sequences, and a statement about all sources leaves no sequence
out. -/
theorem StatusSource.reply_of_replies (replies : Nat → Reply) (operation : String) :
    (ofReplies replies).reply operation 0 = replies := by
  have given (count : Nat) : (ofReplies replies).after operation 0 count = count := by
    induction count with
    | zero => rfl
    | succ count inductionHypothesis => simp [after, inductionHypothesis, ofReplies]
  funext index
  simp [reply, given, ofReplies]

/-- All that a wait meets. The replies go on for ever, though a wait asks for a few of them. -/
structure Course where
  operation : String
  interval : Nat
  deadline : Nat
  failureBound : Nat
  /-- When the wait is called off, apart from queries that call it off. -/
  cancelAt : Option Nat
  replies : Nat → Reply

/-- The course of a wait with given settings. A deadline of its own replaces theirs. -/
def WaitSettings.course {σ : Type} (settings : WaitSettings) (deadline? : Option Nat)
    (query : StatusSource σ) (cancelAt : Option Nat) (operation : String) (source : σ) : Course where
  operation := operation
  interval := settings.interval
  deadline := deadline?.getD settings.deadline
  failureBound := settings.failureBound
  cancelAt := cancelAt
  replies := query.reply operation source

namespace Course

/-- When a query begins, if it is begun. -/
def start (course : Course) : Nat → Nat
  | 0 => 0
  | index + 1 => course.start index + (course.replies index).took + course.interval

/-- When the reply to a query arrives. -/
def replied (course : Course) (index : Nat) : Nat :=
  course.start index + (course.replies index).took

/-- When the pause behind a reply is over: where the next query would begin, but no later than
the deadline unless the reply itself is later. -/
def wake (course : Course) (index : Nat) : Nat :=
  min (course.start (index + 1)) (max (course.replied index) course.deadline)

/-- A query brings a fault that asking again may mend. -/
def TransientAt (course : Course) (index : Nat) : Prop :=
  ∃ fault, (course.replies index).result = .error fault ∧ fault.isTransient = true

/-- The replies in front of an index end with so many transient faults in a row, counted from the
beginning or from the last report that the operation is running. -/
def FaultsInARow (course : Course) (count index : Nat) : Prop :=
  ∃ first, first + count = index ∧
    (∀ earlier, first ≤ earlier → earlier < index → course.TransientAt earlier) ∧
    (first = 0 ∨
      ∃ previous, previous + 1 = first ∧ (course.replies previous).result = .ok .inProgress)

/-- A reply settles the wait, with a result. -/
inductive Settles (course : Course) (index : Nat) : Except Fault Completion → Prop where
  | succeeded (given : (course.replies index).result = .ok .succeeded) :
      Settles course index (.ok ⟨course.operation, index + 1, course.replied index⟩)
  | failed {code message : String}
      (given : (course.replies index).result = .ok (.failed code message)) :
      Settles course index (.error (.operationFailed course.operation code message))
  | refused {fault : Fault} (given : (course.replies index).result = .error fault)
      (lasting : fault.isTransient = false) : Settles course index (.error fault)
  | exhausted {fault : Fault} (given : (course.replies index).result = .error fault)
      (transient : fault.isTransient = true)
      (inARow : course.FaultsInARow course.failureBound (index + 1)) :
      Settles course index
        (.error (.statusUnavailable course.operation course.failureBound fault))

/-- A reply settles nothing. -/
def Unsettled (course : Course) (index : Nat) : Prop := ∀ result, ¬course.Settles index result

/-- The wait is called off by an instant, or by one of its first queries. -/
def CalledOff (course : Course) (count instant : Nat) : Prop :=
  (∃ cancelled, course.cancelAt = some cancelled ∧ cancelled ≤ instant) ∨
    ∃ index < count, (course.replies index).calledOff = true

/-- A query is due. -/
structure Due (course : Course) (index : Nat) : Prop where
  unsettled : ∀ earlier < index, course.Unsettled earlier
  wanted : ¬course.CalledOff index (course.start index)
  early : index = 0 ∨ course.start index < course.deadline

/-- A query is begun. -/
structure Starts (course : Course) (index : Nat) : Prop extends course.Due index where
  counted : index < greatestCount

/-- A query that is begun is the last one, and the wait ends with a result at an instant. The
reply goes before being called off, and being called off goes before the deadline. Where the next
query is due and cannot be counted, the wait breaks down. -/
inductive Closes (course : Course) (index : Nat) : Except Fault Completion → Nat → Prop where
  | settled {result : Except Fault Completion} (settles : course.Settles index result) :
      Closes course index result (course.replied index)
  | calledOffUnderWay (unsettled : course.Unsettled index)
      (calledOff : course.CalledOff (index + 1) (course.replied index)) :
      Closes course index (.error (.cancelled course.operation)) (course.replied index)
  | calledOffInPause {instant : Nat} (unsettled : course.Unsettled index)
      (wanted : ¬course.CalledOff (index + 1) (course.replied index))
      (cancelled : course.cancelAt = some instant) (sooner : instant ≤ course.wake index) :
      Closes course index (.error (.cancelled course.operation)) instant
  | timedOut (unsettled : course.Unsettled index)
      (wanted : ¬course.CalledOff (index + 1) (course.wake index))
      (late : course.deadline ≤ course.start (index + 1)) :
      Closes course index
        (.error (.timedOut course.operation (max (course.replied index) course.deadline)))
        (max (course.replied index) course.deadline)
  | brokenDown (due : course.Due (index + 1)) (full : index + 1 = greatestCount) :
      Closes course index (.error (.brokenDown .overflow)) (course.start (index + 1))

/-- The result of a wait and the instant at which it ends. -/
inductive Outcome (course : Course) : Except Fault Completion → Nat → Prop where
  | unbegun (calledOff : course.CalledOff 0 0) :
      Outcome course (.error (.cancelled course.operation)) 0
  | closed {index : Nat} {result : Except Fault Completion} {ended : Nat}
      (starts : course.Starts index) (closes : course.Closes index result ended) :
      Outcome course result ended

variable {course : Course}

/-! ## Instants -/

/-- The next query would begin one interval behind the reply. Whether it is begun is
not asked here. -/
theorem start_succ (course : Course) (index : Nat) :
    course.start (index + 1) = course.replied index + course.interval := rfl

/-- A query begins no later than its reply arrives, for a reply takes no negative
time. -/
theorem start_le_replied (course : Course) (index : Nat) :
    course.start index ≤ course.replied index := Nat.le_add_right _ _

/-- A pause does not end before it begins, not even where the deadline has passed
before the reply. -/
theorem replied_le_wake (course : Course) (index : Nat) :
    course.replied index ≤ course.wake index := by
  have next : course.replied index ≤ course.start (index + 1) := Nat.le_add_right _ _
  simp only [wake]
  omega

/-- A pause ends no later than the next query would begin. The deadline can only cut
it short. -/
theorem wake_le_start (course : Course) (index : Nat) :
    course.wake index ≤ course.start (index + 1) := Nat.min_le_left _ _

/-- Where the next query would begin before the deadline, the pause is not cut short. -/
theorem wake_of_early {index : Nat} (early : course.start (index + 1) < course.deadline) :
    course.wake index = course.start (index + 1) := by
  simp only [wake]
  omega

/-- Where the next query would not begin before the deadline, the pause ends at the deadline, or
at once if the reply is later. -/
theorem wake_of_late {index : Nat} (late : course.deadline ≤ course.start (index + 1)) :
    course.wake index = max (course.replied index) course.deadline := by
  have next : course.replied index ≤ course.start (index + 1) := Nat.le_add_right _ _
  simp only [wake]
  omega

/-- Queries begin in order, because each begins behind the reply to the one before
and replies take time. -/
theorem start_monotone (course : Course) {earlier later : Nat} (ordered : earlier ≤ later) :
    course.start earlier ≤ course.start later := by
  induction ordered with
  | refl => exact Nat.le_refl _
  | step _ inductionHypothesis =>
    exact Nat.le_trans inductionHypothesis
      (Nat.le_trans (Nat.le_add_right _ _) (Nat.le_add_right _ _))

/-- A reply arrives before any later query begins, so two queries are never under
way at once. -/
theorem replied_le_start (course : Course) {earlier later : Nat} (ordered : earlier < later) :
    course.replied earlier ≤ course.start later :=
  Nat.le_trans (Nat.le_add_right _ _) (course.start_monotone ordered)

/-- Each query costs at least the interval in front of it. This is all that bounds
the number of queries, since a reply may come at once. -/
theorem interval_le_start (course : Course) (index : Nat) :
    index * course.interval ≤ course.start index := by
  induction index with
  | zero => simp
  | succ index inductionHypothesis =>
    rw [Nat.succ_mul]
    simp only [start]
    omega

/-! ## Being called off -/

/-- A wait that is called off stays so: neither more queries nor more time take it
back. -/
theorem called_off_monotone {count larger instant later : Nat}
    (calledOff : course.CalledOff count instant) (more : count ≤ larger) (ordered : instant ≤ later) :
    course.CalledOff larger later := by
  rcases calledOff with ⟨cancelled, known, before⟩ | ⟨index, inside, flagged⟩
  · exact .inl ⟨cancelled, known, Nat.le_trans before ordered⟩
  · exact .inr ⟨index, Nat.lt_of_lt_of_le inside more, flagged⟩

/-- One more query and its reply call a wait off by what was there before, by the instant, or by
the query itself. -/
theorem called_off_succ {index : Nat} (wanted : ¬course.CalledOff index (course.start index))
    (instant : Nat) :
    course.CalledOff (index + 1) instant ↔
      (course.replies index).calledOff = true ∨ Schedule.calledOffBy course.cancelAt instant = true := by
  have flags : (∃ earlier < index + 1, (course.replies earlier).calledOff = true) ↔
      (course.replies index).calledOff = true := by
    constructor
    · rintro ⟨earlier, inside, flagged⟩
      rcases Nat.lt_succ_iff_lt_or_eq.mp inside with before | rfl
      · exact absurd (.inr ⟨earlier, before, flagged⟩) wanted
      · exact flagged
    · intro flagged
      exact ⟨index, Nat.lt_succ_self index, flagged⟩
  rw [CalledOff, flags, or_comm, Schedule.calledOffBy, Option.any_eq_true]
  simp only [decide_eq_true_eq]

/-- No query calls the wait off. -/
def Quiet (course : Course) : Prop := ∀ index, (course.replies index).calledOff = false

/-- Where no query calls the wait off, only the instant does, and the number of
queries no longer matters. -/
theorem called_off_of_quiet (quiet : course.Quiet) (count instant : Nat) :
    course.CalledOff count instant ↔
      ∃ cancelled, course.cancelAt = some cancelled ∧ cancelled ≤ instant := by
  constructor
  · rintro (byInstant | ⟨index, _, flagged⟩)
    · exact byInstant
    · exact absurd ((quiet index).symm.trans flagged) (by decide)
  · exact .inl

/-! ## Queries that are begun -/

/-- The first query is begun unless the wait is called off from the beginning. It
does not depend on the deadline. -/
theorem starts_zero_iff : course.Starts 0 ↔ ¬course.CalledOff 0 0 := by
  constructor
  · intro starts
    exact starts.wanted
  · intro wanted
    exact ⟨⟨fun earlier inside => absurd inside (Nat.not_lt_zero earlier), wanted, .inl rfl⟩,
      by decide⟩

/-- In front of a query that is due, every query is due. A reply that settles and
being called off both last, and instants grow. -/
theorem due_of_le {earlier later : Nat} (due : course.Due later) (ordered : earlier ≤ later) :
    course.Due earlier := by
  refine ⟨?_, ?_, ?_⟩
  · intro index inside
    exact due.unsettled index (Nat.lt_of_lt_of_le inside ordered)
  · intro calledOff
    exact due.wanted (called_off_monotone calledOff ordered (course.start_monotone ordered))
  · rcases due.early with first | early
    · exact .inl (Nat.le_zero.mp (first ▸ ordered))
    · exact .inr (Nat.lt_of_le_of_lt (course.start_monotone ordered) early)

/-- In front of a query that is begun, every query is begun, for smaller numbers can
be counted too. -/
theorem starts_of_le {earlier later : Nat} (starts : course.Starts later) (ordered : earlier ≤ later) :
    course.Starts earlier :=
  ⟨due_of_le starts.toDue ordered, Nat.lt_of_le_of_lt ordered starts.counted⟩

/-- A query that is due can be counted where the deadline has no more intervals than there are
counts: each of the queries in front of it has cost an interval. -/
theorem counted_of_roomy {index : Nat} (due : course.Due index)
    (roomy : course.deadline ≤ greatestCount * course.interval) : index < greatestCount := by
  rcases due.early with rfl | early
  · decide
  · have cost : index * course.interval ≤ course.start index := course.interval_le_start index
    have less : index * course.interval < greatestCount * course.interval := by omega
    exact Nat.lt_of_mul_lt_mul_right less

/-- A query behind the first one begins before the deadline. Only the first one is
begun without regard to it. -/
theorem Due.early_of_succ {index : Nat} (next : course.Due (index + 1)) :
    course.start (index + 1) < course.deadline :=
  next.early.resolve_left (Nat.succ_ne_zero index)

/-- A query that another one follows settles nothing, since a reply that settles is
the last one. -/
theorem Due.unsettled_of_succ {index : Nat} (next : course.Due (index + 1)) :
    course.Unsettled index :=
  next.unsettled index (Nat.lt_succ_self index)

/-- The pause in front of a query is not cut short, because a pause that is cut
short ends at the deadline. -/
theorem Due.wake_of_succ {index : Nat} (next : course.Due (index + 1)) :
    course.wake index = course.start (index + 1) :=
  wake_of_early next.early_of_succ

/-- A query that another one follows does not call the wait off, for the next query
would not be wanted. -/
theorem Due.called_off_of_succ {index : Nat} (next : course.Due (index + 1)) :
    (course.replies index).calledOff = false := by
  apply Bool.eq_false_iff.mpr
  intro flagged
  exact next.wanted (.inr ⟨index, Nat.lt_succ_self index, flagged⟩)

/-- Behind a query that closes the wait, none is begun. Each way to close denies one
of the conditions under which the next query would be due, or its being counted. -/
theorem not_starts_of_closes {index : Nat} {result : Except Fault Completion} {ended : Nat}
    (closes : course.Closes index result ended) : ¬course.Starts (index + 1) := by
  intro starts
  cases closes with
  | settled settles => exact starts.unsettled_of_succ result settles
  | calledOffUnderWay _ calledOff =>
    exact starts.wanted
      (called_off_monotone calledOff (Nat.le_refl _) (course.replied_le_start (Nat.lt_succ_self index)))
  | calledOffInPause _ _ cancelled sooner =>
    exact starts.wanted (.inl ⟨ended, cancelled, Nat.le_trans sooner (course.wake_le_start index)⟩)
  | timedOut _ _ late => exact absurd starts.early_of_succ (Nat.not_lt_of_le late)
  | brokenDown _ full => exact Nat.ne_of_lt starts.counted full

/-- What is due behind a query that settles nothing and is not called off. -/
theorem due_succ {index : Nat} (due : course.Due index) (unsettled : course.Unsettled index)
    (wanted : ¬course.CalledOff (index + 1) (course.start (index + 1)))
    (early : course.start (index + 1) < course.deadline) : course.Due (index + 1) := by
  refine ⟨?_, wanted, .inr early⟩
  intro earlier inside
  rcases Nat.lt_succ_iff_lt_or_eq.mp inside with before | rfl
  · exact due.unsettled earlier before
  · exact unsettled

/-- A query that is due behind one that is begun is begun, or the wait breaks down. -/
theorem starts_or_closes_of_due {index : Nat} (starts : course.Starts index)
    (due : course.Due (index + 1)) :
    course.Starts (index + 1) ∨
      course.Closes index (.error (.brokenDown .overflow)) (course.start (index + 1)) := by
  rcases Nat.lt_or_eq_of_le (Nat.succ_le_of_lt starts.counted) with counted | full
  · exact .inl ⟨due, counted⟩
  · exact .inr (.brokenDown due full)

/-- A query that closes the wait is behind every query that is begun: with a later
one its successor would be begun as well. -/
theorem le_of_closes {index other : Nat} {result : Except Fault Completion} {ended : Nat}
    (closes : course.Closes index result ended) (starts : course.Starts other) : other ≤ index := by
  apply Nat.le_of_not_lt
  intro behind
  exact not_starts_of_closes closes (starts_of_le starts behind)

/-- A reply settles nothing exactly when it reports that the operation is running,
or when it is a transient fault that does not fill the row. The two cases are those
in which a wait asks again. -/
theorem unsettled_iff {index : Nat} :
    course.Unsettled index ↔
      (course.replies index).result = .ok .inProgress ∨
        course.TransientAt index ∧ ¬course.FaultsInARow course.failureBound (index + 1) := by
  constructor
  · intro unsettled
    cases given : (course.replies index).result with
    | ok report =>
      cases report with
      | inProgress => exact .inl rfl
      | succeeded => exact absurd (.succeeded given) (unsettled _)
      | failed code message => exact absurd (.failed given) (unsettled _)
    | error fault =>
      cases transient : fault.isTransient with
      | false => exact absurd (.refused given transient) (unsettled _)
      | true =>
        exact .inr ⟨⟨fault, given, transient⟩, fun inARow =>
          unsettled _ (.exhausted given transient inARow)⟩
  · rintro (running | ⟨⟨fault, given, transient⟩, short⟩) result settles
    · cases settles <;> simp_all
    · cases settles <;> simp_all

/-! ## The outcome is unique -/

/-- Faults in a row are counted in one way. The longer of two rows would hold the
report in front of the shorter one, which is no fault. -/
theorem faults_in_a_row_unique {count other index : Nat} (counted : course.FaultsInARow count index)
    (again : course.FaultsInARow other index) : count = other := by
  -- The longer row would hold the report in front of the shorter one.
  have no_longer : ∀ {short long : Nat}, course.FaultsInARow short index →
      course.FaultsInARow long index → ¬short < long := by
    rintro short long ⟨first, size, _, beginning⟩ ⟨earlier, larger, transient, _⟩ shorter
    rcases beginning with rfl | ⟨previous, rfl, running⟩
    · omega
    · obtain ⟨fault, given, _⟩ := transient previous (by omega) (by omega)
      rw [running] at given
      cases given
  exact Nat.le_antisymm (Nat.le_of_not_lt (no_longer again counted))
    (Nat.le_of_not_lt (no_longer counted again))

/-- A reply settles the wait with one result, which the reply and the number of
faults in front of it tell. -/
theorem settles_unique {index : Nat} {result other : Except Fault Completion}
    (settles : course.Settles index result) (again : course.Settles index other) :
    result = other := by
  cases settles <;> cases again <;> simp_all

/-- Where another query is due, a query closes the wait only by the breakdown over the count: the
reply settles nothing, the wait is not called off by then, and there is time left. -/
theorem closes_of_due {index : Nat} {result : Except Fault Completion} {ended : Nat}
    (closes : course.Closes index result ended) (due : course.Due (index + 1)) :
    result = .error (.brokenDown .overflow) ∧ ended = course.start (index + 1) := by
  cases closes with
  | settled settles => exact absurd settles (due.unsettled_of_succ _)
  | calledOffUnderWay _ calledOff =>
    exact absurd (called_off_monotone calledOff (Nat.le_refl _)
      (course.replied_le_start (Nat.lt_succ_self index))) due.wanted
  | calledOffInPause _ _ cancelled sooner =>
    exact absurd (.inl ⟨ended, cancelled, Nat.le_trans sooner (course.wake_le_start index)⟩)
      due.wanted
  | timedOut _ _ late => exact absurd due.early_of_succ (Nat.not_lt_of_le late)
  | brokenDown => exact ⟨rfl, rfl⟩

/-- A query closes the wait with one result at one instant. The ways to close are
told apart by whether the reply settles, then by when the wait is called off, and
then by whether another query is due. -/
theorem closes_unique {index : Nat} {result other : Except Fault Completion} {ended later : Nat}
    (closes : course.Closes index result ended) (again : course.Closes index other later) :
    result = other ∧ ended = later := by
  have stays {instant : Nat} (calledOff : course.CalledOff (index + 1) (course.replied index))
      (wanted : ¬course.CalledOff (index + 1) instant) (ordered : course.replied index ≤ instant) :
      False := wanted (called_off_monotone calledOff (Nat.le_refl _) ordered)
  have reached : course.replied index ≤ course.wake index := course.replied_le_wake index
  by_cases due : course.Due (index + 1)
  · obtain ⟨rfl, rfl⟩ := closes_of_due closes due
    obtain ⟨rfl, rfl⟩ := closes_of_due again due
    exact ⟨rfl, rfl⟩
  cases closes with
  | settled settles =>
    cases again with
    | settled settled => exact ⟨settles_unique settles settled, rfl⟩
    | calledOffUnderWay unsettled | calledOffInPause unsettled | timedOut unsettled =>
      exact absurd settles (unsettled _)
    | brokenDown next => exact absurd next due
  | calledOffUnderWay unsettled calledOff =>
    cases again with
    | settled settled => exact absurd settled (unsettled _)
    | calledOffUnderWay => exact ⟨rfl, rfl⟩
    | calledOffInPause _ wanted => exact absurd calledOff wanted
    | timedOut _ wanted => exact (stays calledOff wanted reached).elim
    | brokenDown next => exact absurd next due
  | calledOffInPause unsettled wanted cancelled sooner =>
    cases again with
    | settled settled => exact absurd settled (unsettled _)
    | calledOffUnderWay _ calledOff => exact absurd calledOff wanted
    | calledOffInPause _ _ known => exact ⟨rfl, Option.some.inj (cancelled.symm.trans known)⟩
    | timedOut _ never => exact absurd (.inl ⟨ended, cancelled, sooner⟩) never
    | brokenDown next => exact absurd next due
  | timedOut unsettled wanted =>
    cases again with
    | settled settled => exact absurd settled (unsettled _)
    | calledOffUnderWay _ calledOff => exact (stays calledOff wanted reached).elim
    | calledOffInPause _ _ known sooner => exact absurd (.inl ⟨later, known, sooner⟩) wanted
    | timedOut => exact ⟨rfl, rfl⟩
    | brokenDown next => exact absurd next due
  | brokenDown next => exact absurd next due

/-- A wait is called off from the beginning, or one of its queries is the last. In
the first case it asks nothing. -/
theorem outcome_cases {result : Except Fault Completion} {ended : Nat}
    (outcome : course.Outcome result ended) :
    course.CalledOff 0 0 ∨ ∃ last, course.Starts last ∧ course.Closes last result ended := by
  cases outcome with
  | unbegun calledOff => exact .inl calledOff
  | closed starts closes => exact .inr ⟨_, starts, closes⟩

/-- A course has at most one outcome. Two queries that close the wait are the same
one, because each is behind all that are begun. -/
theorem outcome_unique {result other : Except Fault Completion} {ended later : Nat}
    (outcome : course.Outcome result ended) (again : course.Outcome other later) :
    result = other ∧ ended = later := by
  cases outcome with
  | unbegun calledOff =>
    cases again with
    | unbegun => exact ⟨rfl, rfl⟩
    | closed starts =>
      exact absurd calledOff (starts_zero_iff.mp (starts_of_le starts (Nat.zero_le _)))
  | @closed index _ _ starts closes =>
    cases again with
    | unbegun calledOff =>
      exact absurd calledOff (starts_zero_iff.mp (starts_of_le starts (Nat.zero_le _)))
    | @closed last _ _ begun closed =>
      have same : index = last :=
        Nat.le_antisymm (le_of_closes closed starts) (le_of_closes closes begun)
      subst same
      exact closes_unique closes closed

end Course

end ExtensionPublisher
