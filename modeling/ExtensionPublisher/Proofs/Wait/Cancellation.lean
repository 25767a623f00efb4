import ExtensionPublisher.Proofs.Wait.Bounds

/-!
# Calling off a wait

A wait that is never called off is compared with the same wait called off at an instant. When the
course is told, the instant occurs in the conditions for a query to be begun and to be the last
one, and nowhere else: when queries begin, what they bring and what that settles is the same in
both. So calling a wait off leaves the queries that begin before the instant, and cuts off the
rest.

What remains is where the instant falls. Behind the end of the wait it changes nothing; in a query
that is under way it is noticed at the reply, which counts if it settles the wait; in a pause it
is noticed at once. There is no other place, also where the deadline has passed by then, and this
is `calling_off_truncates`. The places do not overlap, so nothing is asked of the instant: one
that falls together with the beginning of a query is in the pause in front of it, and one that
falls together with a reply is in the query.
-/
namespace ExtensionPublisher

namespace Course

variable {course : Course} {index instant : Nat}

/-- The same course, called off at another instant. Everything else that the wait
meets stays as it is. -/
def withCancel (course : Course) (cancelAt : Option Nat) : Course :=
  { course with cancelAt := cancelAt }

/-! ## What calling off does not change -/

/-- Queries would begin at the same instants, for these follow from the replies
alone. -/
@[simp] theorem start_with_cancel (course : Course) (cancelAt : Option Nat) (index : Nat) :
    (course.withCancel cancelAt).start index = course.start index := by
  induction index with
  | zero => rfl
  | succ index inductionHypothesis =>
    simp only [start, inductionHypothesis]
    rfl

/-- Replies would arrive at the same instants, since being called off does not
interrupt a query. -/
@[simp] theorem replied_with_cancel (course : Course) (cancelAt : Option Nat) (index : Nat) :
    (course.withCancel cancelAt).replied index = course.replied index := by
  simp only [replied, start_with_cancel]
  rfl

/-- Pauses would end at the same instants. A pause that is called off is cut short
elsewhere, where a query closes the wait. -/
@[simp] theorem wake_with_cancel (course : Course) (cancelAt : Option Nat) (index : Nat) :
    (course.withCancel cancelAt).wake index = course.wake index := by
  simp only [wake, start_with_cancel, replied_with_cancel]
  rfl

/-- A reply that settles a wait settles it whenever it is called off, as it goes
before being called off. -/
theorem settles_with_cancel (cancelAt : Option Nat) {result : Except Fault Completion}
    (settles : course.Settles index result) : (course.withCancel cancelAt).Settles index result := by
  cases settles with
  | succeeded given =>
    rw [← course.replied_with_cancel cancelAt index]
    exact .succeeded given
  | failed given => exact .failed given
  | refused given lasting => exact .refused given lasting
  | exhausted given transient inARow => exact .exhausted given transient inARow

/-- A reply that settles nothing settles nothing whenever the wait is called off,
and the other way round. -/
theorem unsettled_with_cancel (cancelAt : Option Nat) :
    (course.withCancel cancelAt).Unsettled index ↔ course.Unsettled index := by
  constructor
  · intro unsettled result settles
    exact unsettled result (settles_with_cancel cancelAt settles)
  · intro unsettled result settles
    have before := settles_with_cancel course.cancelAt settles
    exact unsettled result before

/-- Where only the instant calls the wait off, it is called off from the instant on. -/
theorem called_off_with_cancel (quiet : course.Quiet) (count now : Nat) :
    (course.withCancel (some instant)).CalledOff count now ↔ instant ≤ now := by
  have still : (course.withCancel (some instant)).Quiet := quiet
  rw [called_off_of_quiet still]
  simp [withCancel]

/-- Where nothing calls the wait off, neither an instant nor a query, it is never
called off. -/
theorem never_called_off (quiet : course.Quiet) (never : course.cancelAt = none)
    (count now : Nat) : ¬course.CalledOff count now := by
  rw [called_off_of_quiet quiet, never]
  rintro ⟨cancelled, known, _⟩
  cases known

/-! ## What calling off cuts off -/

/-- The queries due in a wait that is called off are those that begin before the
instant. The instant itself is already too late. -/
theorem due_with_cancel (quiet : course.Quiet) (never : course.cancelAt = none) :
    (course.withCancel (some instant)).Due index ↔
      course.Due index ∧ course.start index < instant := by
  constructor
  · intro due
    have wanted : course.start index < instant := by
      apply Nat.lt_of_not_le
      intro calledOff
      apply due.wanted
      rwa [called_off_with_cancel quiet, start_with_cancel]
    have early := due.early
    rw [start_with_cancel] at early
    exact ⟨⟨fun earlier inside => (unsettled_with_cancel _).mp (due.unsettled earlier inside),
      never_called_off quiet never _ _, early⟩, wanted⟩
  · rintro ⟨due, before⟩
    refine ⟨fun earlier inside => (unsettled_with_cancel _).mpr (due.unsettled earlier inside),
      ?_, ?_⟩
    · rw [called_off_with_cancel quiet, start_with_cancel]
      exact Nat.not_le_of_lt before
    · rw [start_with_cancel]
      exact due.early

/-- The queries of a wait that is called off are those that begin before the
instant. Which of them can be counted does not change. -/
theorem starts_with_cancel (quiet : course.Quiet) (never : course.cancelAt = none) :
    (course.withCancel (some instant)).Starts index ↔
      course.Starts index ∧ course.start index < instant := by
  constructor
  · intro starts
    obtain ⟨due, before⟩ := (due_with_cancel quiet never).mp starts.toDue
    exact ⟨⟨due, starts.counted⟩, before⟩
  · rintro ⟨starts, before⟩
    exact ⟨(due_with_cancel quiet never).mpr ⟨starts.toDue, before⟩, starts.counted⟩

/-- The last query of a wait that is over before the instant is its last query all
the same, and in the same way. -/
theorem closes_before_cancel (quiet : course.Quiet) (never : course.cancelAt = none)
    {result : Except Fault Completion} {ended : Nat} (closes : course.Closes index result ended)
    (past : ended < instant) : (course.withCancel (some instant)).Closes index result ended := by
  cases closes with
  | settled settles =>
    rw [← course.replied_with_cancel (some instant) index]
    exact .settled (settles_with_cancel _ settles)
  | calledOffUnderWay _ calledOff => exact absurd calledOff (never_called_off quiet never _ _)
  | calledOffInPause _ _ cancelled => exact absurd (never.symm.trans cancelled) nofun
  | timedOut unsettled _ late =>
    rw [← course.replied_with_cancel (some instant) index]
    refine .timedOut ((unsettled_with_cancel _).mpr unsettled) ?_ ?_
    · rw [called_off_with_cancel quiet, wake_with_cancel, wake_of_late late]
      exact Nat.not_le_of_lt past
    · rw [start_with_cancel]
      exact late
  | brokenDown due full =>
    rw [← course.start_with_cancel (some instant) (index + 1)]
    exact .brokenDown ((due_with_cancel quiet never).mpr ⟨due, past⟩) full

/-- A query that is under way at the instant, and settles nothing, is the last one.
The wait ends with its reply, not at the instant. -/
theorem closes_under_way (quiet : course.Quiet) (unsettled : course.Unsettled index)
    (noticed : instant ≤ course.replied index) :
    (course.withCancel (some instant)).Closes index (.error (.cancelled course.operation))
      (course.replied index) := by
  rw [← course.replied_with_cancel (some instant) index]
  refine .calledOffUnderWay ((unsettled_with_cancel _).mpr unsettled) ?_
  rwa [called_off_with_cancel quiet, replied_with_cancel]

/-- A query is the last one if the instant is in the pause behind it, and then the
wait ends at the instant. -/
theorem closes_in_pause (quiet : course.Quiet) (unsettled : course.Unsettled index)
    (behind : course.replied index < instant) (inPause : instant ≤ course.wake index) :
    (course.withCancel (some instant)).Closes index (.error (.cancelled course.operation))
      instant := by
  refine .calledOffInPause ((unsettled_with_cancel _).mpr unsettled) ?_ rfl ?_
  · rw [called_off_with_cancel quiet, replied_with_cancel]
    exact Nat.not_le_of_lt behind
  · rwa [wake_with_cancel]

/-- The reply to the last query of a wait that is never called off arrives by its
end. Only being called off can end a wait in a pause. -/
theorem replied_le_ended (never : course.cancelAt = none)
    {result : Except Fault Completion} {ended : Nat} (closes : course.Closes index result ended) :
    course.replied index ≤ ended := by
  cases closes with
  | settled | calledOffUnderWay => exact Nat.le_refl _
  | calledOffInPause _ _ cancelled => exact absurd (never.symm.trans cancelled) nofun
  | timedOut => exact Nat.le_max_left _ _
  | brokenDown => exact course.replied_le_start (Nat.lt_succ_self index)

end Course

/-- The first numbers are kept by a filter that keeps no other ones. The instants of
the queries that are left are found in this way. -/
theorem filter_range {count kept : Nat} {keeps : Nat → Bool}
    (same : ∀ index, index < kept ↔ index < count ∧ keeps index = true) :
    (List.range count).filter keeps = List.range kept := by
  induction count generalizing kept with
  | zero =>
    have none : kept = 0 := by
      apply Nat.eq_zero_of_not_pos
      intro some
      exact Nat.not_lt_zero 0 ((same 0).mp some).1
    simp [none]
  | succ count inductionHypothesis =>
    rw [List.range_succ, List.filter_append]
    by_cases keptLast : keeps count = true
    · have all : kept = count + 1 := by
        apply Nat.le_antisymm
        · apply Nat.le_of_not_lt
          intro more
          exact Nat.lt_irrefl _ ((same (count + 1)).mp more).1
        · exact (same count).mpr ⟨Nat.lt_succ_self count, keptLast⟩
      have before (index : Nat) : index < count ↔ index < count ∧ keeps index = true := by
        constructor
        · intro inside
          exact ⟨inside, ((same index).mp (by omega)).2⟩
        · exact And.left
      rw [inductionHypothesis before, all, List.range_succ]
      simp [keptLast]
    · have before (index : Nat) : index < kept ↔ index < count ∧ keeps index = true := by
        rw [same index]
        constructor
        · rintro ⟨inside, keep⟩
          refine ⟨?_, keep⟩
          rcases Nat.lt_succ_iff_lt_or_eq.mp inside with below | rfl
          · exact below
          · exact absurd keep keptLast
        · rintro ⟨inside, keep⟩
          exact ⟨Nat.lt_succ_of_lt inside, keep⟩
      rw [inductionHypothesis before]
      simp [keptLast]

variable {σ : Type} {query : StatusSource σ} {source : σ} {course : Course} {full cut : Run σ}
  {instant : Nat}

namespace Course.Follows

/-- A wait that is never called off has a last query, because its first query is
begun. -/
theorem last_query_of_never (follows : course.Follows query source full) (quiet : course.Quiet)
    (never : course.cancelAt = none) :
    ∃ last, full.starts.length = last + 1 ∧ course.Starts last ∧
      course.Closes last full.result full.ended := by
  have starts : course.Starts 0 :=
    Course.starts_zero_iff.mpr (Course.never_called_off quiet never 0 0)
  rcases follows.last_query with ⟨none, _⟩ | found
  · have inside := (follows.starts_iff 0).mp starts
    simp [none] at inside
  · exact found

/-- A query that is begun settles nothing where the wait goes on behind its reply.
Otherwise the wait would be over with it. -/
theorem unsettled_of_goes_on (follows : course.Follows query source full) {index : Nat}
    (starts : course.Starts index) (goesOn : course.replied index < full.ended) :
    course.Unsettled index := by
  intro result settles
  have past := Course.outcome_unique follows.outcome (.closed starts (.settled settles))
  omega

/-- The last query that begins before the instant is followed by a pause that lasts until the
instant, if the whole wait does. Otherwise another query would begin before the instant. -/
theorem instant_le_wake (follows : course.Follows query source full) (quiet : course.Quiet)
    (never : course.cancelAt = none) (goesOn : instant ≤ full.ended) {index : Nat}
    (starts : course.Starts index) (unsettled : course.Unsettled index)
    (last : ∀ later, course.Starts later → course.start later < instant → later ≤ index) :
    instant ≤ course.wake index := by
  by_cases early : course.start (index + 1) < course.deadline
  · rw [Course.wake_of_early early]
    apply Nat.le_of_not_lt
    intro sooner
    have due : course.Due (index + 1) := Course.due_succ starts.toDue unsettled
      (Course.never_called_off quiet never _ _) early
    rcases Course.starts_or_closes_of_due starts due with next | closes
    · exact Nat.not_succ_le_self index (last (index + 1) next sooner)
    · have past := Course.outcome_unique follows.outcome (.closed starts closes)
      omega
  · have late : course.deadline ≤ course.start (index + 1) := Nat.le_of_not_lt early
    have timedOut := Course.outcome_unique follows.outcome (.closed starts
      (.timedOut unsettled (Course.never_called_off quiet never _ _) late))
    rw [Course.wake_of_late late]
    omega

section Truncation

variable (follows : course.Follows query source full)
  (cutFollows : (course.withCancel (some instant)).Follows query source cut)
  (quiet : course.Quiet) (never : course.cancelAt = none)

include follows cutFollows quiet never

/-- Calling a wait off at an instant changes nothing where its last query begins before and closes
it in the same way. -/
theorem eq_of_closes {last : Nat} (starts : course.Starts last)
    (closes : course.Closes last full.result full.ended) (before : course.start last < instant)
    (same : (course.withCancel (some instant)).Closes last full.result full.ended) : cut = full := by
  have instants : (course.withCancel (some instant)).start = course.start :=
    funext (course.start_with_cancel (some instant))
  have whole := Course.follows_unique follows
    (Course.follows_of_closes query source starts closes)
  have left := Course.follows_unique cutFollows
    (Course.follows_of_closes query source
      ((Course.starts_with_cancel quiet never).mpr ⟨starts, before⟩) same)
  rw [instants] at left
  exact left.trans whole.symm

/-- A wait that is over before the instant is not changed by it: its last query is
begun before and closes the wait as it did. -/
theorem eq_of_over (past : full.ended < instant) : cut = full := by
  obtain ⟨last, _, starts, closes⟩ := follows.last_query_of_never quiet never
  have replied : course.replied last ≤ full.ended := Course.replied_le_ended never closes
  have before : course.start last < instant :=
    Nat.lt_of_le_of_lt (Nat.le_trans (course.start_le_replied last) replied) past
  exact follows.eq_of_closes cutFollows quiet never starts closes before
    (Course.closes_before_cancel quiet never closes past)

/-- A wait whose last query is under way at the instant is not changed if its reply
settles it. A wait that is called off takes in the reply first. -/
theorem eq_of_settles {index : Nat} (inside : index < full.starts.length) (before : course.start index < instant)
    {result : Except Fault Completion} (settles : course.Settles index result) : cut = full := by
  have starts : course.Starts index := (follows.starts_iff index).mpr inside
  obtain ⟨same, ended⟩ :=
    Course.outcome_unique follows.outcome (.closed starts (.settled settles))
  have closes : course.Closes index full.result full.ended := by
    rw [same, ended]
    exact .settled settles
  apply follows.eq_of_closes cutFollows quiet never starts closes before
  rw [same, ended, ← course.replied_with_cancel (some instant) index]
  exact .settled (Course.settles_with_cancel _ settles)

/-- The queries of a wait that is called off are those of the whole wait that begin
before the instant. Instants grow, so these are the first ones. -/
theorem starts_of_cut : cut.starts = full.starts.filter (· < instant) := by
  have kept (index : Nat) : index < cut.starts.length ↔
      index < full.starts.length ∧ decide (course.start index < instant) = true := by
    rw [← cutFollows.starts_iff, ← follows.starts_iff, decide_eq_true_eq]
    exact Course.starts_with_cancel quiet never
  have instants : (course.withCancel (some instant)).start = course.start :=
    funext (course.start_with_cancel (some instant))
  rw [cutFollows.starts, follows.starts, instants, List.filter_map]
  exact congrArg (List.map course.start) (filter_range kept).symm

/-- A query that is under way at the instant and settles nothing is the last one,
and the wait is called off when its reply arrives. -/
theorem cut_under_way {index : Nat} (inside : index < full.starts.length) (before : course.start index < instant)
    (noticed : instant ≤ course.replied index) (unsettled : course.Unsettled index) :
    cut.result = .error (.cancelled course.operation) ∧ cut.ended = course.replied index := by
  have starts : (course.withCancel (some instant)).Starts index :=
    (Course.starts_with_cancel quiet never).mpr ⟨(follows.starts_iff index).mpr inside, before⟩
  exact Course.outcome_unique cutFollows.outcome
    (.closed starts (Course.closes_under_way quiet unsettled noticed))

/-- A wait that is not over at the instant, and has no query under way, ends at the instant: it is
in a pause, or at its beginning.

Proof: the last query that begins before the instant has its reply before the instant too, and the
reply settles nothing because the whole wait goes on. -/
theorem cut_in_pause (goesOn : instant ≤ full.ended)
    (idle : ∀ index < full.starts.length,
      ¬(course.start index < instant ∧ instant ≤ course.replied index)) :
    cut.result = .error (.cancelled course.operation) ∧ cut.ended = instant := by
  rcases Nat.eq_zero_or_pos instant with rfl | positive
  · have calledOff : (course.withCancel (some 0)).CalledOff 0 0 :=
      (Course.called_off_with_cancel quiet 0 0).mpr (Nat.le_refl 0)
    exact Course.outcome_unique cutFollows.outcome (.unbegun calledOff)
  · have first : (course.withCancel (some instant)).Starts 0 :=
      (Course.starts_with_cancel quiet never).mpr
        ⟨Course.starts_zero_iff.mpr (Course.never_called_off quiet never 0 0), positive⟩
    obtain ⟨none, _⟩ | ⟨last, count, cutStarts, _⟩ := cutFollows.last_query
    · have inside := (cutFollows.starts_iff 0).mp first
      simp [none] at inside
    · obtain ⟨starts, before⟩ := (Course.starts_with_cancel quiet never).mp cutStarts
      have behind : course.replied last < instant := by
        apply Nat.lt_of_not_le
        intro noticed
        exact idle last ((follows.starts_iff last).mp starts) ⟨before, noticed⟩
      have unsettled : course.Unsettled last :=
        follows.unsettled_of_goes_on starts (Nat.lt_of_lt_of_le behind goesOn)
      have inPause : instant ≤ course.wake last := by
        apply follows.instant_le_wake quiet never goesOn starts unsettled
        intro later begun sooner
        have inside := (cutFollows.starts_iff later).mp
          ((Course.starts_with_cancel quiet never).mpr ⟨begun, sooner⟩)
        omega
      exact Course.outcome_unique cutFollows.outcome
        (.closed cutStarts (Course.closes_in_pause quiet unsettled behind inPause))

end Truncation

end Course.Follows

/-- A wait that is called off at an instant is the wait that is never called off, cut off there;
no query calls it off by itself. If the whole wait is over before the instant, nothing changes.
Else the queries are those that begin before the instant. A query that is under way at the instant
changes nothing if its reply settles the wait, and is the last one otherwise. With no query under
way the wait ends at the instant, at its beginning or in a pause. Unless it is settled, the wait
ends as called off, also where the deadline has passed. -/
theorem calling_off_truncates {σ : Type} {settings : WaitSettings} {operation : String}
    (accepted : settings.validate = .ok ()) (named : Text.blank operation = false)
    (deadline? : Option Nat) (query : StatusSource σ) (source : σ)
    (quiet : ∀ index, (query.reply operation source index).calledOff = false) (instant : Nat) :
    let course := settings.course deadline? query none operation source
    let full := settings.wait deadline? query none operation source
    let cut := settings.wait deadline? query (some instant) operation source
    (full.ended < instant → cut = full) ∧
    (instant ≤ full.ended →
      cut.starts = full.starts.filter (· < instant) ∧
      (∀ index, (inside : index < full.starts.length) → full.starts[index] < instant →
        instant ≤ full.starts[index] + (query.reply operation source index).took →
          (∀ result, course.Settles index result → cut = full ∧ full.result = result) ∧
          (course.Unsettled index → cut.result = .error (.cancelled operation) ∧
            cut.ended = full.starts[index] + (query.reply operation source index).took)) ∧
      ((∀ index, (inside : index < full.starts.length) → ¬(full.starts[index] < instant ∧
          instant ≤ full.starts[index] + (query.reply operation source index).took)) →
        cut.result = .error (.cancelled operation) ∧ cut.ended = instant)) ∧
    (instant = 0 →
      cut.starts = [] ∧ cut.result = .error (.cancelled operation) ∧ cut.ended = 0) := by
  intro course full cut
  have never : course.cancelAt = none := rfl
  have still : course.Quiet := quiet
  have follows : course.Follows query source full :=
    settings.wait_follows accepted named deadline? query none source
  have cutFollows : (course.withCancel (some instant)).Follows query source cut :=
    settings.wait_follows accepted named deadline? query (some instant) source
  refine ⟨follows.eq_of_over cutFollows still never, ?_, ?_⟩
  · intro goesOn
    refine ⟨follows.starts_of_cut cutFollows still never, ?_, ?_⟩
    · intro index inside before noticed
      rw [follows.start_of_query inside] at before noticed ⊢
      constructor
      · intro result settles
        have starts : course.Starts index := (follows.starts_iff index).mpr inside
        exact ⟨follows.eq_of_settles cutFollows still never inside before settles,
          (Course.outcome_unique follows.outcome (.closed starts (.settled settles))).1⟩
      · exact follows.cut_under_way cutFollows still never inside before noticed
    · intro idle
      apply follows.cut_in_pause cutFollows still never goesOn
      intro index inside
      rw [← follows.start_of_query inside]
      exact follows.start_of_query inside ▸ idle index inside
  · rintro rfl
    have calledOff : (course.withCancel (some 0)).CalledOff 0 0 :=
      (Course.called_off_with_cancel still 0 0).mpr (Nat.le_refl 0)
    have same := Course.follows_unique cutFollows
      (Course.follows_of_called_off query source calledOff)
    exact ⟨congrArg Run.starts same, congrArg Run.result same, congrArg Run.ended same⟩

/-- Called off at two, a wait is in the pause from one to four behind its first query. -/
theorem called_off_in_first_pause :
    let settings : WaitSettings := { interval := 3, deadline := 7, failureBound := 2 }
    let cut := settings.wait none (.ofReplies faultThenRunning) (some 2) "op-1" 0
    settings.validate = .ok () ∧ Text.blank "op-1" = false ∧
      cut.result = .error (.cancelled "op-1") ∧ cut.ended = 2 := by
  intro settings cut
  have accepted : settings.validate = .ok () := rfl
  have named : Text.blank "op-1" = false := by decide
  have quiet := faulty_start_quiet none
  have follows := settings.wait_follows accepted named none (.ofReplies faultThenRunning) none 0
  have second : (faultyStart none).Starts 1 := faulty_start_starts nofun
  have start (index : Nat) : (faultyStart none).start (index + 1) ≥ 4 :=
    (faultyStart none).start_monotone (Nat.le_add_left 1 index)
  obtain ⟨_, goesOn, _⟩ :=
    calling_off_truncates accepted named none (.ofReplies faultThenRunning) 0 quiet 2
  have late : 2 ≤ (settings.wait none (.ofReplies faultThenRunning) none "op-1" 0).ended := by
    obtain ⟨last, count, _, closes⟩ := follows.last_query_of_never quiet rfl
    have inside := (follows.starts_iff 1).mp second
    have replied := Course.replied_le_ended rfl closes
    have reached := (faultyStart none).start_monotone (show 1 ≤ last by omega)
    have before := (faultyStart none).start_le_replied last
    have four := start 0
    exact calc
      2 ≤ (faultyStart none).start 1 := Nat.le_trans (by decide) four
      _ ≤ (faultyStart none).start last := reached
      _ ≤ (faultyStart none).replied last := before
      _ ≤ _ := replied
  refine ⟨accepted, named, (goesOn late).2.2 ?_⟩
  intro index inside
  rw [follows.start_of_query inside]
  rintro ⟨before, noticed⟩
  cases index with
  | zero => exact absurd noticed (by decide)
  | succ index => exact Nat.not_lt_of_le (Nat.le_trans (by decide) (start index)) before

end ExtensionPublisher
