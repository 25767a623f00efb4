import ExtensionPublisher.Proofs.Wait.Outcome

/-!
# The turns of a wait

A wait can be told as a loop. Each turn first honours being called off, then the deadline, and
asks if neither ends the wait; when there is no result it pauses for the interval, cut to what
is left until the deadline, and wakes early when it is called off. The deadline is only honoured
once a query is counted. Nothing in a turn says that there is a last one: a pause may be empty, and
a query may take no time.

The loop does end, in every build, and with the run that is carried out, `wait_within_turns`. A run
looks ahead from a reply to what the next turn will do, so each of its queries stands for one turn,
and what ends it behind a reply takes one turn more. That is why a pause of no length is never
followed by a query, unless the count of the queries has begun anew: it is empty only at or behind
the deadline, and the turn behind it ends the wait.
-/
namespace ExtensionPublisher

/-- A wait between two turns: what it has counted, the instant, and what has been
asked so far. -/
structure Standing (σ : Type) where
  progress : Progress
  now : Nat
  /-- Whether a query has called the wait off. -/
  calledOff : Bool
  /-- When the queries began. -/
  starts : List Nat
  source : σ

namespace Standing

variable {σ : Type}

/-- Whether the wait is called off by now, by an instant that has come or by a query
that was made. -/
def isCalledOff (cancelAt : Option Nat) (standing : Standing σ) : Bool :=
  standing.calledOff || Schedule.calledOffBy cancelAt standing.now

/-- A wait that has learned something. Neither time nor a query has passed over it.
-/
def learned (standing : Standing σ) (observation : Observation) : Standing σ :=
  { standing with progress := standing.progress.observe observation }

/-- A wait that has begun a query and has its reply. Time has passed by what the
reply took, and the query is among those begun. -/
def asked (query : StatusSource σ) (standing : Standing σ) (begun : Progress) : Standing σ :=
  let (reply, source) := query begun.operation standing.source
  { progress := begun.observe (.ofQuery reply.result)
    now := standing.now + reply.took
    calledOff := standing.calledOff || reply.calledOff
    starts := standing.starts ++ [standing.now]
    source := source }

/-- The first half of a turn: the first thing of three that there is to do. -/
def act (overflow : Overflow) (schedule : Schedule) (query : StatusSource σ) (cancelAt : Option Nat)
    (standing : Standing σ) : Except Breakdown (Standing σ) :=
  if standing.isCalledOff cancelAt then .ok (standing.learned .cancelRequested)
  else if 0 < standing.progress.queries ∧ schedule.deadline ≤ standing.now then
    .ok (standing.learned .deadlineReached)
  else (standing.progress.beginQuery overflow).map (standing.asked query)

/-- The second half of a turn: a pause, which being called off cuts short. -/
def pause (schedule : Schedule) (cancelAt : Option Nat) (standing : Standing σ) : Standing σ :=
  let wake := schedule.wakeAt standing.now
  { standing with
    now := if standing.isCalledOff cancelAt then standing.now
      else min wake (cancelAt.getD wake) }

/-- The end of a wait, with a result. -/
def ended (standing : Standing σ) (result : Except Fault Completion) : Run σ :=
  ⟨result, standing.starts, standing.now, standing.calledOff, standing.source⟩

/-- A turn ends the wait or leads to the next turn. -/
def turn (overflow : Overflow) (schedule : Schedule) (query : StatusSource σ) (cancelAt : Option Nat)
    (standing : Standing σ) : Run σ ⊕ Standing σ :=
  match standing.act overflow schedule query cancelAt with
  | .error breakdown => .inl (standing.ended (.error (.brokenDown breakdown)))
  | .ok acted =>
    match acted.progress.outcome? acted.now with
    | some result => .inl (acted.ended result)
    | none => .inr (acted.pause schedule cancelAt)

/-- Take turns until the wait ends, but no more than a limit. -/
def turns (overflow : Overflow) (schedule : Schedule) (query : StatusSource σ)
    (cancelAt : Option Nat) : Nat → Standing σ → Option (Run σ)
  | 0, _ => none
  | limit + 1, standing =>
    match standing.turn overflow schedule query cancelAt with
    | .inl run => some run
    | .inr next => turns overflow schedule query cancelAt limit next

end Standing

/-- Wait in turns, with the checks of a wait in front of the first one. There is no run when the
turns do not suffice. -/
def WaitSettings.waitWithin {σ : Type} (settings : WaitSettings) (overflow : Overflow)
    (deadline? : Option Nat) (query : StatusSource σ) (cancelAt : Option Nat) (operation : String)
    (source : σ) (limit : Nat) : Option (Run σ) :=
  match settings.schedule with
  | .error fault => some ⟨.error fault, [], 0, false, source⟩
  | .ok schedule =>
    if Text.blank operation then
      some ⟨.error (.invalidArgument "operation id must not be empty"), [], 0, false, source⟩
    else
      Standing.turns overflow (schedule.until (deadline?.getD schedule.deadline)) query cancelAt limit
        { progress := { operation := operation, failureBound := schedule.failureBound }
          now := 0, calledOff := false, starts := [], source := source }

/-- A run behind queries that were made in front of it. -/
def Run.behind {σ : Type} (run : Run σ) (starts : List Nat) (calledOff : Bool) : Run σ :=
  { run with starts := starts ++ run.starts, calledOff := calledOff || run.calledOff }

namespace Standing

variable {σ : Type} {overflow : Overflow} {schedule : Schedule} {query : StatusSource σ}
  {cancelAt : Option Nat} {standing : Standing σ}

/-- A wait that will ask in its next turn: it goes on, nothing calls it off by now, and it is not too
late, or no query is counted. -/
structure IsAsking (schedule : Schedule) (cancelAt : Option Nat) (standing : Standing σ) : Prop where
  goesOn : standing.progress.phase.isTerminal = false
  wanted : standing.isCalledOff cancelAt = false
  early : standing.progress.queries = 0 ∨ standing.now < schedule.deadline

/-- The turn of a wait that is called off ends it. What it has asked before stays in
front of the end. -/
theorem turn_of_called_off (goesOn : standing.progress.phase.isTerminal = false)
    (calledOff : standing.isCalledOff cancelAt = true) :
    standing.turn overflow schedule query cancelAt =
      .inl ((standing.progress.stop .cancelRequested standing.now standing.source).behind
        standing.starts standing.calledOff) := by
  simp [turn, act, calledOff, learned, ended, Progress.stop, Progress.observe, goesOn,
    Progress.outcome?, Run.behind]

/-- The turn of a wait that has come to its deadline ends it, unless it is called
off. A wait that counts no query asks once in any case. -/
theorem turn_of_late (goesOn : standing.progress.phase.isTerminal = false)
    (wanted : standing.isCalledOff cancelAt = false) (counted : standing.progress.queries ≠ 0)
    (late : schedule.deadline ≤ standing.now) :
    standing.turn overflow schedule query cancelAt =
      .inl ((standing.progress.stop .deadlineReached standing.now standing.source).behind
        standing.starts standing.calledOff) := by
  have past : 0 < standing.progress.queries ∧ schedule.deadline ≤ standing.now :=
    ⟨Nat.pos_of_ne_zero counted, late⟩
  simp [turn, act, wanted, past, learned, ended, Progress.stop, Progress.observe, goesOn,
    Progress.outcome?, Run.behind]

/-- The turn of a wait that asks begins with a query, since neither of the two other
things is to be done. -/
theorem act_of_asking (asking : standing.IsAsking schedule cancelAt) :
    standing.act overflow schedule query cancelAt =
      (standing.progress.beginQuery overflow).map (standing.asked query) := by
  have early : ¬(0 < standing.progress.queries ∧ schedule.deadline ≤ standing.now) := by
    have := asking.early
    omega
  rw [act, if_neg (Bool.eq_false_iff.mp asking.wanted), if_neg early]

/-- A turn that ends the wait is the last one, however many are left. More turns
than needed do no harm. -/
theorem turns_of_ended {run : Run σ} {limit : Nat}
    (last : standing.turn overflow schedule query cancelAt = .inl run) (left : 0 < limit) :
    standing.turns overflow schedule query cancelAt limit = some run := by
  cases limit with
  | zero => exact absurd left (Nat.lt_irrefl 0)
  | succ limit => simp only [turns, last]

/-- There is no pause for a wait that is called off, so that it is noticed in the
next turn at the same instant. -/
theorem pause_of_called_off (calledOff : standing.isCalledOff cancelAt = true) :
    standing.pause schedule cancelAt = standing := by
  simp only [pause, if_pos calledOff]

/-- Being called off in a pause ends the pause, and the wait is called off there.
The next turn finds it so. -/
theorem pause_of_cancelled (wanted : standing.isCalledOff cancelAt = false)
    (cancelled : Schedule.calledOffBy cancelAt (schedule.wakeAt standing.now) = true) :
    standing.pause schedule cancelAt =
        { standing with now := cancelAt.getD (schedule.wakeAt standing.now) } ∧
      (standing.pause schedule cancelAt).isCalledOff cancelAt = true := by
  obtain ⟨instant, rfl, sooner⟩ := (Option.any_eq_true _ _).mp cancelled
  have within : instant ≤ schedule.wakeAt standing.now := of_decide_eq_true sooner
  have same : standing.pause schedule (some instant) = { standing with now := instant } := by
    simp only [pause, wanted, Bool.false_eq_true, if_false, Option.getD_some,
      Nat.min_eq_right within]
  refine ⟨same, ?_⟩
  simp [same, isCalledOff, Schedule.calledOffBy]

/-- A pause that nothing cuts short lasts until it ends of itself, and behind it the
wait is still not called off. -/
theorem pause_of_wanted (wanted : standing.isCalledOff cancelAt = false)
    (goesOn : Schedule.calledOffBy cancelAt (schedule.wakeAt standing.now) = false) :
    standing.pause schedule cancelAt = { standing with now := schedule.wakeAt standing.now } ∧
      (standing.pause schedule cancelAt).isCalledOff cancelAt = false := by
  have unflagged : standing.calledOff = false := (Bool.or_eq_false_iff.mp wanted).1
  have later : min (schedule.wakeAt standing.now) (cancelAt.getD (schedule.wakeAt standing.now)) =
      schedule.wakeAt standing.now := by
    cases known : cancelAt with
    | none => exact Nat.min_self _
    | some instant =>
      have behind : schedule.wakeAt standing.now < instant := by
        simpa [Schedule.calledOffBy, known] using goesOn
      exact Nat.min_eq_left (Nat.le_of_lt behind)
  have same : standing.pause schedule cancelAt =
      { standing with now := schedule.wakeAt standing.now } := by
    simp only [pause, wanted, Bool.false_eq_true, if_false, later]
  refine ⟨same, ?_⟩
  simp [same, isCalledOff, unflagged, goesOn]

/-- What is left of a run behind a reply that settles nothing. -/
def restOfRun (overflow : Overflow) (schedule : Schedule) (query : StatusSource σ)
    (cancelAt : Option Nat) (standing : Standing σ) : Run σ :=
  let wake := schedule.wakeAt standing.now
  if standing.isCalledOff cancelAt then
    standing.progress.stop .cancelRequested standing.now standing.source
  else if Schedule.calledOffBy cancelAt wake then
    standing.progress.stop .cancelRequested (cancelAt.getD wake) standing.source
  else if standing.progress.queries = 0 ∨ wake < schedule.deadline then
    schedule.runFrom overflow query cancelAt standing.progress wake standing.source
  else standing.progress.stop .deadlineReached wake standing.source

/-- A run from a wait that asks is its query, and what is left of it behind the
reply. The reply may leave nothing, if it settles the wait. -/
theorem run_from_of_asked (query : StatusSource σ) {begun : Progress}
    (asking : standing.IsAsking schedule cancelAt)
    (counted : standing.progress.beginQuery overflow = .ok begun) :
    (schedule.runFrom overflow query cancelAt standing.progress standing.now standing.source).behind
        standing.starts standing.calledOff =
      let acted := standing.asked query begun
      match acted.progress.outcome? acted.now with
      | some result => acted.ended result
      | none => (acted.restOfRun overflow schedule query cancelAt).behind acted.starts acted.calledOff := by
  have unflagged : standing.calledOff = false := (Bool.or_eq_false_iff.mp asking.wanted).1
  rw [Schedule.run_from_of_counted counted]
  rcases given : query begun.operation standing.source with ⟨reply, source⟩
  simp only [asked, given, unflagged, Bool.false_or]
  cases (begun.observe (.ofQuery reply.result)).outcome? (standing.now + reply.took) with
  | some result => simp [Run.after, Run.behind, ended]
  | none => simp [Run.after, Run.behind, restOfRun, isCalledOff]

/-- What is left of a run behind a reply takes its turns, and one at least: the turn
that ends the wait, or the turn of the next query. The hypothesis `asks` is what the
induction in `turns_of_asking` gives. -/
theorem turns_of_rest {limit : Nat} (goesOn : standing.progress.phase.isTerminal = false)
    (left : 0 < limit)
    (asks : ∀ next : Standing σ, next.IsAsking schedule cancelAt →
      (schedule.runFrom overflow query cancelAt next.progress next.now
        next.source).starts.length < limit →
      next.turns overflow schedule query cancelAt limit =
        some ((schedule.runFrom overflow query cancelAt next.progress next.now next.source).behind
          next.starts next.calledOff))
    (enough : (standing.restOfRun overflow schedule query cancelAt).starts.length < limit) :
    (standing.pause schedule cancelAt).turns overflow schedule query cancelAt limit =
      some ((standing.restOfRun overflow schedule query cancelAt).behind standing.starts
        standing.calledOff) := by
  unfold restOfRun at enough ⊢
  cases calledOff : standing.isCalledOff cancelAt with
  | true =>
    rw [pause_of_called_off calledOff, if_pos rfl]
    exact turns_of_ended (turn_of_called_off goesOn calledOff) left
  | false =>
    rw [calledOff] at enough
    simp only [Bool.false_eq_true, if_false] at enough ⊢
    cases inPause : Schedule.calledOffBy cancelAt (schedule.wakeAt standing.now) with
    | true =>
      obtain ⟨same, cancelled⟩ := pause_of_cancelled calledOff inPause
      rw [same] at cancelled ⊢
      exact turns_of_ended (turn_of_called_off goesOn cancelled) left
    | false =>
      obtain ⟨same, wanted⟩ := pause_of_wanted calledOff inPause
      rw [inPause] at enough
      simp only [Bool.false_eq_true, if_false] at enough ⊢
      rw [same] at wanted ⊢
      by_cases early : standing.progress.queries = 0 ∨ schedule.wakeAt standing.now < schedule.deadline
      · rw [if_pos early] at enough ⊢
        exact asks _ ⟨goesOn, wanted, early⟩ enough
      · obtain ⟨counted, late⟩ := not_or.mp early
        rw [if_neg early]
        exact turns_of_ended (turn_of_late goesOn wanted counted (Nat.le_of_not_lt late)) left

/-- A wait that asks takes the turns of the run from there, and one more at most.

Proof: induction on the turns that are left. Either the run ends with the query, or the pause behind
the reply leads to the turn that the run has foreseen: one that ends the wait, or one that asks. -/
theorem turns_of_asking {limit : Nat} (asking : standing.IsAsking schedule cancelAt)
    (enough : (schedule.runFrom overflow query cancelAt standing.progress standing.now
      standing.source).starts.length < limit) :
    standing.turns overflow schedule query cancelAt limit =
      some ((schedule.runFrom overflow query cancelAt standing.progress standing.now
        standing.source).behind standing.starts standing.calledOff) := by
  induction limit generalizing standing with
  | zero => exact absurd enough (Nat.not_lt_zero _)
  | succ limit inductionHypothesis =>
    cases counted : standing.progress.beginQuery overflow with
    | error breakdown =>
      have last : standing.turn overflow schedule query cancelAt =
          .inl (standing.ended (.error (.brokenDown breakdown))) := by
        simp only [turn, act_of_asking asking, counted, Except.map]
      rw [turns_of_ended last (Nat.succ_pos limit), Schedule.run_from_of_broken counted]
      simp [ended, Run.behind]
    | ok begun =>
      have whole := run_from_of_asked query asking counted
      generalize queried : standing.asked query begun = acted at whole
      have starts : acted.starts = standing.starts ++ [standing.now] := queried ▸ rfl
      cases told : acted.progress.outcome? acted.now with
      | some result =>
        have last : standing.turn overflow schedule query cancelAt = .inl (acted.ended result) := by
          simp only [turn, act_of_asking asking, counted, Except.map, queried, told]
        simp only [told] at whole
        rw [turns_of_ended last (Nat.succ_pos limit), whole]
      | none =>
        have next : standing.turn overflow schedule query cancelAt =
            .inr (acted.pause schedule cancelAt) := by
          simp only [turn, act_of_asking asking, counted, Except.map, queried, told]
        have goesOn : acted.progress.phase.isTerminal = false := by
          have unsettled := mt (acted.progress.outcome_is_some_iff acted.now).mpr
          simpa [told] using unsettled
        simp only [told] at whole
        have counts := congrArg (fun run : Run σ => run.starts.length) whole
        simp only [Run.behind, starts, List.length_append, List.length_singleton] at counts
        rw [turns, next, whole]
        exact turns_of_rest goesOn (by omega) (fun _ asks => inductionHypothesis asks) (by omega)

/-- The turns of a wait end with the run on its schedule. They are as many as its
queries, or one more, because only the last turn may be without a query. -/
theorem turns_of_run {operation : String} {source : σ} {limit : Nat}
    (enough : (schedule.run overflow query cancelAt operation source).starts.length < limit) :
    Standing.turns overflow schedule query cancelAt limit
        { progress := { operation := operation, failureBound := schedule.failureBound }
          now := 0, calledOff := false, starts := [], source := source } =
      some (schedule.run overflow query cancelAt operation source) := by
  unfold Schedule.run at enough ⊢
  cases calledOff : Schedule.calledOffBy cancelAt 0 with
  | true =>
    refine (turns_of_ended (turn_of_called_off rfl ?_) (Nat.lt_of_le_of_lt (Nat.zero_le _) enough)).trans ?_
    · simpa [isCalledOff] using calledOff
    · simp [Run.behind]
  | false =>
    simp only [calledOff, Bool.false_eq_true, if_false] at enough ⊢
    refine (turns_of_asking ⟨rfl, ?_, .inl rfl⟩ enough).trans ?_
    · simpa [isCalledOff] using calledOff
    · simp [Run.behind]

end Standing

/-- A wait ends within its turns, in every build and whatever it is asked for: they are at most one
more than its queries. -/
theorem WaitSettings.wait_within_turns {σ : Type} (settings : WaitSettings) (overflow : Overflow)
    (deadline? : Option Nat) (query : StatusSource σ) (cancelAt : Option Nat) (operation : String)
    (source : σ) {limit : Nat}
    (enough : (settings.waitCounting overflow deadline? query cancelAt operation
      source).starts.length < limit) :
    settings.waitWithin overflow deadline? query cancelAt operation source limit =
      some (settings.waitCounting overflow deadline? query cancelAt operation source) := by
  unfold waitCounting at enough ⊢
  unfold waitWithin
  cases known : settings.schedule with
  | error fault => rfl
  | ok schedule =>
    simp only [known] at enough ⊢
    by_cases blank : Text.blank operation = true
    · simp only [blank, if_true]
    · rw [if_neg blank] at enough ⊢
      rw [if_neg blank]
      exact Standing.turns_of_run enough

end ExtensionPublisher
