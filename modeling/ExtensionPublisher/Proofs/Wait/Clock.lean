import ExtensionPublisher.Proofs.Wait.Turns

/-!
# Waits on one clock

A wait counts its times from its own beginning. Waits in a row are carried out on one clock, though,
that goes on from one to the next. There a wait has to remember the instant at which it began, and all
that it asks of the clock is how much time has passed since then. Here the turns of a wait are told on
such a clock, and so is a row of waits, each of which begins where the one before has ended.

A turn moves along with the clock, `turn_moved`: a turn of a wait that began at some instant is the turn
of the wait that began at zero, with every instant moved. So is a whole wait, and a row of waits on one
clock is the row in which each wait counts from its own beginning, `wait_each_on_clock`.
-/
namespace ExtensionPublisher

variable {σ : Type}

/-- A run that is moved along the clock: its instants are later, and everything else
stays. -/
def Run.moved (began : Nat) (run : Run σ) : Run σ :=
  { run with starts := run.starts.map (began + ·), ended := began + run.ended }

namespace Standing

/-- A wait between two turns that is moved along the clock. What it has counted does
not change. -/
def moved (began : Nat) (standing : Standing σ) : Standing σ :=
  { standing with now := began + standing.now, starts := standing.starts.map (began + ·) }

/-- The first half of a turn of a wait that began at some instant. The time that has
passed is a difference of two instants of the clock. -/
def actSince (overflow : Overflow) (schedule : Schedule) (query : StatusSource σ)
    (cancelAt : Option Nat) (began : Nat) (standing : Standing σ) : Except Breakdown (Standing σ) :=
  if standing.isCalledOff cancelAt then .ok (standing.learned .cancelRequested)
  else if 0 < standing.progress.queries ∧ schedule.deadline ≤ standing.now - began then
    .ok (standing.learned .deadlineReached)
  else (standing.progress.beginQuery overflow).map (standing.asked query)

/-- The second half of such a turn. -/
def pauseSince (schedule : Schedule) (cancelAt : Option Nat) (began : Nat) (standing : Standing σ) :
    Standing σ :=
  let wake := standing.now + min schedule.interval (schedule.deadline - (standing.now - began))
  { standing with
    now := if standing.isCalledOff cancelAt then standing.now
      else min wake (cancelAt.getD wake) }

/-- A turn of a wait that began at some instant. -/
def turnSince (overflow : Overflow) (schedule : Schedule) (query : StatusSource σ)
    (cancelAt : Option Nat) (began : Nat) (standing : Standing σ) : Run σ ⊕ Standing σ :=
  match standing.actSince overflow schedule query cancelAt began with
  | .error breakdown => .inl (standing.ended (.error (.brokenDown breakdown)))
  | .ok acted =>
    match acted.progress.outcome? (acted.now - began) with
    | some result => .inl (acted.ended result)
    | none => .inr (acted.pauseSince schedule cancelAt began)

/-- The turns of such a wait until it ends, but no more than a limit. -/
def turnsSince (overflow : Overflow) (schedule : Schedule) (query : StatusSource σ)
    (cancelAt : Option Nat) (began : Nat) : Nat → Standing σ → Option (Run σ)
  | 0, _ => none
  | limit + 1, standing =>
    match standing.turnSince overflow schedule query cancelAt began with
    | .inl run => some run
    | .inr next => turnsSince overflow schedule query cancelAt began limit next

end Standing

namespace WaitSettings

/-- Wait in turns, from an instant of the clock on, where sums are checked. -/
def waitSince (settings : WaitSettings) (deadline? : Option Nat) (query : StatusSource σ)
    (cancelAt : Option Nat) (operation : String) (began : Nat) (source : σ) (limit : Nat) :
    Option (Run σ) :=
  match settings.schedule with
  | .error fault => some ⟨.error fault, [], began, false, source⟩
  | .ok schedule =>
    if Text.blank operation then
      some ⟨.error (.invalidArgument "operation id must not be empty"), [], began, false, source⟩
    else
      Standing.turnsSince .breaksDown (schedule.until (deadline?.getD schedule.deadline)) query cancelAt
        began limit
        { progress := { operation := operation, failureBound := schedule.failureBound }
          now := began, calledOff := false, starts := [], source := source }

/-- Waits one after another on one clock, each in turns, with the instant at which each of them begins.
Once a query has called them off, they stay so. -/
def waitEachOnClock (settings : WaitSettings) (query : StatusSource σ) (limit : Nat) :
    Option Nat → Nat → σ → List Errand → Option (List (Nat × Run σ))
  | _, _, _, [] => some []
  | cancelAt, clock, source, errand :: rest => do
    let run ← settings.waitSince errand.deadline? query cancelAt errand.operation clock source limit
    let cancelAt := if run.calledOff then some 0 else cancelAt
    let others ← settings.waitEachOnClock query limit cancelAt run.ended run.source rest
    return (clock, run) :: others

end WaitSettings

namespace Standing

variable (overflow : Overflow) (schedule : Schedule) (query : StatusSource σ) (cancelAt : Option Nat)
  (began : Nat) (standing : Standing σ)

@[simp] theorem moved_progress : (standing.moved began).progress = standing.progress := rfl

/-- How long a wait has lasted does not depend on when it began. Every question that
a turn asks about time is about this difference. -/
@[simp] theorem lasted_moved : (standing.moved began).now - began = standing.now :=
  Nat.add_sub_cancel_left _ _

/-- A wait that is called off on the clock is called off by its own count. An
instant in front of its beginning counts as the beginning. -/
theorem is_called_off_moved :
    (standing.moved began).isCalledOff cancelAt = standing.isCalledOff (cancelAt.map (· - began)) := by
  cases cancelAt with
  | none => rfl
  | some instant =>
    have same : instant ≤ began + standing.now ↔ instant - began ≤ standing.now := by omega
    simp [isCalledOff, moved, Schedule.calledOffBy, same]

/-- A query moves along with the clock, since what a reply takes is the same
everywhere. -/
theorem asked_moved (begun : Progress) :
    (standing.moved began).asked query begun = (standing.asked query begun).moved began := by
  simp [asked, moved, Nat.add_assoc]

/-- The first half of a turn moves along with the clock. The deadline is compared
with the time that has passed, and this is the same. -/
theorem act_moved :
    (standing.moved began).actSince overflow schedule query cancelAt began =
      (standing.act overflow schedule query (cancelAt.map (· - began))).map (moved began) := by
  simp only [actSince, act, is_called_off_moved, lasted_moved, moved_progress]
  by_cases calledOff : standing.isCalledOff (cancelAt.map (· - began)) = true
  · simp only [if_pos calledOff]
    rfl
  · simp only [if_neg calledOff]
    by_cases late : 0 < standing.progress.queries ∧ schedule.deadline ≤ standing.now
    · simp only [if_pos late]
      rfl
    · simp only [if_neg late]
      cases standing.progress.beginQuery overflow with
      | error breakdown => rfl
      | ok begun => exact congrArg Except.ok (asked_moved query began standing begun)

/-- A pause moves along with the clock. It ends a stretch of time behind the instant
at which it begins, or when the wait is called off. -/
theorem pause_moved :
    (standing.moved began).pauseSince schedule cancelAt began =
      (standing.pause schedule (cancelAt.map (· - began))).moved began := by
  simp only [pauseSince, pause, is_called_off_moved, lasted_moved]
  by_cases calledOff : standing.isCalledOff (cancelAt.map (· - began)) = true
  · simp only [if_pos calledOff, moved]
  · simp only [if_neg calledOff]
    have woken : min (began + schedule.wakeAt standing.now)
        (cancelAt.getD (began + schedule.wakeAt standing.now)) =
          began + min (schedule.wakeAt standing.now)
            ((cancelAt.map (· - began)).getD (schedule.wakeAt standing.now)) := by
      cases cancelAt with
      | none => simp
      | some instant =>
        have later : began + standing.now < instant := by
          have wanted : ¬instant - began ≤ standing.now := by
            simp only [isCalledOff, Schedule.calledOffBy] at calledOff
            simp_all
          omega
        simp only [Option.getD_some, Option.map_some]
        omega
    rw [Schedule.wakeAt] at woken
    simp only [moved, Schedule.wakeAt, Nat.add_assoc, woken]

/-- A turn moves along with the clock, because both of its halves do and the result
tells only how long the wait has lasted. -/
theorem turn_moved :
    (standing.moved began).turnSince overflow schedule query cancelAt began =
      (standing.turn overflow schedule query (cancelAt.map (· - began))).map (Run.moved began)
        (moved began) := by
  rw [turnSince, turn, act_moved]
  cases standing.act overflow schedule query (cancelAt.map (· - began)) with
  | error breakdown => rfl
  | ok acted =>
    simp only [Except.map, lasted_moved, moved_progress]
    cases acted.progress.outcome? acted.now with
    | some result => rfl
    | none => exact congrArg Sum.inr (pause_moved schedule cancelAt began acted)

/-- All the turns of a wait move along with the clock, one by one. -/
theorem turns_moved (limit : Nat) :
    turnsSince overflow schedule query cancelAt began limit (standing.moved began) =
      (turns overflow schedule query (cancelAt.map (· - began)) limit standing).map
        (Run.moved began) := by
  induction limit generalizing standing with
  | zero => rfl
  | succ limit inductionHypothesis =>
    rw [turnsSince, turns, turn_moved]
    cases standing.turn overflow schedule query (cancelAt.map (· - began)) with
    | inl run => rfl
    | inr next => exact inductionHypothesis next

end Standing

namespace WaitSettings

variable (settings : WaitSettings) (query : StatusSource σ)

/-- A wait moves along with the clock. The checks in front of its turns do not look
at the clock at all. -/
theorem wait_moved (deadline? : Option Nat) (cancelAt : Option Nat) (operation : String) (began : Nat)
    (source : σ) (limit : Nat) :
    settings.waitSince deadline? query cancelAt operation began source limit =
      (settings.waitWithin .breaksDown deadline? query (cancelAt.map (· - began)) operation source limit).map
        (Run.moved began) := by
  unfold waitSince waitWithin
  cases settings.schedule with
  | error fault => rfl
  | ok schedule =>
    dsimp only
    split
    · rfl
    · exact Standing.turns_moved .breaksDown (schedule.until (deadline?.getD schedule.deadline)) query
        cancelAt began
        { progress := { operation := operation, failureBound := schedule.failureBound }
          now := 0, calledOff := false, starts := [], source := source } limit

/-- Waits in a row on one clock are the waits that count from their own beginnings,
moved to the instants at which they begin. The turns suffice if they are more than
the queries of each wait. Each wait begins where the one before it ended, on the
clock as well as in the row. -/
theorem wait_each_on_clock {limit : Nat} (errands : List Errand) (cancelAt : Option Nat) (clock : Nat)
    (source : σ)
    (enough : ∀ timed ∈ settings.waitEach query cancelAt clock source errands,
      timed.2.starts.length < limit) :
    settings.waitEachOnClock query limit cancelAt clock source errands =
      some ((settings.waitEach query cancelAt clock source errands).map
        fun timed => (timed.1, timed.2.moved timed.1)) := by
  induction errands generalizing cancelAt clock source with
  | nil => rfl
  | cons errand rest inductionHypothesis =>
    rw [waitEach, List.forall_mem_cons] at enough
    have first := settings.wait_within_turns .breaksDown errand.deadline? query (cancelAt.map (· - clock))
      errand.operation source enough.1
    have others := inductionHypothesis _ _ _ enough.2
    rw [waitEachOnClock, wait_moved, first, Option.map_some, Option.bind_eq_bind, Option.bind_some]
    exact congrArg (Option.bind · _) others

end WaitSettings

end ExtensionPublisher
