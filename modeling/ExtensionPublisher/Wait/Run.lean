import ExtensionPublisher.Text.Blank
import ExtensionPublisher.Wait.Progress
import ExtensionPublisher.Wait.Settings

/-!
# Carrying out a wait

A wait begins with a query. When the reply settles nothing, the wait pauses for the interval,
or for what is left until the deadline if that is less, and asks again; a pause that ends at
the deadline is followed by no query. Being called off cuts a pause short, and is noticed at
the end of a query that is under way, after its reply.

Every pause in front of another query is longer than nothing, so the time left until the
deadline bounds the number of queries. Times are counted from the beginning of the wait.

How the queries are counted depends on the build. A build that checks its sums breaks down where
a query cannot be counted. In a build that does not check them the count begins anew, and the wait
looks as if it had asked nothing yet: then there is one more query, whatever the deadline. Clients
and the program are those of a build that checks its sums; as long as no count is too great, both
kinds of build wait alike.
-/
namespace ExtensionPublisher

/-- What a query brings, and what happened to the wait meanwhile. -/
structure Reply where
  result : Except Fault OperationReport
  /-- How long the query took. -/
  took : Nat := 0
  /-- Whether the wait was called off while the query was under way. -/
  calledOff : Bool := false

/-- Someone to ask about operations: what an operation's name brings, and how it changes what
later queries bring. -/
abbrev StatusSource (σ : Type) := String → σ → Reply × σ

/-- How a wait went: its result, and all that can be seen of it from outside. -/
structure Run (σ : Type) where
  result : Except Fault Completion
  /-- When the queries began. -/
  starts : List Nat
  /-- When the wait ended. -/
  ended : Nat
  /-- Whether a query called the wait off. -/
  calledOff : Bool
  source : σ

/-- A run in front of which one more query was made. The run was called off if
either was. -/
def Run.after {σ : Type} (run : Run σ) (start : Nat) (calledOff : Bool) : Run σ :=
  { run with starts := start :: run.starts, calledOff := calledOff || run.calledOff }

/-- A run that ends now without a query, by an observation that settles it. If the
observation did not settle it, the run would count as cancelled. -/
def Progress.stop {σ : Type} (progress : Progress) (observation : Observation) (now : Nat)
    (source : σ) : Run σ :=
  let result := (progress.observe observation).outcome? now
  { result := result.getD (.error (.cancelled progress.operation))
    starts := []
    ended := now
    calledOff := false
    source := source }

namespace Schedule

/-- Whether a wait that is to be called off at an instant, if any, is called off by
now. -/
def calledOffBy (cancelAt : Option Nat) (now : Nat) : Bool :=
  cancelAt.any (· ≤ now)

/-- When the pause behind a reply ends of itself: after a whole interval, or at the
deadline if that is earlier. -/
def wakeAt (schedule : Schedule) (now : Nat) : Nat :=
  now + min schedule.interval (schedule.deadline - now)

/-- A pause that ends before the deadline is longer than nothing, because the
interval is. This is what makes a run come to its end. -/
theorem lt_wake_at (schedule : Schedule) {now : Nat}
    (early : schedule.wakeAt now < schedule.deadline) : now < schedule.wakeAt now := by
  have positive := schedule.interval_pos
  simp only [wakeAt] at early ⊢
  omega

/-- Ask now and go on from there. Behind a reply the wait is over, or is called off,
or there is a pause, which calling off may cut short; then comes another query, or
the deadline. -/
def runFrom {σ : Type} (schedule : Schedule) (overflow : Overflow) (query : StatusSource σ)
    (cancelAt : Option Nat) (progress : Progress) (now : Nat) (source : σ) : Run σ :=
  match _counted : progress.beginQuery overflow with
  | .error breakdown => ⟨.error (.brokenDown breakdown), [], now, false, source⟩
  | .ok begun =>
    let (reply, source) := query begun.operation source
    let replied := now + reply.took
    let taken := begun.observe (.ofQuery reply.result)
    let rest : Run σ :=
      match taken.outcome? replied with
      | some result => ⟨result, [], replied, false, source⟩
      | none =>
        let wake := schedule.wakeAt replied
        if reply.calledOff || calledOffBy cancelAt replied then
          taken.stop .cancelRequested replied source
        else if calledOffBy cancelAt wake then
          taken.stop .cancelRequested (cancelAt.getD wake) source
        else if _another : taken.queries = 0 ∨ wake < schedule.deadline then
          schedule.runFrom overflow query cancelAt taken wake source
        else taken.stop .deadlineReached wake source
    rest.after now reply.calledOff
-- A count begins anew on the way to a query that begins no later, but only where it was full.
termination_by 2 * (schedule.deadline - now) + if progress.queries < greatestCount then 0 else 1
decreasing_by
  have counts : (begun.observe (.ofQuery reply.result)).queries = begun.queries :=
    (begun.observe_keeps _).2
  rcases _another with anew | sooner
  · have full := Progress.full_of_begin_query _counted (counts ▸ anew)
    have noEarlier : now ≤ schedule.wakeAt (now + reply.took) :=
      Nat.le_trans (Nat.le_add_right _ _) (Nat.le_add_right _ _)
    rw [if_neg full, if_pos (anew ▸ (by decide : 0 < greatestCount))]
    omega
  · have longer : now + reply.took < schedule.wakeAt (now + reply.took) := schedule.lt_wake_at sooner
    have less : schedule.deadline - schedule.wakeAt (now + reply.took) < schedule.deadline - now := by
      have sooner : schedule.wakeAt (now + reply.took) < schedule.deadline := sooner
      omega
    split <;> split <;> omega

/-- A query that is counted is asked, and the run goes on from its reply. This is
the step by which runs are followed. -/
theorem run_from_of_counted {σ : Type} {schedule : Schedule} {overflow : Overflow}
    {query : StatusSource σ} {cancelAt : Option Nat} {progress begun : Progress} {now : Nat} {source : σ}
    (counted : progress.beginQuery overflow = .ok begun) :
    schedule.runFrom overflow query cancelAt progress now source =
      let (reply, source) := query begun.operation source
      let replied := now + reply.took
      let taken := begun.observe (.ofQuery reply.result)
      let rest : Run σ :=
        match taken.outcome? replied with
        | some result => ⟨result, [], replied, false, source⟩
        | none =>
          let wake := schedule.wakeAt replied
          if reply.calledOff || calledOffBy cancelAt replied then
            taken.stop .cancelRequested replied source
          else if calledOffBy cancelAt wake then
            taken.stop .cancelRequested (cancelAt.getD wake) source
          else if taken.queries = 0 ∨ wake < schedule.deadline then
            schedule.runFrom overflow query cancelAt taken wake source
          else taken.stop .deadlineReached wake source
      rest.after now reply.calledOff := by
  rw [runFrom]
  split
  · next failed =>
    rw [counted] at failed
    cases failed
  · next known =>
    rw [counted] at known
    cases known
    simp only [dite_eq_ite]

/-- A query that cannot be counted ends the run before it is asked. -/
theorem run_from_of_broken {σ : Type} {schedule : Schedule} {overflow : Overflow}
    {query : StatusSource σ} {cancelAt : Option Nat} {progress : Progress} {now : Nat} {source : σ}
    {breakdown : Breakdown} (failed : progress.beginQuery overflow = .error breakdown) :
    schedule.runFrom overflow query cancelAt progress now source =
      ⟨.error (.brokenDown breakdown), [], now, false, source⟩ := by
  rw [runFrom]
  split
  · next known =>
    rw [failed] at known
    cases known
    rfl
  · next counted =>
    rw [failed] at counted
    cases counted

/-- Wait for an operation. A wait that is called off before it begins asks nothing.
-/
def run {σ : Type} (schedule : Schedule) (overflow : Overflow) (query : StatusSource σ)
    (cancelAt : Option Nat) (operation : String) (source : σ) : Run σ :=
  let progress : Progress := { operation := operation, failureBound := schedule.failureBound }
  if calledOffBy cancelAt 0 then progress.stop .cancelRequested 0 source
  else schedule.runFrom overflow query cancelAt progress 0 source

end Schedule

/-- Wait for an operation in a build that does about counts what it does, if the settings can be
carried out and the operation has a name. `deadline?` replaces the deadline of the settings. -/
def WaitSettings.waitCounting {σ : Type} (settings : WaitSettings) (overflow : Overflow)
    (deadline? : Option Nat) (query : StatusSource σ) (cancelAt : Option Nat) (operation : String)
    (source : σ) : Run σ :=
  let refused (fault : Fault) : Run σ := ⟨.error fault, [], 0, false, source⟩
  match settings.schedule with
  | .error fault => refused fault
  | .ok schedule =>
    if Text.blank operation then refused (.invalidArgument "operation id must not be empty")
    else (schedule.until (deadline?.getD schedule.deadline)).run overflow query cancelAt operation source

/-- Wait for an operation where sums are checked. -/
def WaitSettings.wait {σ : Type} (settings : WaitSettings) (deadline? : Option Nat)
    (query : StatusSource σ) (cancelAt : Option Nat) (operation : String) (source : σ) : Run σ :=
  settings.waitCounting .breaksDown deadline? query cancelAt operation source

/-- One of several waits: the operation, and a deadline of its own. -/
structure Errand where
  operation : String
  deadline? : Option Nat := none
  deriving DecidableEq, Repr

/-- Waits one after another, on one source and one clock, with the instant at which each of
them begins. They are called off together: at an instant of that clock, or by a query. -/
def WaitSettings.waitEach {σ : Type} (settings : WaitSettings) (query : StatusSource σ)
    (cancelAt : Option Nat) : Nat → σ → List Errand → List (Nat × Run σ)
  | _, _, [] => []
  | clock, source, errand :: rest =>
    let run := settings.wait errand.deadline? query (cancelAt.map (· - clock)) errand.operation source
    let cancelAt := if run.calledOff then some 0 else cancelAt
    (clock, run) :: settings.waitEach query cancelAt (clock + run.ended) run.source rest

/-- Replies in order, and the one that follows them for ever. A wait that is
rehearsed takes its replies from there. -/
structure Script where
  replies : List Reply
  rest : Reply
  /-- How many have been given. -/
  given : Nat := 0
  /-- The query during which the wait is called off, counted from one. -/
  callOffAt : Option Nat := none

/-- The next reply of a script, whatever is asked. -/
def Script.next : StatusSource Script := fun _ script =>
  let reply := script.replies.head?.getD script.rest
  let given := script.given + 1
  ({ reply with calledOff := reply.calledOff || script.callOffAt == some given },
    { script with replies := script.replies.tail, given := given })

end ExtensionPublisher
