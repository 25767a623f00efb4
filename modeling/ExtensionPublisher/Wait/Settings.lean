import ExtensionPublisher.Fault

/-!
# Settings of a wait

A wait asks about an operation again and again, with a pause between two queries, until a
deadline; a number of failed queries in a row ends it early. Settings are whatever a caller
gives. A schedule is what can be carried out: there is a pause, and at least one failure is
needed to give up.
-/
namespace ExtensionPublisher

/-- The settings of a wait, as given. They may be such that no wait can be carried
out. -/
structure WaitSettings where
  /-- The pause between two queries. -/
  interval : Nat := Duration.ofSeconds 5
  /-- How long the whole wait may take. -/
  deadline : Nat := Duration.ofSeconds 600
  /-- How many failed queries in a row end the wait. -/
  failureBound : Nat := 3
  deriving DecidableEq, Repr

/-- Settings that can be carried out. The bounds are part of it, so no wait has to
ask for them. -/
structure Schedule where
  interval : Nat
  deadline : Nat
  failureBound : Nat
  interval_pos : 0 < interval
  failure_bound_pos : 0 < failureBound
  deriving DecidableEq, Repr

namespace WaitSettings

/-- The schedule that settings describe, if they can be carried out. A deadline of
nothing is permitted, for it leaves one query. -/
def schedule (settings : WaitSettings) : Except Fault Schedule :=
  if pause : 0 < settings.interval then
    if bound : 0 < settings.failureBound then
      .ok ⟨settings.interval, settings.deadline, settings.failureBound, pause, bound⟩
    else .error (.invalidArgument "max query failures must be at least 1")
  else .error (.invalidArgument "poll interval must be greater than zero")

/-- Whether settings can be carried out. -/
def validate (settings : WaitSettings) : Except Fault Unit := settings.schedule.map fun _ => ()

end WaitSettings

/-- The same schedule with another deadline, as one wait may have one of its own. -/
def Schedule.until (schedule : Schedule) (deadline : Nat) : Schedule :=
  { schedule with deadline := deadline }

end ExtensionPublisher
