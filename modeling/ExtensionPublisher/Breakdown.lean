/-!
# Breakdowns

A breakdown is a fault of the program itself. It is no answer to whoever asked: nothing catches
it, nothing is tried again because of it, and the process in which it happens ends with it.

Counts are kept in words of 32 bits. Whether it is noticed that a count is too great depends on
how the program was built. A build that checks its sums breaks down instead of counting on; a
build that does not check them counts from zero again.
-/
namespace ExtensionPublisher

/-- What brings the program down where it happens. Neither of them is foreseen by the code that
it happens in, so there is no fault in which that code could report it. -/
inductive Breakdown where
  /-- A case that was taken to be impossible has come up. -/
  | unreachable
  /-- A sum is too great for the word that should hold it. -/
  | overflow
  deriving DecidableEq, Repr

/-- The last words of a program that breaks down. They are written by what runs the
program, and not to its log. -/
def Breakdown.message : Breakdown → String
  | .unreachable => "internal error: entered unreachable code"
  | .overflow => "attempt to add with overflow"

/-- What a build of the program does about a count that is too great. Both builds
are made of one text, so what is proved of the counts has to hold of both or to name
the build. -/
inductive Overflow where
  /-- Sums are checked. -/
  | breaksDown
  /-- Sums are not checked. -/
  | beginsAnew
  deriving DecidableEq, Repr

/-- The greatest count, which is that of thirty-two bits. -/
def greatestCount : Nat := UInt32.size - 1

namespace Overflow

/-- One more than a count, if there is room for it. Otherwise it is the build that
decides. -/
def succ (overflow : Overflow) (count : Nat) : Except Breakdown Nat :=
  if count < greatestCount then .ok (count + 1)
  else
    match overflow with
    | .breaksDown => .error .overflow
    | .beginsAnew => .ok 0

variable {overflow : Overflow} {count next : Nat}

/-- Where there is room, every build counts alike. -/
theorem succ_of_room (overflow : Overflow) (room : count < greatestCount) :
    overflow.succ count = .ok (count + 1) := if_pos room

/-- A build that checks its sums does not count beyond the greatest count, and
breaks down there. -/
theorem succ_of_full (full : ¬count < greatestCount) :
    breaksDown.succ count = .error .overflow := if_neg full

/-- A build that does not check its sums counts from zero again. -/
theorem succ_anew (full : ¬count < greatestCount) : beginsAnew.succ count = .ok 0 := if_neg full

/-- A count is followed by the next one or, where there is no room for that, by
zero. So a count never stays as it is. -/
theorem succ_eq_ok (counted : overflow.succ count = .ok next) :
    next = count + 1 ∧ count < greatestCount ∨ next = 0 ∧ ¬count < greatestCount := by
  by_cases room : count < greatestCount
  · rw [succ_of_room overflow room] at counted
    exact .inl ⟨(Except.ok.inj counted).symm, room⟩
  · cases overflow with
    | breaksDown =>
      rw [succ_of_full room] at counted
      cases counted
    | beginsAnew =>
      rw [succ_anew room] at counted
      exact .inr ⟨(Except.ok.inj counted).symm, room⟩

/-- Counting goes on where it began anew, so a count is less whole turns of the count. -/
theorem succ_mod {begun : Nat} (counted : overflow.succ (begun % (greatestCount + 1)) = .ok next) :
    next = (begun + 1) % (greatestCount + 1) := by
  have size : greatestCount = 4294967295 := rfl
  rcases succ_eq_ok counted with ⟨same, room⟩ | ⟨same, full⟩ <;> rw [size] at * <;> omega

end Overflow

end ExtensionPublisher
