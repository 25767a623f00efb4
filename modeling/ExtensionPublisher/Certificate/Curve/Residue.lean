/-!
# Residues

Arithmetic with the remainders of a prime. Every remainder but zero has an inverse, which is a
power of it, and so has every square a root if the prime leaves three when divided by four.
-/
namespace ExtensionPublisher.Certificate.Curve

/-- A sum of several equal values, given how two are added and what adds nothing. The number
of additions grows with the number of its binary places. -/
def multiple {α : Type} (add : α → α → α) (zero : α) (count : Nat) (value : α) : α :=
  if count = 0 then zero
  else
    let half := multiple add zero (count / 2) (add value value)
    if count % 2 = 0 then half else add value half
termination_by count
decreasing_by omega

/-- The remainder of a power. -/
def power (prime base exponent : Nat) : Nat :=
  multiple (fun a b => a * b % prime) (1 % prime) exponent (base % prime)

/-- The remainder by which another gives one. For a prime it is a power of the
other. -/
def inverse (prime a : Nat) : Nat := power prime a (prime - 2)

/-- The remainder of a difference. -/
def minus (prime a b : Nat) : Nat := (a + (prime - b % prime)) % prime

/-- A remainder with a given square, if there is one. The power is a root only for
primes of a certain kind, so it is squared again. -/
def root? (prime square : Nat) : Option Nat :=
  let found := power prime square ((prime + 1) / 4)
  if found * found % prime = square % prime then some found else none

end ExtensionPublisher.Certificate.Curve
