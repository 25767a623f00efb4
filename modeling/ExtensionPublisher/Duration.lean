/-!
# Durations and their text

A duration is a natural number, the number of its nanoseconds. Its text uses the largest of the units
second, millisecond, microsecond and nanosecond that it reaches, and as many decimals as it
needs: no trailing zero, and no point before nothing.
-/
namespace ExtensionPublisher

namespace Duration

/-- The nanoseconds of a whole number of seconds. -/
def ofSeconds (n : Nat) : Nat := n * 1000000000

/-- The nanoseconds of a whole number of milliseconds. -/
def ofMillis (n : Nat) : Nat := n * 1000000

/-- The whole seconds in a duration. -/
def seconds (d : Nat) : Nat := d / 1000000000

/-- The nanoseconds beyond the whole seconds. -/
def subsecond (d : Nat) : Nat := d % 1000000000

/-- The whole milliseconds in a duration. -/
def millis (d : Nat) : Nat := d / 1000000

/-- The decimals of `part` out of `whole`, a power of ten: as many digits as `whole` has
zeros, less the trailing zeros. `places` is the number of zeros. -/
def decimals (places part : Nat) : List Char :=
  let written := Nat.toDigits 10 part
  let padded := List.replicate (places - written.length) '0' ++ written
  ((padded.take places).reverse.dropWhile (· == '0')).reverse

/-- A whole number of units with its decimals and the name of the unit. There are no
decimals if it is whole, and no zeros at their end. -/
def inUnit (d unit places : Nat) (name : String) : String :=
  let fraction := if d % unit = 0 then [] else '.' :: decimals places (d % unit)
  toString (d / unit) ++ String.ofList fraction ++ name

/-- The text of a duration, in the greatest unit of which there is at least one. -/
def text (d : Nat) : String :=
  if d ≥ 1000000000 then inUnit d 1000000000 9 "s"
  else if d ≥ 1000000 then inUnit d 1000000 6 "ms"
  else if d ≥ 1000 then inUnit d 1000 3 "µs"
  else inUnit d 1 0 "ns"

end Duration

end ExtensionPublisher
