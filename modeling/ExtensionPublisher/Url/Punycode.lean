/-!
# Names in ASCII

A label of a domain that has characters beyond ASCII is written in ASCII: first its ASCII
characters, then, behind a hyphen, where the others are to be inserted. The insertions are
made in the order of code points. Each is one number, the distance from the one before,
written in digits of base 36 whose weights shrink from a threshold on; the thresholds follow
the sizes of the numbers seen so far.
-/
namespace ExtensionPublisher.Url.Punycode

/-- The letter or digit of a value below 36. -/
def digit (value : Nat) : Char :=
  if value < 26 then Char.ofNat ('a'.toNat + value) else Char.ofNat ('0'.toNat + value - 26)

/-- The value of a letter or digit. -/
def digitValue? (c : Char) : Option Nat :=
  if 'a' ≤ c ∧ c ≤ 'z' then some (c.toNat - 'a'.toNat)
  else if 'A' ≤ c ∧ c ≤ 'Z' then some (c.toNat - 'A'.toNat)
  else if '0' ≤ c ∧ c ≤ '9' then some (c.toNat - '0'.toNat + 26)
  else none

/-- The threshold of the digit at a place that counts in steps of 36. A digit below
it is the last one of its number. -/
def threshold (place bias : Nat) : Nat :=
  if place ≤ bias then 1 else if bias + 26 ≤ place then 26 else place - bias

/-- A threshold is at most twenty-six. -/
theorem threshold_le (place bias : Nat) : threshold place bias ≤ 26 := by
  unfold threshold
  split
  · omega
  · split <;> omega

/-- A threshold is at least one. -/
theorem threshold_pos (place bias : Nat) : 1 ≤ threshold place bias := by
  unfold threshold
  split
  · omega
  · split <;> omega

/-- Divide by 35 until at most 455 is left, counting divisions in steps of 36. -/
def shrink (delta place : Nat) : Nat × Nat :=
  if 455 < delta then shrink (delta / 35) (place + 36) else (delta, place)
termination_by delta
decreasing_by omega

/-- The bias behind an insertion. The first one is damped more, since it says little
about those that follow. -/
def adapt (delta count : Nat) (first : Bool) : Nat :=
  let damped := if first then delta / 700 else delta / 2
  let (rest, place) := shrink (damped + damped / count) 0
  place + 36 * rest / (rest + 38)

/-- The digits of a number, from a place on. The last one is below its threshold, so
nothing has to end the number. -/
def digits (bias place number : Nat) : List Char :=
  let t := threshold place bias
  if number < t then [digit number]
  else digit (t + (number - t) % (36 - t)) :: digits bias (place + 36) ((number - t) / (36 - t))
termination_by number
decreasing_by
  have atLeast := threshold_pos place bias
  have atMost := threshold_le place bias
  have less : (number - threshold place bias) / (36 - threshold place bias) ≤
      number - threshold place bias := Nat.div_le_self _ _
  omega

/-- Read one number from a place on: the number, and the characters behind it. It
ends at a digit below its threshold. -/
def readNumber? (bias : Nat) : Nat → Nat → Nat → List Char → Option (Nat × List Char)
  | _, _, _, [] => none
  | place, weight, value, c :: rest =>
    match digitValue? c with
    | none => none
    | some d =>
      let t := threshold place bias
      let value := value + d * weight
      if d < t then some (value, rest)
      else readNumber? bias (place + 36) (weight * (36 - t)) value rest

/-- Reading a number takes at least one character. This is why reading all
insertions comes to its end. -/
theorem length_of_read_number {bias place weight value number : Nat} {cs rest : List Char}
    (read : readNumber? bias place weight value cs = some (number, rest)) :
    rest.length < cs.length := by
  induction cs generalizing place weight value with
  | nil => simp [readNumber?] at read
  | cons c more inductionHypothesis =>
    simp only [readNumber?] at read
    split at read
    · cases read
    · split at read
      · cases read; simp
      · have shorter := inductionHypothesis read
        simp only [List.length_cons]
        omega

/-- Insert a character at a position. -/
def insertAt (position : Nat) (c : Char) (cs : List Char) : List Char :=
  cs.take position ++ c :: cs.drop position

/-- Carry out the insertions. `next` is the least code point that may come next, and
`position` where its search begins. -/
def insertAll? (text : List Char) (next position bias : Nat) (cs : List Char) :
    Option (List Char) :=
  match cs with
  | [] => some text
  | c :: more =>
    match taken : readNumber? bias 36 1 0 (c :: more) with
    | none => none
    | some (number, rest) =>
      let count := text.length + 1
      let total := position + number
      let code := next + total / count
      let place := total % count
      if code.isValidChar then
        insertAll? (insertAt place (Char.ofNat code) text) code (place + 1)
          (adapt number count (text.all (·.toNat < 128))) rest
      else none
termination_by cs.length
decreasing_by exact length_of_read_number taken

/-- The label that ASCII text stands for. What stands in front of the last hyphen
are its own characters, and the rest tells what is inserted. -/
def decode? (cs : List Char) : Option (List Char) :=
  let ending := cs.reverse.takeWhile (· ≠ '-')
  let basic := (cs.reverse.drop (ending.length + 1)).reverse
  if cs.any (128 ≤ ·.toNat) then none
  else insertAll? basic 128 0 72 ending.reverse

/-- The state while a label is written: the digits so far, the distance from the last
insertion, the bias, and how many characters have been dealt with. -/
structure Writing where
  written : List Char
  delta : Nat
  bias : Nat
  handled : Nat

/-- Pass one character of the label on the way to the insertions of one code point.
Those below it are there already, and are counted. -/
def pass (basic code : Nat) (writing : Writing) (c : Char) : Writing :=
  if c.toNat < code then { writing with delta := writing.delta + 1 }
  else if c.toNat = code then
    { written := writing.written ++ digits writing.bias 36 writing.delta
      delta := 0
      bias := adapt writing.delta (writing.handled + 1) (writing.handled = basic)
      handled := writing.handled + 1 }
  else writing

/-- Write the insertions of code points in increasing order. Each number tells how
many places were passed since the last insertion. -/
def writeAll (label : List Char) (basic : Nat) : List Nat → Nat → Writing → Writing
  | [], _, writing => writing
  | code :: rest, next, writing =>
    let writing := { writing with delta := writing.delta + (code - next) * (writing.handled + 1) }
    let writing := label.foldl (pass basic code) writing
    writeAll label basic rest (code + 1) { writing with delta := writing.delta + 1 }

/-- A label in ASCII. Its own ASCII characters stand in front, as they are. -/
def encode (label : List Char) : List Char :=
  let basic := label.filter (·.toNat < 128)
  let codes := ((label.filter (128 ≤ ·.toNat)).map Char.toNat).eraseDups.mergeSort
  let ending := (writeAll label basic.length codes 128 ⟨[], 0, 72, basic.length⟩).written
  if basic.isEmpty then ending else basic ++ '-' :: ending

end ExtensionPublisher.Url.Punycode
