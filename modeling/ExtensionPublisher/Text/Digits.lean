/-!
# Numbers written in digits

A number is read from the left. Reading stops at the first character that is no digit of
the base, or at the first digit that takes the value past the limit; a character that does
both is reported as no digit.
-/
namespace ExtensionPublisher.Text

/-- Why a sequence of characters is no number within the limit. -/
inductive DigitsFault where
  | empty
  | notADigit
  | tooLarge
  deriving DecidableEq, Repr

/-- The reason in words. -/
def DigitsFault.message : DigitsFault → String
  | .empty => "cannot parse integer from empty string"
  | .notADigit => "invalid digit found in string"
  | .tooLarge => "number too large to fit in target type"

/-- The value of a digit of a base up to sixteen. Letters may be of either case. -/
def digitValue? (base : Nat) (c : Char) : Option Nat :=
  let value? : Option Nat :=
    if '0' ≤ c ∧ c ≤ '9' then some (c.toNat - '0'.toNat)
    else if 'a' ≤ c ∧ c ≤ 'f' then some (c.toNat - 'a'.toNat + 10)
    else if 'A' ≤ c ∧ c ≤ 'F' then some (c.toNat - 'A'.toNat + 10)
    else none
  value?.filter (· < base)

/-- Read the remaining digits onto the value so far. The limit is checked at every
digit, so the first one too many is the fault, even if something behind it is no
digit. -/
def readDigits (base limit : Nat) (value : Nat) : List Char → Except DigitsFault Nat
  | [] => .ok value
  | c :: rest =>
    match digitValue? base c with
    | none => .error .notADigit
    | some digit =>
      let next := value * base + digit
      if next ≤ limit then readDigits base limit next rest else .error .tooLarge

/-- Read a non-empty sequence of digits as a number of at most the limit. Leading
zeros are permitted. -/
def digits (base limit : Nat) (cs : List Char) : Except DigitsFault Nat :=
  if cs.isEmpty then .error .empty else readDigits base limit 0 cs

/-- Read a decimal number that a plus sign may precede. A second sign is no digit.
-/
def unsignedDecimal? (limit : Nat) (cs : List Char) : Option Nat :=
  match cs with
  | '+' :: rest => (digits 10 limit rest).toOption
  | cs => (digits 10 limit cs).toOption

end ExtensionPublisher.Text
