/-!
# Base 64

Three bytes are written as four digits of six bits. A text whose last group is not full is
filled up with one or two equals signs, and nothing but blanks follows those. Blanks and line
ends may stand anywhere. A hyphen ends the text, whatever follows it.
-/
namespace ExtensionPublisher.Certificate.Base64

/-- The value of a digit. -/
def digitValue? (c : Char) : Option Nat :=
  if 'A' ≤ c ∧ c ≤ 'Z' then some (c.toNat - 'A'.toNat)
  else if 'a' ≤ c ∧ c ≤ 'z' then some (c.toNat - 'a'.toNat + 26)
  else if '0' ≤ c ∧ c ≤ '9' then some (c.toNat - '0'.toNat + 52)
  else if c = '+' then some 62
  else if c = '/' then some 63
  else none

/-- Characters that are passed over. -/
def isBlank (c : Char) : Bool := c == ' ' || c == '\t' || c == '\n' || c == '\r'

/-- The bytes that digits hold. In a group that is not full the bits that fill no byte are
lost. -/
def bytes : List Nat → List UInt8
  | a :: b :: c :: d :: rest =>
    let group := ((a * 64 + b) * 64 + c) * 64 + d
    UInt8.ofNat (group / 65536) :: UInt8.ofNat (group / 256) :: UInt8.ofNat group :: bytes rest
  | [a, b, c] =>
    let group := (a * 64 + b) * 64 + c
    [UInt8.ofNat (group / 1024), UInt8.ofNat (group / 4)]
  | [a, b] => [UInt8.ofNat ((a * 64 + b) / 16)]
  | _ => []

/-- The bytes that a text holds, up to a hyphen. Blanks are passed over, and the
last group is filled up. -/
def decode? (text : List Char) : Option (List UInt8) := do
  let written := (text.takeWhile (· ≠ '-')).filter (!isBlank ·)
  let digits := written.takeWhile (digitValue? · |>.isSome)
  let filling := written.dropWhile (digitValue? · |>.isSome)
  guard (filling.all (· == '=') && filling.length ≤ 2 && written.length % 4 == 0)
  return bytes (digits.filterMap digitValue?)

/-- The digit of a value below 64. -/
def digit (value : Nat) : Char :=
  if value < 26 then Char.ofNat ('A'.toNat + value)
  else if value < 52 then Char.ofNat ('a'.toNat + (value - 26))
  else if value < 62 then Char.ofNat ('0'.toNat + (value - 52))
  else if value = 62 then '+' else '/'

/-- Bytes as a text, three of them in four digits. The last group is filled up. -/
def encode : List UInt8 → List Char
  | a :: b :: c :: rest =>
    let group := (a.toNat * 256 + b.toNat) * 256 + c.toNat
    digit (group / 262144) :: digit (group / 4096 % 64) :: digit (group / 64 % 64) ::
      digit (group % 64) :: encode rest
  | [a, b] =>
    let group := (a.toNat * 256 + b.toNat) * 4
    [digit (group / 4096), digit (group / 64 % 64), digit (group % 64), '=']
  | [a] => [digit (a.toNat / 4), digit (a.toNat % 4 * 16), '=', '=']
  | [] => []

end ExtensionPublisher.Certificate.Base64
