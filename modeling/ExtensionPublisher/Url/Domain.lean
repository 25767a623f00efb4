import ExtensionPublisher.Text.Hidden
import ExtensionPublisher.Text.Parts
import ExtensionPublisher.Text.WidthTables
import ExtensionPublisher.Url.Punycode

/-!
# Domains

A domain is written in ASCII, in lower case. Characters are first brought to one form: case
and width are levelled, characters that take no space are left out, and characters without a
visible form are refused. A label with characters beyond ASCII is then written in ASCII behind
`xn--`; a label that comes so written must stand for one that is written so.

A domain has no blanks and none of the marks that divide addresses.
-/
namespace ExtensionPublisher.Url

/-- Characters that no domain has. They are looked for in the ASCII form, where
nothing can hide them any more. -/
def isForbiddenInDomain (c : Char) : Bool :=
  c.toNat ≤ 0x20 || c.toNat == 0x7F ||
  ['#', '/', ':', '<', '>', '?', '@', '[', '\\', ']', '^', '|', '%'].contains c

/-- The lower case of a letter of the Latin, Greek or Cyrillic alphabet. Other
characters stay as they are. -/
def lowerLetter (c : Char) : Char :=
  let n := c.toNat
  if n < 0x80 then c.toLower
  else if (0xC0 ≤ n ∧ n ≤ 0xDE ∧ n ≠ 0xD7) ∨ (0x391 ≤ n ∧ n ≤ 0x3AB) ∨ (0x410 ≤ n ∧ n ≤ 0x42F) then
    Char.ofNat (n + 32)
  else if 0x400 ≤ n ∧ n ≤ 0x40F then Char.ofNat (n + 80)
  else if (0x100 ≤ n ∧ n ≤ 0x137 ∧ n ≠ 0x130 ∨ 0x14A ≤ n ∧ n ≤ 0x177 ∨ 0x460 ≤ n ∧ n ≤ 0x481 ∨
      0x48A ≤ n ∧ n ≤ 0x4BF ∨ 0x4D0 ≤ n ∧ n ≤ 0x52F) ∧ n % 2 = 0 then Char.ofNat (n + 1)
  else c

/-- Whether a character is left out of a domain, because it cannot be seen. -/
def isLeftOut (c : Char) : Bool :=
  let n := c.toNat
  n == 0xAD || n == 0x34F || (0x180B ≤ n && n ≤ 0x180F) || n == 0x200B || n == 0x2060 ||
  n == 0x2064 || (0xFE00 ≤ n && n ≤ 0xFE0F) || n == 0xFEFF || (0xE0100 ≤ n && n ≤ 0xE01EF)

/-- The form of a character in a domain, if it has one. Wide characters have their
narrow form, and dots of all kinds are one. -/
def levelled? (c : Char) : Option (List Char) :=
  let n := c.toNat
  if n < 0x80 then some [c.toLower]
  else if 0xFF01 ≤ n ∧ n ≤ 0xFF5E then some [(Char.ofNat (n - 0xFEE0)).toLower]
  else if n = 0x3002 ∨ n = 0xFF61 then some ['.']
  else if n = 0xA0 ∨ (0x2000 ≤ n ∧ n ≤ 0x200A) ∨ n = 0x202F ∨ n = 0x205F ∨ n = 0x3000 then some [' ']
  else if isLeftOut c then some []
  else if Text.isHidden c && !Text.inRanges Text.zeroWidthRanges c then none
  else if n = 0xDF then some [c]
  else some [lowerLetter c]

/-- Whether a label with characters beyond ASCII can stand in a domain: its characters have no
other form, and the first one stands by itself. -/
def isProperLabel (label : List Char) : Bool :=
  label.all (fun c => levelled? c == some [c] && !isForbiddenInDomain c) &&
  !label.head?.any (Text.inRanges Text.zeroWidthRanges)

/-- A label in ASCII. One that is ASCII already and begins like an encoded label has
to encode something proper that is not ASCII. -/
def asciiLabel? (label : List Char) : Option (List Char) :=
  if label.all (·.toNat < 128) then
    if label.take 4 = "xn--".toList then
      match Punycode.decode? (label.drop 4) with
      | none => none
      | some meant =>
        if isProperLabel meant && meant.any (128 ≤ ·.toNat) then some label else none
    else some label
  else if label.take 4 ≠ "xn--".toList && isProperLabel label then
    some ("xn--".toList ++ Punycode.encode label)
  else none

/-- A domain in ASCII. Characters are levelled before it is divided, since some of
them are dots. -/
def asciiDomain? (cs : List Char) : Option (List Char) := do
  let forms ← cs.mapM levelled?
  let labels ← (Text.parts '.' forms.flatten).mapM asciiLabel?
  let domain := Text.join '.' labels
  if domain.any isForbiddenInDomain then none else some domain

end ExtensionPublisher.Url
