import ExtensionPublisher.Url.Domain
import ExtensionPublisher.Url.Fault
import ExtensionPublisher.Url.Percent

/-!
# Hosts

A host is a domain, or a numeric address of version 4 or 6. A domain whose last label is a
number is a numeric address, and none if the numbers do not fit: one to four numbers, in
decimal, octal or hexadecimal, of which the last fills what the others leave. An address of
version 6 stands in brackets: eight groups of hexadecimal digits, of which one run of zeros
may be left out, and the last two may be written as an address of version 4.
-/
namespace ExtensionPublisher.Url

/-- Where an address leads: a name, or a number in one of its two kinds. -/
inductive Host where
  | domain (name : List Char)
  | ipv4 (address : Nat)
  | ipv6 (groups : List Nat)
  deriving DecidableEq, Repr

/-- What a part of a numeric address is. A number that is too large is told apart,
since a domain with one is no domain either. -/
inductive Ipv4Part where
  | notANumber
  | tooLarge
  | number (value : Nat)
  deriving DecidableEq, Repr

/-- Read a part of a numeric address in the base that its beginning tells: sixteen
behind `0x`, eight behind a zero, and ten otherwise. -/
def ipv4Part (cs : List Char) : Ipv4Part :=
  let read (base : Nat) (digits : List Char) : Ipv4Part :=
    if digits.isEmpty then .number 0
    else if digits.any fun c => (Text.digitValue? base c).isNone then .notANumber
    else
      match Text.digits base 4294967295 digits with
      | .ok value => .number value
      | .error _ => .tooLarge
  match cs with
  | [] => .notANumber
  | '0' :: 'x' :: rest | '0' :: 'X' :: rest => read 16 rest
  | '0' :: c :: rest => read 8 (c :: rest)
  | cs => read 10 cs

/-- The parts of a domain, without an empty last one. A dot at the end of a domain
does not make it another one. -/
def numericParts (domain : List Char) : List (List Char) :=
  let parts := Text.parts '.' domain
  if 1 < parts.length && parts.getLast? == some [] then parts.dropLast else parts

/-- Whether the last label of a domain is a number. Such a domain has to be a
numeric address, or it is nothing. -/
def endsInNumber (domain : List Char) : Bool :=
  match (numericParts domain).getLast? with
  | none | some [] => false
  | some last => last.all Char.isDigit || ipv4Part last != .notANumber

/-- Read a numeric address of version 4. It may have fewer than four parts; then the
last one fills what is left. -/
def ipv4 (domain : List Char) : Except UrlFault Nat :=
  let values := (numericParts domain).mapM fun part =>
    match ipv4Part part with
    | .number value => some value
    | _ => none
  match values with
  | none => .error .invalidIpv4
  | some values =>
    let firsts := values.dropLast
    let last := values.getLast?.getD 0
    if 4 < values.length ∨ firsts.any (255 < ·) ∨ Nat.pow 256 (4 - firsts.length) ≤ last then
      .error .invalidIpv4
    else
      .ok (firsts.zipIdx.foldl (fun sum part => sum + part.1 * Nat.pow 256 (3 - part.2)) last)

/-- A number from 0 to 255 without leading zeros, which might be taken for a number
in base eight. -/
def octet? (cs : List Char) : Option Nat :=
  match cs with
  | ['0'] => some 0
  | '0' :: _ => none
  | cs => (Text.digits 10 255 cs).toOption

/-- A group of an address of version 6, of at most four digits. -/
def hexGroup? (cs : List Char) : Option Nat :=
  if 4 < cs.length then none else (Text.digits 16 65535 cs).toOption

/-- The two groups that an address of version 4 makes, where it stands at the end of
one of version 6. -/
def octetGroups? (cs : List Char) : Option (List Nat) :=
  match (Text.parts '.' cs).mapM octet? with
  | some [a, b, c, d] => some [a * 256 + b, c * 256 + d]
  | _ => none

/-- The groups of one side of an address of version 6. Only the last part of the whole address
may be an address of version 4. -/
def ipv6Side? (closing : Bool) (cs : List Char) : Option (List Nat) :=
  if cs.isEmpty then some []
  else
    let parts := Text.parts ':' cs
    let last := parts.getLast?.getD []
    if closing && last.contains '.' then do
      let firsts ← parts.dropLast.mapM hexGroup?
      return firsts ++ (← octetGroups? last)
    else parts.mapM hexGroup?

/-- Divide an address of version 6 where zeros are left out. Where there are two
such places, the first one divides, and the other is a fault of the second part. -/
def atGap? : List Char → Option (List Char × List Char)
  | ':' :: ':' :: rest => some ([], rest)
  | c :: rest => (atGap? rest).map fun (left, right) => (c :: left, right)
  | [] => none

/-- Read the groups of an address of version 6. There are eight, or some are left
out in one place, which stands for at least one. -/
def ipv6? (cs : List Char) : Option (List Nat) :=
  match atGap? cs with
  | none => (ipv6Side? true cs).filter (·.length = 8)
  | some (left, right) => do
    let before ← ipv6Side? false left
    let after ← ipv6Side? true right
    if before.length + after.length < 8 then
      return before ++ List.replicate (8 - before.length - after.length) 0 ++ after
    else none

namespace Host

/-- Read the host of an address of a known kind. Escapes are undone first, so a host
may be written in several ways. -/
def read (cs : List Char) : Except UrlFault Host :=
  match cs with
  | '[' :: rest =>
    if rest.getLast? = some ']' then
      match ipv6? rest.dropLast with
      | some groups => .ok (.ipv6 groups)
      | none => .error .invalidIpv6
    else .error .invalidIpv6
  | cs =>
    match (Text.Utf8.decode? (percentDecode cs)).bind asciiDomain? with
    | none => .error .invalidDomain
    | some [] => .error .emptyHost
    | some name => if endsInNumber name then (Url.ipv4 name).map .ipv4 else .ok (.domain name)

/-- Characters that no host has, because they would end it or be skipped. -/
def isForbidden (c : Char) : Bool :=
  ['\x00', '\t', '\n', '\r', ' ', '#', '/', ':', '<', '>', '?', '@', '[', '\\', ']', '^', '|'].contains c

/-- Read the host of an address of an unknown kind. Nothing is known of its names,
so they are kept as they are written. -/
def readForeign (cs : List Char) : Except UrlFault Host :=
  match cs with
  | '[' :: _ => read cs
  | cs =>
    if cs.any isForbidden then .error .invalidHostCharacter
    else .ok (.domain (percentEncode isUnprintable cs))

/-- The length of the run of zeros that groups begin with. -/
def zerosAt (groups : List Nat) : Nat := (groups.takeWhile (· = 0)).length

/-- Where the longest run of at least two zeros begins, the first of several, and its length. -/
def longestZeros (groups : List Nat) : Option (Nat × Nat) :=
  (List.range groups.length).foldl (fun best start =>
    let length := zerosAt (groups.drop start)
    if 2 ≤ length ∧ (best.map (·.2)).getD 1 < length then some (start, length) else best) none

/-- Groups in hexadecimal, colons between them, each without leading zeros. -/
def groupText (groups : List Nat) : List Char := Text.join ':' (groups.map (Nat.toDigits 16))

/-- The host as it is written in an address. -/
def text : Host → List Char
  | .domain name => name
  | .ipv4 address =>
    Text.join '.' ([3, 2, 1, 0].map fun place => Nat.toDigits 10 (address / Nat.pow 256 place % 256))
  | .ipv6 groups =>
    match longestZeros groups with
    | none => '[' :: groupText groups ++ [']']
    | some (start, length) =>
      '[' :: groupText (groups.take start) ++ [':', ':'] ++
        groupText (groups.drop (start + length)) ++ [']']

end Host

end ExtensionPublisher.Url
