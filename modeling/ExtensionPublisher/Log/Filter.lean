import ExtensionPublisher.Log.Entry
import ExtensionPublisher.Text.Alphanumeric
import ExtensionPublisher.Text.Blank
import ExtensionPublisher.Text.Case
import ExtensionPublisher.Text.Digits
import ExtensionPublisher.Text.Parts

/-!
# What the log shows

Which entries are shown is said by directives, separated by commas. A directive gives a level,
for all topics or for those that begin in a certain way, and perhaps only for entries that have
a certain value. Of the directives that concern an entry the most specific one decides, and of
equally specific ones the last. An entry that no directive concerns is not shown.

A directive is `level`, `topic`, `topic=level`, or with an activity in square brackets behind
the topic, in which a value stands in braces. Entries of this program belong to no activity,
so directives that name one concern none of them; neither do those that ask for more of a value
than to be there. A directive without a level shows everything that it concerns.

Blanks around a directive are passed over where its parts are recognised. The parts are cut out
of the text with the blanks, by position, so blanks in front displace them, and blanks at the
end belong to the last part.
-/
namespace ExtensionPublisher.Log

/-- A value that an entry has to have. No entry has one that is asked for in
particular. -/
structure Need where
  name : String
  /-- Whether more is asked of the value than to be there. -/
  particular : Bool
  deriving DecidableEq, Repr

/-- Which entries a directive concerns, and how much of them it shows. -/
structure Directive where
  level : Level := .trace
  /-- How the topic begins. -/
  topic? : Option String := none
  activity? : Option String := none
  need? : Option Need := none
  deriving DecidableEq, Repr

/-- The level that a word or a number names. Words may be in any case. -/
def Level.read? (cs : List Char) : Option Level :=
  match Text.unsignedDecimal? 18446744073709551615 cs with
  | some rank => Level.all.find? (·.rank == rank)
  | none => Level.all.find? fun level => Text.sameWord level.word (String.ofList cs)

/-- A character of a directive: how it is recognised, and what is cut out in its
place. The two differ where blanks stand in front of the directive. -/
structure Position where
  seen : Char
  kept : Char

/-- The positions of a text, and what is left behind the last one. Characters are
recognised without the blanks and counted with them. -/
def positions (cs : List Char) : List Position × List Char :=
  let seen := Text.trim Text.isBlank cs
  (List.zipWith Position.mk seen cs, cs.drop seen.length)

/-- What is cut out at positions. -/
def kept (positions : List Position) : List Char := positions.map Position.kept

namespace Directive

/-- Whether a directive may begin with a character. -/
def isOpening (c : Char) : Bool :=
  c == '-' || c == ':' || c == '_' || Text.isAlphanumeric c

/-- The level behind an equals sign. Without a word it is the one that shows
everything. -/
def readLevel? (word : List Char) : Option Level :=
  if word.isEmpty then some .trace else Level.read? word

/-- The value that stands in braces. What it should be is not kept, as nothing is
compared with it. -/
def readNeed? (inside : List Char) : Option Need :=
  if inside.isEmpty then none
  else some ⟨String.ofList (inside.takeWhile (· ≠ '=')), inside.contains '='⟩

/-- Read what stands behind the square bracket that closes an activity. -/
def readEnd? (directive : Directive) (left : List Char) : List Position → Option Directive
  | [] => some directive
  | position :: rest =>
    if position.seen = '=' then do
      let level ← readLevel? (kept rest ++ left)
      return { directive with level }
    else none

/-- Read what stands behind the square bracket that opens an activity. -/
def readActivity? (directive : Directive) (left : List Char) (positions : List Position) :
    Option Directive :=
  let inside (p : Position) : Bool := p.seen ≠ ']' && p.seen ≠ '\x7b'
  let name := String.ofList (kept (positions.takeWhile inside))
  match positions.dropWhile inside with
  | [] => none
  | closing :: rest =>
    if closing.seen = ']' then readEnd? { directive with activity? := some name } left rest
    else do
      let within (p : Position) : Bool := p.seen ≠ '\x7d'
      let need ← readNeed? (kept (rest.takeWhile within))
      let directive := { directive with
        activity? := if name.isEmpty then none else some name
        need? := some need }
      match rest.dropWhile within with
      | _ :: bracket :: rest => if bracket.seen = ']' then readEnd? directive left rest else none
      | _ => none

/-- Read a directive. Most of it may be missing, and what cannot be read is no
directive. -/
def read? (cs : List Char) : Option Directive :=
  let (positions, left) := positions cs
  match positions with
  | [] => none
  | first :: rest =>
    if first.seen = '[' then readActivity? {} left rest
    else if !isOpening first.seen then none
    else
      let within (p : Position) : Bool := p.seen ≠ '=' && p.seen ≠ '['
      let word := kept (positions.takeWhile within)
      match positions.dropWhile within with
      | [] =>
        match Level.read? (word ++ left) with
        | some level => some { level }
        | none => some { topic? := some (String.ofList (word ++ left)) }
      | mark :: rest =>
        let directive : Directive := { topic? := some (String.ofList word) }
        if mark.seen = '=' then do
          let level ← readLevel? (kept rest ++ left)
          return { directive with level }
        else readActivity? directive left rest

/-- Whether a directive concerns an entry. One that names an activity concerns none,
as the program has no activities. -/
def concerns (directive : Directive) (entry : Entry) : Bool :=
  directive.activity?.isNone &&
    directive.topic?.all (fun topic => topic.toList.isPrefixOf entry.topic.toList) &&
    directive.need?.all fun need => !need.particular && entry.has need.name

/-- How specific a directive is: by the length of the topic, and where that does not decide by
the need of a value, of which the last in the alphabet goes first. -/
def specificity (directive : Directive) : Nat × Nat × List Nat :=
  ((directive.topic?.map fun topic => topic.length + 1).getD 0,
    if directive.need?.isSome then 1 else 0,
    (directive.need?.map fun need => need.name.toList.map Char.toNat).getD [])

/-- Whether a directive is more specific than another: by its topic, then by whether
it needs a value, then by the name of the value. -/
def exceeds (directive other : Directive) : Bool :=
  let (topic, needs, name) := directive.specificity
  let (topic', needs', name') := other.specificity
  topic' < topic || (topic' == topic && (needs' < needs || (needs' == needs && decide (name' < name))))

end Directive

/-- What the log shows. -/
abbrev Filter := List Directive

namespace Filter

/-- What the log usually shows. -/
def usual : Filter := [{ level := .info }]

/-- Read directives. Without a directive nothing is shown; with one that cannot be read there
is no filter. -/
def read? (text : String) : Option Filter :=
  ((Text.parts ',' text.toList).filter fun part => !part.isEmpty).mapM Directive.read?

/-- The filter that a setting asks for. It is the usual one where the setting is not given or
cannot be read. -/
def ofSetting (setting? : Option String) : Filter := (setting?.bind read?).getD usual

/-- The directive that decides on an entry: the most specific one of those that
concern it, and the last of several. -/
def deciding? (filter : Filter) (entry : Entry) : Option Directive :=
  (filter.filter (·.concerns entry)).foldl
    (fun best? directive =>
      match best? with
      | none => some directive
      | some best => if best.exceeds directive then best? else some directive) none

/-- Whether an entry is shown. Without a directive that concerns it, it is not. -/
def shows (filter : Filter) (entry : Entry) : Bool :=
  (filter.deciding? entry).any fun directive => entry.severity.level.rank ≤ directive.level.rank

end Filter

end ExtensionPublisher.Log
