import ExtensionPublisher.Text.Blank
import ExtensionPublisher.Text.Digits
import ExtensionPublisher.Xml.Tag

/-!
# References to characters

In text a character can be written as a reference, between `&` and `;`: by one of five
names, or by its number after `#`, in decimal, or in hexadecimal after `#x`. Writing uses the
names for the five characters they stand for; reading accepts all forms and refuses any `&`
that begins no reference. Reading what was written gives the text back: `resolve_escape`.
-/
namespace ExtensionPublisher.Xml

open Text (DigitsFault)

/-- Why a number names no character. A number may be no number, too large, or that
of no character. -/
inductive NumberFault where
  | signed
  | digits (fault : DigitsFault)
  | noCharacter (code : Nat)
  | zero
  deriving DecidableEq, Repr

/-- The fault in words. -/
def NumberFault.message : NumberFault → String
  | .signed => "unexpected number sign"
  | .digits fault => fault.message
  | .noCharacter code => "`" ++ toString code ++ "` is not a valid codepoint"
  | .zero => "0x0 character is not permitted in XML"

/-- Why text has a broken reference. Places are counted in bytes of that text. -/
inductive ReferenceFault where
  | unterminated (start stop : Nat)
  | unknown (start stop : Nat) (name : List Char)
  | number (fault : NumberFault)
  deriving DecidableEq, Repr

/-- The fault in words. -/
def ReferenceFault.message : ReferenceFault → String
  | .unterminated start stop =>
    "Error while escaping character at range " ++ toString start ++ ".." ++ toString stop ++
      ": Cannot find ';' after '&'"
  | .unknown start stop name =>
    "at " ++ toString start ++ ".." ++ toString stop ++ ": unrecognized entity `" ++
      String.ofList name ++ "`"
  | .number fault => "invalid character reference: " ++ fault.message

/-- The character of a name. There are five names, and no others can be declared. -/
def namedCharacter? (name : List Char) : Option Char :=
  match String.ofList name with
  | "lt" => some '<'
  | "gt" => some '>'
  | "amp" => some '&'
  | "apos" => some '\''
  | "quot" => some '"'
  | _ => none

/-- The character of a number. Zero is no character of a document. -/
def characterOfCode (code : Nat) : Except NumberFault Char :=
  if code = 0 then .error .zero
  else if code.isValidChar then .ok (Char.ofNat code)
  else .error (.noCharacter code)

/-- The character of a number in the digits of a base. A sign is refused before the digits
are read. -/
def characterOfDigits (base : Nat) (cs : List Char) : Except NumberFault Char :=
  if cs.head? = some '+' ∨ cs.head? = some '-' then .error .signed
  else
    match Text.digits base 4294967295 cs with
    | .error fault => .error (.digits fault)
    | .ok code => characterOfCode code

/-- The character of what stands between `&` and `;`: a number in one of two bases,
or a name. -/
def referenced (start : Nat) (name : List Char) : Except ReferenceFault Char :=
  match name with
  | '#' :: 'x' :: cs => (characterOfDigits 16 cs).mapError .number
  | '#' :: cs => (characterOfDigits 10 cs).mapError .number
  | name =>
    match namedCharacter? name with
    | some c => .ok c
    | none => .error (.unknown start (start + byteCount name) name)

/-- Resolve the references in the rest of a text of `total` bytes, from a place outside any
reference, or from inside one that began behind a place, its name so far newest first. -/
def resolveFrom (total : Nat) : Nat → Option (Nat × List Char) → List Char →
    Except ReferenceFault (List Char)
  | _, none, [] => .ok []
  | _, some (start, _), [] => .error (.unterminated start total)
  | offset, none, c :: rest =>
    if c = '&' then resolveFrom total (offset + 1) (some (offset, [])) rest
    else do return c :: (← resolveFrom total (offset + c.utf8Size) none rest)
  | offset, some (start, name), c :: rest =>
    if c = '&' then .error (.unterminated start total)
    else if c = ';' then do
      let meant ← referenced (start + 1) name.reverse
      return meant :: (← resolveFrom total (offset + 1) none rest)
    else resolveFrom total (offset + c.utf8Size) (some (start, c :: name)) rest

/-- The characters that text stands for. One faulty reference is enough for there to
be none. -/
def resolve (text : List Char) : Except ReferenceFault (List Char) :=
  resolveFrom (byteCount text) 0 none text

/-- One character as it is written in text. Every character that markup could be
made of is written as a reference. -/
def escapeCharacter (c : Char) : List Char :=
  if c = '<' then "&lt;".toList
  else if c = '>' then "&gt;".toList
  else if c = '&' then "&amp;".toList
  else if c = '\'' then "&apos;".toList
  else if c = '"' then "&quot;".toList
  else [c]

/-- Characters as they are written in text. -/
def escape (cs : List Char) : List Char := cs.flatMap escapeCharacter

/-- A written character is read as itself, wherever it stands. Five characters are written as references,
and any other one begins none. -/
theorem resolve_from_escape_character (total offset : Nat) (c : Char) (rest : List Char) :
    ∃ next, resolveFrom total offset none (escapeCharacter c ++ rest) =
      (resolveFrom total next none rest).map (c :: ·) := by
  unfold escapeCharacter
  split
  · next special =>
    subst special
    exact ⟨_, rfl⟩
  split
  · next special =>
    subst special
    exact ⟨_, rfl⟩
  split
  · next special =>
    subst special
    exact ⟨_, rfl⟩
  split
  · next special =>
    subst special
    exact ⟨_, rfl⟩
  split
  · next special =>
    subst special
    exact ⟨_, rfl⟩
  · next notAmp _ _ =>
    refine ⟨offset + c.utf8Size, ?_⟩
    simp only [List.cons_append, List.nil_append, resolveFrom, notAmp, if_false]
    cases resolveFrom total (offset + c.utf8Size) none rest <;> rfl

/-- Reading what was written gives the characters back. Positions only matter to what is reported, so
this is shown for all of them. -/
theorem resolve_escape (cs : List Char) : resolve (escape cs) = .ok cs := by
  have general : ∀ total offset, resolveFrom total offset none (escape cs) = .ok cs := by
    induction cs with
    | nil => intros; rfl
    | cons c rest inductionHypothesis =>
      intro total offset
      obtain ⟨next, same⟩ := resolve_from_escape_character total offset c (escape rest)
      have split : escape (c :: rest) = escapeCharacter c ++ escape rest := rfl
      rw [split, same, inductionHypothesis]
      rfl
  exact general _ _

end ExtensionPublisher.Xml
