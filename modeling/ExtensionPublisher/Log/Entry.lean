import ExtensionPublisher.Text.Quoted

/-!
# Entries of the log

An entry says how grave it is, which part of the program it comes from, and something in
words; what it is about may stand behind the words as named values. The words may have come
over the network, so characters that a terminal would act on are shown as escapes.
-/
namespace ExtensionPublisher.Log

/-- How much is shown: each level shows what the levels before it show, and more. -/
inductive Level where
  | off
  | error
  | warn
  | info
  | debug
  | trace
  deriving DecidableEq, Repr

namespace Level

/-- The levels in order. -/
def all : List Level := [.off, .error, .warn, .info, .debug, .trace]

/-- The place of a level among the levels. -/
def rank : Level → Nat
  | .off => 0
  | .error => 1
  | .warn => 2
  | .info => 3
  | .debug => 4
  | .trace => 5

/-- The word for a level. -/
def word : Level → String
  | .off => "off"
  | .error => "error"
  | .warn => "warn"
  | .info => "info"
  | .debug => "debug"
  | .trace => "trace"

end Level

/-- How grave an entry is. -/
inductive Severity where
  | error
  | warning
  deriving DecidableEq, Repr

/-- The lowest level that shows entries of a severity. -/
def Severity.level : Severity → Level
  | .error => .error
  | .warning => .warn

/-- An entry of the log: what happened, where in the program, and with which
details. -/
structure Entry where
  severity : Severity
  /-- The part of the program that it comes from. -/
  topic : String
  message : String
  /-- What it is about. -/
  details : List (String × String) := []
  deriving DecidableEq, Repr

/-- A character as the log shows it: one that a terminal would act on is escaped. -/
def shownChar (c : Char) : List Char :=
  match c with
  | '\x07' => "\\x07".toList
  | '\x08' => "\\x08".toList
  | '\x0c' => "\\x0c".toList
  | '\x1b' => "\\x1b".toList
  | '\x7f' => "\\x7f".toList
  | c =>
    if 0x80 ≤ c.toNat ∧ c.toNat ≤ 0x9F then
      ['\\', 'u', '\x7b'] ++ Text.hexDigits c.toNat ++ ['\x7d']
    else [c]

/-- Words as the log shows them. -/
def shown (message : String) : String := String.ofList (message.toList.flatMap shownChar)

namespace Entry

/-- Whether the entry has a value of a name. Every entry has its message. -/
def has (entry : Entry) (name : String) : Bool :=
  name == "message" || entry.details.any (·.1 == name)

/-- The entry as a line of the log: how grave it is, what it says, and its details.
-/
def text (entry : Entry) : String :=
  let severity :=
    match entry.severity with
    | .error => "ERROR"
    | .warning => "WARN"
  severity ++ " " ++ shown entry.message ++
    String.join (entry.details.map fun (name, value) => " " ++ name ++ "=" ++ value)

end Entry

end ExtensionPublisher.Log
