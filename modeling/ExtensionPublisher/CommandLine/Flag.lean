import ExtensionPublisher.Text.Digits

/-!
# Flags

A flag has a name and takes one value. Where the value of a flag is not given, an environment
variable may supply it, and where that is not set, a usual value. A command line is refused
for the first fault that is met; a request for help or for the version is met in the same
way.
-/
namespace ExtensionPublisher.CommandLine

/-- What a value may be. It is examined when it is taken in. -/
inductive ValueKind where
  | anything
  | nonEmpty
  /-- A number of seconds that fits in 64 bits. -/
  | seconds
  deriving DecidableEq, Repr

/-- A flag with a value. No flag goes without one. -/
structure Flag where
  name : String
  /-- What the value is called where the flag is shown. -/
  label : String
  kind : ValueKind := .nonEmpty
  environment? : Option String := none
  usual? : Option String := none
  deriving DecidableEq, Repr

/-- The flag as it is shown, with what its value is called. -/
def Flag.shown (flag : Flag) : String := "--" ++ flag.name ++ " <" ++ flag.label ++ ">"

/-- Why a command line is not carried out. To ask for help is among the reasons,
since then nothing else is done. -/
inductive Refusal where
  | helpAsked
  | helpNeeded
  | versionAsked
  | unknownArgument (argument : String)
  | unknownCommand
  /-- A value is given to what takes none. -/
  | unexpectedValue (flag : String)
  /-- No value is given, or an empty one. -/
  | missingValue (flag : String)
  | unsuitableValue (flag : String)
  | repeatedFlag (flag : String)
  | missingFlags (flags : List String)
  deriving DecidableEq, Repr

/-- The parts of the command line that a refusal is about. -/
def Refusal.parts : Refusal → List String
  | .helpAsked | .helpNeeded | .versionAsked | .unknownCommand => []
  | .unknownArgument part | .unexpectedValue part | .missingValue part | .unsuitableValue part
  | .repeatedFlag part => [part]
  | .missingFlags parts => parts

/-- The exit code of a refusal. What was asked for is no failure. -/
def Refusal.exitCode : Refusal → Nat
  | .helpAsked | .versionAsked => 0
  | _ => 2

/-- The greatest number of seconds. -/
def greatestSeconds : Nat := 18446744073709551615

/-- The number of seconds that a value gives. -/
def seconds? (value : String) : Option Nat := Text.unsignedDecimal? greatestSeconds value.toList

/-- Whether a value suits a flag. Where something is needed, an empty value counts
as missing. -/
def Flag.check (flag : Flag) (value : String) : Except Refusal Unit :=
  match flag.kind with
  | .anything => .ok ()
  | .nonEmpty => if value = "" then .error (.missingValue flag.shown) else .ok ()
  | .seconds =>
    if (seconds? value).isSome then .ok () else .error (.unsuitableValue flag.shown)

end ExtensionPublisher.CommandLine
