import ExtensionPublisher.CommandLine.Command
import ExtensionPublisher.Release

/-!
# Usage

What is said to someone whose command line is not carried out: what is wrong with it, or which
commands and flags there are.
-/
namespace ExtensionPublisher.CommandLine

/-- The flag in a line of the usage, in brackets if it need not be given. -/
def Flag.usage (flag : Flag) : String :=
  if flag.usual?.isSome then "[" ++ flag.shown ++ "]" else flag.shown

/-- The line of the usage for a command. -/
def Form.usage (form : Form) : String :=
  "  " ++ form.word ++ String.join (form.flags.map fun flag => " " ++ flag.usage)

/-- Which commands and flags there are, a line for each command. -/
def usage : String :=
  String.intercalate "\n" (("Usage: " ++ Release.name ++ " <COMMAND>") :: forms.map Form.usage)

/-- The refusal in words. -/
def Refusal.message : Refusal → String
  | .helpAsked | .helpNeeded => usage
  | .versionAsked => Release.banner
  | .unknownArgument argument => "error: unexpected argument: " ++ argument
  | .unknownCommand => "error: unknown command"
  | .unexpectedValue flag => "error: no value belongs to " ++ flag
  | .missingValue flag => "error: a value is missing: " ++ flag
  | .unsuitableValue flag => "error: the value does not suit " ++ flag
  | .repeatedFlag flag => "error: given more than once: " ++ flag
  | .missingFlags flags => "error: missing: " ++ String.intercalate ", " flags

end ExtensionPublisher.CommandLine
