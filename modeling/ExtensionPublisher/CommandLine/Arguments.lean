import ExtensionPublisher.CommandLine.Flag

/-!
# Reading arguments

A flag is written with two hyphens, its value in the next argument or behind an equals sign.
A value in the next argument does not begin with a hyphen, unless it is a hyphen alone, and
is examined only when the flag behind it is met or the arguments end; a value behind an
equals sign is examined at once. Every flag is given at most once. There are no other
arguments, so one that is neither flag nor value is refused, also behind `--`.

What is not on the command line is taken from the environment, or is as usual.
-/
namespace ExtensionPublisher.CommandLine

/-- How an argument is written, which decides what it may be. -/
inductive Argument where
  /-- Two hyphens alone. -/
  | divider
  /-- A name behind two hyphens, perhaps with a value behind an equals sign. -/
  | long (name : String) (value? : Option String)
  /-- The first letter behind one hyphen. -/
  | short (letter : Char)
  | plain
  deriving DecidableEq, Repr

/-- Look at how an argument is written. Nothing of what it says is looked at yet. -/
def Argument.of (argument : String) : Argument :=
  match argument.toList with
  | ['-', '-'] => .divider
  | '-' :: '-' :: rest =>
    let name := rest.takeWhile (· ≠ '=')
    match rest.dropWhile (· ≠ '=') with
    | [] => .long (String.ofList name) none
    | _ :: value => .long (String.ofList name) (some (String.ofList value))
  | '-' :: letter :: _ => .short letter
  | _ => .plain

/-- The values of flags, by name, in the order in which they were met. -/
abbrev Values := List (String × String)

/-- What has been read: the values, and the last flag if its value has not been
examined. -/
structure Reading where
  values : Values := []
  pending : Option (Flag × Option String) := none

/-- Take in the value of a flag. No flag may be given twice, and the value has to
suit. -/
def Values.give (values : Values) (flag : Flag) (value : String) : Except Refusal Values := do
  if (values.lookup flag.name).isSome then throw (.repeatedFlag flag.shown)
  flag.check value
  return values ++ [(flag.name, value)]

/-- Examine the value of the last flag. It is examined only when the next argument
has been looked at, so faults come in that order. -/
def Reading.settle (reading : Reading) : Except Refusal Values :=
  match reading.pending with
  | none => .ok reading.values
  | some (flag, none) => .error (.missingValue flag.shown)
  | some (flag, some value) => Values.give reading.values flag value

/-- Read arguments behind those already read. A flag stays pending until the next
argument shows what it has for a value. -/
def readArguments (flags : List Flag) : Reading → List String → Except Refusal Values
  | reading, [] => reading.settle
  | reading, argument :: rest =>
    match Argument.of argument with
    | .divider =>
      match rest with
      | [] => reading.settle
      | next :: _ => .error (.unknownArgument next)
    | .long "help" none => do
      let _ ← reading.settle
      throw .helpAsked
    | .long "help" (some _) => .error (.unexpectedValue "--help")
    | .long name value? =>
      match flags.find? (·.name == name) with
      | none => .error (.unknownArgument ("--" ++ name))
      | some flag => do
        let values ← reading.settle
        match value? with
        | none => readArguments flags ⟨values, some (flag, none)⟩ rest
        | some value =>
          let values ← values.give flag value
          readArguments flags ⟨values, none⟩ rest
    | .short 'h' => do
      let _ ← reading.settle
      throw .helpAsked
    | .short letter => .error (.unknownArgument ("-" ++ letter.toString))
    | .plain =>
      match reading.pending with
      | some (flag, none) =>
        readArguments flags { reading with pending := some (flag, some argument) } rest
      | _ => .error (.unknownArgument argument)

/-- Supply from the environment what was not given. A value that is not needed is
not examined. -/
def supply (environment : Values) : List Flag → Values → Except Refusal Values
  | [], values => .ok values
  | flag :: rest, values =>
    let supplied? := flag.environment?.bind fun name => environment.lookup name
    match values.lookup flag.name, supplied? with
    | none, some value => do
      let values ← values.give flag value
      supply environment rest values
    | _, _ => supply environment rest values

/-- The flags that have no value and usually have none. All of them are named in one
refusal. -/
def missing (flags : List Flag) (values : Values) : List Flag :=
  flags.filter fun flag => flag.usual?.isNone && (values.lookup flag.name).isNone

/-- The values of flags from arguments, environment and custom, in this order.
Faults of the arguments come first. -/
def resolve (flags : List Flag) (environment : Values) (arguments : List String) :
    Except Refusal Values := do
  let given ← readArguments flags {} arguments
  let values ← supply environment flags given
  match missing flags values with
  | [] => return values
  | lacking => throw (.missingFlags (lacking.map Flag.shown))

/-- The value of a flag, which is as usual where none is given. -/
def Flag.value (flag : Flag) (values : Values) : String :=
  (values.lookup flag.name).getD (flag.usual?.getD "")

end ExtensionPublisher.CommandLine
