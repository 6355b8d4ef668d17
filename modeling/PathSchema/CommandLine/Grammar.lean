import PathSchema.Console

/-!
# Parameters of the command line

A command line has options of its own, which may stand before the command or after
it, the name of a command, and the options and the positional arguments of that
command.  The positional argument of `inspect` is the schema itself, so that command
has no schema option.
-/

namespace PathSchema

/-- The commands. -/
inductive Verb where
  | validate
  | scan
  | extract
  | inspect
  | completions
  deriving DecidableEq

/-- The shells that completions can be written for. -/
inductive Shell where
  | bash
  | zsh
  | fish
  | powerShell
  | elvish
  deriving DecidableEq

/-- Everything that a command line can give. -/
inductive Parameter where
  | verbose
  | quiet
  | config
  | schema
  | output
  | noColor
  | help
  | version
  | detailed
  | jobs
  | failuresOnly
  | tokens
  | paths
  | directory
  | path
  | shell
  deriving DecidableEq

namespace Verb

/-- The commands in the order of the help. -/
def all : List Verb := [validate, scan, extract, inspect, completions]

def name : Verb → String
  | validate => "validate"
  | scan => "scan"
  | extract => "extract"
  | inspect => "inspect"
  | completions => "completions"

def ofName? (name : String) : Option Verb :=
  all.find? fun verb => verb.name == name

def options : Verb → List Parameter
  | validate => [.detailed]
  | scan => [.jobs, .failuresOnly]
  | extract => []
  | inspect => [.tokens]
  | completions => []

def positional : Verb → Parameter
  | validate => .paths
  | scan => .directory
  | extract => .path
  | inspect => .schema
  | completions => .shell

def needsPositional (verb : Verb) : Bool :=
  verb != inspect

end Verb

namespace Shell

def byName : List (String × Shell) :=
  [("bash", bash), ("zsh", zsh), ("fish", fish), ("power-shell", powerShell), ("elvish", elvish)]

end Shell

def OutputFormat.byName : List (String × OutputFormat) :=
  [("human", .human), ("json", .json), ("yaml", .yaml), ("json-pretty", .jsonPretty)]

namespace Parameter

/-- The options that may stand before a command and after it. -/
def shared : List Parameter := [verbose, quiet, config, schema, output, noColor]

def long? : Parameter → Option String
  | verbose => some "verbose"
  | quiet => some "quiet"
  | config => some "config"
  | schema => some "schema"
  | output => some "output"
  | noColor => some "no-color"
  | help => some "help"
  | version => some "version"
  | detailed => some "detailed"
  | jobs => some "jobs"
  | failuresOnly => some "failures-only"
  | tokens => some "tokens"
  | _ => none

def short? : Parameter → Option Char
  | verbose => some 'v'
  | quiet => some 'q'
  | config => some 'c'
  | schema => some 's'
  | output => some 'o'
  | help => some 'h'
  | version => some 'V'
  | jobs => some 'j'
  | _ => none

def takesValue : Parameter → Bool
  | config | schema | output | jobs => true
  | _ => false

/-- Whether a parameter may be given more than once. -/
def repeats : Parameter → Bool
  | verbose | paths => true
  | _ => false

def environmentName? : Parameter → Option String
  | config => some "SCHEMATIC_CONFIG"
  | schema => some "SCHEMATIC_SCHEMA"
  | _ => none

/-- The options that are known before the command, or after it. -/
def known : Option Verb → List Parameter
  | none => shared ++ [help, version]
  | some verb => verb.options ++ shared.filter (· != verb.positional) ++ [help, version]

end Parameter

/-- Why a command line is refused; asking for help or for the version is such a reason. -/
inductive UsageError where
  | help
  | version
  /-- There is nothing at all on the command line. -/
  | nothingGiven
  | missingCommand
  | unknownCommand
  | unknownArgument
  | missingArgument
  /-- A value is absent, or none of those that are possible. -/
  | invalidValue
  /-- A value is no number. -/
  | malformedValue
  /-- A flag has a value. -/
  | tooManyValues
  /-- Two parameters exclude each other, or one is given twice. -/
  | conflict
  deriving DecidableEq

namespace UsageError

/-- What is told about the use of the commands. -/
def synopsis : String :=
  "Usage: schematic [OPTIONS] <COMMAND>\n\nCommands:\n" ++
    String.join (Verb.all.map fun verb => "  " ++ verb.name ++ "\n") ++
    "\nOptions:\n" ++
    String.join ((Parameter.known none).filterMap fun option =>
      option.long?.map fun name => "  --" ++ name ++ "\n")

def name : UsageError → String
  | help => "DisplayHelp"
  | version => "DisplayVersion"
  | nothingGiven => "DisplayHelpOnMissingArgumentOrSubcommand"
  | missingCommand => "MissingSubcommand"
  | unknownCommand => "InvalidSubcommand"
  | unknownArgument => "UnknownArgument"
  | missingArgument => "MissingRequiredArgument"
  | invalidValue => "InvalidValue"
  | malformedValue => "ValueValidation"
  | tooManyValues => "TooManyValues"
  | conflict => "ArgumentConflict"

def exitCode : UsageError → Nat
  | help | version => 0
  | _ => 2

/-- What is told when a command line is refused. -/
def message : UsageError → String
  | version => "schematic 0.1.0\n"
  | help | nothingGiven => synopsis
  | error => "error: " ++ error.name ++ "\n\nFor more information, try '--help'.\n"

end UsageError

namespace Parameter

def jobs? (text : String) : Option Nat :=
  let digits := match text.toList with
    | '+' :: rest => rest
    | rest => rest
  if digits.isEmpty || !digits.all Char.isDigit then none
  else if Decimal.value digits < UInt64.size then some (Decimal.value digits)
  else none

def wrongValue? (parameter : Parameter) (value : String) : Option UsageError :=
  match parameter with
  | config | directory => if value.isEmpty then some .invalidValue else none
  | output => if (OutputFormat.byName.lookup value).isNone then some .invalidValue else none
  | shell => if (Shell.byName.lookup value).isNone then some .invalidValue else none
  | jobs => if (jobs? value).isNone then some .malformedValue else none
  | _ => none

end Parameter

end PathSchema
