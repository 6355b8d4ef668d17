import PathSchema.CommandLine.Grammar

/-!
# Reading the arguments of a command line

The arguments are read from left to right.  The values of a parameter are held back
until another parameter comes or the arguments end; only then are they checked, so
an unknown argument is reported before a bad value that stands next to it.  What
stands after a command is read, and its mistakes are reported, before what stands
in front of it is completed.
-/

namespace PathSchema

abbrev GivenValues := List (Parameter × List String)

/-- What has been read of the arguments on one side of the command. -/
structure ArgumentReader where
  /-- The values that were checked. -/
  given : GivenValues := []
  /-- The values that are held back. -/
  pending : Option (Parameter × List String) := none
  /-- The option whose value comes next. -/
  awaiting : Option Parameter := none
  /-- Whether the positional argument was met. -/
  positionalMet : Bool := false
  /-- Whether all that follows is positional. -/
  positionalOnly : Bool := false
  deriving DecidableEq

namespace ArgumentReader

/-- Adds values to those that were given. -/
def record (reader : ArgumentReader) (parameter : Parameter) (values : List String) :
    Except UsageError ArgumentReader :=
  let before := reader.given.lookup parameter
  if before.isSome && !parameter.repeats then .error .conflict
  else
    match values.findSome? parameter.wrongValue? with
    | some error => .error error
    | none =>
      .ok { reader with
        given := (parameter, before.getD [] ++ values) ::
          reader.given.filter (·.1 != parameter) }

/-- Checks the values that are held back. -/
def settle (reader : ArgumentReader) : Except UsageError ArgumentReader :=
  match reader.pending with
  | none => .ok reader
  | some (_, []) => .error .invalidValue
  | some (parameter, values) => { reader with pending := none }.record parameter values

def takeFlag (reader : ArgumentReader) (option : Parameter) : Except UsageError ArgumentReader :=
  reader.settle.bind fun reader =>
    match option with
    | .help => .error .help
    | .version => .error .version
    | option => reader.record option [""]

/-- Takes an option with its value, or waits for the value. -/
def takeOption (reader : ArgumentReader) (option : Parameter) (value : Option String) :
    Except UsageError ArgumentReader :=
  reader.settle.bind fun reader =>
    match value with
    | some value => reader.record option [value]
    | none => .ok { reader with pending := some (option, []), awaiting := some option }

/-- Takes a long option, written with its value or without. -/
def takeLong (known : List Parameter) (reader : ArgumentReader) (text : List Char) :
    Except UsageError ArgumentReader :=
  let name := String.ofList (text.takeWhile (· != '='))
  let value := match text.dropWhile (· != '=') with
    | [] => none
    | _ :: value => some (String.ofList value)
  match known.find? fun option => option.long? == some name with
  | none => .error .unknownArgument
  | some option =>
    if option.takesValue then reader.takeOption option value
    else if value.isSome then .error .tooManyValues
    else reader.takeFlag option

/-- Takes a cluster of letters; the value of an option may follow its letter. -/
def takeShort (known : List Parameter) (reader : ArgumentReader) :
    List Char → Except UsageError ArgumentReader
  | [] => .ok reader
  | letter :: rest =>
    match known.find? fun option => option.short? == some letter with
    | none => .error .unknownArgument
    | some option =>
      if option.takesValue then
        reader.takeOption option <|
          match rest with
          | [] => none
          | '=' :: value => some (String.ofList value)
          | value => some (String.ofList value)
      else (reader.takeFlag option).bind fun reader => takeShort known reader rest

def takePositional (verb? : Option Verb) (reader : ArgumentReader) (text : String) :
    Except UsageError ArgumentReader :=
  match verb? with
  | none =>
    if reader.positionalOnly && (text = "help" || (Verb.ofName? text).isSome) then
      .error .unknownArgument
    else .error .unknownCommand
  | some verb =>
    match reader.pending with
    | some (held, values) =>
      if held = verb.positional && held.repeats then
        .ok { reader with pending := some (held, values ++ [text]) }
      else hold verb.positional
    | none => hold verb.positional
where
  /-- Holds back the argument as the first value of its parameter. -/
  hold (parameter : Parameter) : Except UsageError ArgumentReader :=
    if reader.positionalMet && !parameter.repeats then .error .unknownArgument
    else
      reader.settle.map fun reader =>
        { reader with pending := some (parameter, [text]), positionalMet := true }

def take (verb? : Option Verb) (reader : ArgumentReader) (text : String) :
    Except UsageError ArgumentReader :=
  let idle := { reader with awaiting := none }
  if reader.positionalOnly then reader.takePositional verb? text
  else
    match text.toList with
    | ['-', '-'] => .ok { reader with positionalOnly := true }
    | '-' :: '-' :: long => idle.takeLong (Parameter.known verb?) long
    | '-' :: letter :: rest => idle.takeShort (Parameter.known verb?) (letter :: rest)
    | _ =>
      match reader.awaiting with
      | some option => .ok { idle with pending := some (option, [text]) }
      | none => reader.takePositional verb? text

/-- Completes the options from the environment.  The second result are the values
that come from there. -/
def complete (verb? : Option Verb) (environment : String → Option String)
    (reader : ArgumentReader) : Except UsageError (GivenValues × GivenValues) := do
  let reader ← reader.settle
  let absent := (Parameter.known verb?).filter fun option =>
    (reader.given.lookup option).isNone
  let found := absent.filterMap fun option =>
    (option.environmentName?.bind environment).map fun value => (option, value)
  match found.findSome? fun entry => entry.1.wrongValue? entry.2 with
  | some error => throw error
  | none => return (reader.given, found.map fun entry => (entry.1, [entry.2]))

end ArgumentReader

/-- The values on one side of the command: those of the command line and those of
the environment. -/
structure Side where
  given : GivenValues
  fromEnvironment : GivenValues
  deriving DecidableEq

namespace Side

/-- Whether the values contradict each other. -/
def hasConflict (side : Side) : Bool :=
  (side.given.lookup .quiet).isSome && (side.given.lookup .verbose).isSome

/-- Reads what follows a command. -/
def afterVerb (verb : Verb) (environment : String → Option String) (arguments : List String) :
    Except UsageError Side := do
  let reader ← arguments.foldlM (ArgumentReader.take (some verb)) {}
  let (given, fromEnvironment) ← reader.complete (some verb) environment
  let side : Side := ⟨given, fromEnvironment⟩
  if side.hasConflict then throw .conflict
  else if verb.needsPositional && (given.lookup verb.positional).isNone then
    throw .missingArgument
  else return side

/-- The answer to a request for help on something. -/
def helpOn : List String → UsageError
  | [] => .help
  | [topic] => if topic = "help" || (Verb.ofName? topic).isSome then .help else .unknownCommand
  | _ => .unknownCommand

/-- Reads what stands before a command, then the command with what follows it. -/
def read (environment : String → Option String) :
    ArgumentReader → List String → Except UsageError (Side × Verb × Side)
  | reader, [] => do
    let (given, fromEnvironment) ← reader.complete none environment
    if given.isEmpty && fromEnvironment.isEmpty then throw .nothingGiven
    else throw .missingCommand
  | reader, text :: rest =>
    if !reader.positionalOnly && reader.awaiting.isNone && text = "help" then
      .error (helpOn rest)
    else
      match if reader.positionalOnly || reader.awaiting.isSome then none else Verb.ofName? text with
      | some verb => do
        let after ← afterVerb verb environment rest
        let (given, fromEnvironment) ← reader.complete none environment
        let before : Side := ⟨given, fromEnvironment⟩
        if before.hasConflict then throw .conflict
        else return (before, verb, after)
      | none => (reader.take none text).bind fun reader => read environment reader rest

/-- The values of a parameter.  The command line goes before the environment, and
what follows the command before what stands in front of it. -/
def values? (before after : Side) (parameter : Parameter) : Option (List String) :=
  (after.given.lookup parameter).or <| (before.given.lookup parameter).or <|
    (after.fromEnvironment.lookup parameter).or (before.fromEnvironment.lookup parameter)

end Side

end PathSchema
