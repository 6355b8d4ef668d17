import PathSchema.CommandLine.Reading

/-!
# Invocations

An invocation is what a command line asks for.
-/

namespace PathSchema

/-- A command with its arguments. -/
inductive Command where
  | validate (paths : List String) (detailed : Bool)
  | scan (directory : String) (jobs : Nat) (failuresOnly : Bool)
  | extract (path : String)
  | inspect (schema : Option String) (tokens : Bool)
  | completions (shell : Shell)
  deriving DecidableEq

/-- What a command line asks for. -/
structure Invocation where
  /-- How often the command line asks for more to be told. -/
  verbose : Nat
  quiet : Bool
  config : Option String
  schema : Option String
  output : OutputFormat
  noColor : Bool
  command : Command
  deriving DecidableEq

namespace Invocation

/-- How much is to be told; a quiet command tells nothing more. -/
def verbosity (invocation : Invocation) : Nat :=
  if invocation.quiet then 0 else invocation.verbose

/-- The number of jobs unless another one is given. -/
def defaultJobs : Nat := 8

/-- The invocation of the values on both sides of a command. -/
def ofSides (before : Side) (verb : Verb) (after : Side) : Invocation :=
  let values := fun parameter => (Side.values? before after parameter).getD []
  let value? := fun parameter => (values parameter).head?
  let flag := fun parameter => !(values parameter).isEmpty
  { verbose := min (values .verbose).length 255
    quiet := flag .quiet
    config := value? .config
    schema := value? .schema
    output := ((value? .output).bind (OutputFormat.byName.lookup ·)).getD .human
    noColor := flag .noColor
    command :=
      match verb with
      | .validate => .validate (values .paths) (flag .detailed)
      | .scan =>
        .scan ((value? .directory).getD "")
          (((value? .jobs).bind Parameter.jobs?).getD defaultJobs) (flag .failuresOnly)
      | .extract => .extract ((value? .path).getD "")
      | .inspect => .inspect (value? .schema) (flag .tokens)
      | .completions =>
        .completions (((value? .shell).bind (Shell.byName.lookup ·)).getD .bash) }

def ofArguments (environment : String → Option String) (arguments : List String) :
    Except UsageError Invocation :=
  (Side.read environment {} arguments).map fun (before, verb, after) => ofSides before verb after

end Invocation

end PathSchema
