import PathSchema.CommandLine
import PathSchema.Configuration.Loading
import PathSchema.Extraction
import PathSchema.Inspection
import PathSchema.Validation

/-!
# Running commands

A command runs on what it finds around it.  It writes a text and comes to a good end
or fails; what it wrote before it failed stays written.  Writing itself does not fail.
-/

namespace PathSchema

variable [RegexLibrary]

/-- What a command wrote, and how it ended. -/
structure Execution where
  output : String := ""
  result : Except Failure Unit := .ok ()
  /-- How it logs, once that is settled. -/
  logging : Option LogSettings := none

namespace Execution

/-- A command that fails without having written anything. -/
def failed (failure : Failure) : Execution :=
  { result := .error failure }

/-- A command that goes on only if something succeeds. -/
def after {α : Type} (result : Except Failure α) (next : α → Execution) : Execution :=
  match result with
  | .ok value => next value
  | .error failure => failed failure

/-- A command that had written something before. -/
def writing (text : String) (execution : Execution) : Execution :=
  { execution with output := text ++ execution.output }

/-- The failure of sets that nest without end. -/
def endless : Failure :=
  .other "Variable sets nest without end"

def tooManyPermits : Failure :=
  .crashed ("a semaphore may not have more than MAX_PERMITS permits (" ++
    Decimal.render Validation.Pool.maxPermits ++ ")")

def schema (configuration : Configuration) (asked : Option String) : Except Failure Schema :=
  (configuration.schemaText asked).bind fun text => (Schema.ofText text).mapError .schema

def validate (surroundings : Surroundings) (configuration : Configuration)
    (asked : Option String) (console : Console) (paths : List String) (detailed : Bool) :
    Execution :=
  after (schema configuration asked) fun schema =>
    let store := configuration.store surroundings.environment
    writing
      (console.info ("Validating " ++ Decimal.render paths.length ++ " path(s) against " ++
        schema.source))
      (match Validation.reports store schema detailed paths {} with
      | none => failed endless
      | some reports =>
        { output :=
            if detailed && console.format = .human then
              console.heading "Validation Results" ++
                Console.line (console.format.printReports reports)
            else console.reports reports
          result := Validation.outcome reports })

/-- What a scan shows of its reports, and how it ends.  Only what is shown depends on
whether valid placeholders are hidden. -/
def scanned (console : Console) (failuresOnly : Bool) (reports : List Report) : Execution :=
  { output := console.reports (if failuresOnly then reports.filter (!·.valid) else reports)
    result := Validation.outcome reports }

/-- Validates the placeholders below a directory, with the tasks in turn: the order in
which they finish makes no difference. -/
def scan (surroundings : Surroundings) (configuration : Configuration)
    (asked : Option String) (console : Console) (directory : String) (jobs : Nat)
    (failuresOnly : Bool) : Execution :=
  after (schema configuration asked) fun schema =>
    after (Harvest.ofDirectory surroundings directory) fun findings =>
      if findings.isEmpty then
        { output := console.warning ("No <path:...> placeholders found under " ++ directory) }
      else if Validation.Pool.maxPermits < Validation.Pool.permits jobs then
        failed tooManyPermits
      else
        let store := configuration.store surroundings.environment
        let pool := Validation.Pool.ofFindings findings
        match pool.run? store schema (Validation.Pool.permits jobs)
          (Validation.Pool.inTurn findings) with
        | none => failed endless
        | some pool => scanned console failuresOnly pool.reports

/-- Recovers the values of variables from a path. -/
def extract (configuration : Configuration) (asked : Option String) (console : Console)
    (path : String) : Execution :=
  after (schema configuration asked) fun schema =>
    writing (console.warning "Context extraction is experimental") <|
      after ((schema.extract path).mapError .schema) fun bindings =>
        let sorted := bindings.mergeSort fun x y => decide (x.1 ≤ y.1)
        { output :=
            if console.format != .human then
              console.data (.ofFields (sorted.map fun entry => (entry.1, .ofText entry.2)))
            else if sorted.isEmpty then console.info "Schema has no variables to extract"
            else String.join (sorted.map fun entry =>
              Console.line (entry.1 ++ " = " ++ entry.2)) }

/-- Shows what a schema is read as. -/
def inspect (configuration : Configuration) (asked : Option String) (console : Console)
    (text : Option String) (tokens : Bool) : Execution :=
  after (configuration.schemaText (text.or asked)) fun text =>
    after ((Inspection.ofText text tokens).mapError .schema) fun inspection =>
      { output := inspection.write console }

def logSettings (surroundings : Surroundings) (configuration : Configuration)
    (invocation : Invocation) : LogSettings :=
  let settings := ((LogSettings.ofVerbosity invocation.verbosity).withPreferences
    configuration.logging invocation.verbosity).withEnvironment surroundings.environment
  if invocation.quiet then settings.quiet else settings

/-- Runs what a command line asks for.  The configuration is loaded first, whether the
command needs it or not.  The scripts with which shells complete command lines are made
elsewhere. -/
def run (script : Shell → String) (surroundings : Surroundings) (color : Bool)
    (invocation : Invocation) : Execution :=
  after (Configuration.load surroundings invocation.config) fun configuration =>
    let console : Console := ⟨invocation.output, color, invocation.quiet⟩
    let execution :=
      match invocation.command with
      | .validate paths detailed =>
        validate surroundings configuration invocation.schema console paths detailed
      | .scan directory jobs failuresOnly =>
        scan surroundings configuration invocation.schema console directory jobs failuresOnly
      | .extract path => extract configuration invocation.schema console path
      | .inspect text tokens => inspect configuration invocation.schema console text tokens
      | .completions shell => { output := script shell }
    { execution with logging := some (logSettings surroundings configuration invocation) }

/-- The paths at which a command may look, given the directory of the user's
configurations. -/
def places (configHome : Option String) (invocation : Invocation) : List String :=
  invocation.config.elim (Configuration.usualPlaces configHome) ([·]) ++
    match invocation.command with
    | .scan directory _ _ => [directory]
    | _ => []

/-- The environment variables that a command may ask for, given the files around it. -/
def environmentNames (surroundings : Surroundings) (invocation : Invocation) : List String :=
  match Configuration.load surroundings invocation.config with
  | .error _ => []
  | .ok configuration =>
    LogSettings.environmentNames ++ configuration.inputs.filterMap fun input =>
      match input with
      | .environment _ source => some source
      | .variableSet .. => none

end Execution

end PathSchema
