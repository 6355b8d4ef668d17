/-!
# Logging settings

How much is logged is decided in three steps: by the verbosity of the command line,
then by the configuration, then by the environment.  A quiet command logs errors only, and
not to the console.
-/

namespace PathSchema

inductive LogFormat where
  | compact
  | full
  | json
  deriving DecidableEq

namespace LogFormat

def name : LogFormat → String
  | compact => "Compact"
  | full => "Full"
  | json => "Json"

def ofName? (name : String) : Option LogFormat :=
  match String.ofList (name.toList.map Char.toLower) with
  | "compact" => some compact
  | "full" => some full
  | "json" => some json
  | _ => none

end LogFormat

/-- What a configuration says about logging. -/
structure LogPreferences where
  level : Option String := none
  format : Option String := none
  deriving DecidableEq

/-- How much is logged, and how. -/
structure LogSettings where
  level : String := "warn"
  format : LogFormat := .compact
  console : Bool := true
  threadIds : Bool := false
  sourceLocation : Bool := false
  spanEvents : Bool := false
  deriving DecidableEq

namespace LogSettings

def ofVerbosity : Nat → LogSettings
  | 0 => {}
  | 1 => { level := "info" }
  | 2 => { level := "debug", sourceLocation := true }
  | _ =>
    { level := "trace", format := .full, threadIds := true, sourceLocation := true,
      spanEvents := true }

/-- The settings after a configuration.  Its level gives way to a verbosity that was
asked for; a form that is none is passed over. -/
def withPreferences (settings : LogSettings) (preferences : LogPreferences)
    (verbosity : Nat) : LogSettings :=
  { settings with
    level := if verbosity = 0 then preferences.level.getD settings.level else settings.level
    format := (preferences.format.bind LogFormat.ofName?).getD settings.format }

def withEnvironment (settings : LogSettings) (environment : String → Option String) :
    LogSettings :=
  { settings with
    level := (environment "RUST_LOG").getD settings.level
    format :=
      ((environment "SCHEMATIC_LOG_FORMAT").bind LogFormat.ofName?).getD settings.format
    console :=
      match environment "SCHEMATIC_LOG_CONSOLE" with
      | none => settings.console
      | some value => String.ofList (value.toList.map Char.toLower) = "true" || value = "1" }

def environmentNames : List String :=
  ["RUST_LOG", "SCHEMATIC_LOG_FORMAT", "SCHEMATIC_LOG_CONSOLE"]

def quiet (settings : LogSettings) : LogSettings :=
  { settings with level := "error", console := false }

end LogSettings

end PathSchema
