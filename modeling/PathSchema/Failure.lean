import PathSchema.Console

/-!
# Failures of a command

Why a command came to no good end, with the exit code that tells the kind of the
failure and the wording for people.
-/

namespace PathSchema

/-- Why a command failed. -/
inductive Failure where
  /-- A file or a directory cannot be read. -/
  | unreadable (path : String)
  /-- The schema does not compile, or a value cannot be extracted. -/
  | schema (fault : Fault)
  | validationFailed (failed total : Nat)
  | fileNotFound (path : String)
  | invalidFormat (path expected message : String)
  | config (message : String)
  | missingSchema
  /-- A configuration is not what its format demands. -/
  | json (path : String)
  | yaml (path : String)
  | toml (path : String)
  | other (message : String)
  /-- The command broke off, and has nothing to say but what it broke off at. -/
  | crashed (message : String)
  deriving DecidableEq

namespace Failure

def name : Failure → String
  | unreadable _ => "Io"
  | schema _ => "Schema"
  | validationFailed .. => "ValidationFailed"
  | fileNotFound _ => "FileNotFound"
  | invalidFormat .. => "InvalidFormat"
  | config _ => "Config"
  | missingSchema => "MissingSchema"
  | json _ => "Json"
  | yaml _ => "Yaml"
  | toml _ => "Toml"
  | other _ => "Other"
  | crashed _ => "Panic"

def exitCode : Failure → Nat
  | unreadable _ => 1
  | validationFailed .. => 2
  | schema fault => if fault.isCompile then 3 else 2
  | fileNotFound _ => 4
  | invalidFormat .. => 5
  | config _ => 6
  | missingSchema => 7
  | json _ => 12
  | yaml _ => 13
  | toml _ => 14
  | other _ => 99
  | crashed _ => 101

def showsHelp (failure : Failure) : Bool :=
  failure = .missingSchema

def message : Failure → String
  | unreadable path => "IO error: cannot read " ++ path
  | schema fault => "Schema error: " ++ fault.message
  | validationFailed failed total =>
    Decimal.render failed ++ " of " ++ Decimal.render total ++ " path(s) failed validation"
  | fileNotFound path => "File not found: " ++ path
  | invalidFormat path expected message =>
    "Invalid file format for " ++ path ++ ": expected " ++ expected ++ ": " ++ message
  | config message => "Configuration error: " ++ message
  | missingSchema =>
    "No schema configured. Set \x60schema\x60 in the configuration file or pass --schema"
  | json path => "JSON error: " ++ path ++ " is no JSON configuration"
  | yaml path => "YAML error: " ++ path ++ " is no YAML configuration"
  | toml path => "TOML error: " ++ path ++ " is no TOML configuration"
  | other message => message
  | crashed message => "Panicked: " ++ message

/-- The wording with a label; faults of a schema are shown with their place in it. -/
def labelled (color : Bool) (failure : Failure) : String :=
  let text := match failure with
    | schema fault => fault.detailed
    | failure => failure.message
  (if color then Ink.boldRed.paint "Error:" else "Error:") ++ " " ++ text

end Failure

end PathSchema
