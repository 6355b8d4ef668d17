import PathSchema.Document
import PathSchema.Fault

/-!
# Reports

A report is the outcome of validating one path, with the file and the key that the
path was found with, if it was found in a manifest.
-/

namespace PathSchema

/-- The outcome of validating one path. -/
structure Report where
  path : String
  valid : Bool
  file : Option String := none
  key : Option String := none
  kind : Option String := none
  constraint : Option Nat := none
  message : Option String := none
  deriving DecidableEq

namespace Report

/-- The report on a path.  The message is that of the innermost fault, or that of the
whole fault if it is to be detailed. -/
def ofResult (path : String) (detailed : Bool) : Except Fault Unit → Report
  | .ok () => { path, valid := true }
  | .error fault =>
    { path
      valid := false
      kind := some fault.kind.name
      constraint := fault.constraintIndex?
      message := some (if detailed then fault.message else fault.rootCause.message) }

/-- A report on a path that was found in a file, maybe with a key. -/
def withOrigin (report : Report) (file : String) (key : Option String) : Report :=
  { report with file := some file, key }

/-- How many reports are on invalid paths. -/
def failures (reports : List Report) : Nat :=
  reports.countP (!·.valid)

/-- The path, with its origin if it has one. -/
def label (report : Report) : String :=
  match report.file, report.key with
  | some file, some key => report.path ++ " (" ++ file ++ "#" ++ key ++ ")"
  | some file, none => report.path ++ " (" ++ file ++ ")"
  | none, _ => report.path

/-- The fields of a report that are present. -/
def toDocument (report : Report) : Document :=
  let optional := fun (name : String) (value : Option Document) =>
    (value.map fun value => (name, value)).toList
  .ofFields <|
    [("path", .ofText report.path), ("valid", .ofBool report.valid)] ++
      optional "file" (report.file.map .ofText) ++ optional "key" (report.key.map .ofText) ++
      optional "error_kind" (report.kind.map .ofText) ++
      optional "constraint" (report.constraint.map .ofNat) ++
      optional "message" (report.message.map .ofText)

/-- The lines on one path, each with its line break. -/
def lines (report : Report) : String :=
  if report.valid then "✓ " ++ report.label ++ "\n"
  else
    let optional := fun (name : String) (value : Option String) =>
      value.elim "" fun value => "    " ++ name ++ ": " ++ value ++ "\n"
    "✗ " ++ report.label ++ "\n" ++ optional "Kind" report.kind ++
      optional "Constraint" (report.constraint.map fun index => "#" ++ Decimal.render index) ++
      optional "Message" report.message

/-- The lines on all paths, and how many of them are valid. -/
def summary (reports : List Report) : String :=
  String.join (reports.map lines) ++ Decimal.render (reports.length - failures reports) ++
    " of " ++ Decimal.render reports.length ++ " path(s) valid"

end Report

end PathSchema
