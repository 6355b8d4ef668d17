import PathSchema.Json.Printing
import PathSchema.Report
import PathSchema.Yaml.Printing

/-!
# Console output

What a command writes depends on the format that was asked for.  Messages to people
appear in the human format only, and a quiet console keeps to warnings and errors;
data and reports appear in every format.  Every function here gives the text that
is written.
-/

namespace PathSchema

inductive OutputFormat where
  | human
  | json
  | yaml
  | jsonPretty
  deriving DecidableEq

namespace OutputFormat

/-- A document in a format; people get indented JSON. -/
def print : OutputFormat → Document → String
  | human, document => Json.pretty document
  | json, document => Json.compact document
  | yaml, document => Yaml.print document
  | jsonPretty, document => Json.pretty document

def printReports (format : OutputFormat) (reports : List Report) : String :=
  if format = .human then Report.summary reports
  else format.print (.list (reports.map Report.toDocument))

end OutputFormat

/-- Colours and weights of text on a terminal. -/
inductive Ink where
  | red
  | green
  | yellow
  | blue
  | brightBlue
  | boldRed
  deriving DecidableEq

namespace Ink

/-- What ends a colour. -/
def reset : List Char := ['\x1b', '[', '0', 'm']

/-- What begins a colour. -/
def opening (ink : Ink) : List Char :=
  let code := match ink with
    | red => "31"
    | green => "32"
    | yellow => "33"
    | blue => "34"
    | brightBlue => "94"
    | boldRed => "1;31"
  '\x1b' :: '[' :: (code.toList ++ ['m'])

/-- A text in which a colour begins anew wherever a colour ends.  The first number
says how many characters belong to an ending that was met. -/
def renew (ink : Ink) : Nat → List Char → List Char
  | _, [] => []
  | 0, c :: rest =>
    if reset.isPrefixOf (c :: rest) then c :: renew ink (reset.length - 1) rest
    else c :: renew ink 0 rest
  | 1, c :: rest => c :: (ink.opening ++ renew ink 0 rest)
  | met + 2, c :: rest => c :: renew ink (met + 1) rest

def paint (ink : Ink) (text : String) : String :=
  String.ofList (ink.opening ++ renew ink 0 text.toList ++ reset)

end Ink

/-- How a command writes. -/
structure Console where
  format : OutputFormat
  color : Bool := false
  quiet : Bool := false
  deriving DecidableEq

namespace Console

def line (text : String) : String :=
  text ++ "\n"

def forPeople (console : Console) (text : String) : String :=
  if console.format = .human then line text else ""

/-- A line for people who want to be told. -/
def chatter (console : Console) (text : String) : String :=
  if console.quiet then "" else console.forPeople text

/-- Something to know. -/
def info (console : Console) (text : String) : String :=
  console.chatter <| if console.color then Ink.blue.paint "ℹ" ++ " " ++ text else "INFO: " ++ text

/-- Something that went well. -/
def success (console : Console) (text : String) : String :=
  console.chatter <| if console.color then Ink.green.paint text else text

/-- Something to look at, also when quiet. -/
def warning (console : Console) (text : String) : String :=
  console.forPeople <| if console.color then Ink.yellow.paint text else "WARNING: " ++ text

/-- Something that went wrong, also when quiet. -/
def error (console : Console) (text : String) : String :=
  console.forPeople <| if console.color then Ink.red.paint text else "ERROR: " ++ text

/-- A heading after an empty line. -/
def heading (console : Console) (title : String) : String :=
  console.chatter "" ++
    console.chatter (if console.color then Ink.brightBlue.paint ("═══ " ++ title ++ " ═══")
      else "=== " ++ title ++ " ===")

/-- A document; only people need a line break after it. -/
def data (console : Console) (document : Document) : String :=
  let text := console.format.print document
  if console.format = .human then line text else text

/-- The line on one path for people. -/
def report (console : Console) (report : Report) : String :=
  if report.valid then console.success ("✓ " ++ report.label)
  else console.error ("✗ " ++ report.label ++ ": " ++ report.message.getD "invalid")

/-- Reports on paths; people get a line on each, and the lines on invalid paths are
written even when quiet. -/
def reports (console : Console) (reports : List Report) : String :=
  if console.format = .human then String.join (reports.map console.report)
  else line (console.format.printReports reports)

end Console

end PathSchema
