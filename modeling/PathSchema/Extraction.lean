import PathSchema.Schema

/-!
# Extraction

Given a path that a schema accepts, extraction recovers the value of a variable
that the schema begins with.  Constraints are matched from the right, each with
one segment; the variable gets what is left.
-/

namespace PathSchema

variable [RegexLibrary]

/-- Why the value of a variable cannot be recovered. -/
inductive ExtractionProblem where
  | literalMismatch (index : Nat) (text segment : String)
  | patternMismatch (index : Nat) (pattern segment : String)
  /-- The constraint takes no fixed number of segments. -/
  | noFixedWidth (index : Nat)
  | variableNotFirst (name : String)
  | nothingLeft (name : String)
  /-- No segment is left for a constraint. -/
  | exhausted (index : Nat) (constraint : String)
  /-- Segments are left over at the front. -/
  | uncovered (count : Nat)
  deriving DecidableEq

namespace ExtractionProblem

def message : ExtractionProblem → String
  | literalMismatch index text segment =>
    "constraint #" ++ Decimal.render index ++ " expected '" ++ text ++ "', found '" ++
      segment ++ "'"
  | patternMismatch index pattern segment =>
    "constraint #" ++ Decimal.render index ++ " pattern \"" ++ pattern ++
      "\" does not match '" ++ segment ++ "'"
  | noFixedWidth index =>
    "constraint #" ++ Decimal.render index ++
      " '*' has no fixed width to match from the right"
  | variableNotFirst name => "variable $" ++ name ++ " must be the first part of the schema"
  | nothingLeft name => "no segments left for variable $" ++ name
  | exhausted index constraint =>
    "ran out of segments at constraint #" ++ Decimal.render index ++ " " ++ constraint
  | uncovered count =>
    Decimal.render count ++ " leading segment(s) not covered by the schema"

end ExtractionProblem

namespace Constraint

/-- What is wrong with a segment for a constraint that takes exactly one. -/
def segmentProblem? (index : Nat) (constraint : Constraint) (segment : String) :
    Option ExtractionProblem :=
  match constraint with
  | literal text =>
    if segment = text then none else some (.literalMismatch index text segment)
  | regex pattern =>
    if pattern.isMatch segment then none
    else some (.patternMismatch index pattern.source segment)
  | _ => none

/-- Matches constraints with segments, both given from the right; a constraint has as
many others after it as its index says.  The bindings are those of the variables. -/
def bindings : List Constraint → List String → Except ExtractionProblem (List (String × String))
  | [], [] => .ok []
  | [], segments => .error (.uncovered segments.length)
  | everything :: others, _ => .error (.noFixedWidth others.length)
  | var name _ :: others, segments =>
    if !others.isEmpty then .error (.variableNotFirst name)
    else if segments.isEmpty then .error (.nothingLeft name)
    else .ok [(name, Path.join segments.reverse)]
  | constraint :: others, [] => .error (.exhausted others.length constraint.describe)
  | constraint :: others, segment :: segments =>
    match constraint.segmentProblem? others.length segment with
    | some problem => .error problem
    | none => bindings others segments

end Constraint

namespace Schema

/-- The value that the first variable of a schema must have for a path to satisfy
the schema. -/
def extract (schema : Schema) (path : String) : Except Fault (List (String × String)) :=
  match Constraint.bindings schema.constraints.reverse (Path.split path).reverse with
  | .ok bindings => .ok bindings
  | .error problem => .error (.extraction problem.message path)

end Schema

end PathSchema
