import PathSchema.Constraint

/-!
# Compiled schemas

A schema is compiled from its text or from a list of parts; a schema of parts has
their canonical text as its source.
-/

namespace PathSchema

variable [RegexLibrary]

/-- A compiled schema: its text and its constraints in order. -/
structure Schema where
  source : String
  constraints : List Constraint
  deriving DecidableEq

namespace Schema

/-- The constraints of a list of parts, which must not be empty. -/
def compile (parts : List Part) : Except Fault (List Constraint) :=
  if parts.isEmpty then .error .noParts else Constraint.ofParts parts

def ofParts (parts : List Part) : Except Fault Schema :=
  (compile parts).map fun constraints => ⟨Part.renderList parts, constraints⟩

/-- Compiles a text. -/
def ofText (text : String) : Except Fault Schema :=
  match Part.ofText text with
  | .error error => .error (.ofParseError text error)
  | .ok parts => (compile parts).map fun constraints => ⟨text, constraints⟩

end Schema

end PathSchema
