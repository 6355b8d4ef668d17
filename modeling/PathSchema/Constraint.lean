import PathSchema.Fault
import PathSchema.Pattern

/-!
# Constraints

Compiling a part checks what can be checked without a path: that a pattern is
well formed, that the unbounded wildcard has no quantifier, and that the least
number of a quantifier does not exceed the greatest.
-/

namespace PathSchema

variable [RegexLibrary]

/-- A matching rule of a compiled schema. -/
inductive Constraint where
  /-- One segment equal to the text. -/
  | literal (text : String)
  /-- One segment that the pattern matches. -/
  | regex (pattern : Pattern)
  /-- At least `min` segments, and of what is left at most `max`. -/
  | run (min max : Nat)
  /-- All segments that are left. -/
  | everything
  /-- The segments of a variable's value. -/
  | var (name : String) (calls : List ModifierCall)
  /-- What the first member of a set that matches takes. -/
  | set (name : String)
  deriving DecidableEq

namespace Constraint

def ofPart : Part → Except Fault Constraint
  | .literal text => .ok (.literal text)
  | .regex source =>
    match Pattern.ofText source with
    | .ok pattern => .ok (.regex pattern)
    | .error message => .error (.invalidPattern source message)
  | .var name calls => .ok (.var name calls)
  | .set name => .ok (.set name)
  | .wildcard .multi none => .ok .everything
  | .wildcard .multi (some ⟨min, max⟩) => .error (.quantifiedMulti min max)
  | .wildcard .single none => .ok (.run 1 1)
  | .wildcard .single (some ⟨min, max⟩) =>
    if min ≤ max then .ok (.run min max) else .error (.quantifierRange min max)

/-- The constraints of some parts, up to the first that has none. -/
def ofParts : List Part → Except Fault (List Constraint)
  | [] => .ok []
  | part :: rest =>
    match ofPart part with
    | .error fault => .error fault
    | .ok constraint =>
      match ofParts rest with
      | .error fault => .error fault
      | .ok constraints => .ok (constraint :: constraints)

def describe : Constraint → String
  | literal text => "Literal(" ++ text ++ ")"
  | regex pattern => "Regex(\"" ++ pattern.source ++ "\")"
  | run min max => "WildcardSingle" ++ Quantifier.render ⟨min, max⟩
  | everything => "WildcardMulti"
  | var name calls => "Variable(" ++ Part.render (.var name calls) ++ ")"
  | set name => "VariableSet(" ++ Part.render (.set name) ++ ")"

end Constraint

end PathSchema
