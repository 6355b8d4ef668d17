import PathSchema.Text.Quoted

/-!
# Modifiers

A modifier rewrites the segments of a variable before they are compared with a
path.  A registry finds modifiers by name; registering a name again replaces
its modifier.
-/

namespace PathSchema

/-- Why a modifier refuses a call. -/
inductive ModifierError where
  | invalidArguments (modifier message : String)
  | failed (modifier message : String)
  deriving DecidableEq

namespace ModifierError

def message : ModifierError → String
  | invalidArguments modifier message => modifier ++ ": invalid arguments: " ++ message
  | failed modifier message => modifier ++ ": " ++ message

end ModifierError

/-- A rewriting of segments, given the arguments of a call. -/
abbrev Modifier := List String → List String → Except ModifierError (List String)

namespace Modifier

/-- The name of the modifier that every registry of built-in modifiers holds. -/
def stripLastPrefixName : String := "strip_last_prefix"

/-- What is left of a segment after the first of some texts that it begins with. -/
def stripFirst? (fronts : List String) (segment : String) : Option String :=
  fronts.findSome? fun front =>
    (front.toList.isPrefixOf? segment.toList).map String.ofList

/-- Drops from the last segment the first argument that it begins with.  Without
arguments the call is refused, even if there is no segment. -/
def stripLastPrefix : Modifier := fun segments fronts =>
  if fronts.isEmpty then
    .error (.invalidArguments stripLastPrefixName "expected at least 1 prefix argument")
  else
    match segments.getLast? with
    | none => .ok []
    | some last => .ok (segments.dropLast ++ [(stripFirst? fronts last).getD last])

end Modifier

/-- Modifiers by name, latest first. -/
abbrev Registry := List (String × Modifier)

namespace Registry

/-- No modifiers. -/
def empty : Registry := []

def find? (registry : Registry) (name : String) : Option Modifier :=
  registry.lookup name

/-- Adds or replaces a modifier. -/
def register (registry : Registry) (name : String) (modifier : Modifier) : Registry :=
  (name, modifier) :: registry.filter (·.1 != name)

/-- The modifiers that need not be registered. -/
def builtin : Registry :=
  [(Modifier.stripLastPrefixName, Modifier.stripLastPrefix)]

/-- The built-in modifiers, replaced by those of `overrides` that share their names. -/
def merged (overrides : Registry) : Registry :=
  overrides ++ builtin.filter fun entry => (overrides.find? entry.1).isNone

/-- The registered names in ascending order. -/
def names (registry : Registry) : List String :=
  (registry.map Prod.fst).mergeSort fun a b => decide (a ≤ b)

/-- How a registry is shown in listings: by its names. -/
def describe (registry : Registry) : String :=
  "ModifierRegistry \x7b modifiers: " ++ Quoted.quoteList registry.names ++ " \x7d"

end Registry

end PathSchema
