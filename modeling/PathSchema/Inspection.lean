import PathSchema.Console
import PathSchema.Schema
import PathSchema.Text.Quoted

/-!
# Inspections

An inspection shows what a schema text is read as: its tokens, if they are asked for,
its parts, and the constraint of each part.
-/

namespace PathSchema

variable [RegexLibrary]

/-- What a schema text is read as. -/
structure Inspection where
  text : String
  tokens : Option (List Token)
  parts : List Part
  constraints : List Constraint
  deriving DecidableEq

namespace Token

def toDocument (token : Token) : Document :=
  .ofFields [("kind", .ofText token.kind.name), ("text", .ofText token.text),
    ("position", .ofNat token.position)]

end Token

namespace ModifierCall

def toDocument (call : ModifierCall) : Document :=
  .ofFields [("name", .ofText call.name), ("args", .ofTexts call.arguments)]

end ModifierCall

namespace Quantifier

def toDocument (quantifier : Quantifier) : Document :=
  .ofFields [("min", .ofNat quantifier.min), ("max", .ofNat quantifier.max)]

end Quantifier

namespace Part

/-- The document of a part: its kind and what it is made of. -/
def toDocument (part : Part) : Document :=
  let kinded := fun (kind : String) (value : Document) =>
    Document.ofFields [("kind", .ofText kind), ("value", value)]
  match part with
  | literal text => kinded "literal" (.ofText text)
  | regex pattern => kinded "regex" (.ofText pattern)
  | var name calls =>
    kinded "variable" <| .ofFields
      [("name", .ofText name), ("modifiers", .list (calls.map ModifierCall.toDocument))]
  | set name => kinded "variable_set" (.ofFields [("name", .ofText name)])
  | wildcard symbol quantifier =>
    kinded "wildcard" <| .ofFields
      [("symbol", .ofText symbol.name),
        ("quantifier", quantifier.elim .null Quantifier.toDocument)]

end Part

namespace Inspection

/-- What a text is read as.  Tokens are scanned first if they are asked for. -/
def ofText (text : String) (withTokens : Bool) : Except Fault Inspection := do
  let tokens ←
    if withTokens then ((Token.scan text).mapError (Fault.ofScanError text)).map some
    else .ok none
  let parts ← (Part.ofText text).mapError (Fault.ofParseError text)
  let schema ← Schema.ofParts parts
  return ⟨text, tokens, parts, schema.constraints⟩

def toDocument (inspection : Inspection) : Document :=
  .ofFields <|
    ("schema", .ofText inspection.text) ::
      (inspection.tokens.toList.map fun tokens =>
        ("tokens", Document.list (tokens.map Token.toDocument))) ++
      [("parts", .list (inspection.parts.map Part.toDocument)),
        ("constraints", .ofTexts (inspection.constraints.map Constraint.describe)),
        ("variables", .ofTexts (Part.variableNames inspection.parts)),
        ("variable_sets", .ofTexts (Part.setNames inspection.parts))]

/-- A text with blanks after it, up to a width. -/
def padRight (width : Nat) (text : String) : String :=
  text ++ String.ofList (List.replicate (width - text.length) ' ')

/-- A text with blanks before it, up to a width. -/
def padLeft (width : Nat) (text : String) : String :=
  String.ofList (List.replicate (width - text.length) ' ') ++ text

/-- The line on a token: where it stands, what it is, and its text. -/
def tokenLine (token : Token) : String :=
  padLeft 4 (Decimal.render token.position) ++ "  " ++ padRight 12 token.kind.describe ++ " " ++
    Quoted.quote token.text

/-- The lines on the constraints: their numbers, the parts they come from, and what
they demand. -/
def constraintLines (inspection : Inspection) : List String :=
  (inspection.parts.zip inspection.constraints).zipIdx.map fun ((part, constraint), index) =>
    "#" ++ padRight 3 (Decimal.render index) ++ " " ++ padRight 40 part.render ++ " " ++
      constraint.describe

/-- The lines on the variables and the variable sets. -/
def inputLines (inspection : Inspection) : List String :=
  (Part.variableNames inspection.parts).map ("$" ++ ·) ++
    (Part.setNames inspection.parts).map fun name => "$[" ++ name ++ "]"

def write (console : Console) (inspection : Inspection) : String :=
  let lines := fun (texts : List String) => String.join (texts.map Console.line)
  if console.format != .human then console.data inspection.toDocument
  else
    console.heading "Schema" ++ Console.line inspection.text ++
      inspection.tokens.elim "" (fun tokens =>
        console.heading "Tokens" ++ lines (tokens.map tokenLine)) ++
      console.heading "Constraints" ++ lines inspection.constraintLines ++
      if inspection.inputLines.isEmpty then ""
      else console.heading "Inputs" ++ lines inspection.inputLines

end Inspection

end PathSchema
