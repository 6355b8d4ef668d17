import PathSchema.Modifier
import PathSchema.Part.Reading
import PathSchema.Path

/-!
# Faults

A fault says why a text is no schema, why a schema cannot be compiled, or why a
path does not satisfy it.  A fault of one constraint is wrapped with the place of
the constraint; `Fault.rootCause` looks through the wrappers.  The wording of all
faults is in `Fault.message` and, with the place in the schema text,
`Fault.detailed`.
-/

namespace PathSchema

/-- Why compiling or evaluating a schema failed. -/
inductive Fault where
  /-- The text stops being a run of tokens. -/
  | lexical (message : String) (position : Nat) (input : String)
  /-- The tokens do not spell a schema. -/
  | ungrammatical (message : String) (position : Nat) (input : String)
      (expected : List String) (found : String)
  /-- The least number of a quantifier exceeds its greatest. -/
  | quantifierRange (min max : Nat)
  /-- The unbounded wildcard has a quantifier. -/
  | quantifiedMulti (min max : Nat)
  /-- A pattern does not compile; the message is that of the library of expressions. -/
  | invalidPattern (pattern message : String)
  | variableNotFound (name : String)
  | setNotFound (name : String)
  | emptySet (name : String)
  | modifierNotFound (name : String)
  | modifierRefused (name : String) (error : ModifierError)
  | segmentMismatch (expected found : String)
  | insufficientSegments (needed available : Nat)
  | trailingSegments (leftover : List String)
  | noMemberMatched (name : String) (tried : Nat)
  /-- The value of a variable cannot be recovered. -/
  | extraction (message input : String)
  /-- The fault of one constraint, with its place, its description and the input. -/
  | atConstraint (index : Nat) (constraint input : String) (cause : Fault)
  deriving DecidableEq

/-- The kinds of faults, whatever they are wrapped in. -/
inductive FaultKind where
  | lexical
  | ungrammatical
  | quantifierRange
  | quantifiedMulti
  | invalidPattern
  | variableNotFound
  | setNotFound
  | emptySet
  | modifierNotFound
  | modifierArguments
  | modifierFailed
  | segmentMismatch
  | insufficientSegments
  | trailingSegments
  | noMemberMatched
  | extraction
  deriving DecidableEq

namespace FaultKind

def name : FaultKind → String
  | lexical => "LexError"
  | ungrammatical => "SyntaxError"
  | quantifierRange => "QuantifierRangeError"
  | quantifiedMulti => "MultiWildcardQuantifier"
  | invalidPattern => "InvalidRegex"
  | variableNotFound => "VariableNotFound"
  | setNotFound => "VariableSetNotFound"
  | emptySet => "EmptySetError"
  | modifierNotFound => "ModifierNotFound"
  | modifierArguments => "ModifierArgumentError"
  | modifierFailed => "ModifierError"
  | segmentMismatch => "SegmentMismatch"
  | insufficientSegments => "InsufficientSegments"
  | trailingSegments => "TrailingSegments"
  | noMemberMatched => "NoSetMemberMatched"
  | extraction => "ExtractionError"

/-- Whether faults of a kind arise while a text is turned into a schema. -/
def isCompile : FaultKind → Bool
  | lexical | ungrammatical | quantifierRange | quantifiedMulti | invalidPattern => true
  | _ => false

end FaultKind

namespace ReadProblem

/-- What could have stood where reading stopped. -/
def expectations : ReadProblem → List String
  | emptyText => ["schema part"]
  | partExpected =>
    [TokenKind.dollar, .plus, .star, .string, .identifier].map TokenKind.describe
  | afterPart => [TokenKind.slash.describe, "end of schema"]
  | expected kind => [kind.describe]
  | boundTooLarge _ => [TokenKind.integer.describe]

end ReadProblem

namespace ReadError

def message (error : ReadError) : String :=
  match error.problem, error.found with
  | .emptyText, _ => "Empty schema"
  | .partExpected, none => "Unexpected end of schema"
  | .partExpected, some _ => "Expected a schema part"
  | .afterPart, _ => "Unexpected token after part"
  | .expected kind, _ => "Expected " ++ kind.describe
  | .boundTooLarge text, _ =>
    "Invalid quantifier bound '" ++ text ++ "': number too large to fit in target type"

/-- How the token is shown at which reading stopped; blanks are named, not shown. -/
def foundText (error : ReadError) : String :=
  match error.found with
  | none => "EOF"
  | some token =>
    if token.kind = .whitespace then TokenKind.whitespace.describe else token.text

/-- The byte offset at which reading a text stopped. -/
def position (error : ReadError) (input : String) : Nat :=
  match error.found with
  | none => Text.byteLength input.toList
  | some token => token.position

end ReadError

namespace Fault

def ofScanError (input : String) (error : ScanError) : Fault :=
  .lexical error.message error.position input

def ofParseError (input : String) : ParseError → Fault
  | .scan error => ofScanError input error
  | .read error =>
    .ungrammatical error.message (error.position input) input error.problem.expectations
      error.foundText

def noParts : Fault :=
  .ungrammatical "Schema must contain at least one part" 0 "" ["schema part"] "EOF"

/-- The innermost fault. -/
def rootCause : Fault → Fault
  | atConstraint _ _ _ cause => cause.rootCause
  | fault => fault

def kind : Fault → FaultKind
  | lexical .. => .lexical
  | ungrammatical .. => .ungrammatical
  | quantifierRange .. => .quantifierRange
  | quantifiedMulti .. => .quantifiedMulti
  | invalidPattern .. => .invalidPattern
  | variableNotFound _ => .variableNotFound
  | setNotFound _ => .setNotFound
  | emptySet _ => .emptySet
  | modifierNotFound _ => .modifierNotFound
  | modifierRefused _ (.invalidArguments ..) => .modifierArguments
  | modifierRefused _ (.failed ..) => .modifierFailed
  | segmentMismatch .. => .segmentMismatch
  | insufficientSegments .. => .insufficientSegments
  | trailingSegments _ => .trailingSegments
  | noMemberMatched .. => .noMemberMatched
  | extraction .. => .extraction
  | atConstraint _ _ _ cause => cause.kind

/-- Whether the fault arose while a text was turned into a schema. -/
def isCompile (fault : Fault) : Bool :=
  fault.kind.isCompile

/-- The place of the constraint that failed, if the fault is that of one. -/
def constraintIndex? : Fault → Option Nat
  | atConstraint index _ _ _ => some index
  | _ => none

def bounds (min max : Nat) : String :=
  Quantifier.render ⟨min, max⟩

/-- The wording of a fault, wrappers included. -/
def message : Fault → String
  | lexical message position _ =>
    "Lex error at position " ++ Decimal.render position ++ ": " ++ message
  | ungrammatical message position _ _ _ =>
    "Syntax error at position " ++ Decimal.render position ++ ": " ++ message
  | quantifierRange min max =>
    "Invalid quantifier " ++ bounds min max ++ ": minimum exceeds maximum"
  | quantifiedMulti min max =>
    "Quantifier " ++ bounds min max ++
      " is not allowed on '*'; use '+' for bounded wildcards"
  | invalidPattern pattern message =>
    "Invalid regular expression '" ++ pattern ++ "': " ++ message
  | variableNotFound name => "Variable '" ++ name ++ "' not found in store"
  | setNotFound name => "Variable set '" ++ name ++ "' not found in store"
  | emptySet name => "Variable set '" ++ name ++ "' is empty"
  | modifierNotFound name => "Modifier '" ++ name ++ "' is not registered"
  | modifierRefused name error => "Modifier '" ++ name ++ "' failed: " ++ error.message
  | segmentMismatch expected found => "Expected '" ++ expected ++ "', found '" ++ found ++ "'"
  | insufficientSegments needed available =>
    "Not enough segments: need " ++ Decimal.render needed ++ ", " ++
      Decimal.render available ++ " remaining"
  | trailingSegments leftover =>
    "Unmatched trailing segments: '" ++ Path.join leftover ++ "'"
  | noMemberMatched name tried =>
    "No member of variable set '" ++ name ++ "' matched (tried " ++ Decimal.render tried ++ ")"
  | extraction message input =>
    "Context extraction failed for '" ++ input ++ "': " ++ message
  | atConstraint index constraint input cause =>
    "Constraint #" ++ Decimal.render index ++ " " ++ constraint ++ " rejected '" ++ input ++
      "': " ++ cause.message

/-- The lines of a text without their ends; a line feed ends a line, together with
a carriage return before it. -/
def lines (text : List Char) : List (List Char) :=
  let dropReturn := fun (line : List Char) =>
    if line.getLast? = some '\r' then line.dropLast else line
  let rec go : List Char → List Char → List (List Char)
    | [], [] => []
    | current, [] => [current.reverse]
    | current, '\n' :: rest => dropReturn current.reverse :: go [] rest
    | current, c :: rest => go (c :: current) rest
  go [] text

/-- The line of a text that holds a position, and a caret under its column.  An
empty text has no lines to show. -/
def caret (input : String) (position : Position) : String :=
  if input = "" then ""
  else
    let line := ((lines input.toList)[position.line - 1]?).getD input.toList
    "\nSchema: " ++ String.ofList line ++ "\n        " ++
      String.ofList (List.replicate (position.column - 1) ' ') ++ "^"

/-- The place of an offset in words. -/
def place (position : Position) : String :=
  "line " ++ Decimal.render position.line ++ ", column " ++ Decimal.render position.column

/-- The wording of a fault with its place in the schema text, or with the cause at
the root of its wrappers. -/
def detailed (fault : Fault) : String :=
  match fault with
  | lexical message position input =>
    let position := Position.ofOffset input position
    "Lex error at " ++ place position ++ ": " ++ message ++ caret input position
  | ungrammatical message position input expected found =>
    let position := Position.ofOffset input position
    "Syntax error at " ++ place position ++ ": " ++ message ++
      (if expected.isEmpty then ""
        else "\nExpected one of: " ++ String.intercalate ", " expected) ++
      "\nFound: " ++ found ++ caret input position
  | atConstraint _ _ _ cause => fault.message ++ "\nCaused by: " ++ cause.rootCause.message
  | fault => fault.message

end Fault

end PathSchema
