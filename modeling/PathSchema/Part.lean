import PathSchema.Text.Decimal
import PathSchema.Token

/-!
# Parts of a schema

A schema is a sequence of parts separated by slashes.  Every list of parts has
a canonical text, given by the tokens it is written with; the text itself is
what those tokens are written as, one after the other.  Lists of parts may be
built by hand, so nothing here assumes that a literal is an identifier or that
a pattern can stand between quotes.
-/

namespace PathSchema

/-- A named rewriting of a variable's segments, with its arguments. -/
structure ModifierCall where
  name : String
  arguments : List String
  deriving DecidableEq

/-- The least and greatest number of segments a wildcard takes. -/
structure Quantifier where
  min : Nat
  max : Nat
  deriving DecidableEq

/-- The two wildcards: a bounded run, and whatever is left. -/
inductive Wildcard where
  | single
  | multi
  deriving DecidableEq

/-- One part of a schema. -/
inductive Part where
  /-- A fixed segment. -/
  | literal (text : String)
  /-- A pattern that one whole segment has to match. -/
  | regex (pattern : String)
  /-- The value of a variable, rewritten by modifiers from left to right. -/
  | var (name : String) (calls : List ModifierCall)
  /-- Any one member of a variable set. -/
  | set (name : String)
  /-- A run of arbitrary segments. -/
  | wildcard (symbol : Wildcard) (quantifier : Option Quantifier)
  deriving DecidableEq

namespace ModifierCall

/-- The tokens of an argument list between its parentheses. -/
def argumentLexemes : List String → List Lexeme
  | [] => []
  | [argument] => [⟨.string, argument⟩]
  | argument :: rest =>
    ⟨.string, argument⟩ :: .ofKind .comma :: ⟨.whitespace, " "⟩ :: argumentLexemes rest

def lexemes (call : ModifierCall) : List Lexeme :=
  ⟨.identifier, call.name⟩ :: .ofKind .openParen ::
    (argumentLexemes call.arguments ++ [.ofKind .closeParen])

/-- The tokens of a chain of calls, each after a dot. -/
def chainLexemes (calls : List ModifierCall) : List Lexeme :=
  calls.flatMap fun call => .ofKind .dot :: call.lexemes

end ModifierCall

namespace Quantifier

def lexemes (quantifier : Quantifier) : List Lexeme :=
  [.ofKind .openBrace, ⟨.integer, Decimal.render quantifier.min⟩, .ofKind .comma,
    ⟨.integer, Decimal.render quantifier.max⟩, .ofKind .closeBrace]

def render (quantifier : Quantifier) : String :=
  Lexeme.written quantifier.lexemes

end Quantifier

namespace Wildcard

def lexeme : Wildcard → Lexeme
  | single => .ofKind .plus
  | multi => .ofKind .star

def name : Wildcard → String
  | single => "single"
  | multi => "multi"

end Wildcard

namespace Part

def lexemes : Part → List Lexeme
  | literal text => [⟨.identifier, text⟩]
  | regex pattern => [⟨.string, pattern⟩]
  | var name calls =>
    .ofKind .dollar :: ⟨.identifier, name⟩ :: ModifierCall.chainLexemes calls
  | set name =>
    [.ofKind .dollar, .ofKind .openBracket, ⟨.identifier, name⟩, .ofKind .closeBracket]
  | wildcard symbol none => [symbol.lexeme]
  | wildcard symbol (some quantifier) => symbol.lexeme :: quantifier.lexemes

def render (part : Part) : String :=
  Lexeme.written part.lexemes

/-- The tokens of a list of parts, with a slash between neighbours. -/
def listLexemes : List Part → List Lexeme
  | [] => []
  | [part] => part.lexemes
  | part :: rest => part.lexemes ++ .ofKind .slash :: listLexemes rest

def renderList (parts : List Part) : String :=
  Lexeme.written (listLexemes parts)

/-- The names of the variables among some parts, in order and with repeats. -/
def variableNames (parts : List Part) : List String :=
  parts.filterMap fun
    | var name _ => some name
    | _ => none

/-- The names of the variable sets among some parts, in order and with repeats. -/
def setNames (parts : List Part) : List String :=
  parts.filterMap fun
    | set name => some name
    | _ => none

end Part

end PathSchema
