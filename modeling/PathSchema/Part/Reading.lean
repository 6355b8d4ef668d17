import PathSchema.Part

/-!
# Reading parts from tokens

A reader takes tokens one at a time.  It holds the parts that are complete and
the stage of the one in progress; each stage says which token may come next.
The first token that the stage does not admit is the error, and reading stops
there.  Blanks are admitted around the arguments of a modifier and nowhere else.

Since reading is a fold over the tokens, reading two runs of tokens one after
the other is reading their concatenation.
-/

namespace PathSchema

/-- What a reader met instead of a token it could go on with. -/
inductive ReadProblem where
  /-- The text is empty. -/
  | emptyText
  /-- A part has to begin here. -/
  | partExpected
  /-- A complete part is followed by neither a slash nor the end. -/
  | afterPart
  /-- One particular kind of token has to come here. -/
  | expected (kind : TokenKind)
  /-- A bound of a quantifier is not below 2 ^ 64. -/
  | boundTooLarge (text : String)
  deriving DecidableEq

/-- The stage of the part that is being read. -/
inductive Stage where
  /-- A part has to begin. -/
  | start
  /-- A literal, a pattern, a set or a quantified wildcard is complete. -/
  | complete (part : Part)
  /-- A dollar sign was read. -/
  | dollar
  /-- The bracket of a set is open. -/
  | setOpen
  /-- The set has its name. -/
  | setNamed (name : String)
  /-- A variable that is complete but may have a further modifier. -/
  | named (name : String) (calls : List ModifierCall)
  /-- A dot after a variable was read. -/
  | dot (name : String) (calls : List ModifierCall)
  /-- The modifier has its name. -/
  | modifier (name : String) (calls : List ModifierCall) (called : String)
  /-- A string argument has to come. -/
  | argument (name : String) (calls : List ModifierCall) (called : String)
      (arguments : List String)
  /-- An argument was read; a comma or the closing parenthesis has to come. -/
  | afterArgument (name : String) (calls : List ModifierCall) (called : String)
      (arguments : List String)
  /-- A wildcard that is complete but may have a quantifier. -/
  | wildcard (symbol : Wildcard)
  /-- The quantifier is open; its least number has to come. -/
  | lower (symbol : Wildcard)
  /-- The least number was read; a comma or the closing brace has to come. -/
  | afterLower (symbol : Wildcard) (min : Nat)
  /-- The greatest number has to come. -/
  | upper (symbol : Wildcard) (min : Nat)
  /-- Both numbers were read; the closing brace has to come. -/
  | afterUpper (symbol : Wildcard) (min max : Nat)
  deriving DecidableEq

namespace Stage

/-- The part in progress, where it may end. -/
def part? : Stage → Option Part
  | complete part => some part
  | named name calls => some (.var name calls)
  | wildcard symbol => some (.wildcard symbol none)
  | _ => none

/-- What is wrong with any token, or the end, that the stage does not admit. -/
def problem : Stage → ReadProblem
  | start => .partExpected
  | complete _ | named .. | wildcard _ => .afterPart
  | dollar | setOpen | dot .. => .expected .identifier
  | setNamed _ => .expected .closeBracket
  | modifier .. => .expected .openParen
  | argument .. => .expected .string
  | afterArgument .. => .expected .closeParen
  | lower _ | upper .. => .expected .integer
  | afterLower .. | afterUpper .. => .expected .closeBrace

/-- The number an integer token denotes, if it is below 2 ^ 64. -/
def bound (text : String) : Except ReadProblem Nat :=
  if Decimal.value text.toList < UInt64.size then .ok (Decimal.value text.toList)
  else .error (.boundTooLarge text)

/-- The stage after one more token of the same part. -/
def step (stage : Stage) (token : Lexeme) : Except ReadProblem Stage :=
  match stage, token.kind with
  | start, .dollar => .ok dollar
  | start, .plus => .ok (wildcard .single)
  | start, .star => .ok (wildcard .multi)
  | start, .string => .ok (complete (.regex token.text))
  | start, .identifier => .ok (complete (.literal token.text))
  | dollar, .openBracket => .ok setOpen
  | dollar, .identifier => .ok (named token.text [])
  | setOpen, .identifier => .ok (setNamed token.text)
  | setNamed name, .closeBracket => .ok (complete (.set name))
  | named name calls, .dot => .ok (dot name calls)
  | dot name calls, .identifier => .ok (modifier name calls token.text)
  | modifier name calls called, .openParen => .ok (argument name calls called [])
  | argument name calls called arguments, .whitespace =>
    .ok (argument name calls called arguments)
  | argument name calls called arguments, .string =>
    .ok (afterArgument name calls called (arguments ++ [token.text]))
  | afterArgument name calls called arguments, .whitespace =>
    .ok (afterArgument name calls called arguments)
  | afterArgument name calls called arguments, .comma =>
    .ok (argument name calls called arguments)
  | afterArgument name calls called arguments, .closeParen =>
    .ok (named name (calls ++ [⟨called, arguments⟩]))
  | wildcard symbol, .openBrace => .ok (lower symbol)
  | lower symbol, .integer => (bound token.text).map (afterLower symbol)
  | afterLower symbol min, .comma => .ok (upper symbol min)
  | afterLower symbol min, .closeBrace =>
    .ok (complete (.wildcard symbol (some ⟨min, min⟩)))
  | upper symbol min, .integer => (bound token.text).map (afterUpper symbol min)
  | afterUpper symbol min max, .closeBrace =>
    .ok (complete (.wildcard symbol (some ⟨min, max⟩)))
  | stage, _ => .error stage.problem

end Stage

/-- The complete parts and the stage of the next one. -/
structure Reader where
  parts : List Part
  stage : Stage
  deriving DecidableEq

/-- Where and why reading stopped; no token stands for the end of the text. -/
structure ReadError where
  problem : ReadProblem
  found : Option Token
  deriving DecidableEq

namespace Reader

def initial : Reader := ⟨[], .start⟩

/-- Takes one token: a slash ends a part that may end, any other token continues it. -/
def step (reader : Reader) (token : Lexeme) : Except ReadProblem Reader :=
  match token.kind, reader.stage.part? with
  | .slash, some part => .ok ⟨reader.parts ++ [part], .start⟩
  | _, _ => (reader.stage.step token).map fun stage => ⟨reader.parts, stage⟩

/-- Takes some tokens, up to the first that cannot come. -/
def run (reader : Reader) : List Token → Except ReadError Reader
  | [] => .ok reader
  | token :: rest =>
    match reader.step token.toLexeme with
    | .error problem => .error ⟨problem, some token⟩
    | .ok reader => run reader rest

/-- The parts, if the text may end here. -/
def finish (reader : Reader) : Except ReadError (List Part) :=
  match reader.stage.part? with
  | some part => .ok (reader.parts ++ [part])
  | none => .error ⟨reader.stage.problem, none⟩

theorem run_append (reader : Reader) (xs ys : List Token) :
    reader.run (xs ++ ys) = (reader.run xs).bind fun r => r.run ys := by
  induction xs generalizing reader with
  | nil => rfl
  | cons token xs ih =>
    rw [List.cons_append, run, run]
    split
    · rfl
    · exact ih _

end Reader

/-- Why a text is not a schema text. -/
inductive ParseError where
  | scan (error : ScanError)
  | read (error : ReadError)
  deriving DecidableEq

namespace Part

def ofTokens (tokens : List Token) : Except ReadError (List Part) :=
  (Reader.initial.run tokens).bind Reader.finish

/-- The parts of a schema text.  A text that cannot be scanned fails with the
scanning error, wherever its tokens would have failed. -/
def ofText (text : String) : Except ParseError (List Part) :=
  if text = "" then .error (.read ⟨.emptyText, none⟩)
  else
    match Token.scan text with
    | .error error => .error (.scan error)
    | .ok tokens => (ofTokens tokens).mapError .read

end Part

end PathSchema
