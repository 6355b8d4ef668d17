import PathSchema.Yaml.Token.Property
import PathSchema.Yaml.Token.Scalar

/-!
# Scanning YAML text

The scanner follows the indentation of blocks.  A key is recognised only by the
colon after it, so the scanner remembers where a key may have begun, at most one for
every level of brackets; when the colon comes, the tokens that mark the key are put
before it.  Where a key is certain to have begun, its colon has to come on the same
line.
-/

namespace PathSchema

namespace Yaml

/-- A place where a key may have begun. -/
structure PossibleKey where
  /-- Whether nothing but a key can stand there. -/
  required : Bool
  /-- The number of tokens before it. -/
  number : Nat
  mark : Mark
  deriving DecidableEq

/-- What the scanner knows after some tokens. -/
structure Scanner where
  cursor : Cursor
  /-- The tokens, each with those that were put before it. -/
  tokens : Array (List Token × Token) := #[]
  /-- The columns of the blocks around this place, innermost first. -/
  indents : List Nat := []
  /-- Whether a key may begin here. -/
  keyAllowed : Bool := true
  /-- Where a key may have begun, for the brackets around this place and for the text
  outside of all brackets, innermost first. -/
  keys : List (Option PossibleKey) := [none]

namespace Scanner

/-- Whether brackets are open. -/
def inFlow (scanner : Scanner) : Bool :=
  scanner.keys.length > 1

def indent? (scanner : Scanner) : Option Nat :=
  scanner.indents.head?

def emit (scanner : Scanner) (token : Token) : Scanner :=
  { scanner with tokens := scanner.tokens.push ([], token) }

/-- Adds a token for some characters of one line. -/
def emitWidth (scanner : Scanner) (token : Token) (width : Nat) : Scanner :=
  { scanner.emit token with cursor := scanner.cursor.skip width }

def putBefore (scanner : Scanner) (number : Nat) (token : Token) : Scanner :=
  { scanner with tokens := scanner.tokens.modify number fun entry => (token :: entry.1, entry.2) }

/-- Ends the blocks whose indentation is beyond a column. -/
def endBlocks (past : Nat → Bool) (scanner : Scanner) : Scanner :=
  if scanner.inFlow then scanner
  else
    let ended := scanner.indents.takeWhile past
    ended.foldl (fun scanner _ => scanner.emit .blockEnd)
      { scanner with indents := scanner.indents.drop ended.length }

def beginsBlock (scanner : Scanner) (column : Nat) : Bool :=
  !scanner.inFlow && scanner.indent?.all (· < column)

/-- Begins a block at the cursor, if it is the first of its indentation. -/
def beginBlock (scanner : Scanner) (token : Token) : Scanner :=
  let column := scanner.cursor.mark.column
  if scanner.beginsBlock column then
    { scanner with indents := column :: scanner.indents }.emit token
  else scanner

/-- Gives up the possible key of the innermost level. -/
def dropKey (scanner : Scanner) : Option Scanner :=
  match scanner.keys with
  | some key :: rest => if key.required then none else some { scanner with keys := none :: rest }
  | _ => some scanner

/-- Remembers that a key may begin at the cursor. -/
def noteKey (scanner : Scanner) : Option Scanner :=
  if scanner.keyAllowed then
    scanner.dropKey.map fun scanner =>
      let mark := scanner.cursor.mark
      let key : PossibleKey :=
        ⟨!scanner.inFlow && scanner.indent? == some mark.column, scanner.tokens.size, mark⟩
      { scanner with keys := some key :: scanner.keys.tail }
  else some scanner

/-- Gives up the possible keys that are too far away for their colon to come. -/
def dropFarKeys (scanner : Scanner) : Option Scanner :=
  let mark := scanner.cursor.mark
  let keep := fun (key? : Option PossibleKey) =>
    match key? with
    | none => some none
    | some key =>
      if key.mark.line < mark.line || key.mark.index + 1024 < mark.index then
        if key.required then none else some none
      else some (some key)
  (scanner.keys.mapM keep).map fun keys => { scanner with keys }

/-- Skips blanks, comments and line breaks.  Outside of brackets a key may begin after
a line break, and a tab may not stand where a key may begin.  A byte order mark at the
beginning of a line is skipped like a space. -/
def skipFiller (inFlow : Bool) :
    (inComment keyAllowed : Bool) → List Char → Mark → Bool × Cursor
  | _, keyAllowed, '\r' :: '\n' :: rest, mark =>
    skipFiller inFlow false (keyAllowed || !inFlow) rest (mark.nextLine 2)
  | inComment, keyAllowed, c :: rest, mark =>
    if isBreak c then skipFiller inFlow false (keyAllowed || !inFlow) rest (mark.nextLine 1)
    else if inComment || c == ' ' || (c == '\t' && (inFlow || !keyAllowed)) ||
        (c == '\ufeff' && mark.column == 0) then
      skipFiller inFlow inComment keyAllowed rest (mark.ahead 1)
    else if c == '#' then skipFiller inFlow true keyAllowed rest (mark.ahead 1)
    else (keyAllowed, ⟨c :: rest, mark⟩)
  | _, keyAllowed, [], mark => (keyAllowed, ⟨[], mark⟩)

/-- Goes to the next token. -/
def advance (scanner : Scanner) : Option Scanner :=
  let (keyAllowed, cursor) := skipFiller scanner.inFlow false scanner.keyAllowed
    scanner.cursor.chars scanner.cursor.mark
  (dropFarKeys { scanner with keyAllowed, cursor }).map (endBlocks (cursor.mark.column < ·))

/-- Takes a token that ends all blocks. -/
def takeBoundary (scanner : Scanner) (token : Token) (cursor : Cursor) : Option Scanner :=
  (scanner.endBlocks fun _ => true).dropKey.map fun scanner =>
    { scanner.emit token with cursor, keyAllowed := false }

def takeOpening (scanner : Scanner) (token : Token) : Option Scanner :=
  scanner.noteKey.map fun scanner =>
    { scanner.emitWidth token 1 with keys := none :: scanner.keys, keyAllowed := true }

def takeClosing (scanner : Scanner) (token : Token) : Option Scanner :=
  scanner.dropKey.map fun scanner =>
    { scanner.emitWidth token 1 with
      keys := if scanner.inFlow then scanner.keys.tail else scanner.keys
      keyAllowed := false }

def takeComma (scanner : Scanner) : Option Scanner :=
  scanner.dropKey.map fun scanner => { scanner.emitWidth .flowEntry 1 with keyAllowed := true }

def takeDash (scanner : Scanner) : Option Scanner :=
  if !scanner.inFlow && !scanner.keyAllowed then none
  else
    (scanner.beginBlock .blockSequence).dropKey.map fun scanner =>
      { scanner.emitWidth .blockEntry 1 with keyAllowed := true }

def takeKey (scanner : Scanner) : Option Scanner :=
  if !scanner.inFlow && !scanner.keyAllowed then none
  else
    (scanner.beginBlock .blockMapping).dropKey.map fun scanner =>
      { scanner.emitWidth .key 1 with keyAllowed := !scanner.inFlow }

/-- Takes the colon after a key. -/
def takeValue (scanner : Scanner) : Option Scanner :=
  match scanner.keys with
  | some key :: rest =>
    let scanner := { scanner with keys := none :: rest, keyAllowed := false }.putBefore
      key.number .key
    let scanner :=
      if scanner.beginsBlock key.mark.column then
        { scanner with indents := key.mark.column :: scanner.indents }.putBefore
          key.number .blockMapping
      else scanner
    some (scanner.emitWidth .value 1)
  | _ =>
    if !scanner.inFlow && !scanner.keyAllowed then none
    else
      let scanner := scanner.beginBlock .blockMapping
      some { scanner.emitWidth .value 1 with keyAllowed := !scanner.inFlow }

/-- Takes a token that may be, or may begin, a key. -/
def takeNode (scanner : Scanner) (read : Cursor → Option (Token × Cursor)) : Option Scanner :=
  scanner.noteKey.bind fun scanner =>
    (read scanner.cursor).map fun (token, cursor) =>
      { scanner.emit token with cursor, keyAllowed := false }

def takePlain (scanner : Scanner) : Option Scanner :=
  scanner.noteKey.bind fun scanner =>
    (plainScalar scanner.inFlow (scanner.indent?.elim 0 (· + 1)) scanner.cursor.chars
      scanner.cursor.mark {}).map fun (text, isBroken, cursor) =>
        { scanner.emit (.scalar true text) with cursor, keyAllowed := isBroken }

def takeBlock (scanner : Scanner) (literal : Bool) : Option Scanner :=
  scanner.dropKey.bind fun scanner =>
    (blockScalar literal scanner.indent? (scanner.cursor.skip 1)).map fun (text, cursor) =>
      { scanner.emit (.scalar false text) with cursor, keyAllowed := true }

/-- Takes the token at the cursor. -/
def take (scanner : Scanner) (c : Char) (rest : List Char) : Option Scanner :=
  let cursor := scanner.cursor
  let atMargin := cursor.mark.column == 0
  let blankNext := isBlankPlace rest.head?
  let quoted := fun (read : List Char → Mark → Option (String × Cursor)) =>
    scanner.takeNode fun cursor =>
      let inside := cursor.skip 1
      (read inside.chars inside.mark).map fun (text, cursor) => (.scalar false text, cursor)
  if atMargin && c == '%' then
    (directiveToken cursor).bind fun (token, after) => scanner.takeBoundary token after
  else if atMargin && startsWithMark '-' (c :: rest) then
    scanner.takeBoundary .documentStart (cursor.skip 3)
  else if atMargin && startsWithMark '.' (c :: rest) then
    scanner.takeBoundary .documentEnd (cursor.skip 3)
  else if c == '[' then scanner.takeOpening .openSequence
  else if c == '\x7b' then scanner.takeOpening .openMapping
  else if c == ']' then scanner.takeClosing .closeSequence
  else if c == '\x7d' then scanner.takeClosing .closeMapping
  else if c == ',' then scanner.takeComma
  else if c == '-' && blankNext then scanner.takeDash
  else if c == '?' && (scanner.inFlow || blankNext) then scanner.takeKey
  else if c == ':' && (scanner.inFlow || blankNext) then scanner.takeValue
  else if c == '*' then scanner.takeNode (nameToken .alias)
  else if c == '&' then scanner.takeNode (nameToken .anchor)
  else if c == '!' then scanner.takeNode (tagToken scanner.inFlow)
  else if c == '|' && !scanner.inFlow then scanner.takeBlock true
  else if c == '>' && !scanner.inFlow then scanner.takeBlock false
  else if c == '\'' then quoted fun chars mark => singleQuoted chars mark {}
  else if c == '"' then quoted fun chars mark => doubleQuoted .outside chars mark {}
  else if (!isBlankPlace (some c) && !"-?:,[]\x7b\x7d#&*!|>'\"%@\x60".toList.contains c) ||
      (c == '-' && !rest.head?.any isBlank) ||
      (!scanner.inFlow && (c == '?' || c == ':') && !blankNext) then scanner.takePlain
  else none

/-- Takes all tokens; every token takes at least one character. -/
def run : Nat → Scanner → Option Scanner
  | 0, _ => none
  | fuel + 1, scanner =>
    scanner.advance.bind fun scanner =>
      match scanner.cursor.chars with
      | [] => scanner.takeBoundary .streamEnd scanner.cursor
      | c :: rest => (scanner.take c rest).bind (run fuel)

end Scanner

/-- The tokens of a text, if it can be scanned. -/
def Token.scan (text : String) : Option (List Token) :=
  let chars := text.toList
  if chars.all isAllowed then
    (Scanner.run (chars.length + 1) { cursor := ⟨chars, {}⟩ }).map fun scanner =>
      scanner.tokens.toList.flatMap fun entry => entry.1 ++ [entry.2]
  else none

end Yaml

end PathSchema
