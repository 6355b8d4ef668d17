import PathSchema.Text.Hexadecimal
import PathSchema.Yaml.Token

/-!
# Scalars of YAML text

A scalar over several lines is folded: one line break is read as a space, and of
several the first is dropped.  Blanks around line breaks do not count, except in
blocks, which keep what is right of their indentation.
-/

namespace PathSchema

namespace Yaml

/-- Blanks and line breaks that were met since the last character of a scalar. -/
inductive Gap where
  | blanks (text : List Char)
  /-- Line breaks; the first one is absent if it was escaped. -/
  | breaks (first : Option Char) (others : List Char)
  deriving DecidableEq

namespace Gap

/-- Nothing was met. -/
def empty : Gap := .blanks []

/-- Whether there is a line break. -/
def isBroken : Gap → Bool
  | blanks _ => false
  | breaks .. => true

def blank (gap : Gap) (c : Char) : Gap :=
  match gap with
  | blanks text => .blanks (text ++ [c])
  | breaks .. => gap

/-- The gap with one more line break. -/
def newline (gap : Gap) (c : Char) : Gap :=
  match gap with
  | blanks _ => .breaks (some (normalBreak c)) []
  | breaks first others => .breaks first (others ++ [normalBreak c])

/-- What is read for a gap inside a scalar. -/
def folded : Gap → List Char
  | blanks text => text
  | breaks (some '\n') [] => [' ']
  | breaks (some '\n') others => others
  | breaks (some first) others => first :: others
  | breaks none others => others

end Gap

/-- The part of a scalar that has been read, last character first, and the gap after it. -/
structure Folding where
  taken : List Char := []
  gap : Gap := .empty
  deriving DecidableEq

namespace Folding

def close (folding : Folding) : Folding :=
  ⟨folding.gap.folded.reverse ++ folding.taken, .empty⟩

def push (folding : Folding) (c : Char) : Folding :=
  { folding.close with taken := c :: folding.close.taken }

def blank (folding : Folding) (c : Char) : Folding :=
  { folding with gap := folding.gap.blank c }

/-- Takes a line break. -/
def newline (folding : Folding) (c : Char) : Folding :=
  { folding with gap := folding.gap.newline c }

/-- Takes a line break that was escaped. -/
def joinLines (folding : Folding) : Folding :=
  { folding.close with gap := .breaks none [] }

/-- What was read, without the gap. -/
def text (folding : Folding) : String :=
  String.ofList folding.taken.reverse

end Folding

/-- Reads a plain scalar; `least` is the column that its later lines have to reach.
The result tells whether the scalar was followed by a line break. -/
def plainScalar (inFlow : Bool) (least : Nat) :
    List Char → Mark → Folding → Option (String × Bool × Cursor)
  | '\r' :: '\n' :: rest, mark, folding =>
    plainScalar inFlow least rest (mark.nextLine 2) (folding.newline '\n')
  | c :: rest, mark, folding =>
    let stop := some (folding.text, folding.gap.isBroken, ⟨c :: rest, mark⟩)
    if isBreak c then plainScalar inFlow least rest (mark.nextLine 1) (folding.newline c)
    else if isBlank c then
      if folding.gap.isBroken && mark.column < least && c == '\t' then none
      else plainScalar inFlow least rest (mark.ahead 1) (folding.blank c)
    else if folding.gap != .empty &&
        ((!inFlow && mark.column < least) || c == '#' ||
          (mark.column == 0 && startsWithAnyMark (c :: rest))) then stop
    else if inFlow && c == ':' && rest.head?.any ",?[]\x7b\x7d".toList.contains then none
    else if (c == ':' && isBlankPlace rest.head?) ||
        (inFlow && ",[]\x7b\x7d".toList.contains c) then stop
    else plainScalar inFlow least rest (mark.ahead 1) (folding.push c)
  | [], mark, folding => some (folding.text, folding.gap.isBroken, ⟨[], mark⟩)

def singleQuoted : List Char → Mark → Folding → Option (String × Cursor)
  | '\r' :: '\n' :: rest, mark, folding =>
    singleQuoted rest (mark.nextLine 2) (folding.newline '\n')
  | '\'' :: '\'' :: rest, mark, folding =>
    singleQuoted rest (mark.ahead 2) (folding.push '\'')
  | c :: rest, mark, folding =>
    if isBreak c then singleQuoted rest (mark.nextLine 1) (folding.newline c)
    else if isBlank c then singleQuoted rest (mark.ahead 1) (folding.blank c)
    else if mark.column == 0 && startsWithAnyMark (c :: rest) then none
    else if c == '\'' then some (folding.close.text, ⟨rest, mark.ahead 1⟩)
    else singleQuoted rest (mark.ahead 1) (folding.push c)
  | [], _, _ => none

def simpleEscapes : List (Char × Char) :=
  [('0', '\x00'), ('a', '\x07'), ('b', '\x08'), ('t', '\t'), ('\t', '\t'), ('n', '\n'),
    ('v', '\x0b'), ('f', '\x0c'), ('r', '\r'), ('e', '\x1b'), (' ', ' '), ('"', '"'),
    ('/', '/'), ('\\', '\\'), ('N', '\u0085'), ('_', '\u00a0'), ('L', '\u2028'),
    ('P', '\u2029')]

/-- The number of digits after the letter of an escape by number. -/
def numberedEscapes : List (Char × Nat) := [('x', 2), ('u', 4), ('U', 8)]

/-- Where a reader stands between double quotes. -/
inductive EscapeStage where
  | outside
  /-- A backslash was read. -/
  | begun
  /-- Some digits are still to come. -/
  | digits (left value : Nat)
  deriving DecidableEq

def doubleQuoted : EscapeStage → List Char → Mark → Folding → Option (String × Cursor)
  | .outside, '\r' :: '\n' :: rest, mark, folding =>
    doubleQuoted .outside rest (mark.nextLine 2) (folding.newline '\n')
  | .begun, '\r' :: '\n' :: rest, mark, folding =>
    doubleQuoted .outside rest (mark.nextLine 2) folding.joinLines
  | .outside, c :: rest, mark, folding =>
    if isBreak c then doubleQuoted .outside rest (mark.nextLine 1) (folding.newline c)
    else if isBlank c then doubleQuoted .outside rest (mark.ahead 1) (folding.blank c)
    else if mark.column == 0 && startsWithAnyMark (c :: rest) then none
    else if c == '"' then some (folding.close.text, ⟨rest, mark.ahead 1⟩)
    else if c == '\\' then doubleQuoted .begun rest (mark.ahead 1) folding
    else doubleQuoted .outside rest (mark.ahead 1) (folding.push c)
  | .begun, c :: rest, mark, folding =>
    if isBreak c then doubleQuoted .outside rest (mark.nextLine 1) folding.joinLines
    else
      match simpleEscapes.lookup c with
      | some meant => doubleQuoted .outside rest (mark.ahead 1) (folding.push meant)
      | none =>
        match numberedEscapes.lookup c with
        | some left => doubleQuoted (.digits left 0) rest (mark.ahead 1) folding
        | none => none
  | .digits left value, c :: rest, mark, folding =>
    match Hexadecimal.value? c with
    | none => none
    | some digit =>
      let number := 16 * value + digit
      if left ≤ 1 then
        if number.isValidChar then
          doubleQuoted .outside rest (mark.ahead 1) (folding.push (Char.ofNat number))
        else none
      else doubleQuoted (.digits (left - 1) number) rest (mark.ahead 1) folding
  | _, [], _, _ => none

/-- What a block does with the line breaks at its end. -/
inductive Chomping where
  | strip
  | clip
  | keep
  deriving DecidableEq

/-- The block that has been read: its characters, last one first, the line break after
its last line, the empty lines after that, and whether the last line began blank. -/
structure BlockText where
  taken : List Char := []
  lineBreak : List Char := []
  emptyLines : List Char := []
  beganBlank : Bool := false
  deriving DecidableEq

namespace BlockText

def beginLine (literal : Bool) (block : BlockText) (c : Char) : BlockText :=
  let joined :=
    if !literal && block.lineBreak == ['\n'] && !block.beganBlank && !isBlank c then
      if block.emptyLines.isEmpty then [' '] else []
    else block.lineBreak
  { taken := c :: ((joined ++ block.emptyLines).reverse ++ block.taken)
    lineBreak := []
    emptyLines := []
    beganBlank := isBlank c }

def text (chomping : Chomping) (block : BlockText) : String :=
  String.ofList <| block.taken.reverse ++
    match chomping with
    | .strip => []
    | .clip => block.lineBreak
    | .keep => block.lineBreak ++ block.emptyLines

end BlockText

/-- Reads the lines of a block whose indentation is known. -/
def blockLines (literal : Bool) (chomping : Chomping) (indent : Nat) :
    Bool → List Char → Mark → BlockText → Option (String × Cursor)
  | inLine, '\r' :: '\n' :: rest, mark, block =>
    blockLines literal chomping indent false rest (mark.nextLine 2)
      (if inLine then { block with lineBreak := ['\n'] }
       else { block with emptyLines := block.emptyLines ++ ['\n'] })
  | inLine, c :: rest, mark, block =>
    if isBreak c then
      blockLines literal chomping indent false rest (mark.nextLine 1)
        (if inLine then { block with lineBreak := [normalBreak c] }
         else { block with emptyLines := block.emptyLines ++ [normalBreak c] })
    else if inLine then
      blockLines literal chomping indent true rest (mark.ahead 1)
        { block with taken := c :: block.taken }
    else if mark.column < indent then
      if c == ' ' then blockLines literal chomping indent false rest (mark.ahead 1) block
      else if c == '\t' then none
      else some (block.text chomping, ⟨c :: rest, mark⟩)
    else blockLines literal chomping indent true rest (mark.ahead 1) (block.beginLine literal c)
  | _, [], mark, block => some (block.text chomping, ⟨[], mark⟩)

/-- The empty lines before a block, the greatest column that their spaces or those of
the first line reach, and the cursor after them. -/
def blockStart : List Char → Mark → Nat → List Char → Option (List Char × Nat × Cursor)
  | '\r' :: '\n' :: rest, mark, greatest, breaks =>
    blockStart rest (mark.nextLine 2) (max greatest mark.column) (breaks ++ ['\n'])
  | c :: rest, mark, greatest, breaks =>
    if c == ' ' then blockStart rest (mark.ahead 1) greatest breaks
    else if c == '\t' then none
    else if isBreak c then
      blockStart rest (mark.nextLine 1) (max greatest mark.column) (breaks ++ [normalBreak c])
    else some (breaks, max greatest mark.column, ⟨c :: rest, mark⟩)
  | [], mark, greatest, breaks => some (breaks, max greatest mark.column, ⟨[], mark⟩)

/-- What the head of a block tells: its chomping, and its indentation or zero. -/
def blockHead : List Char → Option (Chomping × Nat × List Char)
  | text =>
    let sign := fun (c : Char) =>
      if c == '+' then some Chomping.keep else if c == '-' then some .strip else none
    match text with
    | [] => some (.clip, 0, [])
    | c :: rest =>
      match sign c with
      | some chomping =>
        match rest with
        | [] => some (chomping, 0, [])
        | d :: others =>
          if d == '0' then none
          else if d.isDigit then some (chomping, Hexadecimal.value? d |>.getD 0, others)
          else some (chomping, 0, d :: others)
      | none =>
        if c == '0' then none
        else if c.isDigit then
          match rest.head?.bind sign with
          | some chomping => some (chomping, Hexadecimal.value? c |>.getD 0, rest.drop 1)
          | none => some (.clip, Hexadecimal.value? c |>.getD 0, rest)
        else some (.clip, 0, c :: rest)

/-- Reads what follows the sign of a block; `parent` is the indentation around it, if
there is one. -/
def blockScalar (literal : Bool) (parent : Option Nat) (cursor : Cursor) :
    Option (String × Cursor) := do
  let (chomping, increment, rest) ← blockHead cursor.chars
  let cursor := cursor.skip (cursor.chars.length - rest.length)
  let cursor := (cursor.span isBlank).2
  let cursor := if cursor.chars.head? == some '#' then (cursor.span fun c => !isBreak c).2 else cursor
  if !(cursor.chars.head?.all isBreak) then none
  else
    let cursor := cursor.skipBreak
    if increment = 0 then
      let (breaks, greatest, cursor) ← blockStart cursor.chars cursor.mark 0 []
      let indent := max greatest (max (parent.elim 0 (· + 1)) 1)
      blockLines literal chomping indent false cursor.chars cursor.mark { emptyLines := breaks }
    else
      blockLines literal chomping (parent.getD 0 + increment) false cursor.chars cursor.mark {}

end Yaml

end PathSchema
