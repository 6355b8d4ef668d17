import PathSchema.Yaml.Character

/-!
# Tokens of YAML text

A place in a text is told by the number of characters before it, by its line and by
its column.  Some tokens stand for no character: they mark where a block begins and
where it ends.
-/

namespace PathSchema

namespace Yaml

/-- A place in a text. -/
structure Mark where
  index : Nat := 0
  line : Nat := 0
  column : Nat := 0
  deriving DecidableEq

namespace Mark

/-- The place after a number of characters on the same line. -/
def ahead (mark : Mark) (n : Nat) : Mark :=
  { mark with index := mark.index + n, column := mark.column + n }

/-- The place after a line break of some characters. -/
def nextLine (mark : Mark) (width : Nat) : Mark :=
  ⟨mark.index + width, mark.line + 1, 0⟩

end Mark

/-- What is left of a text, and where it stands. -/
structure Cursor where
  chars : List Char
  mark : Mark
  deriving DecidableEq

namespace Cursor

/-- The cursor after some characters of the same line. -/
def skip (cursor : Cursor) (n : Nat) : Cursor :=
  ⟨cursor.chars.drop n, cursor.mark.ahead n⟩

/-- The characters up to the first that fails a test, and the cursor at that one. -/
def span (cursor : Cursor) (test : Char → Bool) : List Char × Cursor :=
  let taken := cursor.chars.takeWhile test
  (taken, cursor.skip taken.length)

/-- The cursor after the line break it stands at, if it stands at one. -/
def skipBreak (cursor : Cursor) : Cursor :=
  match cursor.chars with
  | '\r' :: '\n' :: rest => ⟨rest, cursor.mark.nextLine 2⟩
  | c :: rest => if isBreak c then ⟨rest, cursor.mark.nextLine 1⟩ else cursor
  | [] => cursor

end Cursor

inductive Token where
  | streamEnd
  | version (major minor : Nat)
  | tagDirective (handle front : String)
  | documentStart
  | documentEnd
  | blockSequence
  | blockMapping
  | blockEnd
  | openSequence
  | closeSequence
  | openMapping
  | closeMapping
  | blockEntry
  | flowEntry
  | key
  | value
  | alias (name : String)
  | anchor (name : String)
  | tag (handle suffix : String)
  | scalar (plain : Bool) (text : String)
  deriving DecidableEq

end Yaml

end PathSchema
