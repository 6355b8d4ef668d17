import PathSchema.Document
import PathSchema.Text.Hexadecimal

/-!
# JSON text of documents

The compact form has no blanks; the pretty form has every item and every field on
a line of its own, indented by two spaces a level.  Empty lists and mappings are
never broken.
-/

namespace PathSchema

namespace Json

def written (c : Char) : List Char :=
  match c with
  | '"' => ['\\', '"']
  | '\\' => ['\\', '\\']
  | '\x08' => ['\\', 'b']
  | '\x0c' => ['\\', 'f']
  | '\n' => ['\\', 'n']
  | '\r' => ['\\', 'r']
  | '\t' => ['\\', 't']
  | c => if c.toNat < 32 then '\\' :: 'u' :: Hexadecimal.padded 4 c.toNat else [c]

def quote (text : String) : String :=
  String.ofList ('"' :: (text.toList.flatMap written ++ ['"']))

/-- A scalar: a text between quotes, anything else as it is written. -/
def scalar (text : String) : Sense → String
  | .text => quote text
  | _ => text

mutual

def compact : Document → String
  | .scalar text sense => scalar text sense
  | .list items => "[" ++ String.intercalate "," (compactItems items) ++ "]"
  | .mapping entries => "\x7b" ++ String.intercalate "," (compactEntries entries) ++ "\x7d"
  | .tagged _ content => compact content

def compactItems : List Document → List String
  | [] => []
  | item :: rest => compact item :: compactItems rest

def compactEntries : List (Document × Document) → List String
  | [] => []
  | (key, value) :: rest => (quote key.writtenText ++ ":" ++ compact value) :: compactEntries rest

end

/-- A line break and the blanks of a level. -/
def newline (level : Nat) : String :=
  String.ofList ('\n' :: List.replicate (2 * level) ' ')

/-- Pieces on lines of their own between two brackets. -/
def broken (level : Nat) (opening closing : String) : List String → String
  | [] => opening ++ closing
  | pieces =>
    opening ++ newline (level + 1) ++ String.intercalate ("," ++ newline (level + 1)) pieces ++
      newline level ++ closing

mutual

/-- The pretty form, its first line placed at a level. -/
def prettyAt (level : Nat) : Document → String
  | .scalar text sense => scalar text sense
  | .list items => broken level "[" "]" (prettyItems (level + 1) items)
  | .mapping entries => broken level "\x7b" "\x7d" (prettyEntries (level + 1) entries)
  | .tagged _ content => prettyAt level content

def prettyItems (level : Nat) : List Document → List String
  | [] => []
  | item :: rest => prettyAt level item :: prettyItems level rest

def prettyEntries (level : Nat) : List (Document × Document) → List String
  | [] => []
  | (key, value) :: rest =>
    (quote key.writtenText ++ ": " ++ prettyAt level value) :: prettyEntries level rest

end

def pretty (document : Document) : String :=
  prettyAt 0 document

end Json

end PathSchema
