import PathSchema.Toml.Scalar
import PathSchema.Toml.Table

/-!
# Documents of TOML text

A text is a list of lines: empty ones, headers of tables, and keys with their values.
Values in brackets may run over several lines, those in braces may not.
-/

namespace PathSchema

namespace Toml

def skipBlanks (text : List Char) : List Char :=
  text.dropWhile isBlank

/-- What follows a comment, if there is one. -/
def skipComment (text : List Char) : List Char :=
  match text with
  | '#' :: rest => rest.dropWhile isVisible
  | rest => rest

/-- What follows the end of a line: blanks, a comment, and a line break or the end of the
text. -/
def lineEnd? (text : List Char) : Option (List Char) :=
  match skipComment (skipBlanks text) with
  | [] => some []
  | rest => afterNewline? rest

/-- What follows blanks, comments and line breaks. -/
def skipLines : Nat → List Char → List Char
  | 0, text => text
  | fuel + 1, text =>
    let rest := skipComment (skipBlanks text)
    match afterNewline? rest with
    | some rest => skipLines fuel rest
    | none => rest

def isKeyChar (c : Char) : Bool :=
  c.isAlphanum || c == '_' || c == '-'

def simpleKey? (text : List Char) : Option (String × List Char) :=
  match text with
  | '"' :: rest =>
    (escapedString false .outside rest).map fun (key, rest) => (String.ofList key, rest)
  | '\'' :: rest => (literalString rest).map fun (key, rest) => (String.ofList key, rest)
  | text =>
    let key := text.takeWhile isKeyChar
    if key.isEmpty then none else some (String.ofList key, text.drop key.length)

/-- Reads a key: parts with dots between them, and blanks around all of them. -/
def key? : Nat → List Char → Option (List String × List Char)
  | 0, _ => none
  | fuel + 1, text =>
    (simpleKey? (skipBlanks text)).bind fun (part, rest) =>
      match skipBlanks rest with
      | '.' :: rest => (key? fuel rest).map fun (parts, rest) => (part :: parts, rest)
      | rest => some ([part], rest)

/-- How deep values in brackets and braces may be nested. -/
def nestingLimit : Nat := 79

mutual

/-- Reads a value inside some brackets. -/
def value : Nat → Nat → List Char → Option (Document × List Char)
  | 0, _, _ => none
  | fuel + 1, depth, text =>
    match text with
    | '[' :: rest =>
      if nestingLimit ≤ depth then none
      else (items fuel (depth + 1) rest).map fun (items, rest) => (.list items, rest)
    | '\x7b' :: rest =>
      if nestingLimit ≤ depth then none
      else
        match skipBlanks rest with
        | '\x7d' :: rest => some (.mapping [], rest)
        | rest =>
          (fields fuel (depth + 1) [] rest).map fun (entries, rest) =>
            (.mapping (entryDocuments entries), rest)
    | c :: _ =>
      if c == '"' || c == '\'' then
        (string? text).map fun (text, rest) => (.ofText text, rest)
      else
        let (word, rest) := word text
        (ofWord word).map fun document => (document, rest)
    | [] => none

/-- Reads the items of a list, up to its closing bracket.  A comma may follow the last. -/
def items : Nat → Nat → List Char → Option (List Document × List Char)
  | 0, _, _ => none
  | fuel + 1, depth, text =>
    match skipLines text.length text with
    | ']' :: rest => some ([], rest)
    | text =>
      (value fuel depth text).bind fun (item, rest) =>
        match skipLines rest.length rest with
        | ',' :: rest =>
          (items fuel depth rest).map fun (items, rest) => (item :: items, rest)
        | ']' :: rest => some ([item], rest)
        | _ => none

/-- Reads the fields of a table in braces, up to the closing one. -/
def fields : Nat → Nat → Entries → List Char → Option (Entries × List Char)
  | 0, _, _, _ => none
  | fuel + 1, depth, entries, text =>
    (key? text.length text).bind fun (path, rest) =>
      match rest with
      | '=' :: rest =>
        (value fuel depth (skipBlanks rest)).bind fun (content, rest) =>
          (entries.insertValue path content).bind fun entries =>
            match skipBlanks rest with
            | ',' :: rest => fields fuel depth entries rest
            | '\x7d' :: rest => some (entries, rest)
            | _ => none
      | _ => none

end

/-- Reads a key with its value. -/
def assignment (tables : Tables) (text : List Char) : Option (Tables × List Char) :=
  (key? text.length text).bind fun (path, rest) =>
    match rest with
    | '=' :: rest =>
      (value (2 * rest.length + 2) 0 (skipBlanks rest)).bind fun (content, rest) =>
        (tables.insert path content).map fun tables => (tables, rest)
    | _ => none

def lines : Nat → Tables → List Char → Option Entries
  | 0, tables, _ => tables.close
  | fuel + 1, tables, text =>
    let finish := fun (result : Option (Tables × List Char)) =>
      result.bind fun (tables, rest) => (lineEnd? rest).bind (lines fuel tables)
    match skipBlanks text with
    | [] => tables.close
    | '[' :: '[' :: rest =>
      finish <| (key? rest.length rest).bind fun (path, rest) =>
        match rest with
        | ']' :: ']' :: rest => (tables.openInList path).map fun tables => (tables, rest)
        | _ => none
    | '[' :: rest =>
      finish <| (key? rest.length rest).bind fun (path, rest) =>
        match rest with
        | ']' :: rest => (tables.begin path).map fun tables => (tables, rest)
        | _ => none
    | c :: rest =>
      if c == '#' || c == '\n' || c == '\r' then finish (some (tables, c :: rest))
      else finish (assignment tables (c :: rest))

/-- The document of a text.  A byte order mark at its beginning does not count. -/
def read? (text : String) : Option Document :=
  let chars := match text.toList with
    | '\ufeff' :: rest => rest
    | chars => chars
  (lines (chars.length + 1) {} chars).map fun entries => .mapping (entryDocuments entries)

end Toml

end PathSchema
