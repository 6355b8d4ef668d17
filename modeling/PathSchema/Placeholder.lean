/-!
# Placeholders

A placeholder in a text names a path, and maybe a key after the first number sign:
`<path:secret/data/app#password>`.  They are the matches of one fixed pattern, whose group
is the body, taken from the left so that they do not overlap; one whose body is empty, or
that is never closed, is none.
-/

namespace PathSchema

/-- A placeholder: its whole text, its path and its key. -/
structure Placeholder where
  raw : String
  path : String
  key : Option String
  deriving DecidableEq

namespace Placeholder

/-- The pattern of placeholders. -/
def pattern : String := "<path:([^>]+)>"

/-- What a placeholder begins with. -/
def opening : List Char := ['<', 'p', 'a', 't', 'h', ':']

def body? (text : List Char) : Option (List Char) :=
  match opening.isPrefixOf? text with
  | none => none
  | some rest =>
    let body := rest.takeWhile (· != '>')
    if body.isEmpty || body.length = rest.length then none else some body

def ofBody (body : List Char) : Placeholder where
  raw := String.ofList (opening ++ body ++ ['>'])
  path := String.ofList (body.takeWhile (· != '#'))
  key :=
    match body.dropWhile (· != '#') with
    | [] => none
    | _ :: key => some (String.ofList key)

/-- The placeholders of a text of which some characters belong to one already. -/
def findFrom : Nat → List Char → List Placeholder
  | _, [] => []
  | taken + 1, _ :: rest => findFrom taken rest
  | 0, c :: rest =>
    match body? (c :: rest) with
    | none => findFrom 0 rest
    | some body => ofBody body :: findFrom (opening.length + body.length) rest

/-- The placeholders of a text, from left to right. -/
def find (text : String) : List Placeholder :=
  findFrom 0 text.toList

end Placeholder

end PathSchema
