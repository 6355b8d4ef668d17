import PathSchema.Text.Decimal
import PathSchema.Text.Hexadecimal
import PathSchema.Yaml.Token

/-!
# Anchors, tags and directives of YAML text

Anchors and tags stand before the node they belong to; directives stand before a
document.
-/

namespace PathSchema

namespace Yaml

/-- Reads the name of an anchor or of an alias.  It must not run on into other text. -/
def nameToken (make : String → Token) (cursor : Cursor) : Option (Token × Cursor) :=
  let (name, after) := (cursor.skip 1).span isNameChar
  let ends := match after.chars.head? with
    | none => true
    | some c => isBlankPlace (some c) || "?:,]\x7d%@\x60".toList.contains c
  if name.isEmpty || !ends then none else some (make (String.ofList name), after)

/-- Whether a character may stand in a tag; brackets and commas only in some places. -/
def isTagChar (withBrackets : Bool) (c : Char) : Bool :=
  isNameChar c || ";/?:@&=+$.%!~*'()".toList.contains c ||
    (withBrackets && ",[]".toList.contains c)

/-- The bytes that escapes at the beginning of a text denote, and what follows. -/
def escapedBytes : List Char → Option (List UInt8 × List Char)
  | '%' :: a :: b :: rest =>
    match Hexadecimal.value? a, Hexadecimal.value? b with
    | some x, some y =>
      (escapedBytes rest).map fun (bytes, after) => ((16 * x + y).toUInt8 :: bytes, after)
    | _, _ => none
  | '%' :: _ => none
  | rest => some ([], rest)

/-- A tag with its escapes replaced, if they are the bytes of a text. -/
def unescapeTag (fuel : Nat) (text : List Char) : Option (List Char) :=
  match fuel, text with
  | _, [] => some []
  | 0, _ => none
  | fuel + 1, c :: rest =>
    if c == '%' then
      match escapedBytes (c :: rest) with
      | none => none
      | some (bytes, after) =>
        match String.fromUTF8? ⟨bytes.toArray⟩ with
        | none => none
        | some decoded => (unescapeTag fuel after).map (decoded.toList ++ ·)
    else (unescapeTag fuel rest).map (c :: ·)

/-- Reads a run of the characters of a tag; `front` goes before it. -/
def tagText (withBrackets : Bool) (front : List Char) (cursor : Cursor) :
    Option (String × Cursor) :=
  let (text, after) := cursor.span (isTagChar withBrackets)
  (unescapeTag text.length text).map fun text => (String.ofList (front ++ text), after)

/-- Reads the handle of a tag: names between exclamation marks, of which the second
may be absent. -/
def tagHandle (cursor : Cursor) : Option (List Char × Cursor) :=
  match cursor.chars with
  | '!' :: _ =>
    let (name, after) := (cursor.skip 1).span isNameChar
    match after.chars with
    | '!' :: _ => some ('!' :: (name ++ ['!']), after.skip 1)
    | _ => some ('!' :: name, after)
  | _ => none

/-- Reads a tag.  Inside flow collections a comma may follow it. -/
def tagToken (inFlow : Bool) (cursor : Cursor) : Option (Token × Cursor) := do
  let (token, after) ← match cursor.chars with
    | '!' :: '<' :: _ => do
      let (suffix, after) ← tagText true [] (cursor.skip 2)
      if suffix.isEmpty || after.chars.head? != some '>' then none
      else some (Token.tag "" suffix, after.skip 1)
    | _ => do
      let (handle, after) ← tagHandle cursor
      if handle.length ≥ 2 && handle.getLast? == some '!' then
        let (suffix, after) ← tagText false [] after
        if suffix.isEmpty then none else some (.tag (String.ofList handle) suffix, after)
      else
        let (suffix, after) ← tagText false (handle.drop 1) after
        some (if suffix.isEmpty then .tag "" "!" else .tag "!" suffix, after)
  if isBlankPlace after.chars.head? || (inFlow && after.chars.head? == some ',') then
    some (token, after)
  else none

/-- Reads a number of at most nine digits. -/
def versionNumber (cursor : Cursor) : Option (Nat × Cursor) :=
  let (digits, after) := cursor.span Char.isDigit
  if digits.isEmpty || digits.length > 9 then none else some (Decimal.value digits, after)

/-- Reads a directive up to the end of its line. -/
def directiveToken (cursor : Cursor) : Option (Token × Cursor) := do
  let (name, after) := (cursor.skip 1).span isNameChar
  if name.isEmpty || !isBlankPlace after.chars.head? then none
  let (token, after) ← match String.ofList name with
    | "YAML" => do
      let (major, after) ← versionNumber (after.span isBlank).2
      if after.chars.head? != some '.' then none
      let (minor, after) ← versionNumber (after.skip 1)
      some (Token.version major minor, after)
    | "TAG" => do
      let (handle, after) ← tagHandle (after.span isBlank).2
      if !(handle = ['!'] || handle.getLast? == some '!') then none
      if !after.chars.head?.any isBlank then none
      let (front, after) ← tagText true [] (after.span isBlank).2
      if front.isEmpty || !isBlankPlace after.chars.head? then none
      some (.tagDirective (String.ofList handle) front, after)
    | _ => none
  let after := (after.span isBlank).2
  let after := if after.chars.head? == some '#' then (after.span fun c => !isBreak c).2 else after
  if after.chars.head?.all isBreak then some (token, after.skipBreak) else none

end Yaml

end PathSchema
