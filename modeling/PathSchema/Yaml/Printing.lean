import PathSchema.Yaml.Character
import PathSchema.Yaml.Sense

/-!
# YAML text of documents

Lists and mappings are written in block form: every item and every entry has a line
of its own, a list under a key is not indented, and all else is indented by two
spaces.  A text is written plain where it can be read back as it is; otherwise
between single quotes, between double quotes if it has characters that do not show,
or as a block if it has line breaks.
-/

namespace PathSchema

namespace Yaml

/-- The ways of writing a scalar. -/
inductive Style where
  | plain
  | single
  | double
  | literal
  deriving DecidableEq

/-- Words that stood for truth values in earlier editions of the format. -/
def oldBooleans : List String :=
  ["y", "Y", "yes", "Yes", "YES", "n", "N", "no", "No", "NO", "true", "True", "TRUE",
    "false", "False", "FALSE", "on", "On", "ON", "off", "Off", "OFF"]

/-- Whether a character at the beginning of a text would be read as an indicator. -/
def startsAsIndicator (c : Char) (next : Option Char) : Bool :=
  "#,[]\x7b\x7d&*!|>'\"%@`".toList.contains c ||
    (['?', ':', '-'].contains c && isBlankPlace next)

/-- Whether a later character of a text, with its neighbours, would be read as an
indicator. -/
def hasInnerIndicator : Char → List Char → Bool
  | _, [] => false
  | before, c :: rest =>
    (c == ':' && isBlankPlace rest.head?) || (c == '#' && isBlankPlace (some before)) ||
      hasInnerIndicator c rest

/-- Whether a text would be read as something else without quotes. -/
def hasIndicator (text : List Char) : Bool :=
  match text with
  | [] => false
  | c :: rest =>
    ['-', '-', '-'].isPrefixOf text || ['.', '.', '.'].isPrefixOf text ||
      startsAsIndicator c rest.head? || hasInnerIndicator c rest

/-- Whether somewhere a character of one kind is followed by one of another. -/
def hasPair (first second : Char → Bool) : List Char → Bool
  | c :: d :: rest => (first c && second d) || hasPair first second (d :: rest)
  | _ => false

/-- Whether a text has a space before a line break or a character that does not show. -/
def needsEscapes (text : List Char) : Bool :=
  hasPair (· == ' ') isBreak text || text.any fun c => !isPrintable c

/-- Whether a text can be written without quotes. -/
def canBePlain (text : List Char) : Bool :=
  let ends := fun (c : Option Char) => c == some ' '
  !(needsEscapes text || text.any isBreak || ends text.head? || ends text.getLast? ||
    hasIndicator text)

def canBeSingle (text : List Char) : Bool :=
  !(needsEscapes text || hasPair isBreak (· == ' ') text)

def canBeLiteral (text : List Char) : Bool :=
  !(needsEscapes text || text.isEmpty || text.getLast? == some ' ')

/-- The way in which a text is written if nothing speaks against it. -/
def preferredStyle (text : String) : Style :=
  if oldBooleans.contains text then .single
  else if text.toList.contains '\n' then .literal
  else if plainSense text == .text && !hasLeadingZero text.toList then .plain
  else .single

def style (text : String) : Style :=
  let characters := text.toList
  let quoted := if canBeSingle characters then Style.single else .double
  match preferredStyle text with
  | .plain => if canBePlain characters then .plain else quoted
  | .literal => if canBeLiteral characters then .literal else .double
  | .single => quoted
  | .double => .double

def spaces (indent : Nat) : List Char :=
  List.replicate indent ' '

/-- Text whose lines begin at an indentation; empty lines are left empty. -/
def indented (indent : Nat) (write : Char → List Char) : Bool → List Char → List Char
  | _, [] => []
  | atStart, c :: rest =>
    if isBreak c then c :: indented indent write true rest
    else (if atStart then spaces indent else []) ++ write c ++ indented indent write false rest

def single (indent : Nat) (text : List Char) : List Char :=
  let last := match text.getLast? with
    | some c => if isBreak c then spaces indent else []
    | none => []
  '\'' :: (indented indent (fun c => if c == '\'' then ['\'', '\''] else [c]) false text ++
    last ++ ['\''])

def capitalDigits (places n : Nat) : List Char :=
  (Hexadecimal.padded places n).map Char.toUpper

/-- A character that does not show, as an escape. -/
def escape (c : Char) : List Char :=
  '\\' :: match c.toNat with
    | 0x00 => ['0']
    | 0x07 => ['a']
    | 0x08 => ['b']
    | 0x09 => ['t']
    | 0x0a => ['n']
    | 0x0b => ['v']
    | 0x0c => ['f']
    | 0x0d => ['r']
    | 0x1b => ['e']
    | 0x22 => ['"']
    | 0x5c => ['\\']
    | 0x85 => ['N']
    | 0x2028 => ['L']
    | 0x2029 => ['P']
    | n =>
      if n ≤ 0xff then 'x' :: capitalDigits 2 n
      else if n ≤ 0xffff then 'u' :: capitalDigits 4 n
      else 'U' :: capitalDigits 8 n

def double (text : List Char) : List Char :=
  let write := fun c =>
    if !isPrintable c || isBreak c || c == '"' || c == '\\' then escape c else [c]
  '"' :: (text.flatMap write ++ ['"'])

/-- What a block tells of the line breaks at its end: that there is none, the usual
one, or that all are kept. -/
def chomping (text : List Char) : List Char :=
  match text.reverse with
  | [] => ['-']
  | [c] => if isBreak c then ['+'] else ['-']
  | c :: d :: _ => if !isBreak c then ['-'] else if isBreak d then ['+'] else []

def literal (indent : Nat) (text : List Char) : List Char :=
  let hint := match text.head? with
    | some c => if c == ' ' || isBreak c then ['2'] else []
    | none => []
  '|' :: (hint ++ chomping text ++ '\n' :: indented indent (fun c => [c]) true text)

def scalar (indent : Nat) (text : String) : Sense → String
  | .text =>
    String.ofList <| match style text with
      | .plain => text.toList
      | .single => single (indent + 2) text.toList
      | .double => double text.toList
      | .literal => literal (indent + 2) text.toList
  | _ => text

/-- Whether a key can be followed by its colon on one line. -/
def isSimpleKey (text : String) : Bool :=
  text.utf8ByteSize ≤ 128 && !text.toList.any isBreak

def newline (indent : Nat) : String :=
  String.ofList ('\n' :: spaces indent)

/-- A text and what goes below it.  A block that ends in a line break needs no other. -/
def above (indent : Nat) (text below : String) : String :=
  if text.toList.getLast?.any isBreak then text ++ String.ofList (spaces indent) ++ below
  else text ++ newline indent ++ below

/-- Texts below each other. -/
def stack (indent : Nat) : List String → String
  | [] => ""
  | [text] => text
  | text :: rest => above indent text (stack indent rest)

mutual

/-- A document whose first line begins at an indentation. -/
def block (indent : Nat) : Document → String
  | .scalar text sense => scalar indent text sense
  | .list [] => "[]"
  | .mapping [] => "\x7b\x7d"
  | .list items => stack indent (blockItems indent items)
  | .mapping entries => stack indent (blockEntries indent entries)
  | .tagged _ content => block indent content

def afterKey (indent : Nat) : Document → String
  | .scalar text sense => " " ++ scalar indent text sense
  | .list [] => " []"
  | .mapping [] => " \x7b\x7d"
  | .list items =>
    newline indent ++ stack indent (blockItems indent items)
  | .mapping entries =>
    newline (indent + 2) ++
      stack (indent + 2) (blockEntries (indent + 2) entries)
  | .tagged _ content => afterKey indent content

/-- What follows a dash, or the colon of a key that has a line of its own. -/
def afterDash (indent : Nat) : Document → String
  | .scalar text sense => " " ++ scalar indent text sense
  | .list [] => " []"
  | .mapping [] => " \x7b\x7d"
  | .list items =>
    " " ++ stack (indent + 2) (blockItems (indent + 2) items)
  | .mapping entries =>
    " " ++ stack (indent + 2) (blockEntries (indent + 2) entries)
  | .tagged _ content => afterDash indent content

def blockItems (indent : Nat) : List Document → List String
  | [] => []
  | item :: rest => ("-" ++ afterDash indent item) :: blockItems indent rest

def blockEntries (indent : Nat) : List (Document × Document) → List String
  | [] => []
  | (key, value) :: rest =>
    (if isSimpleKey key.writtenText then
      scalar indent key.writtenText .text ++ ":" ++ afterKey indent value
    else
      above indent ("? " ++ scalar indent key.writtenText .text)
        (":" ++ afterDash indent value)) :: blockEntries indent rest

end

def print (document : Document) : String :=
  above 0 (block 0 document) ""

end Yaml

end PathSchema
