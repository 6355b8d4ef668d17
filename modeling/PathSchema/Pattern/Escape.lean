import PathSchema.Pattern.Flags
import PathSchema.Pattern.Regex
import PathSchema.Text.Hexadecimal

/-!
# Escapes and other single items of a pattern

An item that stands alone is a character, a class or a condition.  The same
escapes occur inside brackets, where conditions are not allowed.  In patterns
that are not for all scripts a class must hold ASCII alone, since anything else
could match half a character.
-/

namespace PathSchema

namespace Pattern

/-- The classes with one-letter escapes. -/
inductive Shorthand where
  | digit
  | blank
  | word
  deriving DecidableEq

/-- An item that takes one escape or one character to write. -/
inductive Atom where
  /-- A character; `isByte` tells that it was written as two hexadecimal digits. -/
  | literal (c : Char) (isByte : Bool)
  | dot
  | shorthand (kind : Shorthand) (negated : Bool)
  | property (p : Unicode.Property) (negated : Bool)
  | lineStart
  | lineEnd
  /-- A condition that depends on which characters belong to words. -/
  | wordCondition (make : Bool → Assertion)
  | condition (holding : Assertion)

namespace Atom

/-- The class of some characters, complemented if asked; a class of ASCII patterns
has to stay inside ASCII. -/
def finishClass (flags : Flags) (negated : Bool) (chars : CharClass) : Option CharClass :=
  let chars := if negated then chars.complement else chars
  if flags.unicode || chars.isAscii then some chars else none

/-- Takes in the other cases of the members where case is ignored. -/
def foldClass (flags : Flags) (chars : CharClass) : CharClass :=
  if !flags.caseless then chars
  else if flags.unicode then .caseless chars
  else .asciiCaseless chars

/-- The character of a literal: outside patterns for all scripts, two hexadecimal
digits that are not ASCII stand for half a character. -/
def scalar? (flags : Flags) (c : Char) (isByte : Bool) : Option Char :=
  if !flags.unicode && isByte && 127 < c.toNat then none else some c

/-- The class of a shorthand or a property, as it stands in or outside brackets. -/
def class? (flags : Flags) : Atom → Option CharClass
  | shorthand .digit negated => finishClass flags negated (.digits flags.unicode)
  | shorthand .blank negated => finishClass flags negated (.blanks flags.unicode)
  | shorthand .word negated => finishClass flags negated (.wordChars flags.unicode)
  | property p negated =>
    if flags.unicode then finishClass flags negated (foldClass flags (.property p)) else none
  | _ => none

/-- What the dot stands for; in patterns that are not for all scripts it would
match half a character. -/
def dotClass (flags : Flags) : Option CharClass :=
  if !flags.unicode then none
  else if flags.dotAll then some .any
  else if flags.returns then some (.complement (.union (.single '\r') (.single '\n')))
  else some (.complement (.single '\n'))

/-- The expression of an item outside brackets. -/
def regex? (flags : Flags) (atom : Atom) : Option Regex :=
  match atom with
  | literal c isByte =>
    (scalar? flags c isByte).map fun c => .char (foldClass flags (.single c))
  | dot => (dotClass flags).map .char
  | lineStart =>
    some <| .assertion <|
      if !flags.multiLine then .textStart
      else if flags.returns then .returnLineStart else .lineStart
  | lineEnd =>
    some <| .assertion <|
      if !flags.multiLine then .textEnd
      else if flags.returns then .returnLineEnd else .lineEnd
  | wordCondition make => some (.assertion (make flags.unicode))
  | condition holding => some (.assertion holding)
  | shorthand .. | property .. => (atom.class? flags).map .char

end Atom

/-- The character of a code point, which surrogates and numbers above the last
one do not have. -/
def charOfCode? (n : Nat) : Option Char :=
  if n.isValidChar then some (Char.ofNat n) else none

/-- The value of exactly `count` hexadecimal digits, and the rest. -/
def hexDigits? (flags : Flags) (value : Nat) : Nat → List Char → Option (Nat × List Char)
  | 0, text => some (value, text)
  | _ + 1, [] => none
  | count + 1, c :: rest =>
    (Hexadecimal.value? c).bind fun digit =>
      hexDigits? flags (16 * value + digit) count (flags.skip rest)

/-- The characters up to a closing brace, and what follows it. -/
def untilBrace? (flags : Flags) : Nat → List Char → Option (List Char × List Char)
  | 0, _ => none
  | _ + 1, [] => none
  | fuel + 1, c :: rest =>
    if c = '}' then some ([], rest)
    else (untilBrace? flags fuel (flags.skip rest)).map fun (body, rest) => (c :: body, rest)

/-- The characters up to a closing brace after an opening one. -/
def braced? (flags : Flags) (text : List Char) : Option (List Char × List Char) :=
  untilBrace? flags (text.length + 1) (flags.skip text)

/-- A character written by its code point: so many digits, or any number in braces. -/
def hexLiteral? (flags : Flags) (count : Nat) (text : List Char) : Option (Atom × List Char) :=
  match flags.skip text with
  | '{' :: rest =>
    (braced? flags rest).bind fun (body, rest) =>
      if body.isEmpty then none
      else
        (body.mapM Hexadecimal.value?).bind fun digits =>
          (charOfCode? (digits.foldl (fun n d => 16 * n + d) 0)).map fun c =>
            (.literal c false, flags.skip rest)
  | text =>
    (hexDigits? flags 0 count text).bind fun (n, rest) =>
      (charOfCode? n).map fun c => (.literal c (count == 2), rest)

/-- Splits a list at its first occurrence of a mark. -/
def splitAt? (mark : List Char) : List Char → Option (List Char × List Char)
  | [] => if mark.isEmpty then some ([], []) else none
  | c :: rest =>
    match mark.isPrefixOf? (c :: rest) with
    | some remaining => some ([], remaining)
    | none => (splitAt? mark rest).map fun (front, back) => (c :: front, back)

/-- The property that is named in braces: a single name, or a name and a value
with an equals sign, a colon or an inequality sign between them. -/
def namedProperty? (body : List Char) : Option Unicode.Property :=
  match splitAt? ['!', '='] body with
  | some (name, value) => Unicode.Property.valued? name value
  | none =>
    match splitAt? [':'] body with
    | some (name, value) => Unicode.Property.valued? name value
    | none =>
      match splitAt? ['='] body with
      | some (name, value) => Unicode.Property.valued? name value
      | none => Unicode.Property.named? body

/-- A property written with one letter or with a name in braces. -/
def property? (flags : Flags) (negated : Bool) (text : List Char) : Option (Atom × List Char) :=
  match flags.skip text with
  | [] => none
  | '{' :: rest =>
    (braced? flags rest).bind fun (body, rest) =>
      (namedProperty? body).map fun p => (.property p negated, rest)
  | '\\' :: _ => none
  | c :: rest => (Unicode.Property.named? [c]).map fun p => (.property p negated, flags.skip rest)

/-- The letters of a name in braces that may follow the escape of a word edge. -/
def edgeName? (flags : Flags) : Nat → List Char → List Char × List Char
  | 0, text => ([], text)
  | _ + 1, [] => ([], [])
  | fuel + 1, c :: rest =>
    if c.isAlpha || c = '-' then
      let (name, remaining) := edgeName? flags fuel (flags.skip rest)
      (c :: name, remaining)
    else ([], c :: rest)

/-- A word edge, of a particular kind if a name in braces follows.  Braces that do
not begin with a letter are a repetition. -/
def wordEdge? (flags : Flags) (text : List Char) : Option (Atom × List Char) :=
  match text with
  | '{' :: rest =>
    match flags.skip rest with
    | [] => none
    | c :: inner =>
      if c.isAlpha || c = '-' then
        let (name, remaining) := edgeName? flags (inner.length + 1) (c :: inner)
        match remaining with
        | '}' :: remaining =>
          match String.ofList name with
          | "start" => some (.wordCondition .wordStart, remaining)
          | "end" => some (.wordCondition .wordEnd, remaining)
          | "start-half" => some (.wordCondition .wordStartHalf, remaining)
          | "end-half" => some (.wordCondition .wordEndHalf, remaining)
          | _ => none
        | _ => none
      else some (.wordCondition .wordEdge, text)
  | text => some (.wordCondition .wordEdge, text)

/-- Whether a backslash before a character just stands for the character: all of
ASCII but letters, digits and angle brackets. -/
def isEscapable (c : Char) : Bool :=
  c.toNat < 128 && !c.isAlphanum && c != '<' && c != '>'

/-- The item of an escape, given what follows its backslash. -/
def escape? (flags : Flags) (text : List Char) : Option (Atom × List Char) :=
  match text with
  | [] => none
  | 'x' :: rest => hexLiteral? flags 2 rest
  | 'u' :: rest => hexLiteral? flags 4 rest
  | 'U' :: rest => hexLiteral? flags 8 rest
  | 'p' :: rest => property? flags false rest
  | 'P' :: rest => property? flags true rest
  | 'd' :: rest => some (.shorthand .digit false, rest)
  | 'D' :: rest => some (.shorthand .digit true, rest)
  | 's' :: rest => some (.shorthand .blank false, rest)
  | 'S' :: rest => some (.shorthand .blank true, rest)
  | 'w' :: rest => some (.shorthand .word false, rest)
  | 'W' :: rest => some (.shorthand .word true, rest)
  | 'a' :: rest => some (.literal '\x07' false, rest)
  | 'f' :: rest => some (.literal '\x0c' false, rest)
  | 't' :: rest => some (.literal '\t' false, rest)
  | 'n' :: rest => some (.literal '\n' false, rest)
  | 'r' :: rest => some (.literal '\r' false, rest)
  | 'v' :: rest => some (.literal '\x0b' false, rest)
  | 'A' :: rest => some (.condition .textStart, rest)
  | 'z' :: rest => some (.condition .textEnd, rest)
  | 'b' :: rest => wordEdge? flags rest
  | 'B' :: rest => some (.wordCondition .noWordEdge, rest)
  | '<' :: rest => some (.wordCondition .wordStart, rest)
  | '>' :: rest => some (.wordCondition .wordEnd, rest)
  | c :: rest => if isEscapable c then some (.literal c false, rest) else none

end Pattern

end PathSchema
