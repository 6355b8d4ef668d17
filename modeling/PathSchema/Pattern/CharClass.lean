import PathSchema.Unicode.CaseFolding
import PathSchema.Unicode.Property

/-!
# Character classes

A class is a description of a set of characters; membership is decided by
recursion on the description.  The descriptions close under the Boolean
operations and under ignoring case.
-/

namespace PathSchema

/-- A set of characters. -/
inductive CharClass where
  /-- No character. -/
  | empty
  /-- All characters from `first` to `last`, both included. -/
  | range (first last : Char)
  /-- The characters with a property. -/
  | property (p : Unicode.Property)
  /-- The characters that words consist of. -/
  | word
  | union (left right : CharClass)
  | inter (left right : CharClass)
  | diff (left right : CharClass)
  | complement (inner : CharClass)
  /-- The characters that differ from a member at most in case. -/
  | caseless (inner : CharClass)
  /-- The same for the letters of ASCII alone. -/
  | asciiCaseless (inner : CharClass)
  deriving DecidableEq

namespace CharClass

/-- A letter of ASCII and its other case. -/
def asciiVariants (c : Char) : List Char :=
  if c.isAlpha then [c.toLower, c.toUpper] else [c]

def contains : CharClass → Char → Bool
  | empty, _ => false
  | range first last, c => first.toNat ≤ c.toNat && c.toNat ≤ last.toNat
  | property p, c => p.holds c
  | word, c => Unicode.isWordChar c
  | union left right, c => left.contains c || right.contains c
  | inter left right, c => left.contains c && right.contains c
  | diff left right, c => left.contains c && !right.contains c
  | complement inner, c => !inner.contains c
  | caseless inner, c => (Unicode.CaseFolding.variants c).any inner.contains
  | asciiCaseless inner, c => (asciiVariants c).any inner.contains

def single (c : Char) : CharClass :=
  range c c

def unions (classes : List CharClass) : CharClass :=
  classes.foldr union empty

def any : CharClass :=
  complement empty

def symmetricDiff (left right : CharClass) : CharClass :=
  union (diff left right) (diff right left)

def isAscii (bytes : CharClass) : Bool :=
  !(List.range 128).any fun n => bytes.contains (Char.ofNat (128 + n))

/-- The classes that are named between colons inside brackets; they hold ASCII alone. -/
def named? (name : String) : Option CharClass :=
  let digit := range '0' '9'
  let upper := range 'A' 'Z'
  let lower := range 'a' 'z'
  let alpha := union upper lower
  match name with
  | "alnum" => some (union digit alpha)
  | "alpha" => some alpha
  | "ascii" => some (range '\x00' '\x7f')
  | "blank" => some (union (single '\t') (single ' '))
  | "cntrl" => some (union (range '\x00' '\x1f') (single '\x7f'))
  | "digit" => some digit
  | "graph" => some (range '!' '~')
  | "lower" => some lower
  | "print" => some (range ' ' '~')
  | "punct" => some (unions [range '!' '/', range ':' '@', range '[' '\x60', range '{' '~'])
  | "space" => some (union (range '\t' '\r') (single ' '))
  | "upper" => some upper
  | "word" => some (unions [digit, alpha, single '_'])
  | "xdigit" => some (unions [digit, range 'A' 'F', range 'a' 'f'])
  | _ => none

/-- Digits, of all scripts or of ASCII alone. -/
def digits (unicode : Bool) : CharClass :=
  if unicode then property (.category [.decimalNumber]) else range '0' '9'

/-- Blanks and line breaks, all or those of ASCII alone. -/
def blanks (unicode : Bool) : CharClass :=
  if unicode then property Unicode.Property.whiteSpace
  else union (range '\t' '\r') (single ' ')

/-- The characters of words, all or those of ASCII alone. -/
def wordChars (unicode : Bool) : CharClass :=
  if unicode then word
  else unions [range '0' '9', range 'A' 'Z', range 'a' 'z', single '_']

end CharClass

end PathSchema
