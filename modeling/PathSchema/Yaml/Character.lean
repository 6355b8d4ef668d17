/-!
# Characters of YAML text

Which characters may stand in a text at all, which of them end a line, and which
of them are blank.
-/

namespace PathSchema

namespace Yaml

def isBreak (c : Char) : Bool :=
  c == '\n' || c == '\r' || c.toNat == 0x85 || c.toNat == 0x2028 || c.toNat == 0x2029

def isBlank (c : Char) : Bool :=
  c == ' ' || c == '\t'

/-- Whether a place is blank: it holds a blank or a line break, or there is none. -/
def isBlankPlace : Option Char → Bool
  | none => true
  | some c => isBlank c || c.toNat == 0 || isBreak c

/-- Whether a character may stand in a text without an escape. -/
def isPrintable (c : Char) : Bool :=
  let n := c.toNat
  c == '\n' || (0x20 ≤ n && n ≤ 0x7e) || (0xa0 ≤ n && n ≤ 0xfffd && n != 0xfeff) || 0x10000 ≤ n

/-- Whether a character may stand in a text that is read. -/
def isAllowed (c : Char) : Bool :=
  isPrintable c || c == '\t' || c == '\r' || c == '\ufeff' || c.toNat == 0x85

/-- Whether a character may stand in the name of an anchor or of a tag's handle. -/
def isNameChar (c : Char) : Bool :=
  c.isAlphanum || c == '_' || c == '-'

/-- The line break that is read where one is written. -/
def normalBreak (c : Char) : Char :=
  if c.toNat == 0x2028 || c.toNat == 0x2029 then c else '\n'

/-- Whether a text begins with the mark of a document's start or end. -/
def startsWithMark (sign : Char) : List Char → Bool
  | a :: b :: c :: rest => a == sign && b == sign && c == sign && isBlankPlace rest.head?
  | _ => false

def startsWithAnyMark (text : List Char) : Bool :=
  startsWithMark '-' text || startsWithMark '.' text

end Yaml

end PathSchema
