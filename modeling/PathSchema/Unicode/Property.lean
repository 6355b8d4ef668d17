import PathSchema.Unicode.Age
import PathSchema.Unicode.Binary
import PathSchema.Unicode.Category
import PathSchema.Unicode.Script

/-!
# Properties of characters and their names

A property is found under any of its names.  Capitals count as small letters,
blanks, hyphens and underscores are skipped, and a leading "is" is dropped.
-/

namespace PathSchema

namespace Unicode

/-- A property that a character has or lacks. -/
inductive Property where
  | ascii
  | category (categories : List Category)
  | script (n : Nat)
  | usedWith (n : Nat)
  | binary (n : Nat)
  | age (n : Nat)
  deriving DecidableEq

namespace Property

def holds : Property → Char → Bool
  | ascii, c => c.toNat < 128
  | category categories, c => categories.contains (Category.ofChar c)
  | script n, c => Script.holds n c
  | usedWith n, c => Script.isUsedWith n c
  | binary n, c => Binary.holds n c
  | age n, c => Age.holds n c

/-- The name that is looked up for a written one.  A name that is just "c" after
its "is" keeps it: the short name of a comment property, which is no class. -/
def normalize (name : List Char) : String :=
  let isBare := match name with
    | i :: s :: _ => (i == 'i' || i == 'I') && (s == 's' || s == 'S')
    | _ => false
  let kept := ((if isBare then name.drop 2 else name).filter fun c =>
    c.toNat < 128 && c != ' ' && c != '_' && c != '-').map Char.toLower
  if isBare && kept == ['c'] then "isc" else String.ofList kept

/-- The property of a single name: a binary property, a general category or a
script, in this order, except that "cf", "sc" and "lc" are always categories. -/
def named? (name : List Char) : Option Property :=
  let key := normalize name
  let ofCategory := fun (_ : Unit) =>
    if key = "ascii" then some ascii else (Category.named? key).map category
  if key = "cf" || key = "sc" || key = "lc" then ofCategory ()
  else
    match Binary.named? key with
    | some property => some (binary property)
    | none =>
      match ofCategory () with
      | some property => some property
      | none => (Script.named? key).map script

def valued? (name value : List Char) : Option Property :=
  let key := normalize value
  match normalize name with
  | "gc" | "generalcategory" =>
    if key = "ascii" then some ascii else (Category.named? key).map category
  | "sc" | "script" => (Script.named? key).map script
  | "scx" | "scriptextensions" => (Script.named? key).map usedWith
  | "age" => (Age.named? key).map age
  | _ => none

def ofBinary (name : String) : Property :=
  (Binary.named? name).elim ascii binary

/-- Letters and what counts as one. -/
def alphabetic : Property := ofBinary "alphabetic"

/-- Blanks and line breaks. -/
def whiteSpace : Property := ofBinary "whitespace"

/-- Characters that join or keep apart their neighbours. -/
def joinControl : Property := ofBinary "joincontrol"

/-- Characters that extend the one before them. -/
def graphemeExtend : Property := ofBinary "graphemeextend"

end Property

def isAlphabetic (c : Char) : Bool :=
  Property.alphabetic.holds c

def isAlphanumeric (c : Char) : Bool :=
  isAlphabetic c || Category.numberCategories.contains (Category.ofChar c)

/-- Whether a character is a blank or a line break. -/
def isWhiteSpace (c : Char) : Bool :=
  Property.whiteSpace.holds c

/-- Whether a character is part of a word: alphabetic, a mark, a decimal digit, a
connector or a join control. -/
def isWordChar (c : Char) : Bool :=
  isAlphabetic c || Property.joinControl.holds c ||
    (Category.marks ++ [Category.decimalNumber, Category.connectorPunctuation]).contains (Category.ofChar c)

end Unicode

end PathSchema
