import PathSchema.Text.Decimal

/-!
# Documents

A document is a tree of scalars, lists and mappings: what a configuration or a
manifest is read as, and what a report is printed from.  A scalar keeps the text
it was written with beside what the text stands for, since a format may let a
field take the text of any scalar.
-/

namespace PathSchema

/-- What the text of a scalar stands for. -/
inductive Sense where
  | null
  | boolean (value : Bool)
  | integer (value : Int)
  /-- A number with a fraction or an exponent, as its binary representation. -/
  | float (bits : UInt64)
  | text
  /-- Something else than the text was declared to be, or nothing that can be held. -/
  | misfit (declared : String)
  deriving DecidableEq

/-- A tree of scalars, lists and mappings. -/
inductive Document where
  | scalar (written : String) (sense : Sense)
  | list (items : List Document)
  | mapping (entries : List (Document × Document))
  /-- A document with a tag of its own. -/
  | tagged (tag : String) (content : Document)
  deriving Inhabited

namespace Document

def ofText (text : String) : Document :=
  .scalar text .text

/-- A document that is a natural number. -/
def ofNat (n : Nat) : Document :=
  .scalar (Decimal.render n) (.integer n)

def ofBool (value : Bool) : Document :=
  .scalar (if value then "true" else "false") (.boolean value)

/-- The document that stands for nothing. -/
def null : Document :=
  .scalar "null" .null

def ofTexts (texts : List String) : Document :=
  .list (texts.map ofText)

/-- A mapping with texts as keys. -/
def ofFields (fields : List (String × Document)) : Document :=
  .mapping (fields.map fun field => (ofText field.1, field.2))

/-- The text a scalar was written with; nothing else has one. -/
def writtenText : Document → String
  | scalar written _ => written
  | _ => ""

mutual

/-- Whether two documents have the same content.  The order of a mapping's entries
does not count, nor does the text of a scalar unless the scalar is a text. -/
def same : Document → Document → Bool
  | scalar x s, scalar y t => s == t && (s != .text || x == y)
  | list xs, list ys => sameItems xs ys
  | mapping xs, mapping ys => xs.length == ys.length && sameEntries xs ys
  | tagged x c, tagged y d => x == y && same c d
  | _, _ => false

def sameItems : List Document → List Document → Bool
  | [], [] => true
  | x :: xs, y :: ys => same x y && sameItems xs ys
  | _, _ => false

/-- Whether every entry has its like among others. -/
def sameEntries : List (Document × Document) → List (Document × Document) → Bool
  | [], _ => true
  | (key, value) :: rest, others =>
    others.any (fun other => same key other.1 && same value other.2) && sameEntries rest others

end

mutual

/-- How many lists and mappings are nested in each other. -/
def depth : Document → Nat
  | scalar .. => 0
  | list items => depthOfItems items + 1
  | mapping entries => depthOfEntries entries + 1
  | tagged _ content => depth content

def depthOfItems : List Document → Nat
  | [] => 0
  | item :: rest => max (depth item) (depthOfItems rest)

def depthOfEntries : List (Document × Document) → Nat
  | [] => 0
  | (key, value) :: rest => max (max (depth key) (depth value)) (depthOfEntries rest)

end

mutual

/-- Every text of a document in order, keys before their values. -/
def texts : Document → List String
  | scalar written sense => if sense == .text then [written] else []
  | list items => textsOfItems items
  | mapping entries => textsOfEntries entries
  | tagged _ content => texts content

def textsOfItems : List Document → List String
  | [] => []
  | item :: rest => texts item ++ textsOfItems rest

def textsOfEntries : List (Document × Document) → List String
  | [] => []
  | (key, value) :: rest => texts key ++ texts value ++ textsOfEntries rest

end

def hasRepeatedKey : List Document → Bool
  | [] => false
  | key :: rest => rest.any (same key) || hasRepeatedKey rest

mutual

/-- Whether no scalar is a misfit and no mapping has a key twice. -/
def isSound : Document → Bool
  | scalar _ (.misfit _) => false
  | scalar .. => true
  | list items => areSound items
  | mapping entries => !hasRepeatedKey (entries.map Prod.fst) && entriesAreSound entries
  | tagged _ content => isSound content

def areSound : List Document → Bool
  | [] => true
  | item :: rest => isSound item && areSound rest

def entriesAreSound : List (Document × Document) → Bool
  | [] => true
  | (key, value) :: rest => isSound key && isSound value && entriesAreSound rest

end

end Document

end PathSchema
