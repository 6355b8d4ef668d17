import PathSchema.Pattern.Escape

/-!
# Bracketed classes

A class in brackets is a union of characters, ranges, shorthands, named classes
and further brackets; unions are combined from left to right by intersection,
difference and symmetric difference.  The reader keeps a stack of the brackets
that are open.
-/

namespace PathSchema

namespace Pattern

/-- The operations between the unions of a bracket. -/
inductive SetOperation where
  | inter
  | diff
  | symmetricDiff
  deriving DecidableEq

structure Bracket where
  negated : Bool
  /-- What stands to the left of the latest operation, and the operation. -/
  left : Option (CharClass × SetOperation)
  /-- The union that is being read. -/
  union : CharClass
  /-- How deep brackets nest in it. -/
  depth : Nat

namespace Bracket

/-- Adds characters to the union. -/
def add (bracket : Bracket) (chars : CharClass) : Bracket :=
  { bracket with union := .union bracket.union chars }

/-- Applies the latest operation to the union that was read. -/
def combine (flags : Flags) (bracket : Bracket) : CharClass :=
  match bracket.left with
  | none => bracket.union
  | some (left, operation) =>
    let left := Atom.foldClass flags left
    let right := Atom.foldClass flags bracket.union
    match operation with
    | .inter => .inter left right
    | .diff => .diff left right
    | .symmetricDiff => .symmetricDiff left right

def close? (flags : Flags) (bracket : Bracket) : Option CharClass :=
  Atom.finishClass flags bracket.negated (Atom.foldClass flags (bracket.combine flags))

/-- Goes on with the union after an operation. -/
def operate (flags : Flags) (bracket : Bracket) (operation : SetOperation) : Bracket :=
  { bracket with left := some (bracket.combine flags, operation), union := .empty }

/-- Takes leading hyphens, which stand for themselves. -/
def leadingHyphens (flags : Flags) (bracket : Bracket) : Nat → List Char → Bracket × List Char
  | fuel + 1, '-' :: rest =>
    leadingHyphens flags (bracket.add (.single '-')) fuel (flags.skip rest)
  | _, text => (bracket, text)

/-- Opens a bracket, given what follows it: a caret complements, and hyphens and a
closing bracket that come first stand for themselves. -/
def opening? (flags : Flags) (text : List Char) : Option (Bracket × List Char) :=
  let (negated, text) := match flags.skip text with
    | '^' :: rest => (true, flags.skip rest)
    | text => (false, text)
  let initial : Bracket := ⟨negated, none, .empty, 1⟩
  let (bracket, text) := leadingHyphens flags initial text.length text
  match bracket.union, text with
  | _, [] => none
  | .empty, ']' :: rest =>
    if (flags.skip rest).isEmpty then none
    else some (bracket.add (.single ']'), flags.skip rest)
  | _, text => some (bracket, text)

/-- A class named between colons, given what follows the bracket before the first colon. -/
def named? (flags : Flags) (text : List Char) : Option (Option CharClass × List Char) :=
  match text with
  | ':' :: rest =>
    let (negated, rest) := match rest with
      | '^' :: rest => (true, rest)
      | rest => (false, rest)
    match rest.dropWhile (· != ':') with
    | ':' :: ']' :: remaining =>
      (CharClass.named? (String.ofList (rest.takeWhile (· != ':')))).map fun chars =>
        (Atom.finishClass flags negated (Atom.foldClass flags chars), remaining)
    | _ => none
  | _ => none

/-- One item of a union: an escape or a character that stands for itself. -/
def item? (flags : Flags) (text : List Char) : Option (Atom × List Char) :=
  match text with
  | [] => none
  | '\\' :: rest => escape? flags rest
  | c :: rest => some (.literal c false, rest)

def bound? (flags : Flags) : Atom → Option Char
  | .literal c isByte =>
    (Atom.scalar? flags c isByte).bind fun c =>
      if flags.unicode || c.toNat < 128 then some c else none
  | _ => none

def itemClass? (flags : Flags) (atom : Atom) : Option CharClass :=
  match atom with
  | .literal .. => (bound? flags atom).map .single
  | atom => atom.class? flags

/-- An item or a range between two items.  A hyphen before the closing bracket or
before another hyphen makes no range. -/
def range? (flags : Flags) (text : List Char) : Option (CharClass × List Char) :=
  (item? flags text).bind fun (first, rest) =>
    match flags.skip rest with
    | [] => none
    | '-' :: afterHyphen =>
      match flags.skip afterHyphen with
      | [] => none
      | c :: rest =>
        if c = ']' || c = '-' then
          (itemClass? flags first).map fun chars => (chars, '-' :: afterHyphen)
        else
          (item? flags (c :: rest)).bind fun (last, rest) =>
            (bound? flags first).bind fun first =>
              (bound? flags last).bind fun last =>
                if first ≤ last then some (.range first last, rest) else none
    | rest => (itemClass? flags first).map fun chars => (chars, rest)

end Bracket

/-- A bracketed class, the depth of its brackets, and what follows it.  `outer` are
the open brackets around the current one; reading goes on as long as each step
leaves less to read. -/
def readBracket (flags : Flags) (outer : List Bracket) (current : Bracket)
    (text : List Char) : Option (CharClass × Nat × List Char) :=
  match flags.skip text with
  | [] => none
  | ']' :: rest =>
    (current.close? flags).bind fun chars =>
      match outer with
      | [] => some (chars, current.depth, rest)
      | parent :: outer =>
        let parent := { parent.add chars with depth := max parent.depth (current.depth + 1) }
        if _h : rest.length < text.length then readBracket flags outer parent rest else none
  | '[' :: rest =>
    match Bracket.named? flags rest with
    | some (chars?, rest) =>
      chars?.bind fun chars =>
        if _h : rest.length < text.length then
          readBracket flags outer (current.add chars) rest
        else none
    | none =>
      (Bracket.opening? flags rest).bind fun (bracket, rest) =>
        if _h : rest.length < text.length then
          readBracket flags (current :: outer) bracket rest
        else none
  | '&' :: '&' :: rest =>
    if _h : rest.length < text.length then
      readBracket flags outer (current.operate flags .inter) rest
    else none
  | '-' :: '-' :: rest =>
    if _h : rest.length < text.length then
      readBracket flags outer (current.operate flags .diff) rest
    else none
  | '~' :: '~' :: rest =>
    if _h : rest.length < text.length then
      readBracket flags outer (current.operate flags .symmetricDiff) rest
    else none
  | rest =>
    (Bracket.range? flags rest).bind fun (chars, rest) =>
      if _h : rest.length < text.length then readBracket flags outer (current.add chars) rest
      else none
  termination_by text.length

end Pattern

end PathSchema
