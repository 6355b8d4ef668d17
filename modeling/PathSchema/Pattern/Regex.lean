import PathSchema.Pattern.CharClass

/-!
# Regular expressions

An expression leads from places in a text to other places of it: from where a match
begins to where it can end.  `Regex.reach` takes all places at once, so that no place
is ever left twice by one round of a repetition.  A repetition goes on from the places
that were not met before; since every place of a text is met at most once, it ends.
-/

namespace PathSchema

/-- A place in a text: what stands before it, nearest character first, and what follows. -/
structure Place where
  before : List Char
  after : List Char
  deriving DecidableEq

namespace Place

/-- The places of a text from a given one to the end. -/
def onwards (before : List Char) : List Char → List Place
  | [] => [⟨before, []⟩]
  | c :: rest => ⟨before, c :: rest⟩ :: onwards (c :: before) rest

def all (text : List Char) : List Place :=
  onwards [] text

/-- The number of characters after a place, which tells the places of a text apart. -/
def left (place : Place) : Nat :=
  place.after.length

/-- The place after the next character, if that is one of a class. -/
def pass? (chars : CharClass) (place : Place) : Option Place :=
  match place.after with
  | [] => none
  | c :: rest => if chars.contains c then some ⟨c :: place.before, rest⟩ else none

/-- Those of some places that were not met before, each of them once. -/
def fresh : (met : List Nat) → List Place → List Place
  | _, [] => []
  | met, place :: rest =>
    if met.contains place.left then fresh met rest
    else place :: fresh (place.left :: met) rest

end Place

/-- A condition on a place. -/
inductive Assertion where
  | textStart
  | textEnd
  /-- At the start or after a line feed. -/
  | lineStart
  /-- At the end or before a line feed. -/
  | lineEnd
  /-- The same where a carriage return, alone or with a line feed, ends a line too. -/
  | returnLineStart
  | returnLineEnd
  /-- A word begins or ends here. -/
  | wordEdge (unicode : Bool)
  | noWordEdge (unicode : Bool)
  | wordStart (unicode : Bool)
  | wordEnd (unicode : Bool)
  /-- No word reaches this place from the left. -/
  | wordStartHalf (unicode : Bool)
  /-- No word goes on from this place to the right. -/
  | wordEndHalf (unicode : Bool)
  deriving DecidableEq

namespace Assertion

def startsWord (unicode : Bool) : List Char → Bool
  | [] => false
  | c :: _ => (CharClass.wordChars unicode).contains c

def holds : Assertion → Place → Bool
  | textStart, p => p.before.isEmpty
  | textEnd, p => p.after.isEmpty
  | lineStart, p => p.before.isEmpty || p.before.head? == some '\n'
  | lineEnd, p => p.after.isEmpty || p.after.head? == some '\n'
  | returnLineStart, p =>
    p.before.isEmpty || p.before.head? == some '\n' ||
      (p.before.head? == some '\r' && p.after.head? != some '\n')
  | returnLineEnd, p =>
    p.after.isEmpty || p.after.head? == some '\r' ||
      (p.after.head? == some '\n' && p.before.head? != some '\r')
  | wordEdge u, p => startsWord u p.before != startsWord u p.after
  | noWordEdge u, p => startsWord u p.before == startsWord u p.after
  | wordStart u, p => !startsWord u p.before && startsWord u p.after
  | wordEnd u, p => startsWord u p.before && !startsWord u p.after
  | wordStartHalf u, p => !startsWord u p.before
  | wordEndHalf u, p => !startsWord u p.after

end Assertion

/-- A regular expression. -/
inductive Regex where
  /-- Matches without taking a character. -/
  | empty
  /-- One character of a class. -/
  | char (chars : CharClass)
  | assertion (condition : Assertion)
  | concat (first second : Regex)
  | alternate (first second : Regex)
  /-- At least `min` times, and at most `max` times where there is a greatest number. -/
  | repeated (inner : Regex) (min : Nat) (max : Option Nat)
  deriving DecidableEq

namespace Regex

/-- The places reached in exactly `n` rounds. -/
def exactly (round : List Place → List Place) : Nat → List Place → List Place
  | 0, places => places
  | n + 1, places => exactly round n (round places)

/-- The places reached in at most `n` rounds, of which each goes on from the places
that the one before it was the first to reach. -/
def atMost (round : List Place → List Place) :
    Nat → (met : List Nat) → List Place → List Place
  | 0, _, places => places
  | n + 1, met, places =>
    let next := Place.fresh met (round places)
    if next.isEmpty then places
    else places ++ atMost round n (next.map Place.left ++ met) next

/-- The places where matches that begin at some places can end. -/
def reach : Regex → List Place → List Place
  | empty, places => places
  | char chars, places => places.filterMap (Place.pass? chars)
  | assertion condition, places => places.filter condition.holds
  | concat first second, places => second.reach (first.reach places)
  | alternate first second, places =>
    Place.fresh [] (first.reach places ++ second.reach places)
  | repeated inner min max, places =>
    let begun := exactly inner.reach min places
    let met := begun.map Place.left
    atMost inner.reach (max.elim (met.foldl Nat.max 0 + 1) (· - min)) met begun

def isMatch (regex : Regex) (text : List Char) : Bool :=
  !(regex.reach (Place.all text)).isEmpty

/-- The expressions one after the other. -/
def concats : List Regex → Regex
  | [] => empty
  | [regex] => regex
  | regex :: rest => concat regex (concats rest)

/-- Any one of the expressions; nothing to choose from leaves the empty match. -/
def alternates : List Regex → Regex
  | [] => empty
  | [regex] => regex
  | regex :: rest => alternate regex (alternates rest)

/-- Whether every match is empty. -/
def isZeroWidth : Regex → Bool
  | empty | assertion _ => true
  | char _ => false
  | concat first second | alternate first second => first.isZeroWidth && second.isZeroWidth
  | repeated inner _ max => inner.isZeroWidth || max == some 0

end Regex

end PathSchema
