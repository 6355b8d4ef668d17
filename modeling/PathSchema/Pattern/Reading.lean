import PathSchema.Pattern.Bracket
import PathSchema.Text.Decimal

/-!
# Reading a pattern

The reader is a stack machine.  The current level holds the branches of the
group that is being read and the items of its latest branch; the levels below
it are the groups around it.  Each step takes one item, and what a step does
depends on the levels below only when it closes a group.
-/

namespace PathSchema

namespace Pattern

/-- An item of a branch: an expression, or a setting of flags, which has none and
cannot be repeated.  The depth counts how groups, repetitions, brackets and lists
nest in it. -/
structure Item where
  regex : Option Regex
  depth : Nat

/-- A group that is being read. -/
structure Level where
  flags : Flags
  /-- The branches that are complete, latest first. -/
  branches : List (Regex × Nat)
  /-- The items of the latest branch, latest first. -/
  items : List Item

namespace Level

/-- A group of which nothing was read. -/
def initial (flags : Flags) : Level := ⟨flags, [], []⟩

/-- The branch that the latest items make up, and its depth. -/
def branch (level : Level) : Regex × Nat :=
  let depth := (level.items.map Item.depth).foldl max 0
  (Regex.concats (level.items.reverse.filterMap Item.regex),
    if level.items.length < 2 then depth else depth + 1)

/-- The expression of all branches, and its depth. -/
def regex (level : Level) : Regex × Nat :=
  let branches := (level.branch :: level.branches).reverse
  let depth := (branches.map Prod.snd).foldl max 0
  (Regex.alternates (branches.map Prod.fst), if branches.length < 2 then depth else depth + 1)

/-- Adds an expression to the latest branch. -/
def push (level : Level) (regex : Regex) (depth : Nat) : Level :=
  { level with items := ⟨some regex, depth⟩ :: level.items }

/-- Ends the latest branch and begins another. -/
def bar (level : Level) : Level :=
  { level with branches := level.branch :: level.branches, items := [] }

/-- Changes the flags from here to the end of the group. -/
def set (level : Level) (flags : Flags) : Level :=
  { level with flags := flags, items := ⟨none, 0⟩ :: level.items }

/-- Repeats the latest item; at the start of a branch, and after a setting of
flags, there is nothing to repeat. -/
def repeat? (level : Level) (min : Nat) (max : Option Nat) : Option Level :=
  match level.items with
  | ⟨some regex, depth⟩ :: rest =>
    some { level with items := ⟨some (.repeated regex min max), depth + 1⟩ :: rest }
  | _ => none

end Level

/-- The state of a reader. -/
structure Machine where
  level : Level
  /-- The groups around the current one, innermost first. -/
  outer : List Level
  /-- The names of the groups that were opened; no two groups share one. -/
  names : List (List Char)

/-- How a group begins. -/
inductive Opening where
  /-- A group, with the flags that hold in it and its name if it has one. -/
  | group (flags : Flags) (name : Option (List Char))
  /-- Flags that hold from here on. -/
  | setting (flags : Flags)

/-- The name of a group up to its angle bracket: a letter or an underscore, then
letters, digits, underscores, dots and square brackets. -/
def groupName? (text : List Char) : Option (List Char × List Char) :=
  let name := text.takeWhile (· != '>')
  match name, text.dropWhile (· != '>') with
  | first :: others, '>' :: rest =>
    if (first == '_' || Unicode.isAlphabetic first) && others.all (fun c =>
        c == '_' || c == '.' || c == '[' || c == ']' || Unicode.isAlphanumeric c) then
      some (name, rest)
    else none
  | _, _ => none

/-- Flags up to a colon, which opens a group, or to a parenthesis, which sets them. -/
def flagOpening? (flags : Flags) (text : List Char) : Option (Opening × List Char) :=
  let letters := text.takeWhile fun c => c != ':' && c != ')'
  if Flags.areLegal letters then
    (flags.assign? true letters).bind fun flags =>
      match text.dropWhile fun c => c != ':' && c != ')' with
      | ':' :: rest => some (.group flags none, rest)
      | _ :: rest => if letters.isEmpty then none else some (.setting flags, rest)
      | [] => none
  else none

/-- How a group begins, given what follows its parenthesis.  Conditions on the
text around a match are not part of the language. -/
def opening? (flags : Flags) (text : List Char) : Option (Opening × List Char) :=
  match flags.skip text with
  | '?' :: '=' :: _ | '?' :: '!' :: _ | '?' :: '<' :: '=' :: _ | '?' :: '<' :: '!' :: _ => none
  | '?' :: 'P' :: '<' :: rest | '?' :: '<' :: rest =>
    (groupName? rest).map fun (name, rest) => (.group flags (some name), rest)
  | '?' :: rest => flagOpening? flags rest
  | rest => some (.group flags none, rest)

/-- The digits at the front of a text, with what a verbose pattern ignores between them. -/
def countDigits (flags : Flags) : Nat → List Char → List Char × List Char
  | fuel + 1, c :: rest =>
    if c.isDigit then
      let (digits, remaining) := countDigits flags fuel (flags.skip rest)
      (c :: digits, remaining)
    else ([], c :: rest)
  | _, text => ([], text)

/-- A number of rounds; blanks around it do not count, and it is below 2 ^ 32. -/
def count? (flags : Flags) (text : List Char) : Option (Nat × List Char) :=
  let text := text.dropWhile Unicode.isWhiteSpace
  let (digits, rest) := countDigits flags text.length text
  let rest := flags.skip (rest.dropWhile Unicode.isWhiteSpace)
  if digits.isEmpty || UInt32.size ≤ Decimal.value digits then none
  else some (Decimal.value digits, rest.dropWhile Unicode.isWhiteSpace)

/-- Drops the mark by which a repetition prefers few rounds. -/
def dropLazyMark : List Char → List Char
  | '?' :: rest => rest
  | rest => rest

/-- A number of rounds or a range of numbers up to its closing brace. -/
def rounds? (flags : Flags) (text : List Char) : Option (Nat × Option Nat × List Char) :=
  (count? flags (flags.skip text)).bind fun (min, rest) =>
    match rest with
    | '}' :: rest => some (min, some min, dropLazyMark (flags.skip rest))
    | ',' :: rest =>
      match flags.skip rest with
      | '}' :: rest => some (min, none, dropLazyMark (flags.skip rest))
      | rest =>
        (count? flags rest).bind fun (max, rest) =>
          match rest with
          | '}' :: rest =>
            if min ≤ max then some (min, some max, dropLazyMark (flags.skip rest)) else none
          | _ => none
    | _ => none

namespace Machine

/-- The reader before a pattern. -/
def initial : Machine := ⟨.initial {}, [], []⟩

def update (machine : Machine) (level : Level) : Machine :=
  { machine with level := level }

/-- Takes an item that stands alone. -/
def atom? (machine : Machine) (atom : Atom) : Option Machine :=
  (atom.regex? machine.level.flags).map fun regex => machine.update (machine.level.push regex 0)

/-- Opens a group or sets flags. -/
def open? (machine : Machine) (opening : Opening) : Option Machine :=
  match opening with
  | .setting flags => some (machine.update (machine.level.set flags))
  | .group flags none => some { machine with
      level := .initial flags, outer := machine.level :: machine.outer }
  | .group flags (some name) =>
    if machine.names.contains name then none
    else some ⟨.initial flags, machine.level :: machine.outer, name :: machine.names⟩

def close? (machine : Machine) : Option Machine :=
  match machine.outer with
  | [] => none
  | parent :: outer =>
    let (regex, depth) := machine.level.regex
    some { machine with level := parent.push regex (depth + 1), outer := outer }

/-- Takes the item that begins with `c` and goes on with `rest`. -/
def step? (machine : Machine) (c : Char) (rest : List Char) : Option (Machine × List Char) :=
  let flags := machine.level.flags
  match c with
  | '(' =>
    (opening? flags rest).bind fun (opening, rest) =>
      (machine.open? opening).map fun machine => (machine, rest)
  | ')' => machine.close?.map fun machine => (machine, rest)
  | '|' => some (machine.update machine.level.bar, rest)
  | '[' =>
    (Bracket.opening? flags rest).bind fun (bracket, rest) =>
      (readBracket flags [] bracket rest).map fun (chars, depth, rest) =>
        (machine.update (machine.level.push (.char chars) depth), rest)
  | '?' =>
    (machine.level.repeat? 0 (some 1)).map fun level => (machine.update level, dropLazyMark rest)
  | '*' =>
    (machine.level.repeat? 0 none).map fun level => (machine.update level, dropLazyMark rest)
  | '+' =>
    (machine.level.repeat? 1 none).map fun level => (machine.update level, dropLazyMark rest)
  | '{' =>
    (rounds? flags rest).bind fun (min, max, rest) =>
      (machine.level.repeat? min max).map fun level => (machine.update level, rest)
  | '\\' =>
    (escape? flags rest).bind fun (atom, rest) =>
      (machine.atom? atom).map fun machine => (machine, rest)
  | '.' => (machine.atom? .dot).map fun machine => (machine, rest)
  | '^' => (machine.atom? .lineStart).map fun machine => (machine, rest)
  | '$' => (machine.atom? .lineEnd).map fun machine => (machine, rest)
  | c => (machine.atom? (.literal c false)).map fun machine => (machine, rest)

/-- Reads a text to its end, as long as each step leaves less to read. -/
def run? (machine : Machine) (text : List Char) : Option Machine :=
  match machine.level.flags.skip text with
  | [] => some machine
  | c :: rest =>
    match machine.step? c rest with
    | none => none
    | some (machine, remaining) =>
      if _h : remaining.length < text.length then run? machine remaining else none
  termination_by text.length

/-- The expression and its depth, if no group is left open. -/
def finish? (machine : Machine) : Option (Regex × Nat) :=
  if machine.outer.isEmpty then some machine.level.regex else none

end Machine

end Pattern

namespace CharClass

/-- A rough size of the automaton of a class, in bytes. -/
def weight : CharClass → Nat
  | empty => 32
  | range _ last => if last.toNat < 128 then 40 else 200
  | property (.category [.decimalNumber]) => 8000
  | property (.binary _) => 20000
  | property _ => 50000
  | word => 70000
  | union left right | inter left right | diff left right => left.weight + right.weight
  | complement inner => inner.weight + 300
  | caseless inner | asciiCaseless inner => 2 * inner.weight

end CharClass

namespace Regex

/-- A rough size of the automaton of an expression, in bytes: a repetition holds a
copy of what it repeats for each round it counts. -/
def weight : Regex → Nat
  | empty | assertion _ => 32
  | char chars => chars.weight
  | concat first second | alternate first second => first.weight + second.weight + 32
  | repeated inner min max =>
    if inner.isZeroWidth then inner.weight + 32
    else Nat.max 1 (Nat.max min (max.getD min)) * (inner.weight + 32)

/-- How deep an expression may nest. -/
def depthLimit : Nat := 250

/-- How large the automaton of an expression may be, in bytes. -/
def weightLimit : Nat := 10 * 1024 * 1024

/-- The expression of a pattern, if the pattern is well formed and neither too deep
nor too large. -/
def ofText? (text : List Char) : Option Regex :=
  ((Pattern.Machine.initial.run? text).bind Pattern.Machine.finish?).bind fun (regex, depth) =>
    if depth ≤ depthLimit && regex.weight ≤ weightLimit then some regex else none

end Regex

end PathSchema
