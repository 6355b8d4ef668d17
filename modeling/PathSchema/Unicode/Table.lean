/-!
# Tables over code points

A property of characters is stored as a text of numbers.  A table lists keys in
ascending order, each with a value that holds from that key on; a set of code
points is a table whose values are the last code points of its ranges.
-/

namespace PathSchema

namespace Unicode

/-- The numbers of a packed text.  Digits are in base 26; a capital letter is
followed by a further digit and a small letter ends its number. -/
def numbers (packed : String) : List Nat :=
  let read := fun (state : List Nat × Nat) (c : Char) =>
    if c.isUpper then (state.1, 26 * state.2 + (c.toNat - 'A'.toNat))
    else ((26 * state.2 + (c.toNat - 'a'.toNat)) :: state.1, 0)
  (packed.toList.foldl read ([], 0)).1.reverse

/-- Keys in ascending order, each with its value. -/
abbrev Table := Array (Nat × Nat)

/-- The last entry among those from `low` up to `high` whose key is at most `n`,
or `found` if there is none. -/
def Table.search (table : Table) (n low high : Nat) (found : Option (Nat × Nat)) :
    Option (Nat × Nat) :=
  if low < high then
    match table[(low + high) / 2]? with
    | none => found
    | some entry =>
      if entry.1 ≤ n then table.search n ((low + high) / 2 + 1) high (some entry)
      else table.search n low ((low + high) / 2) found
  else found
  termination_by high - low
  decreasing_by all_goals omega

/-- The value that holds at a code point. -/
def Table.value? (table : Table) (n : Nat) : Option Nat :=
  (table.search n 0 table.size none).map Prod.snd

/-- Runs, each given by its length and its value, that cover the code points from zero. -/
def runs (packed : String) : Table :=
  let rec go (first : Nat) : List Nat → List (Nat × Nat)
    | length :: value :: rest => (first, value) :: go (first + length) rest
    | _ => []
  (go 0 (numbers packed)).toArray

/-- Ranges, each given by the gap before it and its length. -/
def ranges (packed : String) : Table :=
  let rec go (next : Nat) : List Nat → List (Nat × Nat)
    | gap :: length :: rest =>
      (next + gap, next + gap + length - 1) :: go (next + gap + length) rest
    | _ => []
  (go 0 (numbers packed)).toArray

/-- Whether a code point lies in one of the ranges of a table. -/
def Table.covers (table : Table) (n : Nat) : Bool :=
  match table.value? n with
  | some last => n ≤ last
  | none => false

end Unicode

end PathSchema
