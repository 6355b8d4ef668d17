/-!
# Offsets and positions in a text

An offset counts the bytes of a text in UTF-8; a position counts lines and the
characters of a line, both from one.  The position of an offset is the one
reached after all characters that start before it, so an offset inside a
character has the position of the next one, and an offset past the end that of
the end.
-/

namespace PathSchema

namespace Text

/-- Number of bytes that a list of characters takes in UTF-8. -/
def byteLength : List Char → Nat
  | [] => 0
  | c :: rest => c.utf8Size + byteLength rest

@[simp] theorem byteLength_nil : byteLength [] = 0 := rfl

@[simp] theorem byteLength_cons (c : Char) (chars : List Char) :
    byteLength (c :: chars) = c.utf8Size + byteLength chars := rfl

@[simp] theorem byteLength_append (xs ys : List Char) :
    byteLength (xs ++ ys) = byteLength xs + byteLength ys := by
  induction xs with
  | nil => simp
  | cons c xs ih => simp [ih, Nat.add_assoc]

/-- The characters that start before a byte offset. -/
def charsBefore : List Char → Nat → List Char
  | [], _ => []
  | _ :: _, 0 => []
  | c :: rest, n + 1 => c :: charsBefore rest (n + 1 - c.utf8Size)

/-- A character that starts before an offset is followed by those that start
before the offset less its own width. -/
theorem charsBefore_cons_of_pos {c : Char} {rest : List Char} {n : Nat} (hn : 0 < n) :
    charsBefore (c :: rest) n = c :: charsBefore rest (n - c.utf8Size) := by
  obtain ⟨m, rfl⟩ : ∃ m, n = m + 1 := ⟨n - 1, by omega⟩
  rfl

theorem charsBefore_append_byteLength (xs ys : List Char) :
    charsBefore (xs ++ ys) (byteLength xs) = xs := by
  induction xs with
  | nil => cases ys <;> rfl
  | cons c xs ih =>
    have hc : 0 < c.utf8Size := c.utf8Size_pos
    rw [List.cons_append, byteLength_cons, charsBefore_cons_of_pos (by omega)]
    simp [ih]

end Text

/-- A place in a text, as a reader counts it. -/
structure Position where
  line : Nat
  column : Nat
  deriving DecidableEq

namespace Position

/-- Where every text begins. -/
def start : Position := ⟨1, 1⟩

/-- A line break opens a new line; any other character moves one column on. -/
def advance (position : Position) (c : Char) : Position :=
  if c = '\n' then ⟨position.line + 1, 1⟩ else ⟨position.line, position.column + 1⟩

def after (chars : List Char) : Position :=
  chars.foldl advance start

def ofOffset (text : String) (offset : Nat) : Position :=
  after (Text.charsBefore text.toList offset)

end Position

end PathSchema
