/-!
# Hexadecimal numerals

Code points in escapes are written in hexadecimal, some with a fixed number of
digits and some with as many as they need.
-/

namespace PathSchema

namespace Hexadecimal

/-- The digits of a number, filled up with zeros to a number of places. -/
def padded (places n : Nat) : List Char :=
  List.replicate (places - (Nat.toDigits 16 n).length) '0' ++ Nat.toDigits 16 n

/-- The value of a digit of either case. -/
def value? (c : Char) : Option Nat :=
  if c.isDigit then some (c.toNat - '0'.toNat)
  else if 'a' ≤ c ∧ c ≤ 'f' then some (c.toNat - 'a'.toNat + 10)
  else if 'A' ≤ c ∧ c ≤ 'F' then some (c.toNat - 'A'.toNat + 10)
  else none

/-- The number that some digits denote, if there are any and all of them are digits. -/
def read? : List Char → Option Nat
  | [] => none
  | digits => digits.foldlM (fun n c => (value? c).map (16 * n + ·)) 0

end Hexadecimal

end PathSchema
