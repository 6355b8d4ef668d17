/-!
# Decimal numerals

Natural numbers are written in decimal without leading zeros and read from any run of
digits, where leading zeros do not count.
-/

namespace PathSchema

namespace Decimal

/-- The number that a run of digits denotes. -/
def value (digits : List Char) : Nat :=
  Nat.ofDigitChars 10 digits 0

/-- A number in decimal. -/
def render (n : Nat) : String :=
  String.ofList (Nat.toDigits 10 n)

theorem value_le_value_append (xs ys : List Char) : value xs ≤ value (xs ++ ys) := by
  rw [value, value, Nat.ofDigitChars_append]
  generalize Nat.ofDigitChars 10 xs 0 = n
  rw [Nat.ofDigitChars_eq_ofDigitChars_zero]
  have hgrown : n ≤ 10 ^ ys.length * n := Nat.le_mul_of_pos_left n (Nat.pow_pos (by decide))
  exact Nat.le_trans hgrown (Nat.le_add_right _ _)

end Decimal

end PathSchema
