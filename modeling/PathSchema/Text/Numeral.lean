import PathSchema.Text.Decimal

/-!
# Numerals with a fraction or an exponent

A numeral is read as a sign, a whole number and a power of ten.  Its value as a
binary floating point number is the nearest one; a numeral beyond all of them has
none.
-/

namespace PathSchema

/-- A decimal numeral: `mantissa` times the power of ten that `exponent` tells. -/
structure Numeral where
  negative : Bool
  mantissa : Nat
  exponent : Int
  deriving DecidableEq

namespace Numeral

/-- A sign, if there is one, and what follows. -/
def sign : List Char → Bool × List Char
  | '-' :: rest => (true, rest)
  | '+' :: rest => (false, rest)
  | text => (false, text)

def digits (text : List Char) : List Char × List Char :=
  (text.takeWhile Char.isDigit, text.dropWhile Char.isDigit)

/-- The power of ten after a numeral, if nothing follows it. -/
def exponent? : List Char → Option Int
  | [] => some 0
  | e :: rest =>
    if e == 'e' || e == 'E' then
      match sign rest with
      | (negative, power) =>
        if power.isEmpty || !power.all Char.isDigit then none
        else
          let n : Int := Decimal.value power
          some (if negative then -n else n)
    else none

/-- The numeral a text spells.  Digits may be absent on one side of the point, but
not on both. -/
def read? (text : List Char) : Option Numeral :=
  match sign text with
  | (negative, unsigned) =>
    match digits unsigned with
    | (whole, rest) =>
      let (fraction, rest) := match rest with
        | '.' :: rest => digits rest
        | rest => ([], rest)
      if whole.isEmpty && fraction.isEmpty then none
      else
        (exponent? rest).map fun power =>
          ⟨negative, Decimal.value (whole ++ fraction), power - fraction.length⟩

/-- The bits of infinity, of its opposite and of what is no number. -/
def infinity : UInt64 := 0x7ff0000000000000

@[inherit_doc infinity]
def negativeInfinity : UInt64 := 0xfff0000000000000

@[inherit_doc infinity]
def notANumber : UInt64 := 0x7ff8000000000000

/-- The nearest floating point number, unless it is infinite; zero has no sign. -/
def bits? (numeral : Numeral) : Option UInt64 :=
  let places : Int := (Nat.toDigits 10 numeral.mantissa).length + numeral.exponent
  if numeral.mantissa = 0 ∨ places < -400 then some 0
  else if places > 400 then none
  else
    let size := Float.ofScientific numeral.mantissa (decide (numeral.exponent < 0))
      numeral.exponent.natAbs
    if size.isInf then none
    else if size == 0 then some 0
    else some (if numeral.negative then (-size).toBits else size.toBits)

end Numeral

end PathSchema
