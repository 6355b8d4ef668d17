import PathSchema.Document
import PathSchema.Text.Hexadecimal
import PathSchema.Text.Numeral

/-!
# What plain scalars stand for

A scalar without quotes stands for nothing, a truth value or a number if its text
looks like one, and for its text otherwise.  Digits after a leading zero are a
text.  Whole numbers are held in 64 bits; those that need more are misfits, and
those beyond 128 bits are read as fractions.
-/

namespace PathSchema

namespace Yaml

/-- The texts that stand for nothing, apart from the empty one. -/
def nullWords : List String := ["null", "Null", "NULL", "~"]

/-- The truth value of a text. -/
def boolean? : String → Option Bool
  | "true" | "True" | "TRUE" => some true
  | "false" | "False" | "FALSE" => some false
  | _ => none

/-- Whether a text is a run of digits with a leading zero, a sign apart. -/
def hasLeadingZero (text : List Char) : Bool :=
  match (Numeral.sign text).2 with
  | '0' :: d :: rest => (d :: rest).all Char.isDigit
  | _ => false

/-- The number that some digits denote in a radix up to sixteen. -/
def inRadix? (radix : Nat) (digits : List Char) : Option Nat :=
  if digits.isEmpty then none
  else
    digits.foldlM (fun n c =>
      (Hexadecimal.value? c).bind fun d => if d < radix then some (radix * n + d) else none) 0

/-- The size of a whole number without its sign. -/
def magnitude? : List Char → Option Nat
  | '0' :: 'x' :: rest => inRadix? 16 rest
  | '0' :: 'o' :: rest => inRadix? 8 rest
  | '0' :: 'b' :: rest => inRadix? 2 rest
  | text => if hasLeadingZero text then none else inRadix? 10 text

/-- The sense of a text that is a whole number of at most 128 bits. -/
def integer? (text : List Char) : Option Sense :=
  match text with
  | '-' :: rest =>
    (magnitude? rest).bind fun n =>
      if n ≤ Nat.pow 2 63 then some (.integer (-n))
      else if n ≤ Nat.pow 2 127 then some (.misfit "integer") else none
  | _ =>
    (magnitude? (Numeral.sign text).2).bind fun n =>
      if n < UInt64.size then some (.integer n)
      else if n < Nat.pow 2 128 then some (.misfit "integer") else none

def float? (text : String) : Option UInt64 :=
  let plain := match text.toList with
    | '+' :: rest => rest
    | written => written
  if [".inf", ".Inf", ".INF"].contains (String.ofList plain) then some Numeral.infinity
  else if ["-.inf", "-.Inf", "-.INF"].contains text then some Numeral.negativeInfinity
  else if [".nan", ".NaN", ".NAN"].contains text then some Numeral.notANumber
  else
    match text.toList with
    | '+' :: '+' :: _ | '+' :: '-' :: _ => none
    | written => (Numeral.read? written).bind Numeral.bits?

/-- What a scalar without quotes and without a tag stands for. -/
def plainSense (text : String) : Sense :=
  if text.isEmpty || nullWords.contains text then .null
  else
    match boolean? text with
    | some value => .boolean value
    | none =>
      match integer? text.toList with
      | some sense => sense
      | none =>
        if hasLeadingZero text.toList then .text
        else
          match float? text with
          | some bits => .float bits
          | none => .text

/-- The front of the tags of the standard types. -/
def standardTag : String := "tag:yaml.org,2002:"

/-- What a scalar with one of the standard tags stands for, quoted or not. -/
def declaredSense (tag text : String) : Sense :=
  let or := fun (sense? : Option Sense) (name : String) => sense?.getD (.misfit name)
  if tag = standardTag ++ "null" then
    if nullWords.contains text then .null else .misfit "null"
  else if tag = standardTag ++ "bool" then or ((boolean? text).map .boolean) "bool"
  else if tag = standardTag ++ "int" then or (integer? text.toList) "int"
  else if tag = standardTag ++ "float" then or ((float? text).map .float) "float"
  else .text

end Yaml

end PathSchema
