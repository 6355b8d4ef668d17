import PathSchema.Document
import PathSchema.Text.Hexadecimal
import PathSchema.Text.Numeral

/-!
# Documents of JSON text

A number with a fraction, or beyond 64 bits, is a floating point number.  A string
with half of a surrogate pair and a number beyond all floating point numbers are
misfits: they may be passed over, but they have no value.
-/

namespace PathSchema

namespace Json

/-- Whether a character may stand between the tokens. -/
def isFiller (c : Char) : Bool :=
  c == ' ' || c == '\n' || c == '\t' || c == '\r'

def skipFiller (text : List Char) : List Char :=
  text.dropWhile isFiller

def simpleEscapes : List (Char × Char) :=
  [('"', '"'), ('\\', '\\'), ('/', '/'), ('b', '\x08'), ('f', '\x0c'), ('n', '\n'),
    ('r', '\r'), ('t', '\t')]

/-- The code points of a string up to its closing quote, halves of surrogate pairs
among them, and what follows the quote. -/
def codePoints : List Char → Option (List Nat × List Char)
  | [] => none
  | '"' :: rest => some ([], rest)
  | '\\' :: 'u' :: a :: b :: c :: d :: rest =>
    match Hexadecimal.read? [a, b, c, d] with
    | none => none
    | some n => (codePoints rest).map fun (points, rest) => (n :: points, rest)
  | '\\' :: c :: rest =>
    match simpleEscapes.lookup c with
    | none => none
    | some meant => (codePoints rest).map fun (points, rest) => (meant.toNat :: points, rest)
  | c :: rest =>
    if c.toNat < 32 then none
    else (codePoints rest).map fun (points, rest) => (c.toNat :: points, rest)

/-- The text of some code points, in which surrogate pairs are joined; there is none if
half of a pair stands alone. -/
def join? : List Nat → Option (List Char)
  | [] => some []
  | high :: low :: rest =>
    if 0xd800 ≤ high ∧ high < 0xdc00 then
      if 0xdc00 ≤ low ∧ low < 0xe000 then
        (join? rest).map (Char.ofNat (0x10000 + (high - 0xd800) * 0x400 + (low - 0xdc00)) :: ·)
      else none
    else if high.isValidChar then (join? (low :: rest)).map (Char.ofNat high :: ·)
    else none
  | [n] => if n.isValidChar then some [Char.ofNat n] else none

def ofCodePoints (points : List Nat) : Document :=
  match join? points with
  | some text => .ofText (String.ofList text)
  | none => .scalar "" (.misfit "string")

/-- The length of the number at the beginning of a text, and whether it is a whole one. -/
def numberShape? (text : List Char) : Option (Nat × Bool) :=
  let unsigned := match text with
    | '-' :: rest => rest
    | rest => rest
  let whole := unsigned.takeWhile Char.isDigit
  if whole.isEmpty || (whole.head? == some '0' && whole.length > 1) then none
  else
    let afterWhole := unsigned.drop whole.length
    let fraction? := match afterWhole with
      | '.' :: rest =>
        let digits := rest.takeWhile Char.isDigit
        if digits.isEmpty then none else some (rest.drop digits.length)
      | rest => some rest
    fraction?.bind fun afterFraction =>
      let power? := match afterFraction with
        | e :: rest =>
          if e == 'e' || e == 'E' then
            let (_, unsigned) := Numeral.sign rest
            let digits := unsigned.takeWhile Char.isDigit
            if digits.isEmpty then none else some (unsigned.drop digits.length)
          else some (e :: rest)
        | [] => some []
      power?.map fun rest =>
        (text.length - rest.length, rest.length = afterWhole.length)

def ofNumber (text : List Char) (isWhole : Bool) : Document :=
  let written := String.ofList text
  let (negative, unsigned) := Numeral.sign text
  let size := Decimal.value unsigned
  if isWhole && !negative && size < UInt64.size then .scalar written (.integer size)
  else if isWhole && negative && size ≤ Nat.pow 2 63 then .scalar written (.integer (-size))
  else
    match (Numeral.read? text).bind Numeral.bits? with
    | some bits => .scalar written (.float bits)
    | none => .scalar written (.misfit "number")

mutual

def value : Nat → List Char → Option (Document × List Char)
  | 0, _ => none
  | fuel + 1, text =>
    match skipFiller text with
    | 'n' :: 'u' :: 'l' :: 'l' :: rest => some (.null, rest)
    | 't' :: 'r' :: 'u' :: 'e' :: rest => some (.ofBool true, rest)
    | 'f' :: 'a' :: 'l' :: 's' :: 'e' :: rest => some (.ofBool false, rest)
    | '"' :: rest => (codePoints rest).map fun (points, rest) => (ofCodePoints points, rest)
    | '[' :: rest =>
      match skipFiller rest with
      | ']' :: rest => some (.list [], rest)
      | rest => (items fuel rest).map fun (items, rest) => (.list items, rest)
    | '\x7b' :: rest =>
      match skipFiller rest with
      | '\x7d' :: rest => some (.mapping [], rest)
      | rest => (entries fuel rest).map fun (entries, rest) => (.mapping entries, rest)
    | rest =>
      (numberShape? rest).map fun (length, isWhole) =>
        (ofNumber (rest.take length) isWhole, rest.drop length)

def items : Nat → List Char → Option (List Document × List Char)
  | 0, _ => none
  | fuel + 1, text =>
    (value fuel text).bind fun (item, rest) =>
      match skipFiller rest with
      | ',' :: rest => (items fuel rest).map fun (items, rest) => (item :: items, rest)
      | ']' :: rest => some ([item], rest)
      | _ => none

/-- Reads the entries of a mapping that is not empty. -/
def entries : Nat → List Char → Option (List (Document × Document) × List Char)
  | 0, _ => none
  | fuel + 1, text =>
    match skipFiller text with
    | '"' :: rest =>
      (codePoints rest).bind fun (points, rest) =>
        match skipFiller rest with
        | ':' :: rest =>
          (value fuel rest).bind fun (content, rest) =>
            let entry := (ofCodePoints points, content)
            match skipFiller rest with
            | ',' :: rest =>
              (entries fuel rest).map fun (entries, rest) => (entry :: entries, rest)
            | '\x7d' :: rest => some ([entry], rest)
            | _ => none
        | _ => none
    | _ => none

end

def read? (text : String) : Option Document :=
  (value (2 * text.length + 2) text.toList).bind fun (document, rest) =>
    if (skipFiller rest).isEmpty then some document else none

end Json

end PathSchema
