import PathSchema.Document
import PathSchema.Text.Hexadecimal
import PathSchema.Text.Numeral

/-!
# Scalars of TOML text

Strings of four kinds, whole numbers of 64 bits with a sign, fractions, truth values
and points in time.
-/

namespace PathSchema

namespace Toml

def isBlank (c : Char) : Bool :=
  c == ' ' || c == '\t'

/-- Whether a character may stand in a comment or in a string on one line. -/
def isVisible (c : Char) : Bool :=
  c == '\t' || (32 ≤ c.toNat && c.toNat != 127)

/-- What follows the line break at the beginning of a text. -/
def afterNewline? : List Char → Option (List Char)
  | '\n' :: rest => some rest
  | '\r' :: '\n' :: rest => some rest
  | _ => none

def simpleEscapes : List (Char × Char) :=
  [('b', '\x08'), ('t', '\t'), ('n', '\n'), ('f', '\x0c'), ('r', '\r'), ('"', '"'), ('\\', '\\')]

/-- Where a reader stands in a string with escapes. -/
inductive StringStage where
  | outside
  /-- A backslash was read. -/
  | escape
  /-- Some digits are still to come. -/
  | digits (left value : Nat)
  /-- Blanks after a backslash were read, which a line break has to follow. -/
  | lineEnd
  /-- Blanks and line breaks are skipped. -/
  | margin
  deriving DecidableEq

/-- Reads a string with escapes, up to its closing quote or quotes; a character that is
read goes before what follows it. -/
def escapedString (multiline : Bool) : StringStage → List Char → Option (List Char × List Char)
  | .digits left value, c :: rest =>
    (Hexadecimal.value? c).bind fun digit =>
      let number := 16 * value + digit
      if left ≤ 1 then
        if number.isValidChar then push (Char.ofNat number) (escapedString multiline .outside rest)
        else none
      else escapedString multiline (.digits (left - 1) number) rest
  | .escape, '\r' :: '\n' :: rest =>
    if multiline then escapedString multiline .margin rest else none
  | .escape, c :: rest =>
    match simpleEscapes.lookup c with
    | some meant => push meant (escapedString multiline .outside rest)
    | none =>
      if c == 'u' then escapedString multiline (.digits 4 0) rest
      else if c == 'U' then escapedString multiline (.digits 8 0) rest
      else if multiline && isBlank c then escapedString multiline .lineEnd rest
      else if multiline && c == '\n' then escapedString multiline .margin rest
      else none
  | .lineEnd, '\r' :: '\n' :: rest => escapedString multiline .margin rest
  | .lineEnd, c :: rest =>
    if isBlank c then escapedString multiline .lineEnd rest
    else if c == '\n' then escapedString multiline .margin rest
    else none
  | stage, '"' :: '"' :: '"' :: rest =>
    if multiline then
      match rest with
      | '"' :: '"' :: rest => some (['"', '"'], rest)
      | '"' :: rest => some (['"'], rest)
      | rest => some ([], rest)
    else if stage == .outside then some ([], '"' :: '"' :: rest) else none
  | stage, '\r' :: '\n' :: rest =>
    if !multiline then none
    else if stage == .margin then escapedString multiline .margin rest
    else push '\n' (escapedString multiline .outside rest)
  | stage, c :: rest =>
    if stage == .margin && (isBlank c || c == '\n') then escapedString multiline .margin rest
    else if c == '\\' then escapedString multiline .escape rest
    else if c == '"' && !multiline then some ([], rest)
    else if isVisible c || (multiline && c == '\n') then
      push c (escapedString multiline .outside rest)
    else none
  | _, [] => none
where
  /-- Puts a character before what was read after it. -/
  push (c : Char) (result : Option (List Char × List Char)) : Option (List Char × List Char) :=
    result.map fun (text, rest) => (c :: text, rest)

/-- Reads a string without escapes on one line, up to its closing quote. -/
def literalString : List Char → Option (List Char × List Char)
  | '\'' :: rest => some ([], rest)
  | c :: rest =>
    if isVisible c then (literalString rest).map fun (text, rest) => (c :: text, rest) else none
  | [] => none

/-- Reads a string without escapes on several lines, up to its closing quotes. -/
def literalLines : List Char → Option (List Char × List Char)
  | '\'' :: '\'' :: '\'' :: rest =>
    match rest with
    | '\'' :: '\'' :: rest => some (['\'', '\''], rest)
    | '\'' :: rest => some (['\''], rest)
    | rest => some ([], rest)
  | '\r' :: '\n' :: rest => (literalLines rest).map fun (text, rest) => ('\n' :: text, rest)
  | c :: rest =>
    if isVisible c || c == '\n' then
      (literalLines rest).map fun (text, rest) => (c :: text, rest)
    else none
  | [] => none

def string? : List Char → Option (String × List Char)
  | '"' :: '"' :: '"' :: rest =>
    (escapedString true .outside ((afterNewline? rest).getD rest)).map fun (text, rest) =>
      (String.ofList text, rest)
  | '\'' :: '\'' :: '\'' :: rest =>
    (literalLines ((afterNewline? rest).getD rest)).map fun (text, rest) =>
      (String.ofList text, rest)
  | '"' :: rest =>
    (escapedString false .outside rest).map fun (text, rest) => (String.ofList text, rest)
  | '\'' :: rest => (literalString rest).map fun (text, rest) => (String.ofList text, rest)
  | _ => none

/-- The digits of a text in which single underscores may stand between digits. -/
def digits? (isDigit : Char → Bool) : List Char → Option (List Char)
  | [] => none
  | [c] => if isDigit c then some [c] else none
  | c :: '_' :: rest => if isDigit c then (digits? isDigit rest).map (c :: ·) else none
  | c :: rest => if isDigit c then (digits? isDigit rest).map (c :: ·) else none

/-- The digits of a whole number in decimal, which have no leading zero. -/
def decimalDigits? (text : List Char) : Option (List Char) :=
  (digits? Char.isDigit text).filter fun digits => digits.length = 1 || digits.head? != some '0'

def inRadix? (radix : Nat) (text : List Char) : Option Nat :=
  (digits? (fun c => (Hexadecimal.value? c).any (· < radix)) text).bind fun digits =>
    digits.foldlM (fun n c => (Hexadecimal.value? c).map (radix * n + ·)) 0

def integer? (text : List Char) : Option Int :=
  match text with
  | '0' :: 'x' :: rest => (inRadix? 16 rest).map Int.ofNat
  | '0' :: 'o' :: rest => (inRadix? 8 rest).map Int.ofNat
  | '0' :: 'b' :: rest => (inRadix? 2 rest).map Int.ofNat
  | text =>
    let (negative, unsigned) := Numeral.sign text
    (decimalDigits? unsigned).map fun digits =>
      let n : Int := Decimal.value digits
      if negative then -n else n

/-- The fraction of a text: a whole number with digits after a point, with an exponent,
or with both. -/
def float? (text : List Char) : Option UInt64 :=
  let (negative, unsigned) := Numeral.sign text
  if unsigned = ['i', 'n', 'f'] then
    some (if negative then Numeral.negativeInfinity else Numeral.infinity)
  else if unsigned = ['n', 'a', 'n'] then some Numeral.notANumber
  else
    let isExponent := fun (c : Char) => c == 'e' || c == 'E'
    let mantissa := unsigned.takeWhile (!isExponent ·)
    let power? := match unsigned.dropWhile (!isExponent ·) with
      | [] => some []
      | _ :: rest =>
        let (below, digits) := Numeral.sign rest
        (digits? Char.isDigit digits).map fun digits =>
          'e' :: (if below then '-' :: digits else digits)
    let whole := mantissa.takeWhile (· != '.')
    let fraction? := match mantissa.dropWhile (· != '.') with
      | [] => if mantissa.length = unsigned.length then none else some []
      | _ :: rest => (digits? Char.isDigit rest).map ('.' :: ·)
    (decimalDigits? whole).bind fun whole =>
      fraction?.bind fun fraction =>
        power?.bind fun power =>
          let size := whole ++ fraction ++ power
          match (Numeral.read? (if negative then '-' :: size else size)).bind Numeral.bits? with
          | some bits => some bits
          | none => if negative then some Numeral.negativeInfinity else none

/-- Reads a number of exactly as many digits within bounds. -/
def fixed? (places low high : Nat) (text : List Char) : Option (Nat × List Char) :=
  let digits := text.take places
  let n := Decimal.value digits
  if digits.length = places && digits.all Char.isDigit && low ≤ n && n ≤ high then
    some (n, text.drop places)
  else none

def daysIn (year month : Nat) : Nat :=
  if month = 2 then
    if year % 4 = 0 && (year % 100 != 0 || year % 400 = 0) then 29 else 28
  else if [4, 6, 9, 11].contains month then 30 else 31

def date? (text : List Char) : Option (List Char) :=
  (fixed? 4 0 9999 text).bind fun (year, rest) =>
    match rest with
    | '-' :: rest =>
      (fixed? 2 1 12 rest).bind fun (month, rest) =>
        match rest with
        | '-' :: rest => (fixed? 2 1 (daysIn year month) rest).map Prod.snd
        | _ => none
    | _ => none

def time? (text : List Char) : Option (List Char) :=
  (fixed? 2 0 23 text).bind fun (_, rest) =>
    match rest with
    | ':' :: rest =>
      (fixed? 2 0 59 rest).bind fun (_, rest) =>
        match rest with
        | ':' :: rest =>
          (fixed? 2 0 60 rest).bind fun (_, rest) =>
            match rest with
            | '.' :: rest =>
              let digits := rest.takeWhile Char.isDigit
              if digits.isEmpty then none else some (rest.drop digits.length)
            | rest => some rest
        | _ => none
    | _ => none

/-- Reads the offset of a time zone. -/
def zone? : List Char → Option (List Char)
  | [] => some []
  | c :: rest =>
    if c == 'Z' || c == 'z' then some rest
    else if c == '+' || c == '-' then
      (fixed? 2 0 23 rest).bind fun (_, rest) =>
        match rest with
        | ':' :: rest => (fixed? 2 0 59 rest).map Prod.snd
        | _ => none
    else none

/-- Whether a text is a point in time: a date, a time of day, or both. -/
def isMoment (text : List Char) : Bool :=
  match date? text with
  | some [] => true
  | some (separator :: rest) =>
    (['T', 't', ' '].contains separator) && (time? rest).bind zone? == some []
  | none => time? text == some []

/-- Whether a character may stand in a scalar without quotes. -/
def isWordChar (c : Char) : Bool :=
  c.isAlphanum || "_+-.:".toList.contains c

/-- A scalar without quotes; a date and a time of day may be separated by a space. -/
def word (text : List Char) : List Char × List Char :=
  let first := text.takeWhile isWordChar
  let rest := text.drop first.length
  if date? first == some [] && rest.head? == some ' ' &&
      (rest.drop 1).head?.any Char.isDigit then
    let second := (rest.drop 1).takeWhile isWordChar
    (first ++ ' ' :: second, rest.drop (second.length + 1))
  else (first, rest)

/-- The key of the mapping that a point in time is held as. -/
def momentKey : String := "moment"

/-- The document of a scalar without quotes. -/
def ofWord (text : List Char) : Option Document :=
  let written := String.ofList text
  if written = "true" then some (.ofBool true)
  else if written = "false" then some (.ofBool false)
  else
    match integer? text with
    | some n =>
      if Int64.minValue.toInt ≤ n ∧ n ≤ Int64.maxValue.toInt then
        some (.scalar written (.integer n))
      else none
    | none =>
      match float? text with
      | some bits => some (.scalar written (.float bits))
      | none =>
        if isMoment text then some (.ofFields [(momentKey, .ofText written)]) else none

end Toml

end PathSchema
