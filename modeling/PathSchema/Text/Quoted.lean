import PathSchema.Unicode.Property

/-!
# Quoted text

A listing shows a text between double quotes, so that its blanks and its
invisible characters can be seen.
-/

namespace PathSchema

namespace Quoted

/-- The categories of characters that leave no trace of their own. -/
def invisible : List Unicode.Category :=
  [.control, .format, .surrogate, .privateUse, .unassigned, .lineSeparator,
    .paragraphSeparator, .spaceSeparator]

/-- Whether a character is shown as it is: it is a space, or it is visible and does
not attach to the character before it. -/
def isShown (c : Char) : Bool :=
  c == ' ' || !(invisible.contains (Unicode.Category.ofChar c) ||
    Unicode.Property.graphemeExtend.holds c)

def written (c : Char) : List Char :=
  match c with
  | '\x00' => ['\\', '0']
  | '\t' => ['\\', 't']
  | '\r' => ['\\', 'r']
  | '\n' => ['\\', 'n']
  | '\\' => ['\\', '\\']
  | '"' => ['\\', '"']
  | c =>
    if isShown c then [c]
    else '\\' :: 'u' :: '\x7b' :: (Nat.toDigits 16 c.toNat ++ ['\x7d'])

def quote (text : String) : String :=
  String.ofList ('"' :: (text.toList.flatMap written ++ ['"']))

/-- Texts in brackets, each between double quotes. -/
def quoteList (texts : List String) : String :=
  "[" ++ String.intercalate ", " (texts.map quote) ++ "]"

end Quoted

end PathSchema
