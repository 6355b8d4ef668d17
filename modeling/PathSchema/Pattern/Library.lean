/-!
# Libraries of regular expressions

What an expression means is left to a library.  It is asked for two things: whether the
text of an expression compiles, and whether an expression that compiles matches somewhere
in a text.  Everything that reads or matches patterns is relative to a library.
-/

namespace PathSchema

/-- A library of regular expressions. -/
class RegexLibrary where
  /-- Why the text of an expression does not compile, if it does not. -/
  refusal? : (expression : String) → Option String
  /-- Whether an expression that compiles matches some stretch of a text. -/
  isMatch : (expression text : String) → Bool

end PathSchema
