import PathSchema.Pattern.Library
import PathSchema.Pattern.Reading

/-!
# A library of expressions

The library that the program runs with reads an expression with a stack machine and
matches it place by place.  It knows no properties of segmentation, and whether an
expression is too large goes by an estimate.
-/

namespace PathSchema

instance Regex.library : RegexLibrary where
  refusal? expression :=
    if (Regex.ofText? expression.toList).isSome then none else some "not a well-formed pattern"
  isMatch expression text :=
    (Regex.ofText? expression.toList).any (·.isMatch text.toList)

end PathSchema
