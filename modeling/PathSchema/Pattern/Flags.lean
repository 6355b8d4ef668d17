import PathSchema.Unicode.Property

/-!
# Flags of a pattern

Flags hold from where they are set to the end of the group they are set in.  In
verbose patterns blanks between items are skipped, and a number sign starts a
comment that runs to the end of its line.
-/

namespace PathSchema

namespace Pattern

/-- The settings under which a stretch of a pattern is read. -/
structure Flags where
  caseless : Bool := false
  /-- The anchors of a line hold at every line, not only at the ends of the text. -/
  multiLine : Bool := false
  /-- The dot stands for line breaks too. -/
  dotAll : Bool := false
  /-- Repetitions prefer few rounds; what matches as a whole does not depend on it. -/
  swapGreed : Bool := false
  /-- Classes and cases are those of all scripts. -/
  unicode : Bool := true
  /-- A carriage return ends a line too. -/
  returns : Bool := false
  verbose : Bool := false
  deriving DecidableEq

namespace Flags

def set? (flags : Flags) (letter : Char) (value : Bool) : Option Flags :=
  match letter with
  | 'i' => some { flags with caseless := value }
  | 'm' => some { flags with multiLine := value }
  | 's' => some { flags with dotAll := value }
  | 'U' => some { flags with swapGreed := value }
  | 'u' => some { flags with unicode := value }
  | 'R' => some { flags with returns := value }
  | 'x' => some { flags with verbose := value }
  | _ => none

/-- Sets flags from a list of letters, and clears those after a hyphen. -/
def assign? (flags : Flags) (value : Bool) : List Char → Option Flags
  | [] => some flags
  | '-' :: rest => flags.assign? false rest
  | letter :: rest => (flags.set? letter value).bind fun flags => flags.assign? value rest

/-- Whether a list of flag letters may stand in a pattern: no letter comes twice,
and a hyphen, which comes at most once, is followed by a letter. -/
def areLegal (letters : List Char) : Bool :=
  letters.Nodup && letters.getLast? != some '-'

end Flags

/-- What is left after blanks and comments, of which `inComment` tells that one is open. -/
def dropTrivia (inComment : Bool) : List Char → List Char
  | [] => []
  | c :: rest =>
    if inComment then dropTrivia (c != '\n') rest
    else if Unicode.isWhiteSpace c then dropTrivia false rest
    else if c = '#' then dropTrivia true rest
    else c :: rest

/-- Skips what a verbose pattern ignores; other patterns ignore nothing. -/
def Flags.skip (flags : Flags) (text : List Char) : List Char :=
  if flags.verbose then dropTrivia false text else text

end Pattern

end PathSchema
