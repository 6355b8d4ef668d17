import PathSchema.Text.Position

/-!
# Tokens of a schema text

A schema text is a run of tokens: identifiers, integers, quoted strings,
single punctuation characters and blanks.  Blanks are tokens like any other;
where they may stand is for the reader of parts to decide.  Every token knows
the text it is written as (`Lexeme.source`), so a scanned text is the
concatenation of the sources of its tokens.
-/

namespace PathSchema

/-- What a token is. -/
inductive TokenKind where
  | identifier
  | string
  | integer
  | slash
  | dot
  | comma
  | plus
  | star
  | dollar
  | openParen
  | closeParen
  | openBracket
  | closeBracket
  | openBrace
  | closeBrace
  | whitespace
  deriving DecidableEq

namespace TokenKind

def symbol? : TokenKind → Option Char
  | slash => some '/'
  | dot => some '.'
  | comma => some ','
  | plus => some '+'
  | star => some '*'
  | dollar => some '$'
  | openParen => some '('
  | closeParen => some ')'
  | openBracket => some '['
  | closeBracket => some ']'
  | openBrace => some '{'
  | closeBrace => some '}'
  | identifier | string | integer | whitespace => none

def ofSymbol? : Char → Option TokenKind
  | '/' => some slash
  | '.' => some dot
  | ',' => some comma
  | '+' => some plus
  | '*' => some star
  | '$' => some dollar
  | '(' => some openParen
  | ')' => some closeParen
  | '[' => some openBracket
  | ']' => some closeBracket
  | '{' => some openBrace
  | '}' => some closeBrace
  | _ => none

/-- How a message names the kind: punctuation is shown between single quotes. -/
def describe (kind : TokenKind) : String :=
  match kind with
  | identifier => "identifier"
  | string => "string"
  | integer => "integer"
  | whitespace => "whitespace"
  | slash => "'/'"
  | dot => "'.'"
  | comma => "','"
  | plus => "'+'"
  | star => "'*'"
  | dollar => "'$'"
  | openParen => "'('"
  | closeParen => "')'"
  | openBracket => "'['"
  | closeBracket => "']'"
  | openBrace => "'\x7b'"
  | closeBrace => "'\x7d'"

def name (kind : TokenKind) : String :=
  match kind with
  | identifier => "ident"
  | string => "string"
  | integer => "int"
  | slash => "slash"
  | dot => "dot"
  | comma => "comma"
  | plus => "plus"
  | star => "star"
  | dollar => "dollar"
  | openParen => "l_paren"
  | closeParen => "r_paren"
  | openBracket => "l_bracket"
  | closeBracket => "r_bracket"
  | openBrace => "l_brace"
  | closeBrace => "r_brace"
  | whitespace => "whitespace"

theorem ofSymbol?_eq_some_iff {c : Char} {kind : TokenKind} :
    ofSymbol? c = some kind ↔ kind.symbol? = some c := by
  constructor
  · intro h
    unfold ofSymbol? at h
    split at h <;> simp_all [symbol?] <;> (subst h; rfl)
  · intro h
    cases kind <;> simp_all [symbol?] <;> (subst h; rfl)

end TokenKind

/-- A token without its place: its kind and its text, a string's without the quotes. -/
structure Lexeme where
  kind : TokenKind
  text : String
  deriving DecidableEq

namespace Lexeme

def source (lexeme : Lexeme) : List Char :=
  match lexeme.kind with
  | .string => '\"' :: (lexeme.text.toList ++ ['\"'])
  | _ => lexeme.text.toList

/-- The text of a list of tokens, written one after the other. -/
def written (lexemes : List Lexeme) : String :=
  String.ofList (lexemes.flatMap source)

def ofKind (kind : TokenKind) : Lexeme :=
  ⟨kind, String.ofList kind.symbol?.toList⟩

end Lexeme

/-- A token and the byte offset of its first character. -/
structure Token extends Lexeme where
  position : Nat
  deriving DecidableEq

/-- Why a text is not a run of tokens. -/
inductive ScanProblem where
  | unexpectedCharacter (c : Char)
  | unterminatedString
  deriving DecidableEq

/-- The first place where a text stops being a run of tokens. -/
structure ScanError where
  problem : ScanProblem
  position : Nat
  deriving DecidableEq

namespace ScanError

def message (error : ScanError) : String :=
  match error.problem with
  | .unexpectedCharacter c => "Unexpected character '" ++ c.toString ++ "'"
  | .unterminatedString => "Unterminated string literal"

end ScanError

namespace Token

/-- Letters (ASCII) and the underscore begin an identifier. -/
def isIdentifierStart (c : Char) : Bool :=
  c.isAlpha || c == '_'

/-- Letters, digits (ASCII), the underscore and the hyphen continue an identifier. -/
def isIdentifierRest (c : Char) : Bool :=
  c.isAlphanum || c == '_' || c == '-'

/-- Space, tab, carriage return and line feed are blank. -/
def isBlank (c : Char) : Bool :=
  c == ' ' || c == '\t' || c == '\r' || c == '\n'

/-- The body of a string and what follows its closing quote.  A backslash takes
the next character with it, so that an escaped quote does not close. -/
def stringBody? : List Char → Option (List Char × List Char)
  | [] => none
  | '\"' :: rest => some ([], rest)
  | ['\\'] => none
  | '\\' :: c :: rest =>
    (stringBody? rest).map fun (body, remaining) => ('\\' :: c :: body, remaining)
  | c :: rest =>
    (stringBody? rest).map fun (body, remaining) => (c :: body, remaining)

/-- The longest token at the front of a text that begins with `c`, and the rest. -/
def next (c : Char) (rest : List Char) : Except ScanProblem (Lexeme × List Char) :=
  if isIdentifierStart c then
    .ok (⟨.identifier, String.ofList (c :: rest.takeWhile isIdentifierRest)⟩,
      rest.dropWhile isIdentifierRest)
  else if c.isDigit then
    .ok (⟨.integer, String.ofList (c :: rest.takeWhile Char.isDigit)⟩,
      rest.dropWhile Char.isDigit)
  else if isBlank c then
    .ok (⟨.whitespace, String.ofList (c :: rest.takeWhile isBlank)⟩, rest.dropWhile isBlank)
  else if c = '\"' then
    match stringBody? rest with
    | some (body, remaining) => .ok (⟨.string, String.ofList body⟩, remaining)
    | none => .error .unterminatedString
  else
    match TokenKind.ofSymbol? c with
    | some kind => .ok (⟨kind, String.ofList [c]⟩, rest)
    | none => .error (.unexpectedCharacter c)

theorem eq_append_of_stringBody? {text body remaining : List Char}
    (h : stringBody? text = some (body, remaining)) :
    text = body ++ '\"' :: remaining := by
  fun_induction stringBody? text generalizing body remaining with
  | case1 => simp at h
  | case2 rest =>
    obtain ⟨rfl, rfl⟩ : [] = body ∧ rest = remaining := by simpa using h
    rfl
  | case3 => simp at h
  | case4 c rest ih =>
    obtain ⟨⟨b, r⟩, hb, he⟩ := Option.map_eq_some_iff.1 h
    obtain ⟨rfl, rfl⟩ : '\\' :: c :: b = body ∧ r = remaining := by simpa using he
    simp [ih hb]
  | case5 c rest _ _ _ ih =>
    obtain ⟨⟨b, r⟩, hb, he⟩ := Option.map_eq_some_iff.1 h
    obtain ⟨rfl, rfl⟩ : c :: b = body ∧ r = remaining := by simpa using he
    simp [ih hb]

theorem source_append_of_next {c : Char} {rest remaining : List Char} {lexeme : Lexeme}
    (h : next c rest = .ok (lexeme, remaining)) :
    lexeme.source ++ remaining = c :: rest := by
  unfold next at h
  split at h
  · obtain ⟨rfl, rfl⟩ := by simpa using h
    simp [Lexeme.source]
  split at h
  · obtain ⟨rfl, rfl⟩ := by simpa using h
    simp [Lexeme.source]
  split at h
  · obtain ⟨rfl, rfl⟩ := by simpa using h
    simp [Lexeme.source]
  split at h
  · split at h
    · rename_i hc _ body r hb
      obtain ⟨rfl, rfl⟩ := by simpa using h
      simp [Lexeme.source, eq_append_of_stringBody? hb, hc]
    · simp at h
  · split at h
    · rename_i kind hk
      obtain ⟨rfl, rfl⟩ := by simpa using h
      have hs := TokenKind.ofSymbol?_eq_some_iff.1 hk
      cases kind <;> simp_all [Lexeme.source, TokenKind.symbol?]
    · simp at h

theorem length_lt_of_next {c : Char} {rest remaining : List Char} {lexeme : Lexeme}
    (h : next c rest = .ok (lexeme, remaining)) :
    remaining.length < (c :: rest).length := by
  have hs := source_append_of_next h
  have hne : lexeme.source ≠ [] := by
    intro hnil
    unfold next at h
    split at h
    · obtain ⟨rfl, -⟩ := by simpa using h
      simp [Lexeme.source] at hnil
    split at h
    · obtain ⟨rfl, -⟩ := by simpa using h
      simp [Lexeme.source] at hnil
    split at h
    · obtain ⟨rfl, -⟩ := by simpa using h
      simp [Lexeme.source] at hnil
    split at h
    · split at h
      · obtain ⟨rfl, -⟩ := by simpa using h
        simp [Lexeme.source] at hnil
      · simp at h
    · split at h
      · rename_i kind hk
        obtain ⟨rfl, -⟩ := by simpa using h
        cases kind <;> simp [Lexeme.source] at hnil
      · simp at h
  have hpos : 0 < lexeme.source.length := List.length_pos_iff.2 hne
  rw [← hs, List.length_append]
  omega

/-- The tokens of a text whose first character has the given byte offset. -/
def scanFrom (position : Nat) (text : List Char) : Except ScanError (List Token) :=
  match text with
  | [] => .ok []
  | c :: rest =>
    match _hnext : next c rest with
    | .error problem => .error ⟨problem, position⟩
    | .ok (lexeme, remaining) =>
      match scanFrom (position + Text.byteLength lexeme.source) remaining with
      | .error error => .error error
      | .ok tokens => .ok (⟨lexeme, position⟩ :: tokens)
  termination_by text.length
  decreasing_by exact length_lt_of_next _hnext

/-- The tokens of a text, in order. -/
def scan (text : String) : Except ScanError (List Token) :=
  scanFrom 0 text.toList

end Token

end PathSchema
