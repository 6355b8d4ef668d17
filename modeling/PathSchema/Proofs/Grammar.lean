import PathSchema.Part

/-!
# The grammar of schemas

The grammar tells which tokens spell which parts:

    Schema      := Part ("/" Part)*
    Part        := Variable | VariableSet | Wildcard | Literal | Regex
    Variable    := "$" Ident ("." Modifier)*
    Modifier    := Ident "(" WS? String (WS? "," WS? String)* WS? ")"
    VariableSet := "$" "[" Ident "]"
    Wildcard    := ("+" | "*") ("{" Int ("," Int)? "}")?
    Literal     := Ident
    Regex       := String

Each predicate below is one of its rules.  Of punctuation and of blanks only the kind
matters.  An integer denotes a bound below 2 ^ 64.  The rules know nothing of the
stages in which parts are read.
-/

namespace PathSchema

namespace Grammar

/-- One blank, or none. -/
inductive SpellsBlank : List Lexeme → Prop where
  | missing : SpellsBlank []
  | present {blank : String} : SpellsBlank [⟨.whitespace, blank⟩]

/-- Strings with commas between them.  Blanks may stand before the first string and
around each comma. -/
inductive SpellsArguments : List Lexeme → List String → Prop where
  | first {before : List Lexeme} {argument : String} (hbefore : SpellsBlank before) :
      SpellsArguments (before ++ [⟨.string, argument⟩]) [argument]
  | further {lexemes before after : List Lexeme} {arguments : List String}
      {comma argument : String} (harguments : SpellsArguments lexemes arguments)
      (hbefore : SpellsBlank before) (hafter : SpellsBlank after) :
      SpellsArguments
        (lexemes ++ (before ++ ⟨.comma, comma⟩ :: (after ++ [⟨.string, argument⟩])))
        (arguments ++ [argument])

/-- The name of a modifier and its arguments in parentheses. -/
inductive SpellsModifier : List Lexeme → ModifierCall → Prop where
  | call {name opening closing : String} {lexemes blank : List Lexeme}
      {arguments : List String} (harguments : SpellsArguments lexemes arguments)
      (hblank : SpellsBlank blank) :
      SpellsModifier
        (⟨.identifier, name⟩ :: ⟨.openParen, opening⟩ ::
          (lexemes ++ (blank ++ [⟨.closeParen, closing⟩])))
        ⟨name, arguments⟩

/-- Modifiers, each after a dot. -/
inductive SpellsModifiers : List Lexeme → List ModifierCall → Prop where
  | none : SpellsModifiers [] []
  | further {chain lexemes : List Lexeme} {calls : List ModifierCall} {dot : String}
      {call : ModifierCall} (hchain : SpellsModifiers chain calls)
      (hcall : SpellsModifier lexemes call) :
      SpellsModifiers (chain ++ ⟨.dot, dot⟩ :: lexemes) (calls ++ [call])

inductive SpellsSymbol : Lexeme → Wildcard → Prop where
  | plus {plus : String} : SpellsSymbol ⟨.plus, plus⟩ .single
  | star {star : String} : SpellsSymbol ⟨.star, star⟩ .multi

inductive SpellsBound : Lexeme → Nat → Prop where
  | integer {text : String} (hbound : Decimal.value text.toList < UInt64.size) :
      SpellsBound ⟨.integer, text⟩ (Decimal.value text.toList)

inductive SpellsPart : List Lexeme → Part → Prop where
  | literal {text : String} : SpellsPart [⟨.identifier, text⟩] (.literal text)
  | regex {pattern : String} : SpellsPart [⟨.string, pattern⟩] (.regex pattern)
  | var {dollar name : String} {chain : List Lexeme} {calls : List ModifierCall}
      (hchain : SpellsModifiers chain calls) :
      SpellsPart (⟨.dollar, dollar⟩ :: ⟨.identifier, name⟩ :: chain) (.var name calls)
  | set {dollar opening name closing : String} :
      SpellsPart
        [⟨.dollar, dollar⟩, ⟨.openBracket, opening⟩, ⟨.identifier, name⟩,
          ⟨.closeBracket, closing⟩]
        (.set name)
  | wildcard {lexeme : Lexeme} {symbol : Wildcard}
      (hsymbol : SpellsSymbol lexeme symbol) :
      SpellsPart [lexeme] (.wildcard symbol none)
  | exactly {lexeme bound : Lexeme} {symbol : Wildcard} {opening closing : String}
      {number : Nat} (hsymbol : SpellsSymbol lexeme symbol)
      (hbound : SpellsBound bound number) :
      SpellsPart [lexeme, ⟨.openBrace, opening⟩, bound, ⟨.closeBrace, closing⟩]
        (.wildcard symbol (some ⟨number, number⟩))
  | between {lexeme lower upper : Lexeme} {symbol : Wildcard}
      {opening comma closing : String} {min max : Nat}
      (hsymbol : SpellsSymbol lexeme symbol) (hlower : SpellsBound lower min)
      (hupper : SpellsBound upper max) :
      SpellsPart
        [lexeme, ⟨.openBrace, opening⟩, lower, ⟨.comma, comma⟩, upper,
          ⟨.closeBrace, closing⟩]
        (.wildcard symbol (some ⟨min, max⟩))

/-- Parts with slashes between them, and at least one. -/
inductive SpellsSchema : List Lexeme → List Part → Prop where
  | part {lexemes : List Lexeme} {part : Part} (hpart : SpellsPart lexemes part) :
      SpellsSchema lexemes [part]
  | further {lexemes more : List Lexeme} {parts : List Part} {part : Part}
      {slash : String}
      (hschema : SpellsSchema lexemes parts) (hpart : SpellsPart more part) :
      SpellsSchema (lexemes ++ ⟨.slash, slash⟩ :: more) (parts ++ [part])

theorem SpellsSchema.append {lexemes more : List Lexeme} {parts others : List Part}
    {slash : String} (h : SpellsSchema lexemes parts) (hmore : SpellsSchema more others) :
    SpellsSchema (lexemes ++ ⟨.slash, slash⟩ :: more) (parts ++ others) := by
  induction hmore with
  | part hpart => exact h.further hpart
  | further _ hpart ih =>
      rw [← List.cons_append, ← List.append_assoc, ← List.append_assoc]
      exact ih.further hpart

end Grammar

end PathSchema
