import Mathlib.Data.List.Chain
import PathSchema.Token

/-!
# Neighbours among the tokens of a text

Identifiers, integers and blanks are scanned as far as they go.  So two tokens of
one text never stand side by side that could have been a single longer one; in
particular a blank is never followed by another blank.
-/

namespace PathSchema

namespace TokenKind

def Begins : TokenKind → Char → Prop
  | identifier, c => Token.isIdentifierStart c = true
  | integer, c => c.isDigit = true
  | whitespace, c => Token.isBlank c = true
  | _, _ => True

/-- A token of the kind would go on with the character. -/
def Continues : TokenKind → Char → Prop
  | identifier, c => Token.isIdentifierRest c = true
  | integer, c => c.isDigit = true
  | whitespace, c => Token.isBlank c = true
  | _, _ => False

/-- Two tokens of these kinds would be scanned as one. -/
def glues : TokenKind → TokenKind → Bool
  | identifier, identifier => true
  | identifier, integer => true
  | integer, integer => true
  | whitespace, whitespace => true
  | _, _ => false

theorem continues_of_begins {first second : TokenKind} {c : Char}
    (hglue : first.glues second = true) (h : second.Begins c) : first.Continues c := by
  unfold glues at hglue
  split at hglue
  · simp_all [Begins, Continues, Token.isIdentifierStart, Token.isIdentifierRest,
      Char.isAlphanum]
    rcases h with h | h <;> simp [h]
  · simp_all [Begins, Continues, Token.isIdentifierRest, Char.isAlphanum]
  · exact h
  · exact h
  · cases hglue

end TokenKind

/-- No two neighbours would be scanned as one token. -/
def Lexeme.Apart (lexemes : List Lexeme) : Prop :=
  lexemes.IsChain fun first second => first.kind.glues second.kind = false

namespace Token

theorem begins_of_next {c : Char} {rest remaining : List Char} {lexeme : Lexeme}
    (h : next c rest = .ok (lexeme, remaining)) : lexeme.kind.Begins c := by
  unfold next at h
  split at h
  · next hstart =>
      obtain ⟨rfl, -⟩ := by simpa using h
      exact hstart
  split at h
  · next hdigit =>
      obtain ⟨rfl, -⟩ := by simpa using h
      exact hdigit
  split at h
  · next hblank =>
      obtain ⟨rfl, -⟩ := by simpa using h
      exact hblank
  split at h
  · split at h
    · obtain ⟨rfl, -⟩ := by simpa using h
      trivial
    · cases h
  · split at h
    · next kind hkind =>
        obtain ⟨rfl, -⟩ := by simpa using h
        rw [TokenKind.ofSymbol?_eq_some_iff] at hkind
        cases kind <;> trivial
    · cases h

theorem not_continues_of_next {c : Char} {rest remaining : List Char} {lexeme : Lexeme}
    (h : next c rest = .ok (lexeme, remaining)) :
    ∀ d ∈ remaining.head?, ¬lexeme.kind.Continues d := by
  have hstops : ∀ (p : Char → Bool), ∀ d ∈ (rest.dropWhile p).head?, ¬p d = true := by
    intro p d hd
    have hnot := List.head?_dropWhile_not p rest
    rw [Option.mem_def.mp hd] at hnot
    simpa using hnot
  unfold next at h
  split at h
  · obtain ⟨rfl, rfl⟩ := by simpa using h
    exact hstops isIdentifierRest
  split at h
  · obtain ⟨rfl, rfl⟩ := by simpa using h
    exact hstops Char.isDigit
  split at h
  · obtain ⟨rfl, rfl⟩ := by simpa using h
    exact hstops isBlank
  split at h
  · split at h
    · obtain ⟨rfl, -⟩ := by simpa using h
      exact fun _ _ hcontinues => hcontinues
    · cases h
  · split at h
    · next kind hkind =>
        obtain ⟨rfl, -⟩ := by simpa using h
        rw [TokenKind.ofSymbol?_eq_some_iff] at hkind
        cases kind <;> first | exact fun _ _ hcontinues => hcontinues | cases hkind
    · cases h

theorem begins_of_mem_head?_scanFrom {position : Nat} {text : List Char}
    {tokens : List Token}
    (h : scanFrom position text = .ok tokens) :
    ∀ token ∈ tokens.head?, ∃ c ∈ text.head?, token.kind.Begins c := by
  rcases text with _ | ⟨c, rest⟩
  · rw [scanFrom] at h
    obtain rfl := Except.ok.inj h
    simp
  · rw [scanFrom] at h
    split at h
    · cases h
    · next lexeme remaining hnext =>
        split at h
        · cases h
        · obtain rfl := Except.ok.inj h
          intro token htoken
          obtain rfl : ⟨lexeme, position⟩ = token := by simpa using htoken
          exact ⟨c, by simp, begins_of_next hnext⟩

theorem apart_of_scanFrom {position : Nat} {text : List Char} {tokens : List Token}
    (h : scanFrom position text = .ok tokens) : Lexeme.Apart (tokens.map toLexeme) := by
  fun_induction scanFrom position text generalizing tokens with
  | case1 =>
      obtain rfl := Except.ok.inj h
      exact .nil
  | case2 => cases h
  | case3 => cases h
  | case4 position c rest lexeme remaining hnext others hothers ih =>
      obtain rfl := Except.ok.inj h
      rw [Lexeme.Apart, List.map_cons, List.isChain_cons]
      refine ⟨?_, ih hothers⟩
      intro second hsecond
      obtain ⟨token, htoken, rfl⟩ : ∃ token ∈ others.head?, token.toLexeme = second := by
        simpa using hsecond
      obtain ⟨d, hd, hbegins⟩ := begins_of_mem_head?_scanFrom hothers token htoken
      rw [Bool.eq_false_iff]
      intro hglue
      exact not_continues_of_next hnext d hd (TokenKind.continues_of_begins hglue hbegins)

end Token

end PathSchema
