import Mathlib.Data.List.TakeWhile
import Mathlib.Data.Set.Operations
import PathSchema.Proofs.Scanning.Joined
import PathSchema.Text.Decimal

/-!
# Scanning what was written

A token may be given any text, but only some texts are scanned as a token of its kind;
they are the language of the kind.  Tokens whose texts are in the languages of their
kinds, written one after the other, are scanned one by one, each at the place where the
ones before it end, if no two neighbours would be scanned as one.
-/

namespace PathSchema

/-- A letter or an underscore, then letters, digits, underscores and hyphens. -/
def IsIdentifier (text : String) : Prop :=
  ∃ first others, text.toList = first :: others ∧ Token.isIdentifierStart first = true ∧
    ∀ c ∈ others, Token.isIdentifierRest c = true

/-- Characters that may stand between quotes: read from left to right, a backslash is
paired with the character after it, and no quote is left unpaired. -/
inductive IsStringBody : List Char → Prop where
  | nil : IsStringBody []
  | escaped {c : Char} {rest : List Char} (hrest : IsStringBody rest) :
      IsStringBody ('\\' :: c :: rest)
  | plain {c : Char} {rest : List Char} (hquote : c ≠ '\"') (hslash : c ≠ '\\')
      (hrest : IsStringBody rest) : IsStringBody (c :: rest)

/-- The texts that tokens of a kind have. -/
def TokenKind.language : TokenKind → Set String
  | identifier => {text | IsIdentifier text}
  | string => {text | IsStringBody text.toList}
  | integer => {text | text.toList ≠ [] ∧ ∀ c ∈ text.toList, c.isDigit = true}
  | whitespace => {text | text.toList ≠ [] ∧ ∀ c ∈ text.toList, Token.isBlank c = true}
  | kind => {text | ∃ c, kind.symbol? = some c ∧ text = String.ofList [c]}

/-- An identifier and a string have a text that they can have. -/
def Lexeme.WellFormed (lexeme : Lexeme) : Prop :=
  match lexeme.kind with
  | .identifier => IsIdentifier lexeme.text
  | .string => IsStringBody lexeme.text.toList
  | _ => True

/-- The token is all that is scanned from its own source. -/
def Lexeme.IsToken (lexeme : Lexeme) : Prop :=
  ∃ c rest, lexeme.source = c :: rest ∧ Token.next c rest = .ok (lexeme, [])

namespace Token

theorem stringBody?_of_isStringBody {body : List Char} (h : IsStringBody body)
    (remaining : List Char) :
    stringBody? (body ++ '\"' :: remaining) = some (body, remaining) := by
  induction h with
  | nil => rfl
  | escaped _ ih => simp [stringBody?, ih]
  | @plain c rest hquote hslash _ ih =>
      rw [List.cons_append, stringBody?_cons_of_ne hquote hslash, ih]
      rfl

theorem isStringBody_of_stringBody? {text body remaining : List Char}
    (h : stringBody? text = some (body, remaining)) : IsStringBody body := by
  fun_induction stringBody? text generalizing body remaining with
  | case1 => cases h
  | case2 rest =>
      obtain ⟨rfl, rfl⟩ : [] = body ∧ rest = remaining := by simpa using h
      exact .nil
  | case3 => cases h
  | case4 c rest ih =>
      obtain ⟨⟨b, r⟩, hb, he⟩ := Option.map_eq_some_iff.mp h
      obtain ⟨rfl, rfl⟩ : '\\' :: c :: b = body ∧ r = remaining := by simpa using he
      exact .escaped (ih hb)
  | case5 c rest hquote hend hescape ih =>
      obtain ⟨⟨b, r⟩, hb, he⟩ := Option.map_eq_some_iff.mp h
      obtain ⟨rfl, rfl⟩ : c :: b = body ∧ r = remaining := by simpa using he
      exact .plain hquote (ne_backslash hend hescape) (ih hb)

/-- The first character and those after it that have a property are a run of such
characters. -/
theorem run_takeWhile {p : Char → Bool} {c : Char} (hc : p c = true) (rest : List Char) :
    (String.ofList (c :: rest.takeWhile p)).toList ≠ [] ∧
      ∀ d ∈ (String.ofList (c :: rest.takeWhile p)).toList, p d = true := by
  rw [String.toList_ofList]
  refine ⟨List.cons_ne_nil _ _, ?_⟩
  intro d hd
  rcases List.mem_cons.mp hd with rfl | hd
  · exact hc
  · exact List.mem_takeWhile_imp hd

theorem text_mem_language_of_next {c : Char} {rest remaining : List Char} {lexeme : Lexeme}
    (h : next c rest = .ok (lexeme, remaining)) : lexeme.text ∈ lexeme.kind.language := by
  unfold next at h
  split at h
  · next hstart =>
      obtain ⟨rfl, -⟩ := Prod.mk.inj (Except.ok.inj h)
      exact ⟨c, rest.takeWhile isIdentifierRest, String.toList_ofList, hstart,
        fun d hd => List.mem_takeWhile_imp hd⟩
  split at h
  · next hdigit =>
      obtain ⟨rfl, -⟩ := Prod.mk.inj (Except.ok.inj h)
      exact run_takeWhile hdigit rest
  split at h
  · next hblank =>
      obtain ⟨rfl, -⟩ := Prod.mk.inj (Except.ok.inj h)
      exact run_takeWhile hblank rest
  split at h
  · split at h
    · next body others hbody =>
        obtain ⟨rfl, -⟩ := Prod.mk.inj (Except.ok.inj h)
        show IsStringBody (String.ofList body).toList
        rw [String.toList_ofList]
        exact isStringBody_of_stringBody? hbody
    · cases h
  · split at h
    · next kind hkind =>
        obtain ⟨rfl, -⟩ := Prod.mk.inj (Except.ok.inj h)
        rw [TokenKind.ofSymbol?_eq_some_iff] at hkind
        cases kind <;> first | exact ⟨c, hkind, rfl⟩ | cases hkind
    · cases h

theorem wellFormed_of_next {c : Char} {rest remaining : List Char} {lexeme : Lexeme}
    (h : next c rest = .ok (lexeme, remaining)) : lexeme.WellFormed := by
  have htext := text_mem_language_of_next h
  obtain ⟨kind, text⟩ := lexeme
  cases kind with
  | identifier => exact htext
  | string => exact htext
  | _ => trivial

/-- Every token of a text is the first one of some rest of the text. -/
theorem exists_next_of_mem_scanFrom {position : Nat} {text : List Char} {tokens : List Token}
    (h : scanFrom position text = .ok tokens) :
    ∀ token ∈ tokens, ∃ c rest remaining, next c rest = .ok (token.toLexeme, remaining) := by
  fun_induction scanFrom position text generalizing tokens with
  | case1 =>
      obtain rfl := Except.ok.inj h
      simp
  | case2 => cases h
  | case3 => cases h
  | case4 position c rest lexeme remaining hnext others hothers ih =>
      obtain rfl := Except.ok.inj h
      intro token htoken
      rcases List.mem_cons.mp htoken with rfl | htoken
      · exact ⟨c, rest, remaining, hnext⟩
      · exact ih hothers token htoken

theorem wellFormed_of_scanFrom {position : Nat} {text : List Char} {tokens : List Token}
    (h : scanFrom position text = .ok tokens) :
    ∀ token ∈ tokens, token.toLexeme.WellFormed := by
  intro token htoken
  obtain ⟨c, rest, remaining, hnext⟩ := exists_next_of_mem_scanFrom h token htoken
  exact wellFormed_of_next hnext

theorem isIdentifierStart_eq_false_of_isDigit {c : Char} (h : c.isDigit = true) :
    isIdentifierStart c = false := by
  have hdigit : 48 ≤ c.toNat ∧ c.toNat ≤ 57 := by
    simpa [Char.isDigit, UInt32.le_iff_toNat_le] using h
  have halpha : c.isAlpha = false := by
    rw [Bool.eq_false_iff]
    intro halpha
    have hspelled : (decide ('A'.val ≤ c.val ∧ c.val ≤ 'Z'.val) ||
        decide ('a'.val ≤ c.val) && decide (c.val ≤ 'z'.val)) = true := halpha
    have hletter : (65 ≤ c.toNat ∧ c.toNat ≤ 90) ∨ (97 ≤ c.toNat ∧ c.toNat ≤ 122) := by
      simpa [UInt32.le_iff_toNat_le] using hspelled
    omega
  have hunder : c ≠ '_' := by
    rintro rfl
    simp at hdigit
  simp [isIdentifierStart, halpha, hunder]

theorem not_start_of_isBlank {c : Char} (h : isBlank c = true) :
    isIdentifierStart c = false ∧ c.isDigit = false := by
  have hblank : ((c = ' ' ∨ c = '\t') ∨ c = '\r') ∨ c = '\n' := by
    simpa [isBlank] using h
  rcases hblank with ((rfl | rfl) | rfl) | rfl <;> exact ⟨rfl, rfl⟩

/-- A character that would continue a token begins one that would be scanned with it. -/
theorem glues_of_continues {first : TokenKind} {c : Char} {rest remaining : List Char}
    {lexeme : Lexeme} (h : next c rest = .ok (lexeme, remaining))
    (hcontinues : first.Continues c) : first.glues lexeme.kind = true := by
  unfold next at h
  cases first with
  | identifier =>
      have hrest : c.isAlphanum = true ∨ c = '_' ∨ c = '-' := by
        simpa [TokenKind.Continues, isIdentifierRest, or_assoc] using hcontinues
      by_cases hstart : isIdentifierStart c = true
      · rw [if_pos hstart] at h
        obtain ⟨rfl, -⟩ := Prod.mk.inj (Except.ok.inj h)
        rfl
      by_cases hdigit : c.isDigit = true
      · rw [if_neg hstart, if_pos hdigit] at h
        obtain ⟨rfl, -⟩ := Prod.mk.inj (Except.ok.inj h)
        rfl
      · have hnot : ¬c.isAlpha = true ∧ c ≠ '_' := by
          simpa [isIdentifierStart] using hstart
        obtain rfl : c = '-' := by simpa [Char.isAlphanum, hnot, hdigit] using hrest
        cases h
  | integer =>
      have hdigit : c.isDigit = true := hcontinues
      rw [isIdentifierStart_eq_false_of_isDigit hdigit, if_neg (by decide),
        if_pos hdigit] at h
      obtain ⟨rfl, -⟩ := Prod.mk.inj (Except.ok.inj h)
      rfl
  | whitespace =>
      have hblank : isBlank c = true := hcontinues
      obtain ⟨hstart, hdigit⟩ := not_start_of_isBlank hblank
      rw [hstart, hdigit, if_neg (by decide), if_neg (by decide), if_pos hblank] at h
      obtain ⟨rfl, -⟩ := Prod.mk.inj (Except.ok.inj h)
      rfl
  | _ => cases hcontinues

theorem not_continues_of_glues_eq_false {first : TokenKind} {c : Char}
    {rest remaining : List Char} {lexeme : Lexeme}
    (h : next c rest = .ok (lexeme, remaining))
    (hglue : first.glues lexeme.kind = false) : ¬first.Continues c := by
  intro hcontinues
  rw [glues_of_continues h hcontinues] at hglue
  cases hglue

theorem isToken_identifier {text : String} (h : IsIdentifier text) :
    Lexeme.IsToken ⟨.identifier, text⟩ := by
  obtain ⟨first, others, htext, hstart, hothers⟩ := h
  refine ⟨first, others, htext, ?_⟩
  have htake : others.takeWhile isIdentifierRest = others :=
    List.takeWhile_eq_self_iff.mpr hothers
  have hdrop : others.dropWhile isIdentifierRest = [] :=
    List.dropWhile_eq_nil_iff.mpr hothers
  rw [next, if_pos hstart, htake, hdrop, ← htext, String.ofList_toList]

theorem isToken_string {text : String} (h : IsStringBody text.toList) :
    Lexeme.IsToken ⟨.string, text⟩ := by
  refine ⟨'\"', text.toList ++ ['\"'], rfl, ?_⟩
  have hbody := stringBody?_of_isStringBody h []
  rw [next, if_neg (by decide), if_neg (by decide), if_neg (by decide), if_pos rfl, hbody]
  simp

theorem isToken_digits {text : String} (hne : text.toList ≠ [])
    (hall : ∀ c ∈ text.toList, c.isDigit = true) : Lexeme.IsToken ⟨.integer, text⟩ := by
  obtain ⟨first, others, htext⟩ := List.exists_cons_of_ne_nil hne
  rw [htext] at hall
  refine ⟨first, others, htext, ?_⟩
  have htake : others.takeWhile Char.isDigit = others :=
    List.takeWhile_eq_self_iff.mpr fun c hc => hall c (by simp [hc])
  have hdrop : others.dropWhile Char.isDigit = [] :=
    List.dropWhile_eq_nil_iff.mpr fun c hc => hall c (by simp [hc])
  have hfirst := hall first (by simp)
  rw [next, isIdentifierStart_eq_false_of_isDigit hfirst, if_neg (by decide), if_pos hfirst,
    htake, hdrop, ← htext, String.ofList_toList]

theorem isToken_integer (n : Nat) : Lexeme.IsToken ⟨.integer, Decimal.render n⟩ := by
  apply isToken_digits
  · simp [Decimal.render]
  · simpa [Decimal.render] using fun c hc =>
      Nat.isDigit_of_mem_toDigits (by decide) (by decide) hc

theorem isToken_blanks {text : String} (hne : text.toList ≠ [])
    (hall : ∀ c ∈ text.toList, isBlank c = true) : Lexeme.IsToken ⟨.whitespace, text⟩ := by
  obtain ⟨first, others, htext⟩ := List.exists_cons_of_ne_nil hne
  rw [htext] at hall
  refine ⟨first, others, htext, ?_⟩
  have htake : others.takeWhile isBlank = others :=
    List.takeWhile_eq_self_iff.mpr fun c hc => hall c (by simp [hc])
  have hdrop : others.dropWhile isBlank = [] :=
    List.dropWhile_eq_nil_iff.mpr fun c hc => hall c (by simp [hc])
  have hfirst := hall first (by simp)
  obtain ⟨hstart, hdigit⟩ := not_start_of_isBlank hfirst
  rw [next, hstart, hdigit, if_neg (by decide), if_neg (by decide), if_pos hfirst, htake,
    hdrop, ← htext, String.ofList_toList]

theorem isToken_blank : Lexeme.IsToken ⟨.whitespace, " "⟩ :=
  isToken_blanks (by decide) (List.all_eq_true.mp rfl)

theorem isToken_ofKind {kind : TokenKind} {c : Char} (h : kind.symbol? = some c) :
    (Lexeme.ofKind kind).IsToken := by
  refine ⟨c, [], ?_, ?_⟩
  · cases kind <;> cases h <;> rfl
  · cases kind <;> cases h <;> rfl

theorem isToken_of_mem_language {lexeme : Lexeme}
    (h : lexeme.text ∈ lexeme.kind.language) : lexeme.IsToken := by
  obtain ⟨kind, text⟩ := lexeme
  cases kind with
  | identifier => exact isToken_identifier h
  | string => exact isToken_string h
  | integer => exact isToken_digits h.1 h.2
  | whitespace => exact isToken_blanks h.1 h.2
  | _ =>
      obtain ⟨c, hsymbol, rfl⟩ := h
      have htoken := isToken_ofKind hsymbol
      rw [Lexeme.ofKind, hsymbol] at htoken
      exact htoken

theorem isToken_of_next {c : Char} {rest remaining : List Char} {lexeme : Lexeme}
    (h : next c rest = .ok (lexeme, remaining)) : lexeme.IsToken :=
  isToken_of_mem_language (text_mem_language_of_next h)

theorem isToken_of_scanFrom {position : Nat} {text : List Char} {tokens : List Token}
    (h : scanFrom position text = .ok tokens) :
    ∀ token ∈ tokens, token.toLexeme.IsToken := by
  intro token htoken
  obtain ⟨c, rest, remaining, hnext⟩ := exists_next_of_mem_scanFrom h token htoken
  exact isToken_of_next hnext

/-- Tokens one after the other, each at the place where the ones before it end. -/
def placedFrom (position : Nat) : List Lexeme → List Token
  | [] => []
  | lexeme :: others =>
    ⟨lexeme, position⟩ :: placedFrom (position + Text.byteLength lexeme.source) others

@[simp] theorem map_toLexeme_placedFrom (position : Nat) (lexemes : List Lexeme) :
    (placedFrom position lexemes).map toLexeme = lexemes := by
  induction lexemes generalizing position with
  | nil => rfl
  | cons lexeme others ih => rw [placedFrom, List.map_cons, ih]

/-- Tokens no two neighbours of which would be scanned as one are scanned one by one
from the text that they are written as. -/
theorem scanFrom_flatMap_source {lexemes : List Lexeme}
    (htokens : ∀ lexeme ∈ lexemes, lexeme.IsToken) (hapart : Lexeme.Apart lexemes)
    (position : Nat) :
    scanFrom position (lexemes.flatMap Lexeme.source) =
      .ok (placedFrom position lexemes) := by
  induction lexemes generalizing position with
  | nil => rw [List.flatMap_nil, scanFrom, placedFrom]
  | cons lexeme others ih =>
      obtain ⟨hneighbour, hothers⟩ := List.isChain_cons.mp hapart
      obtain ⟨c, rest, hsource, hnext⟩ := htokens lexeme (by simp)
      have hscan : scanFrom position lexeme.source = .ok [⟨lexeme, position⟩] := by
        rw [hsource, scanFrom_cons_of_next hnext, scanFrom]
        rfl
      have hstop : ∀ token ∈ [Token.mk lexeme position].getLast?,
          ∀ d ∈ (others.flatMap Lexeme.source).head?, ¬token.kind.Continues d := by
        intro token htoken d hd
        obtain rfl : ⟨lexeme, position⟩ = token := by simpa using htoken
        cases others with
        | nil => simp at hd
        | cons second more =>
            obtain ⟨e, left, hsecond, hnext⟩ := htokens second (by simp)
            obtain rfl : e = d := by simpa [hsecond] using hd
            exact not_continues_of_glues_eq_false hnext (hneighbour second (by simp))
      rw [List.flatMap_cons, scanFrom_append hscan hstop,
        ih (fun other hother => htokens other (by simp [hother])) hothers]
      rfl

theorem exists_scanFrom_of_apart {lexemes : List Lexeme}
    (htokens : ∀ lexeme ∈ lexemes, lexeme.IsToken) (hapart : Lexeme.Apart lexemes)
    (position : Nat) :
    ∃ tokens, scanFrom position (lexemes.flatMap Lexeme.source) = .ok tokens ∧
      tokens.map toLexeme = lexemes :=
  ⟨placedFrom position lexemes, scanFrom_flatMap_source htokens hapart position,
    map_toLexeme_placedFrom position lexemes⟩

end Token

/-! ## Neighbours -/

namespace TokenKind

/-- A token of the kind is scanned with no other one. -/
def Separates (kind : TokenKind) : Prop :=
  ∀ other : TokenKind, other.glues kind = false ∧ kind.glues other = false

theorem separates_of_symbol {kind : TokenKind} {c : Char} (h : kind.symbol? = some c) :
    kind.Separates := by
  intro other
  cases kind <;> cases h <;> cases other <;> exact ⟨rfl, rfl⟩

theorem separates_string : Separates .string := by
  intro other
  cases other <;> exact ⟨rfl, rfl⟩

end TokenKind

namespace Lexeme

theorem apart_singleton (lexeme : Lexeme) : Apart [lexeme] :=
  .singleton lexeme

theorem apart_cons {lexeme : Lexeme} {lexemes : List Lexeme}
    (hlexeme : lexeme.kind.Separates) (h : Apart lexemes) : Apart (lexeme :: lexemes) :=
  List.isChain_cons.mpr ⟨fun second _ => (hlexeme second.kind).2, h⟩

theorem apart_cons_cons (first : Lexeme) {lexeme : Lexeme} {lexemes : List Lexeme}
    (hlexeme : lexeme.kind.Separates) (h : Apart lexemes) :
    Apart (first :: lexeme :: lexemes) := by
  refine List.isChain_cons.mpr ⟨?_, apart_cons hlexeme h⟩
  intro second hsecond
  obtain rfl : lexeme = second := by simpa using hsecond
  exact (hlexeme first.kind).1

theorem apart_append_cons {lexeme : Lexeme} {before after : List Lexeme}
    (hlexeme : lexeme.kind.Separates) (hbefore : Apart before) (hafter : Apart after) :
    Apart (before ++ lexeme :: after) := by
  refine List.isChain_append.mpr ⟨hbefore, apart_cons hlexeme hafter, ?_⟩
  intro last _ first hfirst
  obtain rfl : lexeme = first := by simpa using hfirst
  exact (hlexeme last.kind).1

end Lexeme

end PathSchema
