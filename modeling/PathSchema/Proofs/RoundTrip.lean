import Mathlib.Data.List.Induction
import PathSchema.Proofs.Reading
import PathSchema.Proofs.Scanning.Written

/-!
# Rendering and reading are inverse

A list of parts may be built by hand, with names that are no identifiers or patterns
that end their own quotes.  Such a list has a text too, but the text does not spell
it.  The lists that their texts do spell are the well-formed ones, and only these are
ever read: the tokens that a well-formed list is written with are scanned one by one,
since no two neighbours among them would be scanned as one.
-/

namespace PathSchema

open Grammar

/-! ## Well-formed parts -/

/-- A call has a name and at least one argument, and each can be written. -/
structure ModifierCall.WellFormed (call : ModifierCall) : Prop where
  name : IsIdentifier call.name
  arguments_ne_nil : call.arguments ≠ []
  arguments : ∀ argument ∈ call.arguments, IsStringBody argument.toList

/-- Both bounds are below 2 ^ 64; which of them is greater does not matter. -/
structure Quantifier.WellFormed (quantifier : Quantifier) : Prop where
  min : quantifier.min < UInt64.size
  max : quantifier.max < UInt64.size

/-- The names, patterns, calls and bounds of a part can be written. -/
def Part.WellFormed : Part → Prop
  | literal text => IsIdentifier text
  | regex pattern => IsStringBody pattern.toList
  | var name calls => IsIdentifier name ∧ ∀ call ∈ calls, call.WellFormed
  | set name => IsIdentifier name
  | wildcard _ quantifier => ∀ bounds ∈ quantifier, bounds.WellFormed

/-- There is at least one part, and all are well formed. -/
def Part.ListWellFormed (parts : List Part) : Prop :=
  parts ≠ [] ∧ ∀ part ∈ parts, part.WellFormed

namespace ModifierCall

variable {arguments : List String} {call : ModifierCall} {calls : List ModifierCall}

theorem argumentLexemes_cons_cons (argument next : String) (rest : List String) :
    argumentLexemes (argument :: next :: rest) =
      ⟨.string, argument⟩ :: .ofKind .comma :: ⟨.whitespace, " "⟩ ::
        argumentLexemes (next :: rest) := rfl

theorem apart_argumentLexemes (arguments : List String) :
    Lexeme.Apart (argumentLexemes arguments) := by
  induction arguments with
  | nil => exact .nil
  | cons argument rest ih =>
      cases rest with
      | nil => exact Lexeme.apart_singleton _
      | cons next others =>
          rw [argumentLexemes_cons_cons]
          apply Lexeme.apart_cons TokenKind.separates_string
          apply Lexeme.apart_cons (TokenKind.separates_of_symbol rfl)
          refine List.isChain_cons.mpr ⟨?_, ih⟩
          cases others <;> simp [argumentLexemes, TokenKind.glues]

theorem isToken_of_mem_argumentLexemes {arguments : List String}
    (h : ∀ argument ∈ arguments, IsStringBody argument.toList) :
    ∀ lexeme ∈ argumentLexemes arguments, lexeme.IsToken := by
  induction arguments with
  | nil => simp [argumentLexemes]
  | cons argument rest ih =>
      have hfirst := Token.isToken_string (h argument (by simp))
      cases rest with
      | nil => simpa [argumentLexemes] using hfirst
      | cons next others =>
          have hrest := ih fun other hother => h other (by simp [hother])
          rw [argumentLexemes_cons_cons]
          simpa using ⟨hfirst, Token.isToken_ofKind rfl, Token.isToken_blank, hrest⟩

theorem argumentLexemes_concat {arguments : List String} (hne : arguments ≠ [])
    (last : String) :
    argumentLexemes (arguments ++ [last]) =
      argumentLexemes arguments ++
        [.ofKind .comma, ⟨.whitespace, " "⟩, ⟨.string, last⟩] := by
  induction arguments with
  | nil => exact absurd rfl hne
  | cons argument rest ih =>
      cases rest with
      | nil => rfl
      | cons next others =>
          rw [List.cons_append, List.cons_append, argumentLexemes_cons_cons,
            argumentLexemes_cons_cons, ← List.cons_append, ih (by simp)]
          simp

theorem spellsArguments_argumentLexemes {arguments : List String} (hne : arguments ≠ []) :
    SpellsArguments (argumentLexemes arguments) arguments := by
  induction arguments using List.reverseRecOn with
  | nil => exact absurd rfl hne
  | append_singleton front last ih =>
      by_cases hfront : front = []
      · subst hfront
        exact .first .missing
      · rw [argumentLexemes_concat hfront]
        exact .further (ih hfront) .missing .present

theorem spellsModifier_lexemes {call : ModifierCall} (h : call.WellFormed) :
    SpellsModifier call.lexemes call :=
  .call (spellsArguments_argumentLexemes h.arguments_ne_nil) .missing

theorem chainLexemes_cons (call : ModifierCall) (calls : List ModifierCall) :
    chainLexemes (call :: calls) =
      .ofKind .dot :: ⟨.identifier, call.name⟩ :: .ofKind .openParen ::
        (argumentLexemes call.arguments ++ .ofKind .closeParen :: chainLexemes calls) := by
  simp [chainLexemes, lexemes]

theorem spellsModifiers_chainLexemes {calls : List ModifierCall}
    (h : ∀ call ∈ calls, call.WellFormed) : SpellsModifiers (chainLexemes calls) calls := by
  induction calls using List.reverseRecOn with
  | nil => exact .none
  | append_singleton front last ih =>
      have hchain : chainLexemes (front ++ [last]) =
          chainLexemes front ++ .ofKind .dot :: last.lexemes := by
        simp [chainLexemes]
      rw [hchain]
      exact (ih fun call hcall => h call (by simp [hcall])).further
        (spellsModifier_lexemes (h last (by simp)))

theorem apart_chainLexemes (calls : List ModifierCall) :
    Lexeme.Apart (chainLexemes calls) := by
  induction calls with
  | nil => exact .nil
  | cons call rest ih =>
      rw [chainLexemes_cons]
      apply Lexeme.apart_cons (TokenKind.separates_of_symbol rfl)
      apply Lexeme.apart_cons_cons _ (TokenKind.separates_of_symbol rfl)
      exact Lexeme.apart_append_cons (TokenKind.separates_of_symbol rfl)
        (apart_argumentLexemes call.arguments) ih

theorem isToken_of_mem_chainLexemes {calls : List ModifierCall}
    (h : ∀ call ∈ calls, call.WellFormed) :
    ∀ lexeme ∈ chainLexemes calls, lexeme.IsToken := by
  induction calls with
  | nil => simp [chainLexemes]
  | cons call rest ih =>
      have hcall := h call (by simp)
      have hrest := ih fun other hother => h other (by simp [hother])
      rw [chainLexemes_cons]
      intro lexeme hlexeme
      simp only [List.mem_cons, List.mem_append] at hlexeme
      rcases hlexeme with rfl | rfl | rfl | hargument | rfl | hlexeme
      · exact Token.isToken_ofKind rfl
      · exact Token.isToken_identifier hcall.name
      · exact Token.isToken_ofKind rfl
      · exact isToken_of_mem_argumentLexemes hcall.arguments lexeme hargument
      · exact Token.isToken_ofKind rfl
      · exact hrest lexeme hlexeme

end ModifierCall

namespace Wildcard

theorem spellsSymbol_lexeme (symbol : Wildcard) : SpellsSymbol symbol.lexeme symbol := by
  cases symbol with
  | single => exact .plus
  | multi => exact .star

theorem symbol_lexeme (symbol : Wildcard) :
    ∃ c, symbol.lexeme.kind.symbol? = some c := by
  cases symbol with
  | single => exact ⟨'+', rfl⟩
  | multi => exact ⟨'*', rfl⟩

theorem isToken_lexeme (symbol : Wildcard) : symbol.lexeme.IsToken := by
  cases symbol with
  | single => exact Token.isToken_ofKind rfl
  | multi => exact Token.isToken_ofKind rfl

end Wildcard

theorem spellsBound_render {n : Nat} (h : n < UInt64.size) :
    SpellsBound ⟨.integer, Decimal.render n⟩ n := by
  have hvalue : Decimal.value (Decimal.render n).toList = n := by
    rw [Decimal.render, String.toList_ofList, Decimal.value, Nat.ofDigitChars_ten_toDigits]
  have hbound := @SpellsBound.integer (Decimal.render n) (by rwa [hvalue])
  rwa [hvalue] at hbound

namespace Part

theorem spellsPart_lexemes {part : Part} (h : part.WellFormed) :
    SpellsPart part.lexemes part := by
  cases part with
  | literal text => exact .literal
  | regex pattern => exact .regex
  | var name calls => exact .var (ModifierCall.spellsModifiers_chainLexemes h.2)
  | set name => exact .set
  | wildcard symbol quantifier =>
      cases quantifier with
      | none => exact .wildcard symbol.spellsSymbol_lexeme
      | some bounds =>
          have hbounds : bounds.WellFormed := h bounds rfl
          exact .between symbol.spellsSymbol_lexeme (spellsBound_render hbounds.min)
            (spellsBound_render hbounds.max)

theorem apart_lexemes (part : Part) : Lexeme.Apart part.lexemes := by
  cases part with
  | literal text => exact Lexeme.apart_singleton _
  | regex pattern => exact Lexeme.apart_singleton _
  | var name calls =>
      apply Lexeme.apart_cons (TokenKind.separates_of_symbol rfl)
      refine List.isChain_cons.mpr ⟨?_, ModifierCall.apart_chainLexemes calls⟩
      cases calls <;> simp [ModifierCall.chainLexemes, Lexeme.ofKind, TokenKind.glues]
  | set name =>
      apply Lexeme.apart_cons (TokenKind.separates_of_symbol rfl)
      apply Lexeme.apart_cons (TokenKind.separates_of_symbol rfl)
      exact Lexeme.apart_cons_cons _ (TokenKind.separates_of_symbol rfl) .nil
  | wildcard symbol quantifier =>
      cases quantifier with
      | none => exact Lexeme.apart_singleton _
      | some bounds =>
          obtain ⟨c, hsymbol⟩ := symbol.symbol_lexeme
          apply Lexeme.apart_cons (TokenKind.separates_of_symbol hsymbol)
          apply Lexeme.apart_cons (TokenKind.separates_of_symbol rfl)
          apply Lexeme.apart_cons_cons _ (TokenKind.separates_of_symbol rfl)
          exact Lexeme.apart_cons_cons _ (TokenKind.separates_of_symbol rfl) .nil

theorem isToken_of_mem_lexemes {part : Part} (h : part.WellFormed) :
    ∀ lexeme ∈ part.lexemes, lexeme.IsToken := by
  cases part with
  | literal text => simpa [lexemes] using Token.isToken_identifier h
  | regex pattern => simpa [lexemes] using Token.isToken_string h
  | var name calls =>
      have hcalls := ModifierCall.isToken_of_mem_chainLexemes h.2
      simpa [lexemes] using
        ⟨Token.isToken_ofKind rfl, Token.isToken_identifier h.1, hcalls⟩
  | set name =>
      simpa [lexemes] using
        ⟨Token.isToken_ofKind rfl, Token.isToken_ofKind rfl, Token.isToken_identifier h,
          Token.isToken_ofKind rfl⟩
  | wildcard symbol quantifier =>
      cases quantifier with
      | none => simpa [lexemes] using symbol.isToken_lexeme
      | some bounds =>
          simpa [lexemes, Quantifier.lexemes] using
            ⟨symbol.isToken_lexeme, Token.isToken_ofKind rfl, Token.isToken_integer _,
              Token.isToken_ofKind rfl, Token.isToken_integer _, Token.isToken_ofKind rfl⟩

theorem listLexemes_cons_cons (part next : Part) (rest : List Part) :
    listLexemes (part :: next :: rest) =
      part.lexemes ++ .ofKind .slash :: listLexemes (next :: rest) := rfl

theorem spellsSchema_listLexemes {parts : List Part} (h : ListWellFormed parts) :
    SpellsSchema (listLexemes parts) parts ∧ Lexeme.Apart (listLexemes parts) ∧
      ∀ lexeme ∈ listLexemes parts, lexeme.IsToken := by
  obtain ⟨hne, hparts⟩ := h
  induction parts with
  | nil => exact absurd rfl hne
  | cons part rest ih =>
      have hpart := hparts part (by simp)
      cases rest with
      | nil =>
          exact ⟨.part (spellsPart_lexemes hpart), apart_lexemes part,
            isToken_of_mem_lexemes hpart⟩
      | cons next others =>
          obtain ⟨hspells, hapart, htokens⟩ :=
            ih (by simp) fun other hother => hparts other (by simp [hother])
          rw [listLexemes_cons_cons]
          refine ⟨(SpellsSchema.part (spellsPart_lexemes hpart)).append hspells, ?_, ?_⟩
          · exact Lexeme.apart_append_cons (TokenKind.separates_of_symbol rfl)
              (apart_lexemes part) hapart
          · intro lexeme hlexeme
            rcases List.mem_append.mp hlexeme with hlexeme | hlexeme
            · exact isToken_of_mem_lexemes hpart lexeme hlexeme
            · rcases List.mem_cons.mp hlexeme with rfl | hlexeme
              · exact Token.isToken_ofKind rfl
              · exact htokens lexeme hlexeme

theorem ofText_renderList {parts : List Part} (h : ListWellFormed parts) :
    ofText (renderList parts) = .ok parts := by
  obtain ⟨hspells, hapart, htokens⟩ := spellsSchema_listLexemes h
  obtain ⟨tokens, hscan, hlexemes⟩ := Token.exists_scanFrom_of_apart htokens hapart 0
  have hscan : Token.scan (renderList parts) = .ok tokens := by
    rw [Token.scan, renderList, Lexeme.written, String.toList_ofList, hscan]
  rw [ofText_of_scan hscan, ofTokens_eq_ok_iff_spellsSchema (by rwa [hlexemes]), hlexemes]
  exact hspells

end Part

/-! ## What is read is well formed -/

namespace Grammar

theorem SpellsArguments.wellFormed {lexemes : List Lexeme} {arguments : List String}
    (h : SpellsArguments lexemes arguments)
    (hlexemes : ∀ lexeme ∈ lexemes, lexeme.WellFormed) :
    arguments ≠ [] ∧ ∀ argument ∈ arguments, IsStringBody argument.toList := by
  induction h with
  | @first before argument hbefore =>
      have hargument : IsStringBody argument.toList :=
        hlexemes ⟨.string, argument⟩ (by simp)
      exact ⟨by simp, by simpa using hargument⟩
  | @further lexemes before after arguments comma argument _ _ _ ih =>
      have hargument : IsStringBody argument.toList :=
        hlexemes ⟨.string, argument⟩ (by simp)
      obtain ⟨-, harguments⟩ := ih fun other hother => hlexemes other (by simp [hother])
      refine ⟨by simp, ?_⟩
      intro other hother
      rcases List.mem_append.mp hother with hother | hother
      · exact harguments other hother
      · obtain rfl := List.mem_singleton.mp hother
        exact hargument

theorem SpellsModifier.wellFormed {lexemes : List Lexeme} {call : ModifierCall}
    (h : SpellsModifier lexemes call)
    (hlexemes : ∀ lexeme ∈ lexemes, lexeme.WellFormed) : call.WellFormed := by
  cases h with
  | @call name opening closing inner blank arguments harguments hblank =>
      have hname : IsIdentifier name := hlexemes ⟨.identifier, name⟩ (by simp)
      obtain ⟨hne, hbodies⟩ :=
        harguments.wellFormed fun other hother => hlexemes other (by simp [hother])
      exact ⟨hname, hne, hbodies⟩

theorem SpellsModifiers.wellFormed {lexemes : List Lexeme} {calls : List ModifierCall}
    (h : SpellsModifiers lexemes calls)
    (hlexemes : ∀ lexeme ∈ lexemes, lexeme.WellFormed) :
    ∀ call ∈ calls, call.WellFormed := by
  induction h with
  | none => simp
  | further _ hcall ih =>
      have hlast := hcall.wellFormed fun other hother => hlexemes other (by simp [hother])
      have hfront := ih fun other hother => hlexemes other (by simp [hother])
      intro call hmem
      rcases List.mem_append.mp hmem with hmem | hmem
      · exact hfront call hmem
      · obtain rfl := List.mem_singleton.mp hmem
        exact hlast

theorem SpellsBound.lt_size {lexeme : Lexeme} {number : Nat}
    (h : SpellsBound lexeme number) : number < UInt64.size := by
  cases h with
  | integer hbound => exact hbound

theorem SpellsPart.wellFormed {lexemes : List Lexeme} {part : Part}
    (h : SpellsPart lexemes part)
    (hlexemes : ∀ lexeme ∈ lexemes, lexeme.WellFormed) : part.WellFormed := by
  cases h with
  | @literal text => exact hlexemes ⟨.identifier, text⟩ (by simp)
  | @regex pattern => exact hlexemes ⟨.string, pattern⟩ (by simp)
  | @var dollar name chain calls hchain =>
      have hname : IsIdentifier name := hlexemes ⟨.identifier, name⟩ (by simp)
      exact ⟨hname, hchain.wellFormed fun other hother => hlexemes other (by simp [hother])⟩
  | @set dollar opening name closing =>
      exact hlexemes ⟨.identifier, name⟩ (by simp)
  | wildcard => simp [Part.WellFormed]
  | exactly _ hbound =>
      rintro _ ⟨⟩
      exact ⟨hbound.lt_size, hbound.lt_size⟩
  | between _ hlower hupper =>
      rintro _ ⟨⟩
      exact ⟨hlower.lt_size, hupper.lt_size⟩

theorem SpellsSchema.wellFormed {lexemes : List Lexeme} {parts : List Part}
    (h : SpellsSchema lexemes parts)
    (hlexemes : ∀ lexeme ∈ lexemes, lexeme.WellFormed) : Part.ListWellFormed parts := by
  induction h with
  | part hpart => exact ⟨by simp, by simpa using hpart.wellFormed hlexemes⟩
  | further _ hpart ih =>
      have hlast := hpart.wellFormed fun other hother => hlexemes other (by simp [hother])
      obtain ⟨-, hfront⟩ := ih fun other hother => hlexemes other (by simp [hother])
      refine ⟨by simp, ?_⟩
      intro part hmem
      rcases List.mem_append.mp hmem with hmem | hmem
      · exact hfront part hmem
      · obtain rfl := List.mem_singleton.mp hmem
        exact hlast

end Grammar

namespace Part

theorem listWellFormed_of_ofText {text : String} {parts : List Part}
    (h : ofText text = .ok parts) : ListWellFormed parts := by
  cases hscan : Token.scan text with
  | error error =>
      rw [ofText_of_scan_eq_error hscan] at h
      cases h
  | ok tokens =>
      rw [ofText_of_scan hscan,
        ofTokens_eq_ok_iff_spellsSchema (Token.apart_of_scanFrom hscan)] at h
      apply h.wellFormed
      intro lexeme hlexeme
      obtain ⟨token, htoken, rfl⟩ := List.mem_map.mp hlexeme
      exact Token.wellFormed_of_scanFrom hscan token htoken

/-- A list of parts is read back from its text exactly if it is well formed.  Whatever
is read is well formed, so reading, writing and reading again changes nothing. -/
theorem read_back_iff_listWellFormed :
    (∀ parts, ofText (renderList parts) = .ok parts ↔ ListWellFormed parts) ∧
    (∀ text parts, ofText text = .ok parts →
      ListWellFormed parts ∧ ofText (renderList parts) = .ok parts) := by
  constructor
  · intro parts
    exact ⟨listWellFormed_of_ofText, ofText_renderList⟩
  · intro text parts h
    have hparts := listWellFormed_of_ofText h
    exact ⟨hparts, ofText_renderList hparts⟩

/-- An escaped quote, blanks, an inverted quantifier and a leading zero. -/
theorem read_back_of_blanks_and_inverted_quantifier :
    ∃ parts, ofText "$v.m( \"a\\\"b\" ,\"\")/*\x7b3,02\x7d" = .ok parts ∧
      ListWellFormed parts ∧ ofText (renderList parts) = .ok parts := by
  have hread : ofText "$v.m( \"a\\\"b\" ,\"\")/*\x7b3,02\x7d" =
      .ok [.var "v" [⟨"m", ["a\\\"b", ""]⟩], .wildcard .multi (some ⟨3, 2⟩)] := by
    decide +kernel
  exact ⟨_, hread, read_back_iff_listWellFormed.2 _ _ hread⟩

/-- A literal that is no identifier has the text of two. -/
example : ofText (renderList [.literal "a/b"]) = .ok [.literal "a", .literal "b"] := by
  decide +kernel

end Part

end PathSchema
