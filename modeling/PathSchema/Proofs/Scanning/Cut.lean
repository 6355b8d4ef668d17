import PathSchema.Proofs.Scanning.Written

/-!
# Cutting a text at a token

The tokens of a text, written one after the other, are the text, so every token has its
place where the tokens before it end.  A text that is cut behind a token and goes on in
another way has the same tokens before the cut.  The last one may have grown: an
identifier, an integer or a run of blanks goes on as far as it can.
-/

namespace PathSchema

/-- The second token is of the same kind and begins with the text of the first. -/
structure Lexeme.Grows (lexeme grown : Lexeme) : Prop where
  kind : grown.kind = lexeme.kind
  text : lexeme.text.toList <+: grown.text.toList

namespace Lexeme

theorem grows_refl (lexeme : Lexeme) : lexeme.Grows lexeme :=
  ⟨rfl, List.prefix_refl _⟩

theorem grows_ofList {kind : TokenKind} {text more : List Char} (h : text <+: more) :
    Grows ⟨kind, String.ofList text⟩ ⟨kind, String.ofList more⟩ := by
  refine ⟨rfl, ?_⟩
  rw [String.toList_ofList, String.toList_ofList]
  exact h

end Lexeme

namespace Token

variable {position : Nat} {text : List Char} {tokens : List Token}

theorem exists_next_of_scanFrom_cons {c : Char} {rest : List Char}
    (h : scanFrom position (c :: rest) = .ok tokens) :
    ∃ lexeme remaining others, next c rest = .ok (lexeme, remaining) ∧
      scanFrom (position + Text.byteLength lexeme.source) remaining = .ok others ∧
      tokens = ⟨lexeme, position⟩ :: others := by
  cases hnext : next c rest with
  | error problem =>
      rw [scanFrom_cons_of_next_eq_error hnext] at h
      cases h
  | ok found =>
      obtain ⟨lexeme, remaining⟩ := found
      rw [scanFrom_cons_of_next hnext] at h
      cases hrest : scanFrom (position + Text.byteLength lexeme.source) remaining with
      | error error =>
          rw [hrest] at h
          cases h
      | ok others =>
          rw [hrest] at h
          exact ⟨lexeme, remaining, others, rfl, hrest, (Except.ok.inj h).symm⟩

theorem flatMap_source_of_scanFrom (h : scanFrom position text = .ok tokens) :
    (tokens.map toLexeme).flatMap Lexeme.source = text := by
  fun_induction scanFrom position text generalizing tokens with
  | case1 =>
      obtain rfl := Except.ok.inj h
      rfl
  | case2 => cases h
  | case3 => cases h
  | case4 position c rest lexeme remaining hnext others hothers ih =>
      obtain rfl := Except.ok.inj h
      have hrest : (others.map toLexeme).flatMap Lexeme.source = remaining := ih hothers
      rw [List.map_cons, List.flatMap_cons, hrest]
      exact source_append_of_next hnext

/-- The tokens of a text stand one after the other. -/
theorem eq_placedFrom_of_scanFrom (h : scanFrom position text = .ok tokens) :
    tokens = placedFrom position (tokens.map toLexeme) := by
  have htokens : ∀ lexeme ∈ tokens.map toLexeme, lexeme.IsToken := by
    intro lexeme hlexeme
    obtain ⟨token, htoken, rfl⟩ := List.mem_map.mp hlexeme
    exact isToken_of_scanFrom h token htoken
  have hagain := scanFrom_flatMap_source htokens (apart_of_scanFrom h) position
  rw [flatMap_source_of_scanFrom h, h] at hagain
  exact Except.ok.inj hagain

theorem position_of_placedFrom {lexemes : List Lexeme} {before after : List Token}
    {token : Token} (h : placedFrom position lexemes = before ++ token :: after) :
    token.position =
      position + Text.byteLength ((before.map toLexeme).flatMap Lexeme.source) := by
  induction before generalizing position lexemes with
  | nil =>
      rcases lexemes with _ | ⟨lexeme, others⟩
      · cases h
      · obtain ⟨rfl, -⟩ := List.cons.inj h
        rfl
  | cons first before ih =>
      rcases lexemes with _ | ⟨lexeme, others⟩
      · cases h
      · obtain ⟨rfl, hothers⟩ := List.cons.inj h
        rw [ih hothers, List.map_cons, List.flatMap_cons, Text.byteLength_append,
          Nat.add_assoc]

theorem position_of_scanFrom {before after : List Token} {token : Token}
    (h : scanFrom position text = .ok (before ++ token :: after)) :
    token.position =
      position + Text.byteLength ((before.map toLexeme).flatMap Lexeme.source) :=
  position_of_placedFrom (eq_placedFrom_of_scanFrom h).symm

/-! ## Growing -/

theorem takeWhile_prefix_append (p : Char → Bool) (xs ys : List Char) :
    xs.takeWhile p <+: (xs ++ ys).takeWhile p := by
  induction xs with
  | nil => exact List.nil_prefix
  | cons c xs ih =>
      by_cases hc : p c = true
      · rw [List.cons_append, List.takeWhile_cons_of_pos hc, List.takeWhile_cons_of_pos hc]
        exact List.cons_prefix_cons.mpr ⟨rfl, ih⟩
      · rw [List.takeWhile_cons_of_neg hc]
        exact List.nil_prefix

/-- A text that goes on may make its first token longer, and does nothing else to it. -/
theorem grows_of_next {c : Char} {rest remaining more left : List Char}
    {lexeme grown : Lexeme} (h : next c rest = .ok (lexeme, remaining))
    (hmore : next c (rest ++ more) = .ok (grown, left)) : lexeme.Grows grown := by
  have hlonger : ∀ p : Char → Bool,
      c :: rest.takeWhile p <+: c :: (rest ++ more).takeWhile p := fun p =>
    List.cons_prefix_cons.mpr ⟨rfl, takeWhile_prefix_append p rest more⟩
  unfold next at h hmore
  split at h
  · next hstart =>
      rw [if_pos hstart] at hmore
      obtain ⟨rfl, -⟩ := Prod.mk.inj (Except.ok.inj h)
      obtain ⟨rfl, -⟩ := Prod.mk.inj (Except.ok.inj hmore)
      exact Lexeme.grows_ofList (hlonger isIdentifierRest)
  next hstart =>
  rw [if_neg hstart] at hmore
  split at h
  · next hdigit =>
      rw [if_pos hdigit] at hmore
      obtain ⟨rfl, -⟩ := Prod.mk.inj (Except.ok.inj h)
      obtain ⟨rfl, -⟩ := Prod.mk.inj (Except.ok.inj hmore)
      exact Lexeme.grows_ofList (hlonger Char.isDigit)
  next hdigit =>
  rw [if_neg hdigit] at hmore
  split at h
  · next hblank =>
      rw [if_pos hblank] at hmore
      obtain ⟨rfl, -⟩ := Prod.mk.inj (Except.ok.inj h)
      obtain ⟨rfl, -⟩ := Prod.mk.inj (Except.ok.inj hmore)
      exact Lexeme.grows_ofList (hlonger isBlank)
  next hblank =>
  rw [if_neg hblank] at hmore
  split at h
  · next hquote =>
      rw [if_pos hquote] at hmore
      split at h
      · next body others hbody =>
          rw [stringBody?_append hbody more] at hmore
          obtain ⟨rfl, -⟩ := Prod.mk.inj (Except.ok.inj h)
          obtain ⟨rfl, -⟩ := Prod.mk.inj (Except.ok.inj hmore)
          exact Lexeme.grows_refl _
      · cases h
  next hquote =>
  rw [if_neg hquote] at hmore
  split at h
  · next kind hkind =>
      rw [hkind] at hmore
      obtain ⟨rfl, -⟩ := Prod.mk.inj (Except.ok.inj h)
      obtain ⟨rfl, -⟩ := Prod.mk.inj (Except.ok.inj hmore)
      exact Lexeme.grows_refl _
  · cases h

/-- A text that is cut behind a token and goes on in another way has the same tokens
before that one, and that one or a longer one of its kind. -/
theorem exists_grown_of_scanFrom {lexemes : List Lexeme} {lexeme : Lexeme}
    (htokens : ∀ other ∈ lexemes ++ [lexeme], other.IsToken)
    (hapart : Lexeme.Apart (lexemes ++ [lexeme])) {more : List Char}
    (h : scanFrom position ((lexemes ++ [lexeme]).flatMap Lexeme.source ++ more) =
      .ok tokens) :
    ∃ grown others, tokens.map toLexeme = lexemes ++ grown :: others ∧
      lexeme.Grows grown := by
  obtain ⟨c, rest, hsource, hnext⟩ := htokens lexeme (by simp)
  obtain ⟨hbefore, -, hneighbours⟩ := List.isChain_append.mp hapart
  obtain ⟨front, hfront, hlexemes⟩ :=
    exists_scanFrom_of_apart (fun other hother => htokens other (by simp [hother])) hbefore
      position
  have htext : (lexemes ++ [lexeme]).flatMap Lexeme.source ++ more =
      lexemes.flatMap Lexeme.source ++ c :: (rest ++ more) := by
    simp [hsource]
  have hstop : ∀ token ∈ front.getLast?, ∀ d ∈ (c :: (rest ++ more)).head?,
      ¬token.kind.Continues d := by
    intro token htoken d hd
    obtain rfl : c = d := by simpa using hd
    have hlast : token.toLexeme ∈ lexemes.getLast? := by
      rw [← hlexemes, List.getLast?_map, Option.mem_def.mp htoken]
      rfl
    exact not_continues_of_glues_eq_false hnext (hneighbours _ hlast lexeme (by simp))
  rw [htext, scanFrom_append hfront hstop] at h
  cases hrest : scanFrom (position + Text.byteLength (lexemes.flatMap Lexeme.source))
      (c :: (rest ++ more)) with
  | error error =>
      rw [hrest] at h
      cases h
  | ok back =>
      rw [hrest] at h
      obtain rfl := Except.ok.inj h
      obtain ⟨grown, remaining, others, hgrown, -, rfl⟩ := exists_next_of_scanFrom_cons hrest
      exact ⟨grown, others.map toLexeme, by simp [hlexemes], grows_of_next hnext hgrown⟩

end Token

end PathSchema
