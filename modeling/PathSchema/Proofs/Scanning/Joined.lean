import PathSchema.Proofs.Scanning

/-!
# Scanning texts that are put together

A token is the same whatever follows it, as long as what follows does not continue
it.  So a text that is put together at such a place is scanned piece by piece: the
tokens of the first piece, then those of the second with their places moved behind
the first.  The same holds for the place of a scanning error in the second piece.
-/

namespace PathSchema

namespace Token

/-- Moves a token behind some bytes. -/
def shift (offset : Nat) (token : Token) : Token :=
  { token with position := offset + token.position }

@[simp] theorem toLexeme_shift (offset : Nat) (token : Token) :
    (token.shift offset).toLexeme = token.toLexeme := rfl

end Token

/-- Moves a scanning error behind some bytes. -/
def ScanError.shift (offset : Nat) (error : ScanError) : ScanError :=
  { error with position := offset + error.position }

namespace Token

/-! ## One token -/

theorem takeWhile_append_of_stop {p : Char → Bool} {xs more : List Char}
    (hmore : ∀ d ∈ (xs.dropWhile p ++ more).head?, ¬p d = true) :
    (xs ++ more).takeWhile p = xs.takeWhile p := by
  induction xs with
  | nil =>
      cases more with
      | nil => rfl
      | cons d rest =>
          have hd : ¬p d = true := hmore d (by simp)
          simp [hd]
  | cons c xs ih =>
      by_cases hc : p c = true
      · rw [List.dropWhile_cons_of_pos hc] at hmore
        simp [hc, ih hmore]
      · simp [hc]

theorem dropWhile_append_of_stop {p : Char → Bool} {xs more : List Char}
    (hmore : ∀ d ∈ (xs.dropWhile p ++ more).head?, ¬p d = true) :
    (xs ++ more).dropWhile p = xs.dropWhile p ++ more := by
  induction xs with
  | nil =>
      cases more with
      | nil => rfl
      | cons d rest =>
          have hd : ¬p d = true := hmore d (by simp)
          simp [hd]
  | cons c xs ih =>
      by_cases hc : p c = true
      · rw [List.dropWhile_cons_of_pos hc] at hmore
        simp [hc, ih hmore]
      · simp [hc]

/-- A character of a string that is no backslash at the end and escapes none is no
backslash at all. -/
theorem ne_backslash {c : Char} {rest : List Char} (hend : c = '\\' → rest = [] → False)
    (hescape : ∀ d others, c = '\\' → rest = d :: others → False) : c ≠ '\\' := by
  intro hc
  rcases rest with _ | ⟨d, others⟩
  · exact hend hc rfl
  · exact hescape d others hc rfl

theorem stringBody?_cons_of_ne {c : Char} (hquote : c ≠ '\"') (hslash : c ≠ '\\')
    (rest : List Char) :
    stringBody? (c :: rest) =
      (stringBody? rest).map fun (body, remaining) => (c :: body, remaining) := by
  rw [stringBody?]
  · exact hquote
  · exact fun hc _ => hslash hc
  · exact fun _ _ hc _ => hslash hc

theorem stringBody?_append {text body remaining : List Char}
    (h : stringBody? text = some (body, remaining)) (more : List Char) :
    stringBody? (text ++ more) = some (body, remaining ++ more) := by
  fun_induction stringBody? text generalizing body remaining with
  | case1 => simp at h
  | case2 rest =>
      obtain ⟨rfl, rfl⟩ : [] = body ∧ rest = remaining := by simpa using h
      simp [stringBody?]
  | case3 => simp at h
  | case4 c rest ih =>
      obtain ⟨⟨b, r⟩, hb, he⟩ := Option.map_eq_some_iff.mp h
      obtain ⟨rfl, rfl⟩ : '\\' :: c :: b = body ∧ r = remaining := by simpa using he
      simp [stringBody?, ih hb]
  | case5 c rest hquote hend hescape ih =>
      obtain ⟨⟨b, r⟩, hb, he⟩ := Option.map_eq_some_iff.mp h
      obtain ⟨rfl, rfl⟩ : c :: b = body ∧ r = remaining := by simpa using he
      have hslash : c ≠ '\\' := ne_backslash hend hescape
      rw [List.cons_append, stringBody?_cons_of_ne hquote hslash, ih hb]
      rfl

theorem next_append {c : Char} {rest remaining more : List Char} {lexeme : Lexeme}
    (h : next c rest = .ok (lexeme, remaining))
    (hmore : ∀ d ∈ (remaining ++ more).head?, ¬lexeme.kind.Continues d) :
    next c (rest ++ more) = .ok (lexeme, remaining ++ more) := by
  unfold next at h ⊢
  split at h
  · next hstart =>
      obtain ⟨rfl, rfl⟩ := Prod.mk.inj (Except.ok.inj h)
      rw [if_pos hstart, takeWhile_append_of_stop hmore, dropWhile_append_of_stop hmore]
  next hstart =>
  rw [if_neg hstart]
  split at h
  · next hdigit =>
      obtain ⟨rfl, rfl⟩ := Prod.mk.inj (Except.ok.inj h)
      rw [if_pos hdigit, takeWhile_append_of_stop hmore, dropWhile_append_of_stop hmore]
  next hdigit =>
  rw [if_neg hdigit]
  split at h
  · next hblank =>
      obtain ⟨rfl, rfl⟩ := Prod.mk.inj (Except.ok.inj h)
      rw [if_pos hblank, takeWhile_append_of_stop hmore, dropWhile_append_of_stop hmore]
  next hblank =>
  rw [if_neg hblank]
  split at h
  · next hquote =>
      rw [if_pos hquote]
      split at h
      · next body others hbody =>
          obtain ⟨rfl, rfl⟩ := Prod.mk.inj (Except.ok.inj h)
          rw [stringBody?_append hbody more]
      · cases h
  next hquote =>
  rw [if_neg hquote]
  split at h
  · next kind hkind =>
      obtain ⟨rfl, rfl⟩ := Prod.mk.inj (Except.ok.inj h)
      rfl
  · cases h

/-! ## All tokens -/

theorem scanFrom_cons_of_next {position : Nat} {c : Char} {rest remaining : List Char}
    {lexeme : Lexeme} (h : next c rest = .ok (lexeme, remaining)) :
    scanFrom position (c :: rest) =
      (scanFrom (position + Text.byteLength lexeme.source) remaining).map
        (⟨lexeme, position⟩ :: ·) := by
  rw [scanFrom]
  split
  · next hnext =>
      rw [h] at hnext
      cases hnext
  · next found others hnext =>
      rw [h] at hnext
      obtain ⟨rfl, rfl⟩ : lexeme = found ∧ remaining = others := by simpa using hnext
      cases scanFrom (position + Text.byteLength lexeme.source) remaining <;> rfl

theorem scanFrom_cons_of_next_eq_error {position : Nat} {c : Char} {rest : List Char}
    {problem : ScanProblem} (h : next c rest = .error problem) :
    scanFrom position (c :: rest) = .error ⟨problem, position⟩ := by
  rw [scanFrom]
  split
  · next hnext =>
      rw [h] at hnext
      rw [Except.error.inj hnext]
  · next hnext =>
      rw [h] at hnext
      cases hnext

/-- A scan that begins further on finds the same at places that are as much further on. -/
theorem scanFrom_add (offset position : Nat) (text : List Char) :
    scanFrom (offset + position) text =
      ((scanFrom position text).map (List.map (shift offset))).mapError
        (ScanError.shift offset) := by
  fun_induction scanFrom position text with
  | case1 => simp [scanFrom, Except.map, Except.mapError]
  | case2 position c rest problem hnext =>
      rw [scanFrom_cons_of_next_eq_error hnext]
      rfl
  | case3 position c rest lexeme remaining hnext error hrest ih =>
      rw [scanFrom_cons_of_next hnext, Nat.add_assoc, ih, hrest]
      rfl
  | case4 position c rest lexeme remaining hnext tokens hrest ih =>
      rw [scanFrom_cons_of_next hnext, Nat.add_assoc, ih, hrest]
      rfl

/-- Two texts of which the second does not continue the last token of the first are
scanned one after the other. -/
theorem scanFrom_append {position : Nat} {text more : List Char} {tokens : List Token}
    (h : scanFrom position text = .ok tokens)
    (hmore : ∀ token ∈ tokens.getLast?, ∀ d ∈ more.head?, ¬token.kind.Continues d) :
    scanFrom position (text ++ more) =
      (scanFrom (position + Text.byteLength text) more).map (tokens ++ ·) := by
  fun_induction scanFrom position text generalizing tokens with
  | case1 =>
      obtain rfl := Except.ok.inj h
      simp only [List.nil_append, Text.byteLength_nil, Nat.add_zero]
      cases scanFrom _ more <;> rfl
  | case2 => cases h
  | case3 => cases h
  | case4 position c rest lexeme remaining hnext others hothers ih =>
      obtain rfl := Except.ok.inj h
      have hstop : ∀ d ∈ (remaining ++ more).head?, ¬lexeme.kind.Continues d := by
        cases remaining with
        | nil =>
            rw [scanFrom] at hothers
            obtain rfl := Except.ok.inj hothers
            exact hmore ⟨lexeme, position⟩ (by simp)
        | cons d left => simpa using not_continues_of_next hnext
      have hlast : ∀ token ∈ others.getLast?, ∀ d ∈ more.head?,
          ¬token.kind.Continues d := by
        intro token htoken
        exact hmore token (by rw [List.getLast?_cons, Option.mem_def.mp htoken]; rfl)
      have hlength : Text.byteLength (c :: rest) =
          Text.byteLength lexeme.source + Text.byteLength remaining := by
        rw [← source_append_of_next hnext, Text.byteLength_append]
      rw [List.cons_append, scanFrom_cons_of_next (next_append hnext hstop),
        ih hothers hlast, hlength, Nat.add_assoc]
      cases scanFrom _ more <;> rfl

end Token

end PathSchema
