import PathSchema.Proofs.Scanning.Cut

/-!
# Tokens tile a text

The tokens of a text leave no gap and do not overlap: written one after the other they are
the text, and each has its place where the ones before it end.  Every token is in the
language of its kind, and no two neighbours would be scanned as one.  These conditions
determine the tokens, so tokens that meet them are found again in the text that they are
written as.

A text that has no such tokens is scanned up to a character with which no token begins,
or up to a quote that is not closed.
-/

namespace PathSchema

/-- Read from left to right, a backslash is paired with the character after it, and the
last character is a backslash that has none after it. -/
inductive EndsUnpaired : List Char → Prop where
  | last : EndsUnpaired ['\\']
  | escaped {c : Char} {rest : List Char} (hrest : EndsUnpaired rest) :
      EndsUnpaired ('\\' :: c :: rest)
  | plain {c : Char} {rest : List Char} (hslash : c ≠ '\\') (hrest : EndsUnpaired rest) :
      EndsUnpaired (c :: rest)

/-- A string that begins before the text is not closed in it: an unpaired backslash stands
before every quote. -/
def NeverClosed (text : List Char) : Prop :=
  ∀ body after, text = body ++ '\"' :: after → EndsUnpaired body

/-- No token is written with the character first. -/
def BeginsNoToken (c : Char) : Prop :=
  ∀ lexeme : Lexeme, lexeme.text ∈ lexeme.kind.language → lexeme.source.head? ≠ some c

/-- What keeps a character and the text after it from being scanned. -/
def ScanProblem.Applies (problem : ScanProblem) (c : Char) (rest : List Char) : Prop :=
  match problem with
  | .unexpectedCharacter d => d = c ∧ BeginsNoToken c
  | .unterminatedString => c = '\"' ∧ NeverClosed rest

/-- The text before the place of the error is made of tokens, and the problem applies to
the character that stands there and to what follows it. -/
def ScanError.StopsIn (error : ScanError) (text : String) : Prop :=
  ∃ front c rest, text.toList = front ++ c :: rest ∧
    error.position = Text.byteLength front ∧
    (∃ tokens, Token.scan (String.ofList front) = .ok tokens) ∧
    error.problem.Applies c rest

namespace Token

/-- The tokens make up the text, each at the place where the ones before it end and with a
text in the language of its kind, and no two neighbours would be scanned as one. -/
structure Tiles (tokens : List Token) (text : String) : Prop where
  written : Lexeme.written (tokens.map toLexeme) = text
  position : ∀ before token after, tokens = before ++ token :: after →
    token.position = Text.byteLength (Lexeme.written (before.map toLexeme)).toList
  language : ∀ token ∈ tokens, token.text ∈ token.kind.language
  apart : Lexeme.Apart (tokens.map toLexeme)

/-! ## Texts that are made of tokens -/

theorem tiles_of_scan {text : String} {tokens : List Token} (h : scan text = .ok tokens) :
    Tiles tokens text where
  written := by
    have hsource : (tokens.map toLexeme).flatMap Lexeme.source = text.toList :=
      flatMap_source_of_scanFrom h
    rw [Lexeme.written, hsource, String.ofList_toList]
  position := by
    rintro before token after rfl
    have hplace := position_of_scanFrom h
    rw [Lexeme.written, String.toList_ofList, hplace, Nat.zero_add]
  language := by
    intro token htoken
    obtain ⟨c, rest, remaining, hnext⟩ := exists_next_of_mem_scanFrom h token htoken
    exact text_mem_language_of_next hnext
  apart := apart_of_scanFrom h

/-- Tokens with texts of their languages, no two neighbours of which would be scanned as
one, are scanned from the text that they are written as: the same tokens in the same
order, each at the place where the ones before it end. -/
theorem scan_written {lexemes : List Lexeme}
    (hlanguage : ∀ lexeme ∈ lexemes, lexeme.text ∈ lexeme.kind.language)
    (hapart : Lexeme.Apart lexemes) :
    scan (Lexeme.written lexemes) = .ok (placedFrom 0 lexemes) := by
  have htokens : ∀ lexeme ∈ lexemes, lexeme.IsToken := by
    intro lexeme hlexeme
    exact isToken_of_mem_language (hlanguage lexeme hlexeme)
  rw [scan, Lexeme.written, String.toList_ofList]
  exact scanFrom_flatMap_source htokens hapart 0

/-- An integer before an identifier, which it does not go on with, and a string of
characters that begin other tokens, one of them two bytes long and one an escaped quote. -/
theorem scan_written_of_integer_before_identifier :
    scan "01x-9\"é$\\\" \"\t +" = .ok
      [⟨⟨.integer, "01"⟩, 0⟩, ⟨⟨.identifier, "x-9"⟩, 2⟩, ⟨⟨.string, "é$\\\" "⟩, 5⟩,
        ⟨⟨.whitespace, "\t "⟩, 13⟩, ⟨⟨.plus, "+"⟩, 15⟩] := by
  let lexemes : List Lexeme :=
    [⟨.integer, "01"⟩, ⟨.identifier, "x-9"⟩, ⟨.string, "é$\\\" "⟩, ⟨.whitespace, "\t "⟩,
      ⟨.plus, "+"⟩]
  have hidentifier : IsIdentifier "x-9" :=
    ⟨'x', ['-', '9'], rfl, rfl, List.all_eq_true.mp rfl⟩
  have hbody : IsStringBody "é$\\\" ".toList :=
    .plain (by decide) (by decide) <| .plain (by decide) (by decide) <| .escaped <|
      .plain (by decide) (by decide) .nil
  have hlanguage : ∀ lexeme ∈ lexemes, lexeme.text ∈ lexeme.kind.language := by
    intro lexeme hlexeme
    obtain rfl | rfl | rfl | rfl | rfl : lexeme = ⟨.integer, "01"⟩ ∨
        lexeme = ⟨.identifier, "x-9"⟩ ∨ lexeme = ⟨.string, "é$\\\" "⟩ ∨
        lexeme = ⟨.whitespace, "\t "⟩ ∨ lexeme = ⟨.plus, "+"⟩ := by
      simpa [lexemes] using hlexeme
    · exact ⟨by decide, List.all_eq_true.mp rfl⟩
    · exact hidentifier
    · exact hbody
    · exact ⟨by decide, List.all_eq_true.mp rfl⟩
    · exact ⟨'+', rfl, rfl⟩
  have hapart : Lexeme.Apart lexemes := by
    unfold Lexeme.Apart
    decide
  have hwritten : Lexeme.written lexemes = "01x-9\"é$\\\" \"\t +" := by decide +kernel
  have hscan := scan_written hlanguage hapart
  rw [hwritten] at hscan
  exact hscan

/-! ## Texts that are not -/

theorem not_endsUnpaired_of_isStringBody {body : List Char} (h : IsStringBody body) :
    ¬EndsUnpaired body := by
  induction h with
  | nil => nofun
  | escaped _ ih =>
      rintro (_ | hrest | ⟨hslash, -⟩)
      · exact ih hrest
      · exact hslash rfl
  | plain _ hslash _ ih =>
      rintro (_ | _ | ⟨-, hrest⟩)
      · exact hslash rfl
      · exact hslash rfl
      · exact ih hrest

/-- A text holds the rest of a string unless an unpaired backslash stands before each of
its quotes. -/
theorem stringBody?_eq_none_iff {text : List Char} :
    stringBody? text = none ↔ NeverClosed text := by
  constructor
  · intro h
    fun_induction stringBody? text with
    | case1 =>
        intro body after hsplit
        simp at hsplit
    | case2 rest => cases h
    | case3 =>
        intro body after hsplit
        rcases body with _ | ⟨d, body⟩
        · simp at hsplit
        · simp at hsplit
    | case4 c rest ih =>
        have hrest : NeverClosed rest := ih (Option.map_eq_none_iff.mp h)
        intro body after hsplit
        rcases body with _ | ⟨d, _ | ⟨e, body⟩⟩
        · simp at hsplit
        · obtain ⟨rfl, -⟩ : '\\' = d ∧ _ := by simpa using hsplit
          exact .last
        · obtain ⟨rfl, rfl, hbody⟩ : '\\' = d ∧ c = e ∧ rest = body ++ '\"' :: after := by
            simpa using hsplit
          exact .escaped (hrest body after hbody)
    | case5 c rest hquote hend hescape ih =>
        have hslash : c ≠ '\\' := ne_backslash hend hescape
        have hrest : NeverClosed rest := ih (Option.map_eq_none_iff.mp h)
        intro body after hsplit
        rcases body with _ | ⟨d, body⟩
        · exact absurd (List.cons.inj hsplit).1 hquote
        · obtain ⟨rfl, hbody⟩ := List.cons.inj hsplit
          exact .plain hslash (hrest body after hbody)
  · intro h
    by_contra hsome
    obtain ⟨⟨body, remaining⟩, hbody⟩ := Option.ne_none_iff_exists'.mp hsome
    have hends : EndsUnpaired body := h body remaining (eq_append_of_stringBody? hbody)
    exact not_endsUnpaired_of_isStringBody (isStringBody_of_stringBody? hbody) hends

/-- A character that cannot be scanned is refused before any text; a quote is refused
because of what follows it. -/
theorem next_eq_error_cases {c : Char} {rest : List Char} {problem : ScanProblem}
    (h : next c rest = .error problem) :
    (problem = .unexpectedCharacter c ∧
      ∀ others, next c others = .error (.unexpectedCharacter c)) ∨
    (problem = .unterminatedString ∧ c = '\"' ∧ stringBody? rest = none) := by
  unfold next at h
  split at h
  · cases h
  next hstart =>
  split at h
  · cases h
  next hdigit =>
  split at h
  · cases h
  next hblank =>
  split at h
  · next hquote =>
      split at h
      · cases h
      · next hbody => exact .inr ⟨(Except.error.inj h).symm, hquote, hbody⟩
  next hquote =>
  split at h
  · cases h
  · next hsymbol =>
      refine .inl ⟨(Except.error.inj h).symm, ?_⟩
      intro others
      rw [next, if_neg hstart, if_neg hdigit, if_neg hblank, if_neg hquote, hsymbol]

theorem applies_of_next_eq_error {c : Char} {rest : List Char} {problem : ScanProblem}
    (h : next c rest = .error problem) : problem.Applies c rest := by
  rcases next_eq_error_cases h with ⟨rfl, hnever⟩ | ⟨rfl, hquote, hbody⟩
  · refine ⟨rfl, ?_⟩
    intro lexeme hlanguage hhead
    obtain ⟨d, others, hsource, hnext⟩ := isToken_of_mem_language hlanguage
    obtain rfl : d = c := by simpa [hsource] using hhead
    rw [hnever others] at hnext
    cases hnext
  · exact ⟨hquote, stringBody?_eq_none_iff.mp hbody⟩

/-- Before the place of a scanning error the text is made of tokens. -/
theorem exists_stop_of_scanFrom_eq_error {position : Nat} {text : List Char}
    {error : ScanError} (h : scanFrom position text = .error error) :
    ∃ front c rest tokens, text = front ++ c :: rest ∧
      scanFrom position front = .ok tokens ∧
      error.position = position + Text.byteLength front ∧
      next c rest = .error error.problem := by
  fun_induction scanFrom position text with
  | case1 => cases h
  | case2 position c rest problem hnext =>
      obtain rfl := Except.error.inj h
      exact ⟨[], c, rest, [], rfl, by rw [scanFrom], rfl, hnext⟩
  | case3 position c rest lexeme remaining hnext found hfound ih =>
      obtain rfl := Except.error.inj h
      obtain ⟨front, d, others, tokens, hsplit, htokens, hposition, hproblem⟩ := ih hfound
      have htext : c :: rest = (lexeme.source ++ front) ++ d :: others := by
        rw [← source_append_of_next hnext, hsplit, List.append_assoc]
      have hstop : ∀ e ∈ front.head?, ¬lexeme.kind.Continues e := by
        intro e he
        have hremaining : e ∈ remaining.head? := by
          rw [hsplit, List.head?_append, Option.mem_def.mp he]
          rfl
        exact not_continues_of_next hnext e hremaining
      obtain ⟨first, more, hsource, hfirst⟩ := isToken_of_next hnext
      have hscan : scanFrom position (lexeme.source ++ front) =
          .ok (⟨lexeme, position⟩ :: tokens) := by
        rw [hsource, List.cons_append, scanFrom_cons_of_next (next_append hfirst hstop),
          List.nil_append, htokens]
        rfl
      refine ⟨lexeme.source ++ front, d, others, _, htext, hscan, ?_, hproblem⟩
      rw [hposition, Text.byteLength_append, Nat.add_assoc]
  | case4 => cases h

/-- A text is tiled by its tokens, or it is made of tokens up to the place of the error: the
character there begins no token, or it is a quote that no later quote closes. -/
theorem scan_tiles_or_stops (text : String) :
    (∃ tokens, scan text = .ok tokens ∧ Tiles tokens text) ∨
      ∃ error, scan text = .error error ∧ error.StopsIn text := by
  cases hscan : scan text with
  | ok tokens => exact .inl ⟨tokens, rfl, tiles_of_scan hscan⟩
  | error error =>
      obtain ⟨front, c, rest, tokens, htext, htokens, hposition, hproblem⟩ :=
        exists_stop_of_scanFrom_eq_error hscan
      have hfront : scan (String.ofList front) = .ok tokens := by
        rw [scan, String.toList_ofList]
        exact htokens
      rw [Nat.zero_add] at hposition
      exact .inr ⟨error, rfl, front, c, rest, htext, hposition, ⟨tokens, hfront⟩,
        applies_of_next_eq_error hproblem⟩

end Token

end PathSchema
