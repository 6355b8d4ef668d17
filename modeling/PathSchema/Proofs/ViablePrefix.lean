import PathSchema.Fault
import PathSchema.Proofs.RoundTrip
import PathSchema.Proofs.Scanning.Cut

/-!
# Where reading stops

What a reader has taken can always be completed: each stage lacks a few tokens, and the
first of them is one that the stage expects.  None of the tokens that a stage expects
would be scanned together with the token before it, so they can be written behind it.
On the other hand, whether a stage takes a token depends on its kind and, for an
integer, on a bound, so a token that is not taken is not taken either when it grows.
Hence reading stops at the first token with which no schema text can go on, and what it
names as expected there can stand there.
-/

namespace PathSchema

/-! ## A token of each kind -/

namespace TokenKind

def sample : TokenKind → Lexeme
  | identifier => ⟨.identifier, "a"⟩
  | string => ⟨.string, ""⟩
  | integer => ⟨.integer, Decimal.render 0⟩
  | whitespace => ⟨.whitespace, " "⟩
  | kind => .ofKind kind

theorem kind_sample (kind : TokenKind) : kind.sample.kind = kind := by
  cases kind <;> rfl

theorem isToken_sample (kind : TokenKind) : kind.sample.IsToken := by
  cases kind with
  | identifier => exact Token.isToken_identifier ⟨'a', [], rfl, by decide, by simp⟩
  | string => exact Token.isToken_string .nil
  | integer => exact Token.isToken_integer 0
  | whitespace => exact Token.isToken_blank
  | _ => exact Token.isToken_ofKind rfl

end TokenKind

/-- The kinds of tokens that could have stood where reading stopped. -/
def ReadProblem.kinds : ReadProblem → List TokenKind
  | emptyText => []
  | partExpected => [.dollar, .plus, .star, .string, .identifier]
  | afterPart => [.slash]
  | expected kind => [kind]
  | boundTooLarge _ => [.integer]

namespace Stage

variable {stage next : Stage} {lexeme grown : Lexeme} {kind : TokenKind}
  {rest : List TokenKind} {problem : ReadProblem}

/-! ## What is missing -/

/-- The kinds of a few tokens after which the part may end. -/
def missing : Stage → List TokenKind
  | start | dollar => [.identifier]
  | complete _ | named .. | wildcard _ => []
  | setOpen => [.identifier, .closeBracket]
  | setNamed _ => [.closeBracket]
  | dot .. => [.identifier, .openParen, .string, .closeParen]
  | modifier .. => [.openParen, .string, .closeParen]
  | argument .. => [.string, .closeParen]
  | afterArgument .. => [.closeParen]
  | lower _ | upper .. => [.integer, .closeBrace]
  | afterLower .. | afterUpper .. => [.closeBrace]

theorem lower_step_sample (symbol : Wildcard) :
    (lower symbol).step TokenKind.integer.sample = .ok (afterLower symbol 0) :=
  lower_step_of_spellsBound (spellsBound_render (by decide))

theorem upper_step_sample (symbol : Wildcard) (min : Nat) :
    (upper symbol min).step TokenKind.integer.sample = .ok (afterUpper symbol min 0) :=
  upper_step_of_spellsBound (spellsBound_render (by decide))

/-- The first missing token is expected, and after it the others are missing. -/
theorem exists_step_of_missing (h : stage.missing = kind :: rest) :
    kind ∈ stage.problem.kinds ∧
      ∃ next, stage.step kind.sample = .ok next ∧ next.missing = rest := by
  cases stage with
  | complete | named | wildcard => cases h
  | lower symbol =>
      obtain ⟨rfl, rfl⟩ := List.cons.inj h
      exact ⟨by simp [Stage.problem, ReadProblem.kinds], _, lower_step_sample symbol, rfl⟩
  | upper symbol min =>
      obtain ⟨rfl, rfl⟩ := List.cons.inj h
      exact ⟨by simp [Stage.problem, ReadProblem.kinds], _, upper_step_sample symbol min, rfl⟩
  | _ =>
      obtain ⟨rfl, rfl⟩ := List.cons.inj h
      exact ⟨by simp [Stage.problem, ReadProblem.kinds], _, rfl, rfl⟩

theorem exists_part_of_missing (h : stage.missing = []) :
    ∃ part, stage.part? = some part := by
  cases stage with
  | complete | named | wildcard => exact ⟨_, rfl⟩
  | _ => cases h

/-! ## What is expected -/

/-- A stage takes what it expects, other than the slash behind a part that may end. -/
theorem exists_step_of_mem_kinds (h : kind ∈ stage.problem.kinds) :
    (kind = .slash ∧ ∃ part, stage.part? = some part) ∨
      ∃ next, stage.step kind.sample = .ok next := by
  cases stage with
  | start =>
      have hkind : kind = .dollar ∨ kind = .plus ∨ kind = .star ∨ kind = .string ∨
          kind = .identifier := by
        simpa [Stage.problem, ReadProblem.kinds] using h
      rcases hkind with rfl | rfl | rfl | rfl | rfl <;> exact .inr ⟨_, rfl⟩
  | complete | named | wildcard => exact .inl ⟨List.mem_singleton.mp h, _, rfl⟩
  | lower symbol =>
      obtain rfl : kind = .integer := List.mem_singleton.mp h
      exact .inr ⟨_, lower_step_sample symbol⟩
  | upper symbol min =>
      obtain rfl : kind = .integer := List.mem_singleton.mp h
      exact .inr ⟨_, upper_step_sample symbol min⟩
  | _ =>
      obtain rfl := List.mem_singleton.mp h
      exact .inr ⟨_, rfl⟩

/-- What a message lists are the kinds that are expected, and the end where a part may
end. -/
theorem of_mem_expectations {entry : String} (h : entry ∈ stage.problem.expectations) :
    (∃ kind ∈ stage.problem.kinds, entry = kind.describe) ∨
      entry = "end of schema" ∧ ∃ part, stage.part? = some part := by
  have hafter : entry ∈ ReadProblem.afterPart.expectations →
      entry = TokenKind.slash.describe ∨ entry = "end of schema" := by
    simp [ReadProblem.expectations]
  cases stage with
  | start =>
      obtain ⟨kind, hkind, rfl⟩ := List.mem_map.mp h
      exact .inl ⟨kind, hkind, rfl⟩
  | complete | named | wildcard =>
      exact (hafter h).imp (fun hslash => ⟨_, List.mem_singleton_self _, hslash⟩)
        (fun hend => ⟨hend, _, rfl⟩)
  | _ => exact .inl ⟨_, List.mem_singleton_self _, List.mem_singleton.mp h⟩

/-- What a stage does with a token depends on the kind of the token, except that the
number of a bound may be too large. -/
theorem step_by_kind (stage : Stage) (kind : TokenKind) :
    (∃ next : String → Stage, ∀ text, stage.step ⟨kind, text⟩ = .ok (next text)) ∨
      (stage.problem = .expected .integer ∧
        ∃ next : Nat → Stage, ∀ text, stage.step ⟨kind, text⟩ = (bound text).map next) ∨
      ∀ text, stage.step ⟨kind, text⟩ = .error stage.problem := by
  cases stage <;> cases kind <;>
    first
    | exact .inr (.inr fun _ => rfl)
    | exact .inl ⟨_, fun _ => rfl⟩
    | exact .inr (.inl ⟨rfl, _, fun _ => rfl⟩)

/-- Whatever is wrong with a token, what the stage expects is listed. -/
theorem expectations_of_step_eq_error (h : stage.step lexeme = .error problem) :
    problem.expectations = stage.problem.expectations := by
  rcases stage.step_by_kind lexeme.kind with ⟨next, htaken⟩ | ⟨hproblem, next, hbound⟩ | hnone
  · rw [htaken] at h
    cases h
  · rw [hbound, bound] at h
    split at h
    · cases h
    · obtain rfl : .boundTooLarge lexeme.text = problem := Except.error.inj h
      rw [hproblem]
      rfl
  · rw [hnone] at h
    rw [← Except.error.inj h]

/-- What is expected after a token would not be scanned together with it. -/
theorem glues_eq_false_of_step (h : stage.step lexeme = .ok next)
    (hkind : kind ∈ next.problem.kinds) : lexeme.kind.glues kind = false := by
  obtain ⟨first, text⟩ := lexeme
  cases first with
  | identifier =>
      cases stage <;> cases h <;>
      · obtain rfl := List.mem_singleton.mp hkind
        rfl
  | integer =>
      cases stage with
      | lower symbol =>
          obtain ⟨number, -, rfl⟩ := exists_bound_of_map_eq_ok h
          obtain rfl : kind = .closeBrace := List.mem_singleton.mp hkind
          rfl
      | upper symbol min =>
          obtain ⟨number, -, rfl⟩ := exists_bound_of_map_eq_ok h
          obtain rfl : kind = .closeBrace := List.mem_singleton.mp hkind
          rfl
      | _ => cases h
  | whitespace =>
      cases stage <;> cases h <;>
      · obtain rfl := List.mem_singleton.mp hkind
        rfl
  | string => exact (TokenKind.separates_string kind).2
  | _ => exact (TokenKind.separates_of_symbol rfl kind).2

/-! ## Tokens that grow -/

/-- A stage that takes the longer token takes the shorter one. -/
theorem exists_step_of_grows (hgrows : lexeme.Grows grown)
    (h : stage.step grown = .ok next) : ∃ other, stage.step lexeme = .ok other := by
  obtain ⟨hkind, more, hmore⟩ := hgrows
  rcases stage.step_by_kind lexeme.kind with ⟨taken, htaken⟩ | ⟨-, taken, hbound⟩ | hnone
  · exact ⟨_, htaken lexeme.text⟩
  · have hgrown : (bound grown.text).map taken = .ok next := by
      rw [← hbound, ← hkind]
      exact h
    obtain ⟨_, ⟨hsmall⟩, -⟩ := exists_bound_of_map_eq_ok hgrown
    have hle : Decimal.value lexeme.text.toList ≤ Decimal.value grown.text.toList := by
      rw [← hmore]
      exact Decimal.value_le_value_append _ _
    refine ⟨taken (Decimal.value lexeme.text.toList), ?_⟩
    rw [hbound lexeme.text, bound_of_lt (Nat.lt_of_le_of_lt hle hsmall)]
    rfl
  · have hgrown : stage.step grown = .error stage.problem := by
      have hnone := hnone grown.text
      rwa [← hkind] at hnone
    rw [hgrown] at h
    cases h

end Stage

namespace Reader

variable {lexemes : List Lexeme} {lexeme grown : Lexeme} {reader next : Reader}
  {kind : TokenKind} {problem : ReadProblem} {parts : List Part}

theorem step_eq_ok_cases (h : reader.step lexeme = .ok next) :
    (lexeme.kind = .slash ∧ next.stage = .start ∧ ∃ part, reader.stage.part? = some part) ∨
      reader.stage.step lexeme = .ok next.stage := by
  unfold step at h
  split at h
  · next part hslash hpart =>
      obtain rfl := Except.ok.inj h
      exact .inl ⟨hslash, rfl, part, hpart⟩
  · cases hstage : reader.stage.step lexeme with
    | error problem =>
        rw [hstage] at h
        cases h
    | ok stage =>
        rw [hstage] at h
        obtain rfl := Except.ok.inj h
        exact .inr rfl

theorem stage_step_of_step_eq_error (h : reader.step lexeme = .error problem) :
    reader.stage.step lexeme = .error problem := by
  unfold step at h
  split at h
  · cases h
  · cases hstage : reader.stage.step lexeme with
    | error stop =>
        rw [hstage] at h
        rw [Except.error.inj h]
    | ok stage =>
        rw [hstage] at h
        cases h

theorem exists_step_of_slash {part : Part} (hslash : lexeme.kind = .slash)
    (hpart : reader.stage.part? = some part) : ∃ next, reader.step lexeme = .ok next := by
  obtain ⟨kind, text⟩ := lexeme
  obtain rfl : kind = .slash := hslash
  exact ⟨_, step_of_slash hpart⟩

theorem exists_step_of_mem_kinds (h : kind ∈ reader.stage.problem.kinds) :
    ∃ next, reader.step kind.sample = .ok next := by
  rcases Stage.exists_step_of_mem_kinds h with ⟨rfl, part, hpart⟩ | ⟨stage, hstage⟩
  · exact exists_step_of_slash rfl hpart
  · exact ⟨_, step_of_stage hstage⟩

theorem glues_eq_false_of_step (h : reader.step lexeme = .ok next)
    (hkind : kind ∈ next.stage.problem.kinds) : lexeme.kind.glues kind = false := by
  rcases step_eq_ok_cases h with ⟨hslash, -, -⟩ | hstage
  · rw [hslash]
    exact (TokenKind.separates_of_symbol rfl kind).2
  · exact Stage.glues_eq_false_of_step hstage hkind

theorem exists_step_of_grows (hgrows : lexeme.Grows grown)
    (h : reader.step grown = .ok next) : ∃ other, reader.step lexeme = .ok other := by
  rcases step_eq_ok_cases h with ⟨hslash, -, part, hpart⟩ | hstage
  · exact exists_step_of_slash (hgrows.kind.symm.trans hslash) hpart
  · obtain ⟨other, hother⟩ := Stage.exists_step_of_grows hgrows hstage
    exact ⟨_, step_of_stage hother⟩

/-! ## What was taken can be completed -/

/-- The reader has taken the tokens, and they are the tokens of a text. -/
structure Takes (reader : Reader) (lexemes : List Lexeme) : Prop where
  tokens : ∀ lexeme ∈ lexemes, lexeme.IsToken
  apart : Lexeme.Apart lexemes
  leads : Leads step initial lexemes reader

/-- A token that is expected can be written behind what was taken. -/
theorem Takes.snoc (h : reader.Takes lexemes) (hkind : kind ∈ reader.stage.problem.kinds)
    (hstep : reader.step kind.sample = .ok next) :
    next.Takes (lexemes ++ [kind.sample]) := by
  have htokens : ∀ lexeme ∈ lexemes ++ [kind.sample], lexeme.IsToken := by
    intro lexeme hlexeme
    rcases List.mem_append.mp hlexeme with hbefore | hlast
    · exact h.tokens lexeme hbefore
    · rw [List.mem_singleton.mp hlast]
      exact kind.isToken_sample
  have hapart : Lexeme.Apart (lexemes ++ [kind.sample]) := by
    refine List.isChain_append.mpr ⟨h.apart, Lexeme.apart_singleton _, ?_⟩
    intro last hlast second hsecond
    obtain rfl : kind.sample = second := by simpa using hsecond
    obtain ⟨front, rfl⟩ := List.getLast?_eq_some_iff.mp hlast
    obtain ⟨middle, -, hmiddle⟩ := leads_append_iff.mp h.leads
    obtain ⟨final, hfinal, hnil⟩ := leads_cons_iff.mp hmiddle
    obtain rfl := leads_nil_iff.mp hnil
    rw [TokenKind.kind_sample]
    exact glues_eq_false_of_step hfinal hkind
  exact ⟨htokens, hapart, h.leads.snoc hstep⟩

/-- What was taken can be completed, by induction on the tokens that are missing. -/
theorem Takes.exists_completion (h : reader.Takes lexemes) :
    ∃ (more : List Lexeme) (final : Reader) (parts : List Part),
      final.Takes (lexemes ++ more) ∧ final.finish = .ok parts := by
  induction hmissing : reader.stage.missing generalizing lexemes reader with
  | nil =>
      obtain ⟨part, hpart⟩ := Stage.exists_part_of_missing hmissing
      exact ⟨[], reader, _, by simpa using h, finish_eq_ok_iff.mpr ⟨part, hpart, rfl⟩⟩
  | cons kind rest ih =>
      obtain ⟨hkind, stage, hstage, hrest⟩ := Stage.exists_step_of_missing hmissing
      have hnext := h.snoc hkind (step_of_stage hstage)
      obtain ⟨more, final, parts, hmore, hfinish⟩ := ih hnext hrest
      exact ⟨kind.sample :: more, final, parts, by rwa [List.append_cons], hfinish⟩

/-- Where a part may end, what was taken is a schema text. -/
theorem Takes.exists_scan (h : reader.Takes lexemes) (hfinish : reader.finish = .ok parts) :
    ∃ tokens, Token.scan (Lexeme.written lexemes) = .ok tokens ∧
      tokens.map Token.toLexeme = lexemes ∧
      Part.ofText (Lexeme.written lexemes) = .ok parts := by
  obtain ⟨tokens, htokens, hlexemes⟩ := Token.exists_scanFrom_of_apart h.tokens h.apart 0
  have hscan : Token.scan (Lexeme.written lexemes) = .ok tokens := by
    rw [Token.scan, Lexeme.written, String.toList_ofList]
    exact htokens
  have hparts : Part.ofTokens tokens = .ok parts := by
    rw [Part.ofTokens_eq_ok_iff, hlexemes]
    exact ⟨reader, h.leads, hfinish⟩
  exact ⟨tokens, hscan, hlexemes, (Part.ofText_of_scan hscan).mpr hparts⟩

/-- A reader that fails has taken the tokens before some place, does not take the token
at that place, and the message lists what it expects there. -/
theorem exists_stop_of_run_eq_error {tokens : List Token} {error : ReadError}
    (h : reader.run tokens = .error error) :
    ∃ before token after middle, tokens = before ++ token :: after ∧
      Leads step reader (before.map Token.toLexeme) middle ∧
      middle.step token.toLexeme = .error error.problem ∧ error.found = some token := by
  induction tokens generalizing reader with
  | nil => cases h
  | cons token rest ih =>
      rw [run] at h
      cases hstep : reader.step token.toLexeme with
      | error problem =>
          rw [hstep] at h
          obtain rfl := Except.error.inj h
          exact ⟨[], token, rest, reader, rfl, leads_nil reader, hstep, rfl⟩
      | ok next =>
          rw [hstep] at h
          obtain ⟨before, stop, after, middle, rfl, hleads, hstop⟩ := ih h
          exact ⟨token :: before, stop, after, middle, rfl, leads_cons hstep hleads, hstop⟩

end Reader

namespace Part

/-! ## Schema texts that go on -/

/-- Some schema text begins with the characters. -/
def Completable (front : List Char) : Prop :=
  ∃ text parts, front <+: text.toList ∧ ofText text = .ok parts

/-- Some schema text begins with the characters and has the token behind them. -/
def Admits (front : List Char) (lexeme : Lexeme) : Prop :=
  ∃ text tokens parts, front ++ lexeme.source <+: text.toList ∧
    Token.scan text = .ok tokens ∧ ⟨lexeme, Text.byteLength front⟩ ∈ tokens ∧
    ofText text = .ok parts

variable {lexemes : List Lexeme} {lexeme : Lexeme} {reader : Reader} {kind : TokenKind}
  {problem : ReadProblem} {text : String} {error : ReadError}

theorem completable_of_takes (h : reader.Takes lexemes) :
    Completable (lexemes.flatMap Lexeme.source) := by
  obtain ⟨more, final, parts, htakes, hfinish⟩ := h.exists_completion
  obtain ⟨tokens, -, -, hparts⟩ := htakes.exists_scan hfinish
  refine ⟨_, parts, ?_, hparts⟩
  rw [Lexeme.written, String.toList_ofList, List.flatMap_append]
  exact List.prefix_append _ _

/-- A token of each expected kind can stand behind what was taken. -/
theorem admits_of_takes (h : reader.Takes lexemes)
    (hkind : kind ∈ reader.stage.problem.kinds) :
    Admits (lexemes.flatMap Lexeme.source) kind.sample := by
  obtain ⟨next, hstep⟩ := Reader.exists_step_of_mem_kinds hkind
  obtain ⟨more, final, parts, htakes, hfinish⟩ := (h.snoc hkind hstep).exists_completion
  obtain ⟨tokens, hscan, hlexemes, hparts⟩ := htakes.exists_scan hfinish
  refine ⟨_, tokens, parts, ?_, hscan, ?_, hparts⟩
  · rw [Lexeme.written, String.toList_ofList, List.flatMap_append, List.flatMap_append,
      List.flatMap_singleton]
    exact List.prefix_append _ _
  · rw [← List.append_cons] at hlexemes
    obtain ⟨before, rest, rfl, rfl, hrest⟩ := List.map_eq_append_iff.mp hlexemes
    obtain ⟨token, after, rfl, htoken, -⟩ := List.map_eq_cons_iff.mp hrest
    have hplace := Token.position_of_scanFrom hscan
    rw [Nat.zero_add] at hplace
    rw [← htoken, ← hplace]
    simp

/-- No schema text begins with what was taken and a token that is not. -/
theorem not_completable_of_step (h : reader.Takes lexemes) (htoken : lexeme.IsToken)
    (hapart : Lexeme.Apart (lexemes ++ [lexeme])) (hstep : reader.step lexeme = .error problem) :
    ¬Completable ((lexemes ++ [lexeme]).flatMap Lexeme.source) := by
  rintro ⟨text, parts, ⟨more, htext⟩, hparts⟩
  have htokens : ∀ other ∈ lexemes ++ [lexeme], other.IsToken := by
    intro other hother
    rcases List.mem_append.mp hother with hbefore | hlast
    · exact h.tokens other hbefore
    · rwa [List.mem_singleton.mp hlast]
  obtain ⟨tokens, hscan, hread⟩ := exists_tokens_of_ofText hparts
  rw [Token.scan, ← htext] at hscan
  obtain ⟨grown, others, hlexemes, hgrows⟩ :=
    Token.exists_grown_of_scanFrom htokens hapart hscan
  obtain ⟨final, hleads, -⟩ := ofTokens_eq_ok_iff.mp hread
  rw [hlexemes] at hleads
  obtain ⟨middle, hbefore, hrest⟩ := leads_append_iff.mp hleads
  obtain rfl := hbefore.unique h.leads
  obtain ⟨next, hgrown, -⟩ := leads_cons_iff.mp hrest
  obtain ⟨other, hother⟩ := Reader.exists_step_of_grows hgrows hgrown
  rw [hstep] at hother
  cases hother

/-- Where some tokens stop being parts: behind those that were taken. -/
theorem exists_stop_of_ofTokens_eq_error {tokens : List Token}
    (h : ofTokens tokens = .error error) :
    ∃ (before after : List Token) (reader : Reader), tokens = before ++ after ∧
      Leads Reader.step .initial (before.map Token.toLexeme) reader ∧
      error.found = after.head? ∧
      error.problem.expectations = reader.stage.problem.expectations ∧
      ∀ token ∈ after.head?, ∃ problem, reader.step token.toLexeme = .error problem := by
  cases hrun : Reader.initial.run tokens with
  | error stop =>
      rw [ofTokens, hrun] at h
      obtain rfl := Except.error.inj h
      obtain ⟨before, token, after, reader, rfl, hleads, hstep, hfound⟩ :=
        Reader.exists_stop_of_run_eq_error hrun
      refine ⟨before, token :: after, reader, rfl, hleads, hfound, ?_, ?_⟩
      · exact Stage.expectations_of_step_eq_error (Reader.stage_step_of_step_eq_error hstep)
      · intro other hother
        obtain rfl : token = other := by simpa using hother
        exact ⟨_, hstep⟩
  | ok reader =>
      rw [ofTokens, hrun] at h
      have hfinish : reader.finish = .error error := h
      unfold Reader.finish at hfinish
      split at hfinish
      · cases hfinish
      · obtain rfl := Except.error.inj hfinish
        exact ⟨tokens, [], reader, by simp, Reader.run_eq_ok_iff.mp hrun, rfl, rfl, by simp⟩

/-! ## The place of an error -/

/-- What an entry in a list of expectations says of the characters before it. -/
def Holds (front : List Char) (entry : String) : Prop :=
  (∃ lexeme : Lexeme, entry = lexeme.kind.describe ∧ Admits front lexeme) ∨
    (entry = "end of schema" ∧ ∃ parts, ofText (String.ofList front) = .ok parts) ∨
    entry = "schema part" ∧ front = [] ∧ ∃ text part, ofText text = .ok [part]

/-- Between `front` and `back` reading has to stop: some schema text begins with `front`,
but none goes on with the next token of `back`.  What the message shows is that token,
or the end of the text, and what it lists could stand there. -/
structure StopsBetween (text : String) (front back : List Char) (expected : List String)
    (found : String) : Prop where
  cut : text.toList = front ++ back
  viable : Completable front
  token : back ≠ [] → ∃ tokens token, Token.scan text = .ok tokens ∧ token ∈ tokens ∧
    token.position = Text.byteLength front ∧ token.source <+: back ∧
    found = (if token.kind = .whitespace then "whitespace" else token.text) ∧
    ¬Completable (front ++ token.source)
  endOfText : back = [] → found = "EOF"
  sound : ∀ entry ∈ expected, Holds front entry

theorem exists_ofText_singleton : ∃ text part, ofText text = .ok [part] :=
  ⟨"a", .literal "a", by decide +kernel⟩

theorem stopsBetween_empty : StopsBetween "" [] [] ["schema part"] "EOF" where
  cut := rfl
  viable := by
    obtain ⟨text, part, hpart⟩ := exists_ofText_singleton
    exact ⟨text, [part], List.nil_prefix, hpart⟩
  token := fun hback => absurd rfl hback
  endOfText := fun _ => rfl
  sound := by
    intro entry hentry
    exact .inr (.inr ⟨List.mem_singleton.mp hentry, rfl, exists_ofText_singleton⟩)

theorem holds_of_takes (h : reader.Takes lexemes) {entry : String}
    (hentry : entry ∈ reader.stage.problem.expectations) :
    Holds (lexemes.flatMap Lexeme.source) entry := by
  rcases Stage.of_mem_expectations hentry with ⟨kind, hkind, rfl⟩ | ⟨rfl, part, hpart⟩
  · refine .inl ⟨kind.sample, ?_, admits_of_takes h hkind⟩
    rw [TokenKind.kind_sample]
  · have hfinish : reader.finish = .ok (reader.parts ++ [part]) :=
      Reader.finish_eq_ok_iff.mpr ⟨part, hpart, rfl⟩
    obtain ⟨tokens, -, -, hparts⟩ := h.exists_scan hfinish
    exact .inr (.inl ⟨rfl, _, hparts⟩)

/-- The text before the first token that cannot come, and the text from it on. -/
theorem exists_stopsBetween {tokens : List Token} (hscan : Token.scan text = .ok tokens)
    (h : ofTokens tokens = .error error) :
    ∃ front back, Text.byteLength front = error.position text ∧
      StopsBetween text front back error.problem.expectations error.foundText := by
  obtain ⟨before, after, reader, rfl, hleads, hfound, hexpected, hstop⟩ :=
    exists_stop_of_ofTokens_eq_error h
  obtain ⟨problem, found⟩ := error
  obtain rfl : found = after.head? := hfound
  have htokens := Token.isToken_of_scanFrom hscan
  have hapart := Token.apart_of_scanFrom hscan
  have htext := Token.flatMap_source_of_scanFrom hscan
  rw [List.map_append] at hapart htext
  rw [List.flatMap_append] at htext
  have htakes : reader.Takes (before.map Token.toLexeme) := by
    refine ⟨?_, hapart.left_of_append, hleads⟩
    intro lexeme hlexeme
    obtain ⟨token, htoken, rfl⟩ := List.mem_map.mp hlexeme
    exact htokens token (List.mem_append_left _ htoken)
  have hsound : ∀ entry ∈ problem.expectations,
      Holds ((before.map Token.toLexeme).flatMap Lexeme.source) entry := by
    rw [hexpected]
    exact fun entry hentry => holds_of_takes htakes hentry
  refine ⟨(before.map Token.toLexeme).flatMap Lexeme.source,
    (after.map Token.toLexeme).flatMap Lexeme.source, ?_, htext.symm,
    completable_of_takes htakes, ?_, ?_, hsound⟩
  · cases after with
    | nil =>
        rw [List.map_nil, List.flatMap_nil, List.append_nil] at htext
        rw [htext]
        rfl
    | cons token rest =>
        have hplace := Token.position_of_scanFrom hscan
        rw [Nat.zero_add] at hplace
        exact hplace.symm
  · cases after with
    | nil => exact fun hback => absurd rfl hback
    | cons token rest =>
        intro _
        obtain ⟨stop, hstep⟩ := hstop token rfl
        have hplace := Token.position_of_scanFrom hscan
        rw [Nat.zero_add] at hplace
        have hstopped : Lexeme.Apart (before.map Token.toLexeme ++ [token.toLexeme]) := by
          rw [List.map_cons, List.append_cons] at hapart
          exact hapart.left_of_append
        have hnone := not_completable_of_step htakes (htokens token (by simp)) hstopped hstep
        rw [List.flatMap_append, List.flatMap_singleton] at hnone
        exact ⟨_, token, hscan, by simp, hplace, List.prefix_append _ _, rfl, hnone⟩
  · cases after with
    | nil => exact fun _ => rfl
    | cons token rest =>
        intro hback
        obtain ⟨c, others, hsource, -⟩ := htokens token (by simp)
        rw [List.map_cons, List.flatMap_cons, hsource] at hback
        cases hback

/-- A text that can be scanned but not read is refused at the first token with which no
schema text goes on, or at its end, and every expectation that the message lists could
be met there. -/
theorem stops_at_first_token_without_continuation {text message input found : String}
    {position : Nat} {expected : List String}
    (h : (ofText text).mapError (Fault.ofParseError text) =
      .error (.ungrammatical message position input expected found)) :
    ∃ front back, Text.byteLength front = position ∧
      StopsBetween text front back expected found := by
  by_cases hempty : text = ""
  · subst hempty
    have hfault : Fault.ofParseError "" (.read ⟨.emptyText, none⟩) =
        .ungrammatical message position input expected found := Except.error.inj h
    obtain ⟨-, rfl, -, rfl, rfl⟩ := Fault.ungrammatical.inj hfault
    exact ⟨[], [], rfl, stopsBetween_empty⟩
  · rw [ofText, if_neg hempty] at h
    cases hscan : Token.scan text with
    | error error =>
        rw [hscan] at h
        cases h
    | ok tokens =>
        rw [hscan] at h
        dsimp only at h
        cases hread : ofTokens tokens with
        | ok parts =>
            rw [hread] at h
            cases h
        | error error =>
            rw [hread] at h
            have hfault : Fault.ofParseError text (.read error) =
                .ungrammatical message position input expected found := Except.error.inj h
            obtain ⟨-, rfl, -, rfl, rfl⟩ := Fault.ungrammatical.inj hfault
            exact exists_stopsBetween hscan hread

/-- The number of a bound is read and then found too large, behind a pattern with a
character of two bytes. -/
theorem stops_at_bound_too_large :
    (ofText "\"é\"/+\x7b18446744073709551616,2\x7d").mapError
        (Fault.ofParseError "\"é\"/+\x7b18446744073709551616,2\x7d") =
      .error (.ungrammatical
        ("Invalid quantifier bound '18446744073709551616': " ++
          "number too large to fit in target type")
        7 "\"é\"/+\x7b18446744073709551616,2\x7d" ["integer"] "18446744073709551616") ∧
    ∃ front back, Text.byteLength front = 7 ∧
      StopsBetween "\"é\"/+\x7b18446744073709551616,2\x7d" front back ["integer"]
        "18446744073709551616" := by
  have h : (ofText "\"é\"/+\x7b18446744073709551616,2\x7d").mapError
        (Fault.ofParseError "\"é\"/+\x7b18446744073709551616,2\x7d") =
      .error (.ungrammatical
        ("Invalid quantifier bound '18446744073709551616': " ++
          "number too large to fit in target type")
        7 "\"é\"/+\x7b18446744073709551616,2\x7d" ["integer"]
        "18446744073709551616") := by
    decide +kernel
  exact ⟨h, stops_at_first_token_without_continuation h⟩

end Part

end PathSchema
