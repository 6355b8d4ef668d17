import PathSchema.Pattern

/-!
# What a library of expressions promises

A library promises which texts are expressions and which stretches of a text they match.
Nothing is assumed of what stands in a group but that it is an expression: anchors and
groups match what they match wherever they stand, and the parenthesis that closes a group is
where the expression in it ends.  An anchored pattern is written out of such pieces, so what
it matches follows, unless the pattern ends its group too early.
-/

namespace PathSchema

/-- Which texts are expressions, and which stretches of a text they match. -/
structure RegexLanguage where
  Valid : (expression : String) → Prop
  /-- The stretch stands between two others. -/
  Spans : (expression before matched after : String) → Prop

namespace RegexLanguage

/-- A piece that is complete in itself. -/
inductive Piece where
  | start
  | finish
  | group (inner : String)

def Piece.text : Piece → String
  | start => "^"
  | finish => "$"
  | group inner => "(?:" ++ inner ++ ")"

def Piece.join (pieces : List Piece) : String :=
  String.join (pieces.map text)

variable (language : RegexLanguage)

/-- The text is an expression, and a group can be made of it. -/
structure Encloses (inner : String) : Prop where
  valid : language.Valid inner
  group_valid : language.Valid (Piece.group inner).text

/-- The groups among some pieces are made of expressions. -/
def Grouped (pieces : List Piece) : Prop :=
  ∀ inner, .group inner ∈ pieces → language.Encloses inner

/-- Each of the pieces matches a stretch, one after the other. -/
def Follow : List Piece → (before matched after : String) → Prop
  | [], _, matched, _ => matched = ""
  | piece :: rest, before, matched, after =>
    ∃ first others, matched = first ++ others ∧
      language.Spans piece.text before first (others ++ after) ∧
      Follow rest (before ++ first) others after

/-- The text ends the group that is put around it: it begins with an expression and a
parenthesis. -/
def ClosesGroup (text : String) : Prop :=
  ∃ inner behind, text = inner ++ ")" ++ behind ∧ language.Encloses inner

end RegexLanguage

namespace RegexLibrary

open RegexLanguage

variable [RegexLibrary]

/-- The library keeps what is promised of its expressions. -/
structure Documented (language : RegexLanguage) : Prop where
  /-- A text that is no expression is refused. -/
  compiles : ∀ {expression}, refusal? expression = none → language.Valid expression
  /-- A search finds a stretch anywhere in the text. -/
  search : ∀ {expression}, refusal? expression = none → ∀ text,
    isMatch expression text = true ↔
      ∃ before matched after, text = before ++ matched ++ after ∧
        language.Spans expression before matched after
  /-- The caret matches at the start of a text. -/
  start : ∀ {before matched after},
    language.Spans Piece.start.text before matched after ↔ before = "" ∧ matched = ""
  /-- The dollar sign matches at the end of a text. -/
  finish : ∀ {before matched after},
    language.Spans Piece.finish.text before matched after ↔ matched = "" ∧ after = ""
  /-- A group matches what the expression in it matches. -/
  group : ∀ {inner}, language.Encloses inner → ∀ {before matched after},
    language.Spans (Piece.group inner).text before matched after ↔
      language.Spans inner before matched after
  /-- Pieces that are written one after the other match one after the other. -/
  concatenation : ∀ {pieces}, language.Grouped pieces → language.Valid (Piece.join pieces) →
    ∀ {before matched after},
      language.Spans (Piece.join pieces) before matched after ↔
        language.Follow pieces before matched after
  /-- A group that is opened holds an expression and is closed behind it. -/
  closing : ∀ {pieces rest}, language.Grouped pieces →
    language.Valid (Piece.join pieces ++ "(?:" ++ rest) → language.ClosesGroup rest
  /-- A parenthesis behind an expression closes no group. -/
  unopened : ∀ {text}, language.ClosesGroup text → ¬language.Valid text

namespace Documented

variable {language : RegexLanguage}

/-- A text that compiles between anchors is an expression, or it ends the group around it. -/
theorem encloses_or_closesGroup (h : Documented language) {source : String}
    (hcompiles : refusal? (Pattern.anchored source) = none) :
    language.Encloses source ∨ language.ClosesGroup source := by
  have htext : Pattern.anchored source = Piece.join [.start] ++ "(?:" ++ (source ++ ")$") := by
    rw [← String.toList_inj]
    simp [Pattern.anchored, Piece.join, Piece.text]
  have hvalid := h.compiles hcompiles
  rw [htext] at hvalid
  have hgrouped : language.Grouped [.start] := by simp [Grouped]
  obtain ⟨inner, behind, hrest, hinner⟩ := h.closing hgrouped hvalid
  have hlists : source.toList ++ [')', '$'] = inner.toList ++ ')' :: behind.toList := by
    simpa using congrArg String.toList hrest
  rcases List.append_eq_append_iff.mp hlists with ⟨more, hlonger, hend⟩ | ⟨more, hlonger, hend⟩
  · rcases more with _ | ⟨c, more⟩
    · rw [List.append_nil, String.toList_inj] at hlonger
      exact .inl (hlonger ▸ hinner)
    · obtain ⟨rfl, hdollar⟩ := List.cons.inj hend
      rcases more with _ | ⟨c, more⟩
      · cases hdollar
      · simp at hdollar
  · rcases more with _ | ⟨c, more⟩
    · rw [List.append_nil, String.toList_inj] at hlonger
      exact .inl (hlonger ▸ hinner)
    · obtain ⟨rfl, -⟩ := List.cons.inj hend
      refine .inr ⟨inner, String.ofList more, ?_, hinner⟩
      rw [← String.toList_inj, hlonger]
      simp

/-- An expression between anchors matches the texts that it matches from the first to the
last character. -/
theorem isMatch_anchored_iff (h : Documented language) {source : String}
    (hcompiles : refusal? (Pattern.anchored source) = none)
    (hencloses : language.Encloses source) {text : String} :
    isMatch (Pattern.anchored source) text = true ↔ language.Spans source "" text "" := by
  have hpieces : Pattern.anchored source = Piece.join [.start, .group source, .finish] := by
    rw [← String.toList_inj]
    simp [Pattern.anchored, Piece.join, Piece.text]
  have hgrouped : language.Grouped [.start, .group source, .finish] := by
    intro inner hinner
    obtain rfl : inner = source := by simpa using hinner
    exact hencloses
  have hvalid := h.compiles hcompiles
  rw [h.search hcompiles]
  rw [hpieces] at hvalid ⊢
  simp only [h.concatenation hgrouped hvalid, Follow, h.start, h.finish, h.group hencloses]
  constructor
  · rintro ⟨_, _, _, rfl, _, _, rfl, ⟨rfl, rfl⟩, taken, _, rfl, hspans, _, _, rfl, ⟨rfl, hafter⟩,
      rfl⟩
    obtain rfl : _ = "" := by simpa using hafter
    simpa using hspans
  · intro hspans
    exact ⟨"", text, "", by simp, "", text, by simp, ⟨rfl, rfl⟩, text, "", by simp,
      by simpa using hspans, "", "", by simp, by simp, rfl⟩

end Documented

end RegexLibrary

end PathSchema
