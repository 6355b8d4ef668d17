import PathSchema.Pattern.Library

/-!
# Patterns of schema parts

The pattern of a part is meant to match whole segments, so it is read with
anchors around it.  The anchors are put around its text, not around its
expression: a pattern that closes the group it stands in is read as it comes.
-/

namespace PathSchema

/-- The text of a pattern between anchors for the whole segment. -/
def Pattern.anchored (source : String) : String :=
  "^(?:" ++ source ++ ")$"

variable [RegexLibrary]

/-- A pattern that compiles between anchors. -/
structure Pattern where
  source : String
  compiles : RegexLibrary.refusal? (Pattern.anchored source) = none
  deriving DecidableEq

namespace Pattern

/-- Compiles a pattern between anchors, or says why it does not compile. -/
def ofText (source : String) : Except String Pattern :=
  match h : RegexLibrary.refusal? (anchored source) with
  | some message => .error message
  | none => .ok ⟨source, h⟩

def isMatch (pattern : Pattern) (segment : String) : Bool :=
  RegexLibrary.isMatch (anchored pattern.source) segment

@[ext] theorem ext {p q : Pattern} (h : p.source = q.source) : p = q := by
  obtain ⟨s, hs⟩ := p
  obtain ⟨t, ht⟩ := q
  obtain rfl : s = t := h
  rfl

theorem ofText_eq_ok_iff {source : String} {pattern : Pattern} :
    ofText source = .ok pattern ↔ pattern.source = source := by
  unfold ofText
  split
  · next message h =>
      constructor
      · intro hok
        cases hok
      · rintro rfl
        have hcompiles := pattern.compiles
        rw [hcompiles] at h
        cases h
  · constructor
    · intro hok
      rw [← Except.ok.inj hok]
    · rintro rfl
      rfl

end Pattern

end PathSchema
