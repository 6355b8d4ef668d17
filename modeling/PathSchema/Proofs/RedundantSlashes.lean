import Mathlib.Data.List.Infix
import Mathlib.Logic.Relation
import PathSchema.Evaluation
import PathSchema.Extraction
import PathSchema.Proofs.Path
import PathSchema.Pattern.Engine

/-!
# Redundant slashes

A slash between two texts puts the segments of the second one behind those of the first, so
a slash at an end of a path or behind another slash adds nothing.  Leaving out such slashes
one by one leads from every path to the one that joins its segments; so two paths have the
same segments exactly if they differ in redundant slashes only.

Validation sees nothing of a path but its segments.  Extraction also sees the path as it was
given, but only to show it in the fault.
-/

namespace PathSchema

namespace Path

/-- A slash at an end of the text, or the second of two in a row, is left out. -/
inductive DropsSlash : String → String → Prop where
  | leading (rest : String) : DropsSlash ("/" ++ rest) rest
  | trailing (front : String) : DropsSlash (front ++ "/") front
  | doubled (front rest : String) : DropsSlash (front ++ "//" ++ rest) (front ++ "/" ++ rest)

/-- The texts differ in redundant slashes only. -/
def SameButSlashes : String → String → Prop :=
  Relation.EqvGen DropsSlash

/-! ## Segments behind segments -/

theorem split_append_slash (first second : String) :
    split (first ++ "/" ++ second) = split first ++ split second := by
  have htext : (first ++ "/" ++ second).toList = first.toList ++ '/' :: second.toList := by
    simp
  rw [split, htext, List.splitOn_append_cons_self, List.filter_append, List.map_append]
  rfl

theorem split_empty : split "" = [] :=
  rfl

/-- Segments are found again in the path that joins them, unless one of them is empty or has
a slash. -/
theorem split_join_eq_iff {segments : List String} :
    split (join segments) = segments ↔
      ∀ segment ∈ segments, segment ≠ "" ∧ SlashFree segment := by
  constructor
  · intro h segment hsegment
    rw [← h] at hsegment
    exact ⟨ne_empty_of_mem_split hsegment, slashFree_of_mem_split hsegment⟩
  · intro h
    by_cases hne : segments = []
    · rw [hne]
      rfl
    · have hjoinable : Joinable segments := ⟨hne, fun segment hmem => (h segment hmem).2⟩
      rw [split_eq_filter_splitAll, splitAll_join hjoinable, List.filter_eq_self]
      exact fun segment hmem => decide_eq_true (h segment hmem).1

/-! ## Leaving out slashes -/

theorem split_eq_of_dropsSlash {path other : String} (h : DropsSlash path other) :
    split path = split other := by
  cases h with
  | leading =>
      have htext : "/" ++ other = "" ++ "/" ++ other := by simp
      rw [htext, split_append_slash, split_empty, List.nil_append]
  | trailing =>
      have htext : other ++ "/" = other ++ "/" ++ "" := by simp
      rw [htext, split_append_slash, split_empty, List.append_nil]
  | doubled front rest =>
      have htext : front ++ "//" ++ rest = front ++ "/" ++ ("" ++ "/" ++ rest) := by
        rw [← String.toList_inj]
        simp
      rw [htext, split_append_slash, split_append_slash, split_append_slash, split_empty,
        List.nil_append]

theorem split_eq_of_sameButSlashes {path other : String} (h : SameButSlashes path other) :
    split path = split other := by
  induction h with
  | rel path other hdrops => exact split_eq_of_dropsSlash hdrops
  | refl path => rfl
  | symm path other _ ih => exact ih.symm
  | trans path middle other _ _ hfirst hsecond => exact hfirst.trans hsecond

theorem length_lt_of_dropsSlash {path other : String} (h : DropsSlash path other) :
    other.length < path.length := by
  have hone : "/".length = 1 := rfl
  have htwo : "//".length = 2 := rfl
  cases h <;> simp only [String.length_append, hone, htwo] <;> omega

/-- A text that is neither empty nor tight has a slash that can be left out. -/
theorem exists_dropsSlash {text : String} (hne : text ≠ "") (hloose : ¬Tight text) :
    ∃ other, DropsSlash text other := by
  have hplace : ['/'] <+: text.toList ∨ ['/'] <:+ text.toList ∨
      ['/', '/'] <:+: text.toList := by
    by_contra hnone
    rw [not_or, not_or] at hnone
    exact hloose ⟨hne, hnone.1, hnone.2.1, hnone.2.2⟩
  rcases hplace with ⟨rest, hrest⟩ | ⟨front, hfront⟩ | ⟨front, rest, hboth⟩
  · have htext : "/" ++ String.ofList rest = text := by
      rw [← String.toList_inj, ← hrest]
      simp
    rw [← htext]
    exact ⟨_, .leading _⟩
  · have htext : String.ofList front ++ "/" = text := by
      rw [← String.toList_inj, ← hfront]
      simp
    rw [← htext]
    exact ⟨_, .trailing _⟩
  · have htext : String.ofList front ++ "//" ++ String.ofList rest = text := by
      rw [← String.toList_inj, ← hboth]
      simp
    rw [← htext]
    exact ⟨_, .doubled _ _⟩

/-- Without its redundant slashes a text is the path that joins its segments. -/
theorem sameButSlashes_join_split (text : String) : SameButSlashes text (join (split text)) := by
  by_cases hne : text = ""
  · rw [hne]
    exact .refl _
  · by_cases htight : Tight text
    · rw [split_eq_splitAll_iff.mpr htight, join_splitAll]
      exact .refl _
    · obtain ⟨other, hdrops⟩ := exists_dropsSlash hne htight
      have hless := length_lt_of_dropsSlash hdrops
      have hother := sameButSlashes_join_split other
      rw [split_eq_of_dropsSlash hdrops]
      exact .trans _ _ _ (.rel _ _ hdrops) hother
termination_by text.length

theorem split_eq_iff_sameButSlashes {path other : String} :
    split path = split other ↔ SameButSlashes path other := by
  constructor
  · intro h
    have hother := sameButSlashes_join_split other
    rw [← h] at hother
    exact .trans _ _ _ (sameButSlashes_join_split path) (.symm _ _ hother)
  · exact split_eq_of_sameButSlashes

end Path

section

variable [RegexLibrary]

namespace Schema

/-- The schema gives the same bindings for both paths, or refuses both for the same reason,
each fault showing the path that was given. -/
def ExtractsAlike (schema : Schema) (path other : String) : Prop :=
  (∃ found, schema.extract path = .ok found ∧ schema.extract other = .ok found) ∨
    ∃ problem : ExtractionProblem,
      schema.extract path = .error (.extraction problem.message path) ∧
      schema.extract other = .error (.extraction problem.message other)

theorem extractsAlike_of_split_eq {path other : String} (h : Path.split path = Path.split other)
    (schema : Schema) : schema.ExtractsAlike path other := by
  rw [ExtractsAlike, extract, extract, h]
  cases Constraint.bindings schema.constraints.reverse (Path.split other).reverse with
  | ok found => exact .inl ⟨found, rfl, rfl⟩
  | error problem => exact .inr ⟨problem, rfl, rfl⟩

/-- A slash joins the segments of two paths; the segments of a path are not empty and have no
slash, and just such segments are found again in the path that joins them.  Paths with the
same segments differ in redundant slashes only; every schema validates them alike, to the
last detail of the fault, and extracts the same from them. -/
theorem paths_count_by_their_segments :
    (∀ first second : String,
      Path.split (first ++ "/" ++ second) = Path.split first ++ Path.split second) ∧
    (∀ path, ∀ segment ∈ Path.split path, segment ≠ "" ∧ Path.SlashFree segment) ∧
    (∀ segments, Path.split (Path.join segments) = segments ↔
      ∀ segment ∈ segments, segment ≠ "" ∧ Path.SlashFree segment) ∧
    (∀ path other, Path.split path = Path.split other ↔ Path.SameButSlashes path other) ∧
    ∀ path other, Path.split path = Path.split other → ∀ schema : Schema,
      (∀ store registry memory, (schema.validate store registry path).run memory =
        (schema.validate store registry other).run memory) ∧
      schema.ExtractsAlike path other := by
  refine ⟨Path.split_append_slash, ?_, fun segments => Path.split_join_eq_iff,
    fun path other => Path.split_eq_iff_sameButSlashes, ?_⟩
  · intro path segment hsegment
    exact ⟨Path.ne_empty_of_mem_split hsegment, Path.slashFree_of_mem_split hsegment⟩
  · intro path other h schema
    refine ⟨fun store registry memory => ?_, extractsAlike_of_split_eq h schema⟩
    rw [validate, validate, h]

end Schema

end

namespace Schema

/-- A path with slashes at both ends and two in the middle. -/
theorem paths_count_by_their_segments_with_doubled_slash :
    (validate {} Registry.builtin ⟨"a/x", [.literal "a", .literal "x"]⟩ "/a//b/").run {} =
      (validate {} Registry.builtin ⟨"a/x", [.literal "a", .literal "x"]⟩ "a/b").run {} ∧
    ExtractsAlike ⟨"a/x", [.literal "a", .literal "x"]⟩ "/a//b/" "a/b" := by
  have h : Path.split "/a//b/" = Path.split "a/b" := by decide +kernel
  obtain ⟨hvalidate, hextract⟩ := paths_count_by_their_segments.2.2.2.2 "/a//b/" "a/b" h
    ⟨"a/x", [.literal "a", .literal "x"]⟩
  exact ⟨hvalidate {} Registry.builtin {}, hextract⟩

end Schema

end PathSchema
