import PathSchema.Path

/-!
# Splitting and joining paths

A text is split at all of its slashes, so joining what it was split into gives the text
back.  The other way round, segments are found again in the text that joins them if there
is at least one and none of them has a slash; such segments are told apart by that text.

A path loses its empty segments, a value keeps them.  So a text is split alike as both
exactly if it is tight: not empty, without a slash at either end and without two slashes
in a row.
-/

namespace PathSchema

namespace Path

/-- The segment has no slash, so that it is not split. -/
def SlashFree (segment : String) : Prop :=
  '/' ∉ segment.toList

/-- Segments that are found again in the text that joins them. -/
structure Joinable (segments : List String) : Prop where
  ne_nil : segments ≠ []
  slashFree : ∀ segment ∈ segments, SlashFree segment

/-! ## Runs of characters between slashes -/

theorem splitOn_cons_slash (rest : List Char) :
    ('/' :: rest).splitOn '/' = [] :: rest.splitOn '/' :=
  List.splitOn_append_cons_self_of_not_mem List.not_mem_nil rest

theorem splitOn_cons_of_ne {c : Char} (h : c ≠ '/') {rest piece : List Char}
    {others : List (List Char)} (hrest : rest.splitOn '/' = piece :: others) :
    (c :: rest).splitOn '/' = (c :: piece) :: others := by
  rw [List.splitOn_cons_eq_if_modifyHead, if_neg (by simpa using h), hrest, List.modifyHead_cons]

theorem notMem_of_mem_splitOn {text piece : List Char} (h : piece ∈ text.splitOn '/') :
    '/' ∉ piece := by
  induction text generalizing piece with
  | nil =>
      obtain rfl : piece = [] := by simpa using h
      simp
  | cons c rest ih =>
      obtain ⟨first, others, hpieces⟩ := List.exists_cons_of_ne_nil (List.splitOn_ne_nil '/' rest)
      by_cases hc : c = '/'
      · rw [hc, splitOn_cons_slash] at h
        rcases List.mem_cons.mp h with rfl | hmem
        · simp
        · exact ih hmem
      · rw [splitOn_cons_of_ne hc hpieces] at h
        rcases List.mem_cons.mp h with rfl | hmem
        · have hfirst : '/' ∉ first := ih (by simp [hpieces])
          simpa using ⟨Ne.symm hc, hfirst⟩
        · exact ih (by simp [hpieces, hmem])

/-! ## Segments -/

theorem splitAll_ne_nil (text : String) : splitAll text ≠ [] := by
  simp [splitAll, List.splitOn_ne_nil]

theorem joinable_splitAll (text : String) : Joinable (splitAll text) := by
  refine ⟨splitAll_ne_nil text, fun segment hsegment => ?_⟩
  obtain ⟨piece, hpiece, rfl⟩ := List.mem_map.mp hsegment
  rw [SlashFree, String.toList_ofList]
  exact notMem_of_mem_splitOn hpiece

theorem slashFree_of_mem_split {path segment : String} (h : segment ∈ split path) :
    SlashFree segment := by
  obtain ⟨piece, hpiece, rfl⟩ := List.mem_map.mp h
  rw [SlashFree, String.toList_ofList]
  exact notMem_of_mem_splitOn (List.mem_filter.mp hpiece).1

theorem toList_join (segments : List String) :
    (join segments).toList = ['/'].intercalate (segments.map String.toList) :=
  String.toList_intercalate

theorem join_splitAll (text : String) : join (splitAll text) = text := by
  have htoList : (splitAll text).map String.toList = text.toList.splitOn '/' := by
    simp [splitAll, Function.comp_def]
  rw [← String.toList_inj, toList_join, htoList, List.intercalate_splitOn]

theorem splitAll_join {segments : List String} (h : Joinable segments) :
    splitAll (join segments) = segments := by
  have hpieces : ∀ piece ∈ segments.map String.toList, '/' ∉ piece := by
    intro piece hpiece
    obtain ⟨segment, hsegment, rfl⟩ := List.mem_map.mp hpiece
    exact h.slashFree segment hsegment
  have hne : segments.map String.toList ≠ [] := by simpa using h.ne_nil
  rw [splitAll, toList_join, List.splitOn_intercalate '/' hpieces hne]
  simp [Function.comp_def]

theorem eq_of_join_eq_join {segments others : List String} (hsegments : Joinable segments)
    (hothers : Joinable others) (h : join segments = join others) : segments = others := by
  rw [← splitAll_join hsegments, h, splitAll_join hothers]

/-! ## Texts without empty segments -/

/-- Nothing between two slashes of the text is empty, nor before the first slash or behind
the last one. -/
structure Tight (text : String) : Prop where
  ne_empty : text ≠ ""
  not_leading : ¬['/'] <+: text.toList
  not_trailing : ¬['/'] <:+ text.toList
  not_doubled : ¬['/', '/'] <:+: text.toList

theorem head?_splitOn_eq_nil_iff {text : List Char} :
    (text.splitOn '/').head? = some [] ↔ text = [] ∨ ['/'] <+: text := by
  cases text with
  | nil => simp
  | cons c rest =>
      obtain ⟨first, others, hpieces⟩ := List.exists_cons_of_ne_nil (List.splitOn_ne_nil '/' rest)
      by_cases hc : c = '/'
      · simp [hc, splitOn_cons_slash]
      · simp [splitOn_cons_of_ne hc hpieces, List.cons_prefix_cons, Ne.symm hc]

/-- A piece behind a slash is empty if the text ends there, or goes on with a slash. -/
theorem nil_mem_tail_splitOn_iff {text : List Char} :
    [] ∈ (text.splitOn '/').tail ↔ ['/'] <:+ text ∨ ['/', '/'] <:+: text := by
  induction text with
  | nil => simp
  | cons c rest ih =>
      obtain ⟨first, others, hpieces⟩ := List.exists_cons_of_ne_nil (List.splitOn_ne_nil '/' rest)
      have hsuffix : ['/'] <:+ c :: rest ↔ c = '/' ∧ rest = [] ∨ ['/'] <:+ rest := by
        simp [List.suffix_cons_iff, eq_comm]
      have hinfix : ['/', '/'] <:+: c :: rest ↔
          c = '/' ∧ ['/'] <+: rest ∨ ['/', '/'] <:+: rest := by
        simp [List.infix_cons_iff, List.cons_prefix_cons, eq_comm]
      rw [hsuffix, hinfix]
      by_cases hc : c = '/'
      · have hhead := @head?_splitOn_eq_nil_iff rest
        rw [hpieces] at ih hhead
        have hpiece : [] ∈ ((c :: rest).splitOn '/').tail ↔ first = [] ∨ [] ∈ others := by
          simp [hc, splitOn_cons_slash, hpieces, eq_comm]
        have hfirst : first = [] ↔ rest = [] ∨ ['/'] <+: rest := by simpa using hhead
        have hothers : [] ∈ others ↔ ['/'] <:+ rest ∨ ['/', '/'] <:+: rest := ih
        rw [hpiece, hfirst, hothers, and_iff_right hc, and_iff_right hc]
        exact or_or_or_comm
      · have hsame : ((c :: rest).splitOn '/').tail = (rest.splitOn '/').tail := by
          rw [splitOn_cons_of_ne hc hpieces, hpieces, List.tail_cons, List.tail_cons]
        rw [hsame, ih]
        simp [hc]

theorem nil_mem_splitOn_iff {text : List Char} :
    [] ∈ text.splitOn '/' ↔
      text = [] ∨ ['/'] <+: text ∨ ['/'] <:+ text ∨ ['/', '/'] <:+: text := by
  obtain ⟨first, others, hpieces⟩ := List.exists_cons_of_ne_nil (List.splitOn_ne_nil '/' text)
  have hhead := @head?_splitOn_eq_nil_iff text
  have htail := @nil_mem_tail_splitOn_iff text
  rw [hpieces] at hhead htail ⊢
  have hfirst : [] = first ↔ text = [] ∨ ['/'] <+: text := by simpa [eq_comm] using hhead
  rw [List.mem_cons, hfirst, or_assoc]
  exact or_congr_right (or_congr_right htail)

theorem tight_iff {text : String} : Tight text ↔ "" ∉ splitAll text := by
  have hempty : "" ∈ splitAll text ↔ [] ∈ text.toList.splitOn '/' := by
    simp [splitAll, String.ofList_eq_empty_iff]
  have htoList : text.toList = [] ↔ text = "" := String.toList_eq_nil_iff
  rw [hempty, nil_mem_splitOn_iff, htoList, not_or, not_or, not_or]
  constructor
  · rintro ⟨hne, hleading, htrailing, hdoubled⟩
    exact ⟨hne, hleading, htrailing, hdoubled⟩
  · rintro ⟨hne, hleading, htrailing, hdoubled⟩
    exact ⟨hne, hleading, htrailing, hdoubled⟩

/-- A path is split like a value, without the empty segments. -/
theorem split_eq_filter_splitAll (path : String) :
    split path = (splitAll path).filter fun segment => segment ≠ "" := by
  rw [split, splitAll, List.filter_map]
  congr 2
  funext piece
  rw [Bool.eq_iff_iff]
  simp [String.ofList_eq_empty_iff]

theorem ne_empty_of_mem_split {path segment : String} (h : segment ∈ split path) :
    segment ≠ "" := by
  rw [split_eq_filter_splitAll] at h
  simpa using (List.mem_filter.mp h).2

theorem split_eq_splitAll_iff {text : String} : split text = splitAll text ↔ Tight text := by
  rw [tight_iff]
  constructor
  · intro hsplit hempty
    rw [← hsplit] at hempty
    exact ne_empty_of_mem_split hempty rfl
  · intro hempty
    rw [split_eq_filter_splitAll, List.filter_eq_self]
    intro segment hsegment
    have hne : segment ≠ "" := by
      rintro rfl
      exact hempty hsegment
    simpa using hne

end Path

end PathSchema
