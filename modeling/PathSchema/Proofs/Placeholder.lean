import Mathlib.Data.List.Forall2
import Mathlib.Data.List.Infix
import Mathlib.Data.List.TakeWhile
import PathSchema.Placeholder

/-!
# The leftmost placeholders of a text

A text is cut into fillers and placeholders in turn, so that in the text no placeholder
begins within a filler.  From the left there is only one such cut: the first placeholder is
the one that begins first, and what follows its closing mark is cut in the same way.  The
placeholders of this cut are those that are found, and those that any library lists which
takes the matches of the pattern from the left.

Without an opening mark in it a filler holds the beginning of no placeholder, whatever
follows it.  So placeholders that are written between such fillers are found again.
-/

namespace PathSchema

namespace Placeholder

/-- The placeholder is written with the body between the marks: something that does not
close it.  Its path goes up to the first number sign, its key is all that follows. -/
structure Spells (placeholder : Placeholder) (body : List Char) : Prop where
  body_ne_nil : body ≠ []
  not_closed : '>' ∉ body
  raw_eq : placeholder.raw.toList = opening ++ body ++ ['>']
  path_plain : '#' ∉ placeholder.path.toList
  body_eq : body =
    placeholder.path.toList ++ placeholder.key.elim [] fun key => '#' :: key.toList

/-- The placeholder has a body that it is written with. -/
def WellFormed (placeholder : Placeholder) : Prop :=
  ∃ body, placeholder.Spells body

def Begins (text : List Char) : Prop :=
  ∃ body rest, body ≠ [] ∧ '>' ∉ body ∧ text = opening ++ body ++ '>' :: rest

/-- No placeholder begins within the filler, when `following` stands behind it. -/
def Clear (filler following : List Char) : Prop :=
  ∀ back, back <:+ filler → back ≠ [] → ¬Begins (back ++ following)

/-- Fillers and placeholders, one after the other. -/
def written (pieces : List (List Char × Placeholder)) : List Char :=
  pieces.flatMap fun piece => piece.1 ++ piece.2.raw.toList

/-- The text consists of the pieces, each a filler and the placeholder behind it, and of the
last filler, and no placeholder begins within a filler. -/
inductive LeftmostCut : List Char → List (List Char × Placeholder) → List Char → Prop where
  | last {filler : List Char} (hclear : Clear filler []) : LeftmostCut filler [] filler
  | piece {filler text last : List Char} {placeholder : Placeholder}
      {pieces : List (List Char × Placeholder)} (hplaceholder : placeholder.WellFormed)
      (hclear : Clear filler (placeholder.raw.toList ++ text))
      (hrest : LeftmostCut text pieces last) :
      LeftmostCut (filler ++ (placeholder.raw.toList ++ text))
        ((filler, placeholder) :: pieces) last

/-- What libraries promise of the matches that they list for the pattern, each with what its
group holds: they do not overlap, and none begins further to the left. -/
def ListsMatches (captures : (expression text : String) → List (String × String)) : Prop :=
  ∀ text, ∃ pieces last, LeftmostCut text.toList pieces last ∧
    List.Forall₂ (fun found piece => found.1 = piece.2.raw ∧ piece.2.Spells found.2.toList)
      (captures pattern text) pieces

/-! ## One placeholder -/

section

variable {body rest text : List Char} {placeholder : Placeholder}

theorem forall_ne_of_notMem {c : Char} {front : List Char} (h : c ∉ front) :
    ∀ d ∈ front, (d != c) = true := by
  intro d hd
  rw [bne_iff_ne]
  rintro rfl
  exact h hd

theorem takeWhile_append_cons {c : Char} {front : List Char} (h : c ∉ front)
    (rest : List Char) : (front ++ c :: rest).takeWhile (· != c) = front := by
  rw [List.takeWhile_append_of_pos (forall_ne_of_notMem h),
    List.takeWhile_cons_of_neg (by simp), List.append_nil]

theorem dropWhile_append_cons {c : Char} {front : List Char} (h : c ∉ front)
    (rest : List Char) : (front ++ c :: rest).dropWhile (· != c) = c :: rest := by
  rw [List.dropWhile_append_of_pos (forall_ne_of_notMem h),
    List.dropWhile_cons_of_neg (by simp)]

theorem ofBody_of_notMem (h : '#' ∉ body) :
    ofBody body = ⟨String.ofList (opening ++ body ++ ['>']), String.ofList body, none⟩ := by
  have hpath : body.takeWhile (· != '#') = body :=
    List.takeWhile_eq_self_iff.mpr (forall_ne_of_notMem h)
  have hkey : body.dropWhile (· != '#') = [] :=
    List.dropWhile_eq_nil_iff.mpr (forall_ne_of_notMem h)
  rw [ofBody, hpath, hkey]

theorem ofBody_append_cons {path : List Char} (h : '#' ∉ path) (key : List Char) :
    ofBody (path ++ '#' :: key) =
      ⟨String.ofList (opening ++ (path ++ '#' :: key) ++ ['>']), String.ofList path,
        some (String.ofList key)⟩ := by
  rw [ofBody, takeWhile_append_cons h, dropWhile_append_cons h]

theorem spells_ofBody (hne : body ≠ []) (hclosed : '>' ∉ body) :
    (ofBody body).Spells body := by
  by_cases hsign : '#' ∈ body
  · obtain ⟨path, key, rfl, hpath⟩ := List.eq_append_cons_of_mem hsign
    rw [ofBody_append_cons hpath]
    exact ⟨hne, hclosed, by simp, by simpa using hpath, by simp⟩
  · rw [ofBody_of_notMem hsign]
    exact ⟨hne, hclosed, by simp, by simpa using hsign, by simp⟩

/-- A placeholder is determined by the body that it is written with. -/
theorem Spells.eq_ofBody (h : placeholder.Spells body) : placeholder = ofBody body := by
  obtain ⟨raw, path, key⟩ := placeholder
  obtain ⟨-, -, hraw, hpath, hbody⟩ := h
  have hraw' : raw = String.ofList (opening ++ body ++ ['>']) := by
    rw [← hraw, String.ofList_toList]
  cases key with
  | none =>
      obtain rfl : body = path.toList := by simpa using hbody
      rw [ofBody_of_notMem hpath, hraw', String.ofList_toList]
  | some key =>
      obtain rfl : body = path.toList ++ '#' :: key.toList := hbody
      rw [ofBody_append_cons hpath, hraw', String.ofList_toList, String.ofList_toList]

theorem Spells.raw_append (h : placeholder.Spells body) (rest : List Char) :
    placeholder.raw.toList ++ rest = opening ++ body ++ '>' :: rest := by
  rw [h.raw_eq, List.append_assoc (opening ++ body)]
  rfl

theorem body?_eq_some_iff :
    body? text = some body ↔
      body ≠ [] ∧ '>' ∉ body ∧ ∃ rest, text = opening ++ body ++ '>' :: rest := by
  constructor
  · intro h
    rw [body?] at h
    split at h
    · cases h
    · next rest hrest =>
        have htext : opening ++ rest = text := List.isPrefixOf?_eq_some_iff_append_eq.mp hrest
        by_cases hclosed : '>' ∈ rest
        · obtain ⟨front, after, rfl, hfront⟩ := List.eq_append_cons_of_mem hclosed
          simp only [takeWhile_append_cons hfront] at h
          split at h
          · cases h
          · next hcondition =>
              obtain rfl := Option.some.inj h
              refine ⟨fun hnil => hcondition ?_, hfront, after, ?_⟩
              · rw [hnil]
                rfl
              · rw [← htext, List.append_assoc]
        · have hall : rest.takeWhile (· != '>') = rest :=
            List.takeWhile_eq_self_iff.mpr (forall_ne_of_notMem hclosed)
          simp [hall] at h
  · rintro ⟨hne, hclosed, rest, rfl⟩
    have hopening : opening.isPrefixOf? (opening ++ body ++ '>' :: rest) =
        some (body ++ '>' :: rest) :=
      List.isPrefixOf?_eq_some_iff_append_eq.mpr (List.append_assoc _ _ _).symm
    rw [body?, hopening]
    simp [takeWhile_append_cons hclosed, hne]

theorem begins_iff : Begins text ↔ ∃ body, body? text = some body := by
  constructor
  · rintro ⟨body, rest, hne, hclosed, htext⟩
    exact ⟨body, body?_eq_some_iff.mpr ⟨hne, hclosed, rest, htext⟩⟩
  · rintro ⟨body, hbody⟩
    obtain ⟨hne, hclosed, rest, htext⟩ := body?_eq_some_iff.mp hbody
    exact ⟨body, rest, hne, hclosed, htext⟩

theorem Begins.head?_eq (h : Begins text) : text.head? = some '<' := by
  obtain ⟨body, rest, -, -, rfl⟩ := h
  rfl

end

/-! ## From left to right -/

section

variable {filler following text last : List Char} {placeholder : Placeholder}
  {pieces : List (List Char × Placeholder)}

/-- Characters that belong to a placeholder already are passed over. -/
theorem findFrom_eq_findFrom_drop (taken : Nat) (text : List Char) :
    findFrom taken text = findFrom 0 (text.drop taken) := by
  induction text generalizing taken with
  | nil => rw [findFrom, List.drop_nil, findFrom]
  | cons c rest ih =>
      cases taken with
      | zero => rfl
      | succ taken => rw [findFrom, List.drop_succ_cons, ih]

theorem findFrom_cons_of_not_begins {c : Char} {rest : List Char}
    (h : ¬Begins (c :: rest)) : findFrom 0 (c :: rest) = findFrom 0 rest := by
  have hbody : body? (c :: rest) = none := by
    rw [Option.eq_none_iff_forall_ne_some]
    exact fun body hbody => h (begins_iff.mpr ⟨body, hbody⟩)
  rw [findFrom, hbody]

theorem findFrom_raw_append {body : List Char} (h : placeholder.Spells body)
    (following : List Char) :
    findFrom 0 (placeholder.raw.toList ++ following) =
      placeholder :: findFrom 0 following := by
  have htext : placeholder.raw.toList ++ following =
      '<' :: (opening.tail ++ body ++ '>' :: following) := h.raw_append following
  have hbody : body? ('<' :: (opening.tail ++ body ++ '>' :: following)) = some body :=
    body?_eq_some_iff.mpr ⟨h.body_ne_nil, h.not_closed, following, rfl⟩
  have hrest : (opening.tail ++ body ++ '>' :: following).drop
      (opening.length + body.length) = following := by
    rw [List.append_cons]
    exact List.drop_left' (by simp [opening]; omega)
  rw [htext, findFrom, hbody]
  dsimp only
  rw [findFrom_eq_findFrom_drop, hrest, ← h.eq_ofBody]

theorem findFrom_append_of_clear (h : Clear filler following) :
    findFrom 0 (filler ++ following) = findFrom 0 following := by
  induction filler with
  | nil => rfl
  | cons c filler ih =>
      have hfirst : ¬Begins (c :: (filler ++ following)) :=
        h (c :: filler) (List.suffix_refl _) (List.cons_ne_nil _ _)
      have hothers : Clear filler following := fun back hback =>
        h back (hback.trans (List.suffix_cons c filler))
      rw [List.cons_append, findFrom_cons_of_not_begins hfirst, ih hothers]

theorem findFrom_of_leftmostCut (h : LeftmostCut text pieces last) :
    findFrom 0 text = pieces.map Prod.snd := by
  induction h with
  | @last filler hclear =>
      have hpassed := findFrom_append_of_clear hclear
      rw [List.append_nil] at hpassed
      rw [hpassed]
      rfl
  | piece hplaceholder hclear hrest ih =>
      obtain ⟨body, hbody⟩ := hplaceholder
      rw [findFrom_append_of_clear hclear, findFrom_raw_append hbody, ih]
      rfl

/-- The character before a text belongs to its first filler, if no placeholder begins with
it. -/
theorem LeftmostCut.exists_cons {c : Char} (hbegins : ¬Begins (c :: text))
    (h : LeftmostCut text pieces last) :
    ∃ pieces last, LeftmostCut (c :: text) pieces last := by
  have hcons : ∀ {filler following : List Char}, ¬Begins (c :: (filler ++ following)) →
      Clear filler following → Clear (c :: filler) following := by
    intro filler following hfirst hclear back hback hne
    rcases List.suffix_cons_iff.mp hback with rfl | hback
    · exact hfirst
    · exact hclear back hback hne
  cases h with
  | last hclear =>
      rw [← List.append_nil text] at hbegins
      exact ⟨_, _, .last (hcons hbegins hclear)⟩
  | piece hplaceholder hclear hrest =>
      exact ⟨_, _, .piece hplaceholder (hcons hbegins hclear) hrest⟩

theorem exists_leftmostCut (text : List Char) :
    ∃ pieces last, LeftmostCut text pieces last := by
  by_cases hbegins : Begins text
  · obtain ⟨body, rest, hne, hclosed, htext⟩ := hbegins
    have hless : rest.length < text.length := by
      rw [htext]
      simp
      omega
    obtain ⟨pieces, last, hcut⟩ := exists_leftmostCut rest
    have hbody := spells_ofBody hne hclosed
    rw [htext, ← hbody.raw_append, ← List.nil_append ((ofBody body).raw.toList ++ rest)]
    refine ⟨_, _, .piece ⟨body, hbody⟩ (fun back hback hback' => ?_) hcut⟩
    exact absurd (List.suffix_nil.mp hback) hback'
  · cases text with
    | nil =>
        refine ⟨[], [], .last fun back hback hne => ?_⟩
        exact absurd (List.suffix_nil.mp hback) hne
    | cons c rest =>
        obtain ⟨pieces, last, hcut⟩ := exists_leftmostCut rest
        exact hcut.exists_cons hbegins
termination_by text.length

end

/-! ## Matches that are listed -/

theorem map_eq_of_forall₂ {found : List (String × String)} {pieces : List (List Char × Placeholder)}
    (h : List.Forall₂ (fun found piece => found.1 = piece.2.raw ∧ piece.2.Spells found.2.toList)
      found pieces) :
    (found.map fun entry => { ofBody entry.2.toList with raw := entry.1 }) =
      pieces.map Prod.snd := by
  induction h with
  | nil => rfl
  | cons hfirst _ ih =>
      obtain ⟨hraw, hspells⟩ := hfirst
      rw [List.map_cons, List.map_cons, ih, hraw, ← hspells.eq_ofBody]

theorem LeftmostCut.wellFormed {text last : List Char} {pieces : List (List Char × Placeholder)}
    (h : LeftmostCut text pieces last) : ∀ piece ∈ pieces, piece.2.WellFormed := by
  induction h with
  | last _ => simp
  | piece hplaceholder _ _ ih => exact List.forall_mem_cons.mpr ⟨hplaceholder, ih⟩

/-- The placeholders that are found, as a list of matches. -/
def listed (_ text : String) : List (String × String) :=
  (find text).map fun placeholder => (placeholder.raw, String.ofList
    (placeholder.path.toList ++ placeholder.key.elim [] fun key => '#' :: key.toList))

theorem listsMatches_listed : ListsMatches listed := by
  intro text
  obtain ⟨pieces, last, hcut⟩ := exists_leftmostCut text.toList
  refine ⟨pieces, last, hcut, ?_⟩
  have hfound : find text = pieces.map Prod.snd := findFrom_of_leftmostCut hcut
  rw [listed, hfound, List.map_map, List.forall₂_map_left_iff, List.forall₂_same]
  intro piece hpiece
  obtain ⟨body, hbody⟩ := hcut.wellFormed piece hpiece
  refine ⟨rfl, ?_⟩
  simp only [Function.comp_apply, String.toList_ofList, ← hbody.body_eq]
  exact hbody

/-! ## Placeholders that are written down -/

theorem clear_of_notMem {filler : List Char} (h : '<' ∉ filler) (following : List Char) :
    Clear filler following := by
  intro back hback hne hbegins
  obtain ⟨c, others, rfl⟩ := List.exists_cons_of_ne_nil hne
  obtain rfl : c = '<' := by simpa using hbegins.head?_eq
  exact h (hback.subset (by simp))

theorem leftmostCut_written {pieces : List (List Char × Placeholder)} {last : List Char}
    (hpieces : ∀ piece ∈ pieces, '<' ∉ piece.1 ∧ piece.2.WellFormed) (hlast : '<' ∉ last) :
    LeftmostCut (written pieces ++ last) pieces last := by
  induction pieces with
  | nil => exact .last (clear_of_notMem hlast [])
  | cons piece pieces ih =>
      obtain ⟨⟨hfiller, hplaceholder⟩, hothers⟩ := List.forall_mem_cons.mp hpieces
      have htext : written (piece :: pieces) ++ last =
          piece.1 ++ (piece.2.raw.toList ++ (written pieces ++ last)) := by
        simp [written]
      rw [htext]
      exact .piece hplaceholder (clear_of_notMem hfiller _) (ih hothers)

/-- Every text is cut into fillers and the placeholders that are found in it, one after the
other, so that no placeholder begins within a filler.  Placeholders that are written between
fillers without an opening mark are found again, each with its path and its key.  Whatever
lists the matches of the pattern from the left lists the placeholders that are found. -/
theorem finds_placeholders_of_leftmost_cut :
    (∀ text : String, ∃ pieces last, LeftmostCut text.toList pieces last ∧
      find text = pieces.map Prod.snd) ∧
    (∀ (pieces : List (List Char × Placeholder)) (last : List Char),
      (∀ piece ∈ pieces, '<' ∉ piece.1 ∧ piece.2.WellFormed) → '<' ∉ last →
        find (String.ofList (written pieces ++ last)) = pieces.map Prod.snd) ∧
    ∀ captures, ListsMatches captures → ∀ text,
      ((captures pattern text).map fun found =>
        { ofBody found.2.toList with raw := found.1 }) = find text := by
  refine ⟨?_, ?_, ?_⟩
  · intro text
    obtain ⟨pieces, last, hcut⟩ := exists_leftmostCut text.toList
    exact ⟨pieces, last, hcut, findFrom_of_leftmostCut hcut⟩
  · intro pieces last hpieces hlast
    rw [find, String.toList_ofList]
    exact findFrom_of_leftmostCut (leftmostCut_written hpieces hlast)
  · intro captures hcaptures text
    obtain ⟨pieces, last, hcut, hlisted⟩ := hcaptures text
    exact (map_eq_of_forall₂ hlisted).trans (findFrom_of_leftmostCut hcut).symm

/-- An opening mark within a body, two number signs, and an empty path. -/
theorem finds_placeholders_of_nested_opening :
    find "a>\n<path:<path:kv\n/db#k#2> <path:#>#>" =
        [⟨"<path:<path:kv\n/db#k#2>", "<path:kv\n/db", some "k#2"⟩,
          ⟨"<path:#>", "", some ""⟩] ∧
      ∃ captures, ListsMatches captures ∧
        ((captures pattern "a>\n<path:<path:kv\n/db#k#2> <path:#>#>").map fun found =>
          { ofBody found.2.toList with raw := found.1 }) =
            find "a>\n<path:<path:kv\n/db#k#2> <path:#>#>" := by
  let pieces : List (List Char × Placeholder) :=
    [("a>\n".toList, ⟨"<path:<path:kv\n/db#k#2>", "<path:kv\n/db", some "k#2"⟩),
      ([' '], ⟨"<path:#>", "", some ""⟩)]
  have hpieces : ∀ piece ∈ pieces, '<' ∉ piece.1 ∧ piece.2.WellFormed := by
    refine List.forall_mem_cons.mpr ⟨⟨by decide +kernel, "<path:kv\n/db#k#2".toList, ?_⟩,
      List.forall_mem_singleton.mpr ⟨by decide +kernel, ['#'], ?_⟩⟩
    · exact ⟨by decide +kernel, by decide +kernel, by decide +kernel, by decide +kernel,
        by decide +kernel⟩
    · exact ⟨by decide +kernel, by decide +kernel, by decide +kernel, by decide +kernel,
        by decide +kernel⟩
  obtain ⟨-, hwritten, hlisted⟩ := finds_placeholders_of_leftmost_cut
  have hfound := hwritten pieces "#>".toList hpieces (by decide +kernel)
  have htext : String.ofList (written pieces ++ "#>".toList) =
      "a>\n<path:<path:kv\n/db#k#2> <path:#>#>" := by
    decide +kernel
  rw [htext] at hfound
  exact ⟨hfound, listed, listsMatches_listed, hlisted _ listsMatches_listed _⟩

end Placeholder

end PathSchema
