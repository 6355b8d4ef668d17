import PathSchema.Pattern.Engine
import PathSchema.Proofs.Pattern.Documentation
import PathSchema.Proofs.Pattern.Enclosed

/-!
# What the stack machine keeps

The expressions of the program's own library are the texts that its machine reads with no
group left open.  It keeps what libraries promise: the text of a group is read as by itself,
so anchors and groups are read one by one, and what they match follows one after the other.
-/

namespace PathSchema

namespace Place

def between (before after : String) : Place :=
  ⟨before.toList.reverse, after.toList⟩

theorem text_between (before after : String) :
    (between before after).text = (before ++ after).toList := by
  simp [between, text]

theorem between_inj {before after before' after' : String}
    (h : between before after = between before' after') : before = before' ∧ after = after' := by
  obtain ⟨hbefore, hafter⟩ := Place.mk.inj h
  exact ⟨String.toList_inj.mp (List.reverse_injective hbefore), String.toList_inj.mp hafter⟩

theorem between_append_iff {before matched after : String} :
    between before (matched ++ after) = between (before ++ matched) after ↔ matched = "" := by
  constructor
  · intro h
    have hlength := congrArg String.length (between_inj h).1
    rw [String.length_append] at hlength
    exact String.length_eq_zero_iff.mp (by omega)
  · rintro rfl
    simp

/-- A place of a text and one that is not before it have a stretch between them. -/
theorem exists_between_of_onward {p q : Place} (h : p.Onward q) :
    ∃ before matched after, p = between before (matched ++ after) ∧
      q = between (before ++ matched) after := by
  obtain ⟨before, rest⟩ := p
  obtain ⟨passed, after⟩ := q
  obtain ⟨htext, hleft⟩ := h
  obtain ⟨matched, hpassed, rfl⟩ | ⟨more, hbefore, rfl⟩ := List.append_eq_append_iff.mp htext.symm
  · refine ⟨String.ofList before.reverse, String.ofList matched, String.ofList after, ?_, ?_⟩
    · simp [between]
    · simpa [between] using congrArg List.reverse hpassed
  · obtain rfl : more = [] := by
      rw [left, left, List.length_append] at hleft
      exact List.length_eq_zero_iff.mp (by omega)
    have hsame : before = passed := by simpa using hbefore
    exact ⟨String.ofList before.reverse, "", String.ofList rest, by simp [between],
      by simp [between, hsame]⟩

/-- A place inside a stretch cuts it. -/
theorem exists_cut_of_onward {before matched after : String} {p : Place}
    (hfirst : (between before (matched ++ after)).Onward p)
    (hlast : p.Onward (between (before ++ matched) after)) :
    ∃ first others, matched = first ++ others ∧ p = between (before ++ first) (others ++ after) := by
  obtain ⟨_, first, rest, hp, rfl⟩ := exists_between_of_onward hfirst
  obtain ⟨rfl, hsplit⟩ := between_inj hp
  obtain ⟨passed, others, behind, hq, hend⟩ := exists_between_of_onward hlast
  obtain ⟨rfl, rfl⟩ := between_inj hq
  obtain ⟨hpassed, rfl⟩ := between_inj hend
  refine ⟨first, others, ?_, rfl⟩
  rw [← String.toList_inj] at hpassed ⊢
  simpa using hpassed

end Place

namespace Regex

open Pattern

theorem ofText?_eq_some_iff {text : List Char} {regex : Regex} :
    ofText? text = some regex ↔
      ∃ final depth, Machine.Reads .initial text final ∧ final.outer = [] ∧
        final.level.regex = (regex, depth) ∧ depth ≤ depthLimit ∧
        regex.weight ≤ weightLimit := by
  rw [ofText?, Option.bind_eq_some_iff]
  constructor
  · rintro ⟨⟨found, depth⟩, hfound, hlimits⟩
    obtain ⟨final, hrun, hfinish⟩ := Option.bind_eq_some_iff.mp hfound
    simp only [Bool.and_eq_true, decide_eq_true_eq] at hlimits
    unfold Machine.finish? at hfinish
    split at hlimits
    · next hle =>
        obtain rfl := Option.some.inj hlimits
        split at hfinish
        · next houter =>
            exact ⟨final, depth, Machine.run?_eq_some_iff.mp hrun,
              List.isEmpty_iff.mp houter, Option.some.inj hfinish, hle⟩
        · cases hfinish
    · cases hlimits
  · rintro ⟨final, depth, hreads, houter, hregex, hdepth, hweight⟩
    refine ⟨(regex, depth), ?_, ?_⟩
    · rw [Machine.run?_eq_some_iff.mpr hreads]
      simp [Machine.finish?, houter, hregex]
    · simp [hdepth, hweight]

theorem matches_concats_cons_iff {regex : Regex} {others : List Regex} {p q : Place} :
    (concats (regex :: others)).Matches p q ↔
      ∃ between, regex.Matches p between ∧ (concats others).Matches between q := by
  rcases others with _ | ⟨other, others⟩
  · constructor
    · intro h
      exact ⟨q, h, rfl⟩
    · rintro ⟨_, h, rfl⟩
      exact h
  · rfl

/-- The expressions that the machine reads, and what they match. -/
def language : RegexLanguage where
  Valid expression := ∃ final, Machine.Reads .initial expression.toList final ∧ final.outer = []
  Spans expression before matched after := ∃ final,
    Machine.Reads .initial expression.toList final ∧ final.outer = [] ∧
      final.level.regex.1.Matches (.between before (matched ++ after))
        (.between (before ++ matched) after)

end Regex

namespace Pattern

namespace Level

/-- Adds expressions with their depths to the latest branch, first one first. -/
def pushAll (level : Level) (found : List (Regex × Nat)) : Level :=
  found.foldl (fun level entry => level.push entry.1 entry.2) level

theorem items_pushAll (level : Level) (found : List (Regex × Nat)) :
    (level.pushAll found).items =
      (found.map fun entry => ⟨some entry.1, entry.2⟩).reverse ++ level.items := by
  induction found generalizing level with
  | nil => rfl
  | cons entry others ih =>
      rw [pushAll, List.foldl_cons, ← pushAll, ih]
      simp [push]

theorem branches_pushAll (level : Level) (found : List (Regex × Nat)) :
    (level.pushAll found).branches = level.branches := by
  induction found generalizing level with
  | nil => rfl
  | cons entry others ih => exact ih _

theorem regex_pushAll_initial (flags : Flags) (found : List (Regex × Nat)) :
    ((initial flags).pushAll found).regex.1 = Regex.concats (found.map Prod.fst) := by
  have hitems := items_pushAll (initial flags) found
  have hbranches := branches_pushAll (initial flags) found
  generalize (initial flags).pushAll found = level at hitems hbranches
  have hregexes : level.items.reverse.filterMap Item.regex = found.map Prod.fst := by
    simp [hitems, initial, List.filterMap_map]
  have hnone : level.branches = [] := hbranches
  simp [regex, branch, hregexes, hnone, Regex.alternates]

theorem flags_pushAll (level : Level) (found : List (Regex × Nat)) :
    (level.pushAll found).flags = level.flags := by
  induction found generalizing level with
  | nil => rfl
  | cons entry others ih => exact ih _

end Level

namespace Machine

open RegexLanguage

variable {final : Machine}

theorem Reads.unique {machine other : Machine} {text : List Char} (h : Reads machine text final)
    (h' : Reads machine text other) : final = other :=
  Option.some.inj ((run?_eq_some_iff.mpr h).symm.trans (run?_eq_some_iff.mpr h'))

theorem spans_iff {expression : String} (h : Reads .initial expression.toList final)
    (houter : final.outer = []) {before matched after : String} :
    Regex.language.Spans expression before matched after ↔
      final.level.regex.1.Matches (.between before (matched ++ after))
        (.between (before ++ matched) after) := by
  constructor
  · rintro ⟨other, hother, -, hmatches⟩
    rwa [h.unique hother]
  · intro hmatches
    exact ⟨final, h, houter, hmatches⟩

/-- A group at the top is read as one more group around the text that follows. -/
theorem reads_open_iff {level : Level} (hflags : level.flags = {}) (names : List (List Char))
    (text : List Char) :
    Reads ⟨level, [], names⟩ ('(' :: '?' :: ':' :: text) final ↔
      Reads ((initial.renamed names).within level) text final := by
  obtain ⟨flags, branches, items⟩ := level
  obtain rfl : flags = {} := hflags
  exact reads_step_iff rfl rfl

theorem exists_enclosed_of_encloses {inner : String} (h : Regex.language.Encloses inner) :
    ∃ done, Enclosed .initial inner.toList done ∧ done.outer = [] := by
  obtain ⟨⟨alone, halone, -⟩, ⟨final, hreads, hfinal⟩⟩ := h
  have htext : (Piece.group inner).text.toList =
      '(' :: '?' :: ':' :: (inner.toList ++ [')']) := by
    simp [Piece.text]
  rw [htext] at hreads
  obtain ⟨front, behind, done, hfront, henclosed, hdone⟩ :=
    exists_enclosed ((reads_open_iff rfl [] _).mp hreads) hfinal
  rcases List.eq_nil_or_concat behind with rfl | ⟨more, last, rfl⟩
  · obtain ⟨rfl, -⟩ := List.append_inj' hfront rfl
    exact ⟨done, henclosed, hdone⟩
  · obtain ⟨hinner, -⟩ : inner.toList = front ++ ')' :: more ∧ [')'] = [last] :=
      List.append_inj' (by simpa using hfront) rfl
    have hfirst : Enclosed initial front done := henclosed
    rw [hinner, hfirst.reads_append_iff (ended_cons more)] at halone
    exact absurd halone (not_reads_close hdone)

theorem reads_group {inner : String} {done : Machine}
    (h : Enclosed .initial inner.toList done) (houter : done.outer = []) :
    Reads .initial (Piece.group inner).text.toList
      ⟨(Level.initial {}).push done.level.regex.1 (done.level.regex.2 + 1), [], done.names⟩ := by
  have htext : (Piece.group inner).text.toList =
      '(' :: '?' :: ':' :: (inner.toList ++ ')' :: []) := by
    simp [Piece.text]
  rw [htext]
  exact (reads_open_iff rfl [] _).mpr
    ((h.reads_group_iff houter _).mpr (.done (Flags.skip_nil _)))

theorem encloses_of_enclosed {inner : String} {done : Machine}
    (h : Enclosed .initial inner.toList done) (houter : done.outer = []) :
    Regex.language.Encloses inner :=
  ⟨⟨done, h.reads, houter⟩, ⟨_, reads_group h houter, rfl⟩⟩

theorem spans_group_iff {inner : String} (h : Regex.language.Encloses inner)
    {before matched after : String} :
    Regex.language.Spans (Piece.group inner).text before matched after ↔
      Regex.language.Spans inner before matched after := by
  obtain ⟨done, henclosed, houter⟩ := exists_enclosed_of_encloses h
  rw [spans_iff (reads_group henclosed houter) rfl, spans_iff henclosed.reads houter]
  rfl

/-! ## Pieces one by one -/

/-- The expression matches what the piece does. -/
def Means (regex : Regex) (piece : Piece) : Prop :=
  ∀ before matched after, Regex.language.Spans piece.text before matched after ↔
    regex.Matches (.between before (matched ++ after)) (.between (before ++ matched) after)

theorem reads_start : Reads .initial Piece.start.text.toList
    ⟨(Level.initial {}).push (.assertion .textStart) 0, [], []⟩ :=
  (reads_step_iff rfl rfl).mpr (.done (Flags.skip_nil _))

theorem reads_finish : Reads .initial Piece.finish.text.toList
    ⟨(Level.initial {}).push (.assertion .textEnd) 0, [], []⟩ :=
  (reads_step_iff rfl rfl).mpr (.done (Flags.skip_nil _))

theorem exists_reads_of_piece {level : Level} (hflags : level.flags = {})
    {names : List (List Char)} {piece : Piece} (hpiece : Regex.language.Grouped [piece])
    {rest : List Char} (h : Reads ⟨level, [], names⟩ (piece.text.toList ++ rest) final)
    (hfinal : final.outer = []) :
    ∃ regex depth taken, Reads ⟨level.push regex depth, [], taken⟩ rest final ∧
      Means regex piece := by
  cases piece with
  | start =>
      obtain ⟨flags, branches, items⟩ := level
      obtain rfl : flags = {} := hflags
      refine ⟨.assertion .textStart, 0, names, (reads_step_iff rfl rfl).mp h, ?_⟩
      exact fun before matched after => spans_iff reads_start rfl
  | finish =>
      obtain ⟨flags, branches, items⟩ := level
      obtain rfl : flags = {} := hflags
      refine ⟨.assertion .textEnd, 0, names, (reads_step_iff rfl rfl).mp h, ?_⟩
      exact fun before matched after => spans_iff reads_finish rfl
  | group inner =>
      have hinner : Regex.language.Encloses inner := hpiece inner (by simp)
      have htext : (Piece.group inner).text.toList ++ rest =
          '(' :: '?' :: ':' :: (inner.toList ++ ')' :: rest) := by
        simp [Piece.text]
      rw [htext, reads_open_iff hflags] at h
      obtain ⟨done, henclosed, hdone⟩ := exists_enclosed_of_encloses hinner
      obtain ⟨front, behind, other, hfront, hother, houter⟩ := exists_enclosed h hfinal
      obtain ⟨rfl, taken, rfl⟩ := henclosed.unique hdone hother houter hfront
      obtain rfl := List.append_cancel_right hfront
      rw [hother.reads_group_iff houter] at h
      refine ⟨_, _, _, h, fun before matched after => ?_⟩
      rw [spans_group_iff hinner, spans_iff henclosed.reads hdone]
      rfl

theorem exists_reads_of_pieces {pieces : List Piece} (hpieces : Regex.language.Grouped pieces)
    {level : Level} (hflags : level.flags = {}) {names : List (List Char)} {rest : List Char}
    (h : Reads ⟨level, [], names⟩ ((Piece.join pieces).toList ++ rest) final)
    (hfinal : final.outer = []) :
    ∃ found taken, Reads ⟨level.pushAll found, [], taken⟩ rest final ∧
      List.Forall₂ Means (found.map Prod.fst) pieces := by
  induction pieces generalizing level names with
  | nil => exact ⟨[], names, h, .nil⟩
  | cons piece others ih =>
      have hpiece : Regex.language.Grouped [piece] := by
        intro inner hinner
        exact hpieces inner (by simpa using .inl (by simpa using hinner))
      have hothers : Regex.language.Grouped others :=
        fun inner hinner => hpieces inner (List.mem_cons_of_mem _ hinner)
      have htext : (Piece.join (piece :: others)).toList ++ rest =
          piece.text.toList ++ ((Piece.join others).toList ++ rest) := by
        simp [Piece.join]
      rw [htext] at h
      obtain ⟨regex, depth, names', hreads, hmeans⟩ := exists_reads_of_piece hflags hpiece h hfinal
      have hpushed : (level.push regex depth).flags = {} := hflags
      obtain ⟨found, taken, hmore, hall⟩ := ih hothers hpushed hreads
      exact ⟨(regex, depth) :: found, taken, hmore, .cons hmeans hall⟩

theorem matches_concats_iff_follow {regexes : List Regex} {pieces : List Piece}
    (h : List.Forall₂ Means regexes pieces) {before matched after : String} :
    (Regex.concats regexes).Matches (.between before (matched ++ after))
        (.between (before ++ matched) after) ↔
      Regex.language.Follow pieces before matched after := by
  induction h generalizing before matched with
  | nil => exact Place.between_append_iff
  | @cons regex piece regexes pieces hmeans _ ih =>
      rw [Regex.matches_concats_cons_iff, Follow]
      constructor
      · rintro ⟨between, hfirst, hothers⟩
        obtain ⟨first, others, rfl, rfl⟩ :=
          Place.exists_cut_of_onward hfirst.onward hothers.onward
        rw [String.append_assoc] at hfirst
        rw [← String.append_assoc] at hothers
        exact ⟨first, others, rfl, (hmeans _ _ _).mpr hfirst, ih.mp hothers⟩
      · rintro ⟨first, others, rfl, hfirst, hothers⟩
        refine ⟨.between (before ++ first) (others ++ after), ?_, ?_⟩
        · rw [String.append_assoc]
          exact (hmeans _ _ _).mp hfirst
        · rw [← String.append_assoc]
          exact ih.mpr hothers

end Machine

end Pattern

namespace Regex

open Pattern RegexLanguage

theorem exists_ofText?_of_compiles {expression : String}
    (h : RegexLibrary.refusal? expression = none) :
    ∃ regex, ofText? expression.toList = some regex := by
  rw [← Option.isSome_iff_exists]
  by_contra hnone
  have hrefused : RegexLibrary.refusal? expression = some "not a well-formed pattern" :=
    if_neg hnone
  rw [hrefused] at h
  cases h

theorem valid_of_compiles {expression : String}
    (h : RegexLibrary.refusal? expression = none) : language.Valid expression := by
  obtain ⟨regex, hregex⟩ := exists_ofText?_of_compiles h
  obtain ⟨final, _, hreads, houter, -⟩ := ofText?_eq_some_iff.mp hregex
  exact ⟨final, hreads, houter⟩

theorem isMatch_iff_spans {expression : String}
    (h : RegexLibrary.refusal? expression = none) (text : String) :
    RegexLibrary.isMatch expression text = true ↔
      ∃ before matched after, text = before ++ matched ++ after ∧
        language.Spans expression before matched after := by
  obtain ⟨regex, hregex⟩ := exists_ofText?_of_compiles h
  obtain ⟨final, _, hreads, houter, hfinal, -⟩ := ofText?_eq_some_iff.mp hregex
  have hordered : regex.Ordered := by
    have hlevel := (hreads.ordered Machine.ordered_initial).1.regex
    rwa [hfinal] at hlevel
  have hsearch : RegexLibrary.isMatch expression text = regex.isMatch text.toList := by
    show (ofText? expression.toList).any _ = _
    rw [hregex]
    rfl
  simp only [hsearch, isMatch_iff hordered, Machine.spans_iff hreads houter, hfinal]
  constructor
  · rintro ⟨p, q, htext, hmatches⟩
    obtain ⟨before, matched, after, rfl, rfl⟩ :=
      Place.exists_between_of_onward hmatches.onward
    rw [Place.text_between, ← String.append_assoc, String.toList_inj] at htext
    exact ⟨before, matched, after, htext.symm, hmatches⟩
  · rintro ⟨before, matched, after, rfl, hmatches⟩
    exact ⟨_, _, by rw [Place.text_between, String.append_assoc], hmatches⟩

theorem spans_start_iff {before matched after : String} :
    language.Spans Piece.start.text before matched after ↔ before = "" ∧ matched = "" := by
  rw [Machine.spans_iff Machine.reads_start rfl]
  show Assertion.textStart.holds _ = true ∧ _ ↔ _
  rw [Place.between_append_iff]
  simp [Assertion.holds, Place.between]

theorem spans_finish_iff {before matched after : String} :
    language.Spans Piece.finish.text before matched after ↔ matched = "" ∧ after = "" := by
  rw [Machine.spans_iff Machine.reads_finish rfl]
  show Assertion.textEnd.holds _ = true ∧ _ ↔ _
  rw [Place.between_append_iff, and_comm]
  refine and_congr_right fun hmatched => ?_
  simp [Assertion.holds, Place.between, hmatched]

theorem spans_join_iff {pieces : List Piece} (hpieces : language.Grouped pieces)
    (hvalid : language.Valid (Piece.join pieces)) {before matched after : String} :
    language.Spans (Piece.join pieces) before matched after ↔
      language.Follow pieces before matched after := by
  obtain ⟨final, hreads, houter⟩ := hvalid
  have hrest : Machine.Reads ⟨.initial {}, [], []⟩ ((Piece.join pieces).toList ++ []) final := by
    rw [List.append_nil]
    exact hreads
  obtain ⟨found, taken, hend, hmeans⟩ :=
    Machine.exists_reads_of_pieces hpieces rfl hrest houter
  obtain rfl := (Machine.reads_skip_nil_iff (Flags.skip_nil _)).mp hend
  rw [Machine.spans_iff hreads houter, Level.regex_pushAll_initial]
  exact Machine.matches_concats_iff_follow hmeans

theorem closesGroup_of_valid {pieces : List Piece} {rest : String}
    (hpieces : language.Grouped pieces)
    (hvalid : language.Valid (Piece.join pieces ++ "(?:" ++ rest)) :
    language.ClosesGroup rest := by
  obtain ⟨final, hreads, houter⟩ := hvalid
  have htext : (Piece.join pieces ++ "(?:" ++ rest).toList =
      (Piece.join pieces).toList ++ ('(' :: '?' :: ':' :: rest.toList) := by
    simp
  rw [htext] at hreads
  obtain ⟨found, taken, hgroup, -⟩ := Machine.exists_reads_of_pieces hpieces rfl hreads houter
  rw [Machine.reads_open_iff (Level.flags_pushAll _ found)] at hgroup
  obtain ⟨inner, behind, done, hrest, henclosed, hdone⟩ := Machine.exists_enclosed hgroup houter
  obtain ⟨fewer, hinitial⟩ := henclosed.renamed (List.nil_subset _)
  rw [← @String.toList_ofList inner] at hinitial
  refine ⟨String.ofList inner, String.ofList behind, ?_,
    Machine.encloses_of_enclosed hinitial hdone⟩
  rw [← String.toList_inj, hrest]
  simp

theorem not_valid_of_closesGroup {text : String} (h : language.ClosesGroup text) :
    ¬language.Valid text := by
  obtain ⟨inner, behind, rfl, hinner⟩ := h
  rintro ⟨final, hreads, -⟩
  obtain ⟨done, henclosed, hdone⟩ := Machine.exists_enclosed_of_encloses hinner
  have htext : (inner ++ ")" ++ behind).toList = inner.toList ++ ')' :: behind.toList := by
    simp
  rw [htext, henclosed.reads_append_iff (ended_cons _)] at hreads
  exact Machine.not_reads_close hdone hreads

/-- The program's own library keeps what libraries promise of their expressions. -/
theorem documented : RegexLibrary.Documented language where
  compiles := valid_of_compiles
  search := isMatch_iff_spans
  start := spans_start_iff
  finish := spans_finish_iff
  group h := Machine.spans_group_iff h
  concatenation hpieces hvalid := spans_join_iff hpieces hvalid
  closing := closesGroup_of_valid
  unopened := not_valid_of_closesGroup

end Regex

end PathSchema
