import Mathlib.Data.List.Infix
import PathSchema.Proofs.Scanning.Tiling
import PathSchema.Proofs.ViablePrefix

/-!
# The caret under the place of a mistake

A text that is no schema is refused at an offset, and the message ends with a line of the
text and a caret.  The position of the offset counts line feeds, the line that is shown comes
from a list of lines without their ends.  Both agree on the line that the offset stands on,
and the caret stands under the character at the offset.

There is one exception.  Behind a line feed at the end of a text there is a line with nothing
on it, which the list of lines does not have; there the whole text is shown instead.
-/

namespace PathSchema

namespace Text

/-- A text begins with a line that has the content, apart from its end.  A line ends with a
line feed and a carriage return before it, if there is one, or it ends with the text. -/
inductive FirstLine : List Char → List Char → Prop where
  | last {content : List Char} (hfree : '\n' ∉ content) : FirstLine content content
  | feed {content others : List Char} (hfree : '\n' ∉ content)
      (hreturn : content.getLast? ≠ some '\r') :
      FirstLine (content ++ '\n' :: others) content
  | returnFeed {content others : List Char} (hfree : '\n' ∉ content) :
      FirstLine (content ++ '\r' :: '\n' :: others) content

/-- The offset stands on a line with the content.  Above it are whole lines with their ends, on
the line itself some characters before the offset, and the rest of the text lies beyond. -/
structure OnLine (text : List Char) (offset : Nat)
    (above inside beyond content : List Char) : Prop where
  text_eq : text = above ++ (inside ++ beyond)
  offset_eq : offset = byteLength (above ++ inside)
  above_ended : above = [] ∨ ['\n'] <:+ above
  inside_free : '\n' ∉ inside
  firstLine : FirstLine (inside ++ beyond) content

/-! ## Every offset stands on a line -/

theorem exists_above (front : List Char) :
    ∃ above inside, front = above ++ inside ∧ (above = [] ∨ ['\n'] <:+ above) ∧
      '\n' ∉ inside := by
  induction front with
  | nil => exact ⟨[], [], rfl, .inl rfl, by simp⟩
  | cons c front ih =>
      obtain ⟨above, inside, rfl, habove, hinside⟩ := ih
      rcases habove with rfl | habove
      · by_cases hc : c = '\n'
        · exact ⟨[c], inside, rfl, .inr (by simp [hc]), hinside⟩
        · exact ⟨[], c :: inside, rfl, .inl rfl, by simpa [hinside] using Ne.symm hc⟩
      · exact ⟨c :: above, inside, rfl, .inr (habove.trans (List.suffix_cons c above)), hinside⟩

theorem exists_firstLine (rest : List Char) : ∃ content, FirstLine rest content := by
  by_cases hfeed : '\n' ∈ rest
  · obtain ⟨content, others, rfl, hfree⟩ := List.eq_append_cons_of_mem hfeed
    by_cases hreturn : content.getLast? = some '\r'
    · obtain ⟨shorter, rfl⟩ := List.getLast?_eq_some_iff.mp hreturn
      rw [← List.append_cons]
      exact ⟨shorter, .returnFeed (by simpa using hfree)⟩
    · exact ⟨content, .feed hfree hreturn⟩
  · exact ⟨rest, .last hfeed⟩

theorem exists_onLine (front beyond : List Char) :
    ∃ above inside content,
      OnLine (front ++ beyond) (byteLength front) above inside beyond content := by
  obtain ⟨above, inside, rfl, habove, hinside⟩ := exists_above front
  obtain ⟨content, hcontent⟩ := exists_firstLine (inside ++ beyond)
  exact ⟨above, inside, content, List.append_assoc _ _ _, rfl, habove, hinside, hcontent⟩

/-! ## The character at an offset -/

/-- A character stands in the first part of a text or in the second one. -/
theorem getElem?_or_of_append_eq {inside others content ending : List Char} {c : Char}
    (h : inside ++ c :: others = content ++ ending) :
    content[inside.length]? = some c ∨
      ∃ skipped, inside = content ++ skipped ∧ ending = skipped ++ c :: others := by
  rcases List.append_eq_append_iff.mp h with ⟨left, rfl, hleft⟩ | ⟨skipped, hinside, hending⟩
  · rcases left with _ | ⟨d, left⟩
    · exact .inr ⟨[], by simp, hleft.symm⟩
    · obtain ⟨rfl, -⟩ := List.cons.inj hleft
      exact .inl (by simp)
  · exact .inr ⟨skipped, hinside, hending⟩

/-- A character of the first line stands in its content, unless it belongs to its end. -/
theorem FirstLine.getElem?_content {rest content inside others : List Char} {c : Char}
    (h : FirstLine rest content) (hrest : inside ++ c :: others = rest)
    (hinside : '\n' ∉ inside) (hfeed : c ≠ '\n')
    (hreturn : ¬(c = '\r' ∧ ['\n'] <+: others)) :
    content[inside.length]? = some c := by
  cases h with
  | last => simp [← hrest]
  | feed =>
      rcases getElem?_or_of_append_eq hrest with hfound | ⟨_ | ⟨d, skipped⟩, rfl, hending⟩
      · exact hfound
      · exact absurd (List.cons.inj hending).1.symm hfeed
      · obtain ⟨rfl, -⟩ := List.cons.inj hending
        exact absurd (by simp) hinside
  | @returnFeed content after =>
      rcases getElem?_or_of_append_eq hrest with
        hfound | ⟨_ | ⟨d, _ | ⟨e, skipped⟩⟩, rfl, hending⟩
      · exact hfound
      · obtain ⟨rfl, rfl⟩ := List.cons.inj hending
        exact absurd ⟨rfl, List.prefix_append ['\n'] after⟩ hreturn
      · obtain ⟨-, hending⟩ := List.cons.inj hending
        exact absurd (List.cons.inj hending).1.symm hfeed
      · obtain ⟨-, hending⟩ := List.cons.inj hending
        obtain ⟨rfl, -⟩ := List.cons.inj hending
        exact absurd (by simp) hinside

theorem FirstLine.content_eq_nil {rest content : List Char} (h : FirstLine rest content)
    (hrest : rest = []) : content = [] := by
  cases h with
  | last => exact hrest
  | feed => simp at hrest
  | returnFeed => simp at hrest

/-- Nothing stands on the line exactly if it is the one behind the last line feed of the
text. -/
theorem OnLine.append_eq_nil_iff {text above inside beyond content : List Char} {offset : Nat}
    (h : OnLine text offset above inside beyond content) (hne : text ≠ []) :
    inside ++ beyond = [] ↔ beyond = [] ∧ ['\n'] <:+ text := by
  constructor
  · intro hnil
    obtain ⟨rfl, rfl⟩ := List.append_eq_nil_iff.mp hnil
    have htext : text = above := by simpa using h.text_eq
    rcases h.above_ended with habove | habove
    · exact absurd (htext.trans habove) hne
    · exact ⟨rfl, htext ▸ habove⟩
  · rintro ⟨rfl, hfeed⟩
    rcases inside.eq_nil_or_concat' with rfl | ⟨init, last, rfl⟩
    · rfl
    · rw [h.text_eq, List.append_nil, ← List.append_assoc] at hfeed
      obtain ⟨front, hfront⟩ := hfeed
      obtain rfl : '\n' = last := by simpa using (List.append_inj' hfront rfl).2
      exact absurd (by simp) h.inside_free

end Text

namespace Position

/-! ## The position of an offset -/

theorem foldl_advance_of_notMem {chars : List Char} (h : '\n' ∉ chars) (position : Position) :
    chars.foldl advance position = ⟨position.line, position.column + chars.length⟩ := by
  induction chars generalizing position with
  | nil => rfl
  | cons c chars ih =>
      obtain ⟨hc, hchars⟩ : '\n' ≠ c ∧ '\n' ∉ chars := by simpa using h
      rw [List.foldl_cons, ih hchars, advance, if_neg hc.symm, List.length_cons]
      congr 1
      dsimp only
      omega

theorem line_foldl_advance (chars : List Char) (position : Position) :
    (chars.foldl advance position).line = position.line + chars.count '\n' := by
  induction chars generalizing position with
  | nil => rfl
  | cons c chars ih =>
      rw [List.foldl_cons, ih, advance]
      by_cases hc : c = '\n'
      · rw [if_pos hc, hc, List.count_cons_self]
        dsimp only
        omega
      · rw [if_neg hc, List.count_cons_of_ne hc]

theorem after_of_ended {above : List Char} (h : above = [] ∨ ['\n'] <:+ above) :
    after above = ⟨above.count '\n' + 1, 1⟩ := by
  rcases h with rfl | ⟨front, rfl⟩
  · rfl
  · have hline := line_foldl_advance front start
    rw [after, List.foldl_append, List.foldl_cons, List.foldl_nil, advance, if_pos rfl, hline,
      List.count_append, List.count_singleton_self, start]
    congr 1
    dsimp only
    omega

theorem ofOffset_of_onLine {text : String} {offset : Nat}
    {above inside beyond content : List Char}
    (h : Text.OnLine text.toList offset above inside beyond content) :
    ofOffset text offset = ⟨above.count '\n' + 1, inside.length + 1⟩ := by
  have hbefore : Text.charsBefore text.toList offset = above ++ inside := by
    rw [h.text_eq, h.offset_eq, ← List.append_assoc, Text.charsBefore_append_byteLength]
  have habove := after_of_ended h.above_ended
  rw [ofOffset, hbefore, after, List.foldl_append, ← after, habove,
    foldl_advance_of_notMem h.inside_free]
  congr 1
  dsimp only
  omega

end Position

namespace Fault

/-! ## The lines of a text -/

section

variable {drop : List Char → List Char} {chars current : List Char}

theorem lines_go_feed (rest : List Char) :
    lines.go drop current ('\n' :: rest) = drop current.reverse :: lines.go drop [] rest := by
  cases current <;> rfl

theorem lines_go_cons {c : Char} (hc : c ≠ '\n') (rest : List Char) :
    lines.go drop current (c :: rest) = lines.go drop (c :: current) rest := by
  cases current <;> simp [lines.go]

theorem lines_go_nil (hne : current ≠ []) : lines.go drop current [] = [current.reverse] := by
  cases current with
  | nil => exact absurd rfl hne
  | cons c current => rfl

theorem lines_go_append (rest : List Char) :
    lines.go drop current (chars ++ '\n' :: rest) =
      lines.go drop current (chars ++ ['\n']) ++ lines.go drop [] rest := by
  induction chars generalizing current with
  | nil =>
      rw [List.nil_append, List.nil_append, lines_go_feed, lines_go_feed]
      rfl
  | cons c chars ih =>
      by_cases hc : c = '\n'
      · rw [hc, List.cons_append, List.cons_append, lines_go_feed, lines_go_feed, ih,
          List.cons_append]
      · rw [List.cons_append, List.cons_append, lines_go_cons hc, lines_go_cons hc, ih]

theorem length_lines_go :
    (lines.go drop current (chars ++ ['\n'])).length = chars.count '\n' + 1 := by
  induction chars generalizing current with
  | nil =>
      rw [List.nil_append, lines_go_feed]
      rfl
  | cons c chars ih =>
      by_cases hc : c = '\n'
      · rw [hc, List.cons_append, lines_go_feed, List.length_cons, ih, List.count_cons_self]
      · rw [List.cons_append, lines_go_cons hc, ih, List.count_cons_of_ne hc]

theorem lines_go_of_notMem (h : '\n' ∉ chars) (rest : List Char) :
    lines.go drop current (chars ++ '\n' :: rest) =
      drop (current.reverse ++ chars) :: lines.go drop [] rest := by
  induction chars generalizing current with
  | nil => rw [List.nil_append, lines_go_feed, List.append_nil]
  | cons c chars ih =>
      obtain ⟨hc, hchars⟩ : '\n' ≠ c ∧ '\n' ∉ chars := by simpa using h
      rw [List.cons_append, lines_go_cons hc.symm, ih hchars]
      simp

theorem lines_go_last (h : '\n' ∉ chars) (hne : current.reverse ++ chars ≠ []) :
    lines.go drop current chars = [current.reverse ++ chars] := by
  induction chars generalizing current with
  | nil => rw [lines_go_nil (by simpa using hne), List.append_nil]
  | cons c chars ih =>
      obtain ⟨hc, hchars⟩ : '\n' ≠ c ∧ '\n' ∉ chars := by simpa using h
      rw [lines_go_cons hc.symm, ih hchars (by simp)]
      simp

end

/-- The lines behind whole lines are counted on from those. -/
theorem getElem?_lines_append {above : List Char} (h : above = [] ∨ ['\n'] <:+ above)
    (rest : List Char) : (lines (above ++ rest))[above.count '\n']? = (lines rest)[0]? := by
  rcases h with rfl | ⟨front, rfl⟩
  · rfl
  · rw [lines, List.append_assoc, List.singleton_append, lines_go_append,
      List.getElem?_append_right]
    · rw [length_lines_go, List.count_append, List.count_singleton_self, Nat.sub_self, lines]
    · rw [length_lines_go, List.count_append, List.count_singleton_self]

theorem getElem?_lines_zero {rest content : List Char} (h : Text.FirstLine rest content)
    (hne : rest ≠ []) : (lines rest)[0]? = some content := by
  cases h with
  | last hfree =>
      rw [lines, lines_go_last hfree (by simpa using hne)]
      rfl
  | feed hfree hreturn =>
      rw [lines, lines_go_of_notMem hfree]
      simp [hreturn]
  | returnFeed hfree =>
      have hwhole : '\n' ∉ content ++ ['\r'] := by simp [hfree]
      rw [lines, List.append_cons, lines_go_of_notMem hwhole]
      simp

/-! ## The end of the message -/

/-- The message ends with two lines: one that shows some characters, and one with a caret
below the column. -/
def ShowsCaret (message : String) (shown : List Char) (column : Nat) : Prop :=
  "\nSchema: ".toList ++ shown ++
    '\n' :: (List.replicate (8 + column - 1) ' ' ++ ['^']) <:+ message.toList

def offset? : Fault → Option Nat
  | lexical _ position _ => some position
  | ungrammatical _ position _ _ _ => some position
  | _ => none

/-- The fault says why the text is no run of tokens, or why it is no list of parts. -/
def Refuses (fault : Fault) (text : String) : Prop :=
  (Token.scan text).mapError (ofScanError text) = .error fault ∨
    (Part.ofText text).mapError (ofParseError text) = .error fault

section

variable {text : String} {fault : Fault}

/-- The caret stands eight columns further to the right than in the text, below the line of
the list that the position names, or below the whole text if there is no such line. -/
theorem showsCaret_append_caret (hne : text ≠ "") {position : Position}
    (hcolumn : 0 < position.column) (head : String) :
    ShowsCaret (head ++ caret text position)
      (((lines text.toList)[position.line - 1]?).getD text.toList) position.column := by
  have hspaces : 8 + position.column - 1 = 8 + (position.column - 1) := by omega
  rw [ShowsCaret, caret, if_neg hne, hspaces, List.replicate_add]
  refine ⟨head.toList, ?_⟩
  simp

/-- The fault names the offset between the two parts of the text, and its message ends with
the caret for that offset. -/
structure NamesPlace (fault : Fault) (text : String) (front beyond : List Char) : Prop where
  text_eq : text.toList = front ++ beyond
  offset_eq : fault.offset? = some (Text.byteLength front)
  detailed_eq : ∃ head, fault.detailed =
    head ++ caret text (Position.ofOffset text (Text.byteLength front))

theorem exists_eq_error_of_mapError_eq_error {α ε : Type} {result : Except ε α}
    {toFault : ε → Fault} (h : result.mapError toFault = .error fault) :
    ∃ error, result = .error error ∧ toFault error = fault := by
  cases result with
  | ok value => cases h
  | error error => exact ⟨error, rfl, Except.error.inj h⟩

theorem exists_namesPlace_of_scan {error : ScanError} (h : Token.scan text = .error error) :
    ∃ front beyond, (ofScanError text error).NamesPlace text front beyond := by
  obtain ⟨front, c, rest, -, htext, -, hposition, -⟩ :=
    Token.exists_stop_of_scanFrom_eq_error h
  rw [Nat.zero_add] at hposition
  refine ⟨front, c :: rest, htext, congrArg some hposition, ?_⟩
  rw [← hposition]
  exact ⟨_, rfl⟩

theorem exists_namesPlace_of_ofText {error : ParseError} (hne : text ≠ "")
    (h : Part.ofText text = .error error) :
    ∃ front beyond, (ofParseError text error).NamesPlace text front beyond := by
  rw [Part.ofText, if_neg hne] at h
  cases hscan : Token.scan text with
  | error problem =>
      rw [hscan] at h
      obtain rfl := Except.error.inj h
      exact exists_namesPlace_of_scan hscan
  | ok tokens =>
      rw [hscan] at h
      dsimp only at h
      cases htokens : Part.ofTokens tokens with
      | ok parts =>
          rw [htokens] at h
          cases h
      | error problem =>
          rw [htokens] at h
          obtain rfl := Except.error.inj h
          obtain ⟨front, beyond, hposition, hstop⟩ := Part.exists_stopsBetween hscan htokens
          refine ⟨front, beyond, hstop.cut, congrArg some hposition.symm, ?_⟩
          rw [hposition]
          exact ⟨_, rfl⟩

theorem Refuses.exists_namesPlace (hne : text ≠ "") (h : fault.Refuses text) :
    ∃ front beyond, fault.NamesPlace text front beyond := by
  rcases h with hscan | hread
  · obtain ⟨error, herror, rfl⟩ := exists_eq_error_of_mapError_eq_error hscan
    exact exists_namesPlace_of_scan herror
  · obtain ⟨error, herror, rfl⟩ := exists_eq_error_of_mapError_eq_error hread
    exact exists_namesPlace_of_ofText hne herror

end

/-- The message ends with the line, and the caret stands below the character at the offset, if
that is not part of the line's end. -/
structure PointsBelow (fault : Fault) (text : String) (offset : Nat)
    (beyond content : List Char) : Prop where
  shows : ShowsCaret fault.detailed content (Position.ofOffset text offset).column
  above_caret : ∀ c others, beyond = c :: others → c ≠ '\n' →
    ¬(c = '\r' ∧ ['\n'] <+: others) →
      content[(Position.ofOffset text offset).column - 1]? = some c

/-- The fault of a text that is no schema points below the line on which the offset stands
that it names, unless the offset is the end of a text that ends with a line feed: then the
whole text is shown instead of the empty line. -/
theorem caret_stands_below_offset {text : String} (hne : text ≠ "") {fault : Fault}
    (h : fault.Refuses text) :
    ∃ offset, fault.offset? = some offset ∧
      (∃ above inside beyond content,
        Text.OnLine text.toList offset above inside beyond content) ∧
      ∀ above inside beyond content,
        Text.OnLine text.toList offset above inside beyond content →
        Position.ofOffset text offset = ⟨above.count '\n' + 1, inside.length + 1⟩ ∧
        (¬(beyond = [] ∧ ['\n'] <:+ text.toList) →
          fault.PointsBelow text offset beyond content) ∧
        (beyond = [] ∧ ['\n'] <:+ text.toList →
          content = [] ∧ ShowsCaret fault.detailed text.toList 1) := by
  obtain ⟨front, beyond, htext, hoffset, head, hdetailed⟩ := h.exists_namesPlace hne
  refine ⟨_, hoffset, ?_, ?_⟩
  · obtain ⟨above, inside, content, hline⟩ := Text.exists_onLine front beyond
    rw [← htext] at hline
    exact ⟨above, inside, beyond, content, hline⟩
  · intro above inside beyond content hline
    have hposition := Position.ofOffset_of_onLine hline
    have hempty := hline.append_eq_nil_iff (by simpa using hne)
    have hshown : (lines text.toList)[above.count '\n']? = (lines (inside ++ beyond))[0]? := by
      rw [hline.text_eq, getElem?_lines_append hline.above_ended]
    have hcaret := @showsCaret_append_caret text hne
      (Position.ofOffset text (Text.byteLength front)) (by simp [hposition]) head
    rw [← hdetailed, hposition, Nat.add_sub_cancel, hshown] at hcaret
    refine ⟨hposition, fun hregular => ?_, fun hlast => ?_⟩
    · have hfirst := getElem?_lines_zero hline.firstLine
        fun hnil => hregular (hempty.mp hnil)
      rw [hfirst] at hcaret
      refine ⟨hposition ▸ hcaret, fun c others hbeyond hfeed hreturn => ?_⟩
      rw [hposition]
      exact hline.firstLine.getElem?_content (by rw [hbeyond]) hline.inside_free hfeed hreturn
    · have hnil := hempty.mpr hlast
      obtain ⟨rfl, rfl⟩ := List.append_eq_nil_iff.mp hnil
      exact ⟨hline.firstLine.content_eq_nil rfl, hcaret⟩

/-- An identifier where a string has to be, on a line behind one with a character of two bytes
and a carriage return at its end. -/
theorem caret_stands_below_offset_on_second_line :
    (ungrammatical "Expected string" 13 "$v.m(\"é\",\r\n b)" ["string"] "b").Refuses
      "$v.m(\"é\",\r\n b)" ∧
    (ungrammatical "Expected string" 13 "$v.m(\"é\",\r\n b)" ["string"] "b").PointsBelow
      "$v.m(\"é\",\r\n b)" 13 "b)".toList " b)".toList := by
  have hne : "$v.m(\"é\",\r\n b)" ≠ "" := by decide +kernel
  have hrefuses : (ungrammatical "Expected string" 13 "$v.m(\"é\",\r\n b)" ["string"]
      "b").Refuses "$v.m(\"é\",\r\n b)" := .inr (by decide +kernel)
  have hline : Text.OnLine "$v.m(\"é\",\r\n b)".toList 13 "$v.m(\"é\",\r\n".toList [' ']
      "b)".toList " b)".toList :=
    ⟨by decide +kernel, by decide +kernel, by decide +kernel, by decide +kernel,
      .last (by decide +kernel)⟩
  obtain ⟨offset, hoffset, -, hplace⟩ := caret_stands_below_offset hne hrefuses
  obtain rfl : 13 = offset := Option.some.inj hoffset
  exact ⟨hrefuses, (hplace _ _ _ _ hline).2.1 (by decide +kernel)⟩

/-- Not every fault points below the line of its offset: at the end of a text that ends with a
line feed the whole text is shown. -/
theorem not_every_caret_stands_below_offset :
    ¬∀ (text : String) (fault : Fault) (offset : Nat) (above inside beyond content : List Char),
      text ≠ "" → fault.Refuses text → fault.offset? = some offset →
        Text.OnLine text.toList offset above inside beyond content →
          fault.PointsBelow text offset beyond content := by
  intro hall
  have hrefuses : (ungrammatical "Expected string" 6 "$v.m(\n" ["string"] "EOF").Refuses
      "$v.m(\n" := .inr (by decide +kernel)
  have hline : Text.OnLine "$v.m(\n".toList 6 "$v.m(\n".toList [] [] [] :=
    ⟨by decide +kernel, by decide +kernel, by decide +kernel, by decide +kernel,
      .last (by decide +kernel)⟩
  have hpoints := hall "$v.m(\n" _ 6 _ _ _ _ (by decide +kernel) hrefuses rfl hline
  have hnot : ¬ShowsCaret (ungrammatical "Expected string" 6 "$v.m(\n" ["string"]
      "EOF").detailed [] (Position.ofOffset "$v.m(\n" 6).column := by
    unfold ShowsCaret
    decide +kernel
  exact hnot hpoints.shows

end Fault

end PathSchema
