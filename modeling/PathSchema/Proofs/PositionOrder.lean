import Mathlib.Data.List.DropRight
import Mathlib.Data.Prod.Lex
import Mathlib.Order.Bounds.Basic
import PathSchema.Proofs.BrokenMember
import PathSchema.Proofs.Caret

/-!
# Positions grow with offsets

Reading on in a text, one moves to the next column or to the next line, and never back.  So
the positions of a text, compared by their lines and then by their columns, are in the order
of the offsets between its characters, and tell these offsets apart.  An offset inside of a
character has the position of the first offset behind it that is between two characters, and
an offset beyond the text that of its end.

Tokens begin between two characters, and whatever fault refuses a text names such an offset.
Hence no two of these places have the same line and column.
-/

namespace PathSchema

namespace Text

/-- The offset is between two characters of the text, or at one of its ends. -/
def IsBoundary (text : List Char) (offset : Nat) : Prop :=
  ∃ front rest, text = front ++ rest ∧ offset = byteLength front

/-- The characters of a text with the offsets at which they start. -/
def placed : Nat → List Char → List (Nat × Char)
  | _, [] => []
  | offset, c :: rest => (offset, c) :: placed (offset + c.utf8Size) rest

/-- The characters of a text that start before an offset. -/
def startingBefore (text : List Char) (offset : Nat) : List Char :=
  ((placed 0 text).filter fun (start, _) => start < offset).map Prod.snd

variable {text : List Char} {offset : Nat}

/-! ## The characters before an offset -/

theorem charsBefore_zero (text : List Char) : charsBefore text 0 = [] := by
  cases text <;> rfl

/-- The first character that does not start before an offset is not followed by one that
does. -/
theorem map_filter_placed (text : List Char) (position offset : Nat) :
    ((placed position text).filter fun (start, _) => start < offset).map Prod.snd =
      charsBefore text (offset - position) := by
  induction text generalizing position with
  | nil => rfl
  | cons c rest ih =>
      rw [placed]
      by_cases hstart : position < offset
      · rw [List.filter_cons_of_pos (by simpa using hstart), List.map_cons, ih,
          charsBefore_cons_of_pos (by omega), Nat.sub_sub]
      · have hhere : offset - position = 0 := by omega
        have hlater : offset - (position + c.utf8Size) = 0 := by omega
        rw [List.filter_cons_of_neg (by simpa using hstart), ih, hhere, hlater,
          charsBefore_zero, charsBefore_zero]

theorem startingBefore_eq_charsBefore (text : List Char) (offset : Nat) :
    startingBefore text offset = charsBefore text offset :=
  map_filter_placed text 0 offset

theorem charsBefore_append (front rest : List Char) (offset : Nat) :
    charsBefore (front ++ rest) offset =
      charsBefore front offset ++ charsBefore rest (offset - byteLength front) := by
  induction front generalizing offset with
  | nil => rfl
  | cons c front ih =>
      rcases Nat.eq_zero_or_pos offset with rfl | hpos
      · simp [charsBefore_zero]
      · rw [List.cons_append, charsBefore_cons_of_pos hpos, charsBefore_cons_of_pos hpos, ih,
          byteLength_cons, Nat.sub_sub, List.cons_append]

theorem charsBefore_of_byteLength_le (h : byteLength text ≤ offset) :
    charsBefore text offset = text := by
  induction text generalizing offset with
  | nil => rfl
  | cons c rest ih =>
      have hwidth : 0 < c.utf8Size := c.utf8Size_pos
      rw [byteLength_cons] at h
      rw [charsBefore_cons_of_pos (by omega), ih (by omega)]

theorem isPrefix_charsBefore (text : List Char) (offset : Nat) :
    charsBefore text offset <+: text := by
  fun_induction charsBefore text offset with
  | case1 => exact List.nil_prefix
  | case2 => exact List.nil_prefix
  | case3 c rest n ih => exact List.cons_prefix_cons.mpr ⟨rfl, ih⟩

theorem le_byteLength_charsBefore (h : offset ≤ byteLength text) :
    offset ≤ byteLength (charsBefore text offset) := by
  induction text generalizing offset with
  | nil => exact h
  | cons c rest ih =>
      rcases Nat.eq_zero_or_pos offset with rfl | hpos
      · exact Nat.zero_le _
      · rw [byteLength_cons] at h
        rw [charsBefore_cons_of_pos hpos, byteLength_cons]
        have hrest := @ih (offset - c.utf8Size) (by omega)
        omega

theorem byteLength_le_of_isPrefix {front : List Char} (h : front <+: text) :
    byteLength front ≤ byteLength text := by
  obtain ⟨rest, rfl⟩ := h
  rw [byteLength_append]
  exact Nat.le_add_right _ _

theorem isLeast_byteLength_charsBefore (h : offset ≤ byteLength text) :
    IsLeast {boundary | IsBoundary text boundary ∧ offset ≤ boundary}
      (byteLength (charsBefore text offset)) := by
  refine ⟨⟨?_, le_byteLength_charsBefore h⟩, ?_⟩
  · obtain ⟨rest, hrest⟩ := isPrefix_charsBefore text offset
    exact ⟨_, rest, hrest.symm, rfl⟩
  · rintro boundary ⟨⟨front, rest, rfl, rfl⟩, hle⟩
    have hrest : offset - byteLength front = 0 := Nat.sub_eq_zero_of_le hle
    rw [charsBefore_append, hrest, charsBefore_zero, List.append_nil]
    exact byteLength_le_of_isPrefix (isPrefix_charsBefore front offset)

end Text

namespace Position

/-! ## Lines and columns -/

/-- The line and the column, to be compared in this order. -/
def key (position : Position) : ℕ ×ₗ ℕ :=
  toLex (position.line, position.column)

theorem key_injective : Function.Injective key := by
  rintro ⟨line, column⟩ ⟨otherLine, otherColumn⟩ h
  obtain ⟨rfl, rfl⟩ := Prod.mk.inj (toLex.injective h)
  rfl

/-- Positions are compared by their lines, and on one line by their columns. -/
instance : PartialOrder Position :=
  PartialOrder.lift key key_injective

theorem lt_iff {position other : Position} :
    position < other ↔ position.line < other.line ∨
      position.line = other.line ∧ position.column < other.column :=
  Prod.Lex.lt_iff

theorem lt_advance (position : Position) (c : Char) : position < position.advance c := by
  rw [lt_iff, advance]
  split
  · exact .inl (Nat.lt_succ_self _)
  · exact .inr ⟨rfl, Nat.lt_succ_self _⟩

theorem le_foldl_advance (chars : List Char) (position : Position) :
    position ≤ chars.foldl advance position := by
  induction chars generalizing position with
  | nil => exact le_rfl
  | cons c chars ih => exact (lt_advance position c).le.trans (ih _)

theorem after_lt_after_append (front : List Char) {more : List Char} (hmore : more ≠ []) :
    after front < after (front ++ more) := by
  obtain ⟨c, others, rfl⟩ := List.exists_cons_of_ne_nil hmore
  rw [after, after, List.foldl_append, List.foldl_cons]
  exact (lt_advance _ c).trans_le (le_foldl_advance others _)

theorem line_after (chars : List Char) : (after chars).line = 1 + chars.count '\n' :=
  line_foldl_advance chars start

theorem column_after (chars : List Char) :
    (after chars).column = 1 + (chars.rtakeWhile (· ≠ '\n')).length := by
  induction chars using List.reverseRecOn with
  | nil => rfl
  | append_singleton chars c ih =>
      rw [after, List.foldl_append, List.foldl_cons, List.foldl_nil, ← after, advance,
        List.rtakeWhile_concat]
      by_cases hc : c = '\n'
      · simp [hc]
      · simp [hc, ih, Nat.add_assoc]

/-! ## Positions of offsets -/

variable {text : String} {offset : Nat}

theorem ofOffset_byteLength {front rest : List Char} (h : text.toList = front ++ rest) :
    ofOffset text (Text.byteLength front) = after front := by
  rw [ofOffset, h, Text.charsBefore_append_byteLength]

theorem strictMonoOn_ofOffset (text : String) :
    StrictMonoOn (ofOffset text) {offset | Text.IsBoundary text.toList offset} := by
  rintro _ ⟨front, rest, htext, rfl⟩ _ ⟨longer, others, hlonger, rfl⟩ hlt
  rw [ofOffset_byteLength htext, ofOffset_byteLength hlonger]
  rcases List.append_eq_append_iff.mp (htext.symm.trans hlonger) with
    ⟨more, rfl, -⟩ | ⟨more, rfl, -⟩
  · apply after_lt_after_append
    rintro rfl
    rw [List.append_nil] at hlt
    exact absurd hlt (lt_irrefl _)
  · rw [Text.byteLength_append] at hlt
    omega

theorem ofOffset_byteLength_charsBefore (text : String) (offset : Nat) :
    ofOffset text (Text.byteLength (Text.charsBefore text.toList offset)) =
      ofOffset text offset := by
  obtain ⟨rest, hrest⟩ := Text.isPrefix_charsBefore text.toList offset
  exact ofOffset_byteLength hrest.symm

theorem ofOffset_of_byteLength_le (h : Text.byteLength text.toList ≤ offset) :
    ofOffset text offset = ofOffset text (Text.byteLength text.toList) := by
  rw [← ofOffset_byteLength_charsBefore text offset, Text.charsBefore_of_byteLength_le h]

end Position

namespace Token

variable {position : Nat} {lexemes : List Lexeme} {tokens : List Token} {text : String}

/-! ## Where tokens begin -/

theorem le_position_of_mem_placedFrom {token : Token}
    (h : token ∈ placedFrom position lexemes) : position ≤ token.position := by
  obtain ⟨before, after, hsplit⟩ := List.append_of_mem h
  rw [position_of_placedFrom hsplit]
  exact Nat.le_add_right _ _

/-- Each token takes a character, so the next one begins behind it. -/
theorem pairwise_placedFrom (htokens : ∀ lexeme ∈ lexemes, lexeme.IsToken) :
    (placedFrom position lexemes).Pairwise fun first second =>
      first.position < second.position := by
  induction lexemes generalizing position with
  | nil => exact .nil
  | cons lexeme others ih =>
      rw [List.forall_mem_cons] at htokens
      refine List.pairwise_cons.mpr ⟨?_, ih htokens.2⟩
      intro token htoken
      obtain ⟨c, rest, hsource, -⟩ := htokens.1
      have hwidth : 0 < c.utf8Size := c.utf8Size_pos
      have hbehind := le_position_of_mem_placedFrom htoken
      rw [hsource, Text.byteLength_cons] at hbehind
      dsimp only
      omega

theorem pairwise_position_of_scan (h : scan text = .ok tokens) :
    tokens.Pairwise fun first second => first.position < second.position := by
  rw [eq_placedFrom_of_scanFrom h]
  apply pairwise_placedFrom
  intro lexeme hlexeme
  obtain ⟨token, htoken, rfl⟩ := List.mem_map.mp hlexeme
  exact isToken_of_scanFrom h token htoken

theorem isBoundary_of_mem_scan (h : scan text = .ok tokens) {token : Token}
    (htoken : token ∈ tokens) : Text.IsBoundary text.toList token.position := by
  obtain ⟨before, after, rfl⟩ := List.append_of_mem htoken
  have hwritten := flatMap_source_of_scanFrom h
  have hplace := position_of_scanFrom h
  rw [List.map_append, List.flatMap_append] at hwritten
  rw [Nat.zero_add] at hplace
  exact ⟨_, _, hwritten.symm, hplace⟩

end Token

namespace Fault

variable {fault : Fault} {text : String} {offset : Nat}

/-! ## Where texts are refused -/

/-- The text that a fault refuses and the offset at which it does, whatever the fault is
wrapped in. -/
def site? : Fault → Option (String × Nat)
  | lexical _ offset text => some (text, offset)
  | ungrammatical _ offset text _ _ => some (text, offset)
  | atConstraint _ _ _ cause => cause.site?
  | _ => none

theorem site?_rootCause (fault : Fault) : fault.rootCause.site? = fault.site? := by
  induction fault with
  | atConstraint _ _ _ _ ih => exact ih
  | _ => rfl

theorem isCompile_of_site? (h : fault.site? = some (text, offset)) :
    fault.isCompile = true := by
  induction fault with
  | lexical => rfl
  | ungrammatical => rfl
  | atConstraint _ _ _ _ ih => exact ih h
  | _ => cases h

theorem Refuses.site?_eq (h : fault.Refuses text) :
    fault.site? = fault.offset?.map fun offset => (text, offset) := by
  rcases h with hscan | hread
  · obtain ⟨error, -, rfl⟩ := exists_eq_error_of_mapError_eq_error hscan
    rfl
  · obtain ⟨error, -, rfl⟩ := exists_eq_error_of_mapError_eq_error hread
    cases error <;> rfl

theorem Refuses.offset?_of_empty (h : fault.Refuses "") : fault.offset? = some 0 := by
  rcases h with hscan | hread
  · have hempty : Token.scan "" = .ok [] := by decide +kernel
    rw [hempty] at hscan
    cases hscan
  · obtain rfl := Except.error.inj hread
    rfl

theorem Refuses.isBoundary (h : fault.Refuses text) {input : String}
    (hsite : fault.site? = some (input, offset)) : Text.IsBoundary input.toList offset := by
  rw [h.site?_eq, Option.map_eq_some_iff] at hsite
  obtain ⟨place, hplace, hinput⟩ := hsite
  obtain ⟨rfl, rfl⟩ := Prod.mk.inj hinput
  by_cases hempty : text = ""
  · subst hempty
    obtain rfl := Option.some.inj (h.offset?_of_empty.symm.trans hplace)
    exact ⟨[], [], rfl, rfl⟩
  · obtain ⟨front, beyond, htext, hoffset, -⟩ := h.exists_namesPlace hempty
    exact ⟨front, beyond, htext, Option.some.inj (hplace.symm.trans hoffset)⟩

section

variable [RegexLibrary]

/-- Reading or compiling a text, compiling a list of parts or validating some segments fails
with the fault. -/
inductive Raised : Fault → Prop where
  | reading {text : String} {fault : Fault} (h : fault.Refuses text) : Raised fault
  | ofText {text : String} {fault : Fault} (h : Schema.ofText text = .error fault) :
      Raised fault
  | ofParts {parts : List Part} {fault : Fault} (h : Schema.ofParts parts = .error fault) :
      Raised fault
  | validation {store : Store} {registry : Registry} {schema : Schema}
      {segments : List String} {memory after : Memory} {fault : Fault}
      (hstore : store.Acyclic) (hmemory : memory.Sound)
      (h : (schema.validateSegments store registry segments).run memory =
        some (.error fault, after)) : Raised fault

theorem site?_of_ofPart {part : Part} (h : Constraint.ofPart part = .error fault) :
    fault.site? = none := by
  unfold Constraint.ofPart at h
  split at h
  · cases h
  · split at h
    · cases h
    · obtain rfl := Except.error.inj h
      rfl
  · cases h
  · cases h
  · cases h
  · obtain rfl := Except.error.inj h
    rfl
  · cases h
  · split at h
    · cases h
    · obtain rfl := Except.error.inj h
      rfl

/-- Parts are refused as a text only if there are none, and then the text is empty. -/
theorem isBoundary_of_compile {parts : List Part} (h : Schema.compile parts = .error fault)
    (hsite : fault.site? = some (text, offset)) : Text.IsBoundary text.toList offset := by
  unfold Schema.compile at h
  split at h
  · obtain rfl := Except.error.inj h
    obtain ⟨rfl, rfl⟩ := Prod.mk.inj (Option.some.inj hsite)
    exact ⟨[], [], rfl, rfl⟩
  · obtain ⟨part, -, hpart⟩ := Constraint.exists_of_ofParts_eq_error h
    rw [site?_of_ofPart hpart] at hsite
    cases hsite

theorem isBoundary_of_ofText {input : String} (h : Schema.ofText input = .error fault)
    (hsite : fault.site? = some (text, offset)) : Text.IsBoundary text.toList offset := by
  cases hparts : Part.ofText input with
  | error error =>
      rw [Schema.ofText, hparts] at h
      obtain rfl := Except.error.inj h
      have hrefuses : (ofParseError input error).Refuses input :=
        .inr (by rw [hparts]; rfl)
      exact hrefuses.isBoundary hsite
  | ok parts =>
      rw [Schema.ofText_of_parts hparts] at h
      exact isBoundary_of_compile (Schema.eq_error_of_map_eq_error h) hsite

theorem Raised.isBoundary (h : fault.Raised) (hsite : fault.site? = some (text, offset)) :
    Text.IsBoundary text.toList offset := by
  cases h with
  | reading h => exact h.isBoundary hsite
  | ofText h => exact isBoundary_of_ofText h hsite
  | ofParts h => exact isBoundary_of_compile (Schema.eq_error_of_map_eq_error h) hsite
  | @validation store registry schema segments memory after _ hstore hmemory h =>
      have hresult :=
        (Schema.validateSegments_follows schema segments).result?_of_run hmemory h
      obtain ⟨member, -, -, hmember⟩ :=
        (Plain.validateSegments_eq_compileFault_iff hstore.grounded registry schema).mp
          ⟨fault, hresult, isCompile_of_site? hsite, rfl⟩
      rw [← site?_rootCause] at hsite
      exact isBoundary_of_ofText hmember hsite

end

end Fault

namespace Position

/-! ## Places that are named -/

theorem pairwise_ofOffset_of_scan {text : String} {tokens : List Token}
    (h : Token.scan text = .ok tokens) :
    tokens.Pairwise fun first second =>
      ofOffset text first.position < ofOffset text second.position := by
  refine (Token.pairwise_position_of_scan h).imp_of_mem ?_
  intro first second hfirst hsecond hlt
  exact strictMonoOn_ofOffset text (Token.isBoundary_of_mem_scan h hfirst)
    (Token.isBoundary_of_mem_scan h hsecond) hlt

section

variable [RegexLibrary]

/-- An offset is named in a text if a token begins there or a fault refuses the text there. -/
inductive Named (text : String) : Nat → Prop where
  | token {tokens : List Token} {token : Token} (hscan : Token.scan text = .ok tokens)
      (htoken : token ∈ tokens) : Named text token.position
  | fault {fault : Fault} {offset : Nat} (hraised : fault.Raised)
      (hsite : fault.site? = some (text, offset)) : Named text offset

theorem Named.isBoundary {text : String} {offset : Nat} (h : Named text offset) :
    Text.IsBoundary text.toList offset := by
  cases h with
  | token hscan htoken => exact Token.isBoundary_of_mem_scan hscan htoken
  | fault hraised hsite => exact hraised.isBoundary hsite

/-- Positions grow strictly with the offsets between the characters of a text.  The line of an
offset counts the line feeds that start before it, and the column the characters behind the
last of them; an offset inside of a character has the position of the next boundary, and one
beyond the text that of the end.  So the positions of tokens are in order, and the offsets that
are named in the text are told apart. -/
theorem positions_grow_with_offsets (text : String) :
    StrictMonoOn (ofOffset text) {offset | Text.IsBoundary text.toList offset} ∧
    (∀ offset,
      (ofOffset text offset).line =
        1 + (Text.startingBefore text.toList offset).count '\n' ∧
      (ofOffset text offset).column =
        1 + ((Text.startingBefore text.toList offset).rtakeWhile (· ≠ '\n')).length) ∧
    (∀ offset ≤ Text.byteLength text.toList, ∃ next,
      IsLeast {boundary | Text.IsBoundary text.toList boundary ∧ offset ≤ boundary} next ∧
      ofOffset text offset = ofOffset text next) ∧
    (∀ offset, Text.byteLength text.toList ≤ offset →
      ofOffset text offset = ofOffset text (Text.byteLength text.toList)) ∧
    (∀ tokens, Token.scan text = .ok tokens →
      tokens.Pairwise fun first second =>
        ofOffset text first.position < ofOffset text second.position) ∧
    Set.InjOn (ofOffset text) {offset | Named text offset} := by
  refine ⟨strictMonoOn_ofOffset text, fun offset => ?_, fun offset hoffset => ?_,
    fun offset hoffset => ofOffset_of_byteLength_le hoffset,
    fun tokens hscan => pairwise_ofOffset_of_scan hscan, ?_⟩
  · rw [Text.startingBefore_eq_charsBefore]
    exact ⟨line_after _, column_after _⟩
  · exact ⟨_, Text.isLeast_byteLength_charsBefore hoffset,
      (ofOffset_byteLength_charsBefore text offset).symm⟩
  · exact (strictMonoOn_ofOffset text).injOn.mono fun offset hnamed => hnamed.isBoundary

end

/-- A character of two bytes on the first line, and a line feed that begins a token and at which
the text is refused. -/
theorem positions_grow_with_offsets_past_wide_character_and_line_feed :
    (Text.IsBoundary "\"é\"\n/b".toList 3 ∧ Text.IsBoundary "\"é\"\n/b".toList 5 ∧
      ofOffset "\"é\"\n/b" 3 < ofOffset "\"é\"\n/b" 5) ∧
    ofOffset "\"é\"\n/b" 2 = ofOffset "\"é\"\n/b" 3 ∧
    ofOffset "\"é\"\n/b" 9 = ofOffset "\"é\"\n/b" 7 ∧
    (∃ tokens, Token.scan "\"é\"\n/b" = .ok tokens ∧
      tokens.map Token.position = [0, 4, 5, 6] ∧
      tokens.Pairwise fun first second =>
        ofOffset "\"é\"\n/b" first.position < ofOffset "\"é\"\n/b" second.position) ∧
    Named "\"é\"\n/b" 4 ∧ Named "\"é\"\n/b" 6 ∧
      ofOffset "\"é\"\n/b" 4 ≠ ofOffset "\"é\"\n/b" 6 := by
  obtain ⟨hmono, -, hnext, hend, htokens, hnamed⟩ :=
    positions_grow_with_offsets "\"é\"\n/b"
  have hthree : Text.IsBoundary "\"é\"\n/b".toList 3 :=
    ⟨"\"é".toList, "\"\n/b".toList, by decide +kernel, by decide +kernel⟩
  have hfive : Text.IsBoundary "\"é\"\n/b".toList 5 :=
    ⟨"\"é\"\n".toList, "/b".toList, by decide +kernel, by decide +kernel⟩
  have hscan : Token.scan "\"é\"\n/b" = .ok
      [⟨⟨.string, "é"⟩, 0⟩, ⟨⟨.whitespace, "\n"⟩, 4⟩, ⟨⟨.slash, "/"⟩, 5⟩,
        ⟨⟨.identifier, "b"⟩, 6⟩] := by
    decide +kernel
  have hrefuses : (Fault.ungrammatical "Unexpected token after part" 4 "\"é\"\n/b"
      ["'/'", "end of schema"] "whitespace").Refuses "\"é\"\n/b" := .inr (by decide +kernel)
  have hfour : Named "\"é\"\n/b" 4 := .fault (.reading hrefuses) rfl
  have hsix : Named "\"é\"\n/b" 6 := .token hscan (List.mem_of_getElem? (i := 3) rfl)
  have htwo : ofOffset "\"é\"\n/b" 2 = ofOffset "\"é\"\n/b" 3 := by
    obtain ⟨next, hleast, hsame⟩ := hnext 2 (by decide +kernel)
    have hwidth : Text.byteLength (Text.charsBefore "\"é\"\n/b".toList 2) = 3 := by
      decide +kernel
    have hother := @Text.isLeast_byteLength_charsBefore "\"é\"\n/b".toList 2 (by decide +kernel)
    rw [hsame, hleast.unique hother, hwidth]
  have hnine : ofOffset "\"é\"\n/b" 9 = ofOffset "\"é\"\n/b" 7 := hend 9 (by decide +kernel)
  refine ⟨⟨hthree, hfive, hmono hthree hfive (by decide)⟩, htwo, hnine,
    ⟨_, hscan, rfl, htokens _ hscan⟩, hfour, hsix, fun hsame => ?_⟩
  exact absurd (hnamed hfour hsix hsame) (by decide)

end Position

end PathSchema
