import PathSchema.Proofs.Language
import PathSchema.Proofs.Pattern.Engine

/-!
# Patterns between anchors

A pattern is read between anchors, as the text of a group.  With any library that keeps what
it promises of its expressions, a pattern that compiles there is an expression by itself and
matches whole segments, unless it ends that group: then it is no expression by itself, and
what stands behind the parenthesis is not anchored at the start.
-/

namespace PathSchema

section

variable [RegexLibrary]

namespace Schema

variable {store : Store} {registry : Registry}

/-- Segments that a schema validates are cut at each of its constraints, which takes a
word. -/
theorem exists_cut_of_validateSegments {text : String} {schema : Schema}
    (htext : ofText text = .ok schema) {front back : List Constraint}
    {constraint : Constraint} (hschema : schema.constraints = front ++ constraint :: back)
    {memory after : Memory} (hmemory : memory.Sound) {segments : List String}
    (hrun : (schema.validateSegments store registry segments).run memory =
      some (.ok (), after)) :
    ∃ before taken behind, segments = before ++ taken ++ behind ∧
      before ∈ (front.map (Constraint.language store registry)).prod ∧
      taken ∈ constraint.language store registry ∧
      behind ∈ (back.map (Constraint.language store registry)).prod := by
  have hresult := (validateSegments_follows schema segments).result?_of_run hmemory hrun
  obtain ⟨words, hsegments, hwords⟩ := evaluateWithin_sound (ordered_of_ofText htext)
    (Plain.result?_validateSegments_eq_ok_iff.mp hresult)
  rw [Schema.language, hschema, List.map_append, List.map_cons, List.prod_append,
    List.prod_cons] at hwords
  obtain ⟨before, hbefore, others, ⟨taken, htaken, behind, hbehind, rfl⟩, rfl⟩ := hwords
  refine ⟨before, taken, behind, ?_, hbefore, htaken, hbehind⟩
  rw [hsegments]
  simp

end Schema

namespace Pattern

/-- A pattern that compiles between anchors is an expression by itself exactly if it does
not end the group around it.  Then it matches the segments that the expression matches
from the first to the last character, and so does every part of a schema that it is the
pattern of. -/
theorem spans_segments_unless_group_closed {language : RegexLanguage}
    (hdocumented : RegexLibrary.Documented language) {source : String} {pattern : Pattern}
    (hpattern : ofText source = .ok pattern) :
    (language.Valid source ↔ ¬language.ClosesGroup source) ∧
    (language.Valid source →
      (∀ segment, pattern.isMatch segment = true ↔ language.Spans source "" segment "") ∧
      ∀ (store : Store) (registry : Registry) (memory after : Memory) (text : String)
        (schema : Schema) (front back : List Constraint) (segments : List String),
        memory.Sound → Schema.ofText text = .ok schema →
        schema.constraints = front ++ .regex pattern :: back →
        (schema.validateSegments store registry segments).run memory =
          some (.ok (), after) →
        ∃ before segment behind, segments = before ++ [segment] ++ behind ∧
          before ∈ (front.map (Constraint.language store registry)).prod ∧
          behind ∈ (back.map (Constraint.language store registry)).prod ∧
          language.Spans source "" segment "") := by
  obtain rfl := ofText_eq_ok_iff.mp hpattern
  have hencloses : ¬language.ClosesGroup pattern.source → language.Encloses pattern.source :=
    (hdocumented.encloses_or_closesGroup pattern.compiles).resolve_right
  have hopen : language.Valid pattern.source → ¬language.ClosesGroup pattern.source :=
    fun hvalid hcloses => hdocumented.unopened hcloses hvalid
  refine ⟨⟨hopen, fun h => (hencloses h).valid⟩, fun hvalid => ?_⟩
  have hwhole : ∀ segment, pattern.isMatch segment = true ↔
      language.Spans pattern.source "" segment "" := fun segment =>
    hdocumented.isMatch_anchored_iff pattern.compiles (hencloses (hopen hvalid))
  refine ⟨hwhole, ?_⟩
  intro store registry memory after text schema front back segments hmemory htext hschema hrun
  obtain ⟨before, taken, behind, hsegments, hbefore, htaken, hbehind⟩ :=
    Schema.exists_cut_of_validateSegments htext hschema hmemory hrun
  cases htaken with
  | regex hmatch =>
      exact ⟨before, _, behind, hsegments, hbefore, hbehind, (hwhole _).mp hmatch⟩

end Pattern

end

namespace Pattern

theorem spans_segments_of_alternation :
    ∃ pattern, ofText "a|b+" = .ok pattern ∧ Regex.language.Valid "a|b+" ∧
      ¬Regex.language.ClosesGroup "a|b+" ∧ Regex.language.Spans "a|b+" "" "bb" "" ∧
      ¬Regex.language.Spans "a|b+" "" "bbc" "" := by
  let pattern : Pattern := ⟨"a|b+", by decide +kernel⟩
  have hpattern : ofText "a|b+" = .ok pattern := ofText_eq_ok_iff.mpr rfl
  have hvalid : Regex.language.Valid "a|b+" := Regex.documented.compiles (by decide +kernel)
  obtain ⟨hopen, hspans⟩ := spans_segments_unless_group_closed Regex.documented hpattern
  have hsegments := (hspans hvalid).1
  have hpart : ¬pattern.isMatch "bbc" = true := by decide +kernel
  exact ⟨pattern, hpattern, hvalid, hopen.mp hvalid, (hsegments "bb").mp (by decide +kernel),
    fun h => hpart ((hsegments "bbc").mpr h)⟩

/-- A text that ends the group around it may compile, although it is no expression by
itself, and match a segment of which only the first character is as its alternatives say. -/
theorem group_closed_by_alternatives :
    ∃ pattern schema, ofText "a)|(?:b" = .ok pattern ∧ ¬Regex.language.Valid "a)|(?:b" ∧
      pattern.isMatch "ax" = true ∧ Schema.ofText "\"a)|(?:b\"" = .ok schema ∧
      schema.constraints = [.regex pattern] ∧
      (schema.validateSegments {} Registry.builtin ["ax"]).run {} = some (.ok (), {}) := by
  let pattern : Pattern := ⟨"a)|(?:b", by decide +kernel⟩
  have hcloses : Regex.language.ClosesGroup "a)|(?:b" :=
    ⟨"a", "|(?:b", by decide, Regex.documented.compiles (by decide +kernel),
      Regex.documented.compiles (by decide +kernel)⟩
  exact ⟨pattern, ⟨"\"a)|(?:b\"", [.regex pattern]⟩, ofText_eq_ok_iff.mpr rfl,
    Regex.documented.unopened hcloses, by decide +kernel, by decide +kernel, rfl,
    by decide +kernel⟩

end Pattern

end PathSchema
