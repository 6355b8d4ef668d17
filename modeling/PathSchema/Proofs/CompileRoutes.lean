import PathSchema.Evaluation
import PathSchema.Extraction
import PathSchema.Inspection
import PathSchema.Proofs.Compilation
import PathSchema.Proofs.RoundTrip
import PathSchema.Pattern.Engine

/-!
# Ways to compile a text

A text is compiled at once, or by way of its parts, which leaves the canonical text as
the source, or for an inspection, which scans the text once more if its tokens are asked
for.  All of them show the same reading of the text: its parts, and the constraint of
each part.  So they fail alike, and what they succeed with differs only in what they show
beside the constraints.

The canonical text has the reading that it was written from, however the text itself was
spelled.
-/

namespace PathSchema

section

variable [RegexLibrary]

namespace Schema

/-- Compiles a text by way of its parts. -/
def ofTextByParts (text : String) : Except Fault Schema := do
  let parts ← (Part.ofText text).mapError (Fault.ofParseError text)
  ofParts parts

/-- What a text is read as: its parts and their constraints. -/
def reading (text : String) : Except Fault (List Part × List Constraint) :=
  match Part.ofText text with
  | .error error => .error (.ofParseError text error)
  | .ok parts => (compile parts).map fun constraints => (parts, constraints)

/-- Every way to compile the text fails with the fault. -/
structure FailsEveryWay (text : String) (fault : Fault) : Prop where
  atOnce : ofText text = .error fault
  byParts : ofTextByParts text = .error fault
  inspected : ∀ withTokens, Inspection.ofText text withTokens = .error fault

/-- The text is read as the parts, and every way to compile it succeeds with the
constraints, one for each part and in order. -/
structure CompilesEveryWay (text : String) (parts : List Part)
    (constraints : List Constraint) : Prop where
  read : Part.ofText text = .ok parts
  compiled : List.Forall₂ Constraint.Compiled parts constraints
  atOnce : ofText text = .ok ⟨text, constraints⟩
  byParts : ofTextByParts text = .ok ⟨Part.renderList parts, constraints⟩
  inspected : ∃ tokens, Token.scan text = .ok tokens ∧
    ∀ withTokens, Inspection.ofText text withTokens =
      .ok ⟨text, if withTokens then some tokens else none, parts, constraints⟩

variable {text : String} {parts : List Part} {constraints : List Constraint}

/-! ## The reading that all of them show -/

theorem reading_of_parts (hparts : Part.ofText text = .ok parts) :
    reading text = (compile parts).map fun constraints => (parts, constraints) := by
  rw [reading, hparts]

theorem reading_eq_ok_iff :
    reading text = .ok (parts, constraints) ↔
      Part.ofText text = .ok parts ∧ compile parts = .ok constraints := by
  constructor
  · intro h
    cases hparts : Part.ofText text with
    | error error =>
        rw [reading, hparts] at h
        cases h
    | ok found =>
        rw [reading_of_parts hparts] at h
        cases hcompile : compile found with
        | error fault =>
            rw [hcompile] at h
            cases h
        | ok given =>
            rw [hcompile] at h
            obtain ⟨rfl, rfl⟩ := Prod.mk.inj (Except.ok.inj h)
            exact ⟨rfl, hcompile⟩
  · rintro ⟨hparts, hcompile⟩
    rw [reading_of_parts hparts, hcompile]
    rfl

theorem ofText_eq_map_reading (text : String) :
    ofText text = (reading text).map fun (_, constraints) => ⟨text, constraints⟩ := by
  rw [ofText, reading]
  cases Part.ofText text with
  | error error => rfl
  | ok parts =>
      dsimp only
      cases compile parts <;> rfl

theorem ofTextByParts_eq_map_reading (text : String) :
    ofTextByParts text = (reading text).map fun (parts, constraints) =>
      ⟨Part.renderList parts, constraints⟩ := by
  rw [ofTextByParts, reading]
  cases Part.ofText text with
  | error error => rfl
  | ok parts =>
      change ofParts parts = _
      rw [ofParts]
      dsimp only
      cases compile parts <;> rfl

end Schema

namespace Inspection

variable {text : String}

theorem ofText_of_scan_error {error : ScanError} (hscan : Token.scan text = .error error)
    (withTokens : Bool) :
    ofText text withTokens = .error (.ofScanError text error) := by
  cases withTokens with
  | false =>
      rw [ofText, Part.ofText_of_scan_eq_error hscan]
      rfl
  | true =>
      rw [ofText, hscan]
      rfl

/-- A text that can be scanned is inspected as it is read, with its tokens beside. -/
theorem ofText_eq_map_reading {tokens : List Token} (hscan : Token.scan text = .ok tokens)
    (withTokens : Bool) :
    ofText text withTokens = (Schema.reading text).map fun (parts, constraints) =>
      ⟨text, if withTokens then some tokens else none, parts, constraints⟩ := by
  rw [ofText, hscan, Schema.reading]
  cases Part.ofText text with
  | error error => cases withTokens <;> rfl
  | ok parts =>
      cases hcompile : Schema.compile parts with
      | error fault =>
          cases withTokens <;>
            simp [Schema.ofParts, hcompile, Except.mapError, Except.map, bind, Except.bind]
      | ok constraints =>
          cases withTokens <;>
            simp [Schema.ofParts, hcompile, Except.mapError, Except.map, bind, Except.bind,
              pure, Except.pure]

end Inspection

namespace Schema

variable {text : String} {parts : List Part} {constraints : List Constraint}

theorem failsEveryWay_of_reading {fault : Fault} (h : reading text = .error fault) :
    FailsEveryWay text fault := by
  refine ⟨?_, ?_, fun withTokens => ?_⟩
  · rw [ofText_eq_map_reading, h]
    rfl
  · rw [ofTextByParts_eq_map_reading, h]
    rfl
  · cases hscan : Token.scan text with
    | error error =>
        rw [reading, Part.ofText_of_scan_eq_error hscan] at h
        obtain rfl := Except.error.inj h
        exact Inspection.ofText_of_scan_error hscan withTokens
    | ok tokens =>
        rw [Inspection.ofText_eq_map_reading hscan, h]
        rfl

theorem compilesEveryWay_of_reading (h : reading text = .ok (parts, constraints)) :
    CompilesEveryWay text parts constraints := by
  obtain ⟨hparts, hcompile⟩ := reading_eq_ok_iff.mp h
  obtain ⟨-, hconstraints⟩ := compile_eq_ok_iff.mp hcompile
  obtain ⟨tokens, hscan, -⟩ := Part.exists_tokens_of_ofText hparts
  have hcompiled := (Constraint.ofParts_eq_ok_iff.mp hconstraints).imp
    fun _ _ => Constraint.compiled_of_ofPart
  refine ⟨hparts, hcompiled, ?_, ?_, tokens, hscan, fun withTokens => ?_⟩
  · rw [ofText_eq_map_reading, h]
    rfl
  · rw [ofTextByParts_eq_map_reading, h]
    rfl
  · rw [Inspection.ofText_eq_map_reading hscan, h]
    rfl

/-- The canonical text of what is read has the same reading. -/
theorem reading_renderList (h : reading text = .ok (parts, constraints)) :
    reading (Part.renderList parts) = .ok (parts, constraints) := by
  obtain ⟨hparts, hcompile⟩ := reading_eq_ok_iff.mp h
  exact reading_eq_ok_iff.mpr
    ⟨Part.ofText_renderList (Part.listWellFormed_of_ofText hparts), hcompile⟩

/-- Schemas of the same constraints validate and extract alike, whatever their sources. -/
theorem answers_of_constraints_eq {schema other : Schema}
    (hconstraints : schema.constraints = other.constraints) :
    (∀ store registry path,
      validate store registry schema path = validate store registry other path) ∧
    ∀ path, schema.extract path = other.extract path := by
  constructor
  · intro store registry path
    have hevaluate : evaluate store registry schema = evaluate store registry other := by
      funext segments
      rw [evaluate, hconstraints, evaluate]
    rw [validate, validateSegments, hevaluate, validate, validateSegments]
  · intro path
    rw [extract, extract, hconstraints]

/-- All ways to compile a text agree.  Either they all fail, and with the same fault, or they
all succeed with the same constraints, which are those of the parts one by one and in order;
inspections with and without tokens differ in the tokens only.  In the second case the
canonical text of the parts is read and compiles, in every way, as the text itself, and its
schema validates and extracts like that of the text. -/
theorem compile_routes_agree (text : String) :
    (∃ fault, FailsEveryWay text fault) ∨
    ∃ parts constraints, CompilesEveryWay text parts constraints ∧
      CompilesEveryWay (Part.renderList parts) parts constraints ∧
      (∀ store registry path,
        validate store registry ⟨Part.renderList parts, constraints⟩ path =
          validate store registry ⟨text, constraints⟩ path) ∧
      ∀ path, extract ⟨Part.renderList parts, constraints⟩ path =
        extract ⟨text, constraints⟩ path := by
  cases hreading : reading text with
  | error fault => exact .inl ⟨fault, failsEveryWay_of_reading hreading⟩
  | ok found =>
      obtain ⟨parts, constraints⟩ := found
      have hcanonical := compilesEveryWay_of_reading (reading_renderList hreading)
      exact .inr ⟨parts, constraints, compilesEveryWay_of_reading hreading, hcanonical,
        answers_of_constraints_eq rfl⟩

end Schema

end

namespace Schema

/-- Blanks, a leading zero and a single bound are gone from the canonical text. -/
example :
    ofTextByParts "$v.m( \"a\",\"\" )/+{02}" =
      .ok ⟨"$v.m(\"a\", \"\")/+{2,2}", [.var "v" [⟨"m", ["a", ""]⟩], .run 2 2]⟩ := by
  decide +kernel

end Schema

end PathSchema
