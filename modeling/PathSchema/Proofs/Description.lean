import PathSchema.Proofs.CompileRoutes
import PathSchema.Pattern.Engine

/-!
# Descriptions of constraints

Messages and listings show a constraint by its description only.  A description tells the
kind of the constraint and how its part is written, with names, patterns and arguments as
they are, whatever commas, quotes and parentheses they hold.  Where the part can be read
from a text at all, it is also read back from the way it is written, so constraints that
texts compile to are described alike only if they are the same.  Constraints built by hand
need not be.
-/

namespace PathSchema

theorem Part.eq_of_render_eq {part other : Part} (hpart : part.WellFormed)
    (hother : other.WellFormed) (h : part.render = other.render) : part = other := by
  have hread : ofText part.render = .ok [part] :=
    @ofText_renderList [part] ⟨by simp, by simpa using hpart⟩
  have hagain : ofText other.render = .ok [other] :=
    @ofText_renderList [other] ⟨by simp, by simpa using hother⟩
  rw [h, hagain] at hread
  exact (List.singleton_inj.mp (Except.ok.inj hread)).symm

theorem Part.render_quantified (symbol : Wildcard) (quantifier : Quantifier) :
    render (.wildcard symbol (some quantifier)) =
      Lexeme.written [symbol.lexeme] ++ quantifier.render := by
  rw [render, Quantifier.render, Lexeme.written, Lexeme.written, Lexeme.written,
    ← String.ofList_append, ← List.flatMap_append]
  rfl

theorem Document.ofTexts_injective : Function.Injective ofTexts := by
  intro texts others h
  refine List.map_injective_iff.mpr ?_ (Document.list.inj h)
  intro text other hsame
  exact (Document.scalar.inj hsame).1

section

variable [RegexLibrary]

namespace Constraint

/-- The part that a constraint comes from; a bounded wildcard has both bounds. -/
def toPart : Constraint → Part
  | literal text => .literal text
  | regex pattern => .regex pattern.source
  | run min max => .wildcard .single (some ⟨min, max⟩)
  | everything => .wildcard .multi none
  | var name calls => .var name calls
  | set name => .set name

/-- The part that the constraint comes from can be written. -/
def WellFormed (constraint : Constraint) : Prop :=
  constraint.toPart.WellFormed

theorem toPart_injective : Function.Injective toPart := by
  intro constraint other
  cases constraint <;> cases other <;> simp [toPart, Pattern.ext_iff]

theorem Compiled.wellFormed {part : Part} {constraint : Constraint}
    (h : Compiled part constraint) (hpart : part.WellFormed) :
    constraint.WellFormed := by
  cases h with
  | regex hpattern =>
      obtain rfl := Pattern.ofText_eq_ok_iff.mp hpattern
      exact hpart
  | single =>
      rintro _ ⟨⟩
      exact ⟨by decide, by decide⟩
  | literal => exact hpart
  | var => exact hpart
  | set => exact hpart
  | everything => exact hpart
  | run => exact hpart

theorem wellFormed_of_ofParts {parts : List Part} {constraints : List Constraint}
    (h : ofParts parts = .ok constraints) (hparts : ∀ part ∈ parts, part.WellFormed) :
    ∀ constraint ∈ constraints, constraint.WellFormed := by
  have hforall := ofParts_eq_ok_iff.mp h
  clear h
  induction hforall with
  | nil => simp
  | cons hpart _ ih =>
      have hfirst := (compiled_of_ofPart hpart).wellFormed (hparts _ (by simp))
      simpa using ⟨hfirst, ih fun part hmem => hparts part (by simp [hmem])⟩

theorem render_toPart_eq_of_describe_eq {constraint other : Constraint}
    (h : constraint.describe = other.describe) :
    constraint.toPart.render = other.toPart.render := by
  have hchars := congrArg String.toList h
  cases constraint with
  | literal text =>
      cases other with
      | literal text' =>
          obtain rfl : text = text' := by simpa [describe] using h
          rfl
      | _ => simp [describe] at hchars
  | regex pattern =>
      cases other with
      | regex pattern' =>
          obtain rfl : pattern = pattern' := Pattern.ext (by simpa [describe] using h)
          rfl
      | _ => simp [describe] at hchars
  | run min max =>
      cases other with
      | run min' max' =>
          have hbounds : Quantifier.render ⟨min, max⟩ = Quantifier.render ⟨min', max'⟩ := by
            simpa [describe] using h
          rw [toPart, toPart, Part.render_quantified, Part.render_quantified, hbounds]
      | _ => simp [describe] at hchars
  | everything =>
      cases other with
      | everything => rfl
      | _ => simp [describe] at hchars
  | var name calls =>
      cases other with
      | var name' calls' =>
          have hvars : Part.render (.var name calls) = Part.render (.var name' calls') := by
            simpa [describe] using h
          exact hvars
      | _ => simp [describe] at hchars
  | set name =>
      cases other with
      | set name' =>
          have hsets : Part.render (.set name) = Part.render (.set name') := by
            simpa [describe] using h
          exact hsets
      | _ => simp [describe] at hchars

theorem eq_of_describe_eq {constraint other : Constraint}
    (hconstraint : constraint.WellFormed) (hother : other.WellFormed)
    (h : constraint.describe = other.describe) : constraint = other :=
  toPart_injective
    (Part.eq_of_render_eq hconstraint hother (render_toPart_eq_of_describe_eq h))

theorem eq_of_map_describe_eq {constraints others : List Constraint}
    (hconstraints : ∀ constraint ∈ constraints, constraint.WellFormed)
    (hothers : ∀ other ∈ others, other.WellFormed)
    (h : constraints.map describe = others.map describe) : constraints = others := by
  induction constraints generalizing others with
  | nil => exact (List.map_eq_nil_iff.mp h.symm).symm
  | cons constraint rest ih =>
      cases others with
      | nil => cases h
      | cons other more =>
          simp only [List.forall_mem_cons] at hconstraints hothers
          obtain ⟨hfirst, hrest⟩ := List.cons.inj h
          rw [eq_of_describe_eq hconstraints.1 hothers.1 hfirst,
            ih hconstraints.2 hothers.2 hrest]

end Constraint

namespace Schema

theorem wellFormed_of_ofText {text : String} {schema : Schema}
    (h : ofText text = .ok schema) :
    ∀ constraint ∈ schema.constraints, constraint.WellFormed := by
  obtain ⟨-, parts, hparts, hcompile⟩ := ofText_eq_ok_iff.mp h
  exact Constraint.wellFormed_of_ofParts (compile_eq_ok_iff.mp hcompile).2
    (Part.listWellFormed_of_ofText hparts).2

/-- Schemas that are compiled from texts are described alike, constraint by constraint,
exactly if their constraints are the same; the documents in which the descriptions are
printed tell no less.  So schemas that are described alike validate every path in the same
way, and give the same bindings, however their texts differ. -/
theorem descriptions_identify_constraints {text other : String} {first second : Schema}
    (hfirst : ofText text = .ok first) (hsecond : ofText other = .ok second) :
    (first.constraints.map Constraint.describe = second.constraints.map Constraint.describe ↔
      first.constraints = second.constraints) ∧
    (Document.ofTexts (first.constraints.map Constraint.describe) =
        Document.ofTexts (second.constraints.map Constraint.describe) ↔
      first.constraints = second.constraints) ∧
    (first.constraints.map Constraint.describe = second.constraints.map Constraint.describe →
      (∀ store registry path,
        first.validate store registry path = second.validate store registry path) ∧
      ∀ path, first.extract path = second.extract path) := by
  have hidentify : first.constraints.map Constraint.describe =
      second.constraints.map Constraint.describe ↔
        first.constraints = second.constraints := by
    constructor
    · exact Constraint.eq_of_map_describe_eq (wellFormed_of_ofText hfirst)
        (wellFormed_of_ofText hsecond)
    · exact congrArg (List.map Constraint.describe)
  refine ⟨hidentify, Document.ofTexts_injective.eq_iff.trans hidentify, ?_⟩
  intro hdescribe
  exact answers_of_constraints_eq (hidentify.mp hdescribe)

end Schema

end

namespace Schema

/-- Commas, quotes and parentheses in arguments and in a pattern, and texts that differ in
their blanks and in the bounds of the wildcard. -/
theorem descriptions_identify_constraints_spelled_differently :
    ∃ first second,
      ofText "$v.m(\"\\\", \", \")\")/\"\\\"|,\"/+" = .ok first ∧
      ofText "$v.m( \"\\\", \" ,\")\" )/\"\\\"|,\"/+{01}" = .ok second ∧
      first.constraints.map Constraint.describe =
        ["Variable($v.m(\"\\\", \", \")\"))", "Regex(\"\\\"|,\")", "WildcardSingle{1,1}"] ∧
      second.constraints.map Constraint.describe =
        ["Variable($v.m(\"\\\", \", \")\"))", "Regex(\"\\\"|,\")", "WildcardSingle{1,1}"] ∧
      first.constraints = second.constraints := by
  let constraints : List Constraint :=
    [.var "v" [⟨"m", ["\\\", ", ")"]⟩], .regex ⟨"\\\"|,", by decide +kernel⟩, .run 1 1]
  have hfirst : ofText "$v.m(\"\\\", \", \")\")/\"\\\"|,\"/+" =
      .ok ⟨"$v.m(\"\\\", \", \")\")/\"\\\"|,\"/+", constraints⟩ := by
    decide +kernel
  have hsecond : ofText "$v.m( \"\\\", \" ,\")\" )/\"\\\"|,\"/+{01}" =
      .ok ⟨"$v.m( \"\\\", \" ,\")\" )/\"\\\"|,\"/+{01}", constraints⟩ := by
    decide +kernel
  have hdescribe : constraints.map Constraint.describe =
      ["Variable($v.m(\"\\\", \", \")\"))", "Regex(\"\\\"|,\")", "WildcardSingle{1,1}"] := by
    decide +kernel
  obtain ⟨hidentify, -, -⟩ := descriptions_identify_constraints hfirst hsecond
  exact ⟨_, _, hfirst, hsecond, hdescribe, hdescribe,
    hidentify.mp (hdescribe.trans hdescribe.symm)⟩

/-- Built by hand, a name may hold what looks like a call. -/
example :
    Constraint.describe (.var "v.m(\"a\")" []) =
      Constraint.describe (.var "v" [⟨"m", ["a"]⟩]) := by
  decide +kernel

end Schema

end PathSchema
