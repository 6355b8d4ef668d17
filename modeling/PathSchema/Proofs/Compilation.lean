import Mathlib.Data.List.Forall2
import PathSchema.Schema

/-!
# What compiling gives

Parts become constraints one by one and in order.  Whatever a text compiles to
has ordered bounds, and whatever keeps a text from compiling is a compile fault
that is not wrapped in the place of a constraint.
-/

namespace PathSchema

namespace Schema

/-- What is made of a result fails only as the result itself does. -/
theorem eq_error_of_map_eq_error {α β : Type} {result : Except Fault α} {f : α → β}
    {fault : Fault} (h : result.map f = .error fault) : result = .error fault := by
  cases result with
  | ok value => cases h
  | error cause => rw [Except.error.inj h]

end Schema

variable [RegexLibrary]

namespace Constraint

/-- The least number of a bounded run does not exceed its greatest. -/
def Ordered : Constraint → Prop
  | run min max => min ≤ max
  | _ => True

/-- The constraint is the one that the part compiles to. -/
inductive Compiled : Part → Constraint → Prop where
  | literal {text : String} : Compiled (.literal text) (.literal text)
  | regex {source : String} {pattern : Pattern}
      (hpattern : Pattern.ofText source = .ok pattern) :
      Compiled (.regex source) (.regex pattern)
  | var {name : String} {calls : List ModifierCall} :
      Compiled (.var name calls) (.var name calls)
  | set {name : String} : Compiled (.set name) (.set name)
  | everything : Compiled (.wildcard .multi none) .everything
  | single : Compiled (.wildcard .single none) (.run 1 1)
  | run {min max : Nat} (hle : min ≤ max) :
      Compiled (.wildcard .single (some ⟨min, max⟩)) (.run min max)

theorem compiled_of_ofPart {part : Part} {constraint : Constraint}
    (h : ofPart part = .ok constraint) : Compiled part constraint := by
  unfold ofPart at h
  split at h
  · obtain rfl := Except.ok.inj h
    exact .literal
  · split at h
    · next hpattern =>
        obtain rfl := Except.ok.inj h
        exact .regex hpattern
    · cases h
  · obtain rfl := Except.ok.inj h
    exact .var
  · obtain rfl := Except.ok.inj h
    exact .set
  · obtain rfl := Except.ok.inj h
    exact .everything
  · cases h
  · obtain rfl := Except.ok.inj h
    exact .single
  · split at h
    · next hle =>
        obtain rfl := Except.ok.inj h
        exact .run hle
    · cases h

theorem ordered_of_ofPart {part : Part} {constraint : Constraint}
    (h : ofPart part = .ok constraint) : constraint.Ordered := by
  cases compiled_of_ofPart h with
  | single => exact Nat.le_refl 1
  | run hle => exact hle
  | _ => trivial

theorem ofParts_eq_ok_iff {parts : List Part} {constraints : List Constraint} :
    ofParts parts = .ok constraints ↔
      List.Forall₂ (fun part constraint => ofPart part = .ok constraint)
        parts constraints := by
  induction parts generalizing constraints with
  | nil => simp [ofParts, eq_comm]
  | cons part rest ih =>
      rw [ofParts]
      constructor
      · intro h
        split at h
        · cases h
        · next constraint hpart =>
            split at h
            · cases h
            · next others hrest =>
                obtain rfl := Except.ok.inj h
                exact .cons hpart (ih.mp hrest)
      · rintro (_ | ⟨hpart, hrest⟩)
        rw [hpart, ih.mpr hrest]

theorem ordered_of_ofParts {parts : List Part} {constraints : List Constraint}
    (h : ofParts parts = .ok constraints) :
    ∀ constraint ∈ constraints, constraint.Ordered := by
  have hparts := ofParts_eq_ok_iff.mp h
  clear h
  induction hparts with
  | nil => simp
  | cons hpart _ ih => simpa using ⟨ordered_of_ofPart hpart, ih⟩

theorem exists_of_ofParts_eq_error {parts : List Part} {fault : Fault}
    (h : ofParts parts = .error fault) : ∃ part ∈ parts, ofPart part = .error fault := by
  induction parts with
  | nil => cases h
  | cons part rest ih =>
      rw [ofParts] at h
      split at h
      · next cause hpart => exact ⟨part, by simp, by rw [hpart, Except.error.inj h]⟩
      · split at h
        · next cause hrest =>
            obtain ⟨other, hother, hfault⟩ := ih (by rw [hrest, Except.error.inj h])
            exact ⟨other, by simp [hother], hfault⟩
        · cases h

theorem compileFault_of_ofPart {part : Part} {fault : Fault}
    (h : ofPart part = .error fault) :
    fault.isCompile = true ∧ fault.rootCause = fault := by
  unfold ofPart at h
  split at h
  · cases h
  · split at h
    · cases h
    · obtain rfl := Except.error.inj h
      exact ⟨rfl, rfl⟩
  · cases h
  · cases h
  · cases h
  · obtain rfl := Except.error.inj h
    exact ⟨rfl, rfl⟩
  · cases h
  · split at h
    · cases h
    · obtain rfl := Except.error.inj h
      exact ⟨rfl, rfl⟩

end Constraint

namespace Schema

theorem compile_eq_ok_iff {parts : List Part} {constraints : List Constraint} :
    compile parts = .ok constraints ↔
      parts ≠ [] ∧ Constraint.ofParts parts = .ok constraints := by
  cases parts <;> simp [compile]

theorem compileFault_of_compile {parts : List Part} {fault : Fault}
    (h : compile parts = .error fault) :
    fault.isCompile = true ∧ fault.rootCause = fault := by
  unfold compile at h
  split at h
  · obtain rfl := Except.error.inj h
    exact ⟨rfl, rfl⟩
  · obtain ⟨part, -, hfault⟩ := Constraint.exists_of_ofParts_eq_error h
    exact Constraint.compileFault_of_ofPart hfault

theorem ofText_of_parts {text : String} {parts : List Part}
    (hparts : Part.ofText text = .ok parts) :
    ofText text = (compile parts).map fun constraints => ⟨text, constraints⟩ := by
  rw [ofText, hparts]

theorem ofText_eq_ok_iff {text : String} {schema : Schema} :
    ofText text = .ok schema ↔
      schema.source = text ∧
        ∃ parts, Part.ofText text = .ok parts ∧ compile parts = .ok schema.constraints := by
  cases hparts : Part.ofText text with
  | error error => simp [ofText, hparts]
  | ok parts =>
      rw [ofText_of_parts hparts]
      cases hcompile : compile parts with
      | error fault => simp [Except.map, hcompile]
      | ok constraints =>
          constructor
          · intro h
            obtain rfl := Except.ok.inj h
            exact ⟨rfl, parts, rfl, hcompile⟩
          · rintro ⟨rfl, _, hsame, hconstraints⟩
            obtain rfl := Except.ok.inj hsame
            obtain rfl := Except.ok.inj (hcompile.symm.trans hconstraints)
            rfl

theorem ordered_of_ofText {text : String} {schema : Schema}
    (h : ofText text = .ok schema) :
    ∀ constraint ∈ schema.constraints, constraint.Ordered := by
  obtain ⟨-, parts, -, hcompile⟩ := ofText_eq_ok_iff.mp h
  exact Constraint.ordered_of_ofParts (compile_eq_ok_iff.mp hcompile).2

theorem compileFault_of_ofText {text : String} {fault : Fault}
    (h : ofText text = .error fault) :
    fault.isCompile = true ∧ fault.rootCause = fault := by
  cases hparts : Part.ofText text with
  | error error =>
      rw [ofText, hparts] at h
      obtain rfl := Except.error.inj h
      cases error <;> exact ⟨rfl, rfl⟩
  | ok parts =>
      rw [ofText_of_parts hparts] at h
      exact compileFault_of_compile (eq_error_of_map_eq_error h)

end Schema

end PathSchema
