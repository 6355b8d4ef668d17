import PathSchema.Proofs.Evaluation.Depth
import PathSchema.Proofs.Evaluation.Refusal
import PathSchema.Pattern.Engine

/-!
# What a validation fails with

A validation fails at the first constraint that fails by itself, on the segments that the
constraints before it left, or because segments are left over at the end.  The fault of
a constraint is wrapped once, with the place of the constraint in the schema that is
validated and with all segments; the wrappers that the members of sets give to their own
faults never reach it.
-/

namespace PathSchema

section

variable [RegexLibrary]

namespace Constraint

/-- By itself, and whatever members are remembered, the constraint comes to the result. -/
def Gives (store : Store) (registry : Registry) (constraint : Constraint)
    (segments : List String) (result : Except Fault (List String)) : Prop :=
  ∀ memory : Memory, memory.Sound →
    ∃ after, (constraint.evaluate store registry segments).run memory = some (result, after)

/-- Constraints take segments one after the other, each by itself from what the one
before it left. -/
inductive TakeInTurn (store : Store) (registry : Registry) :
    List Constraint → List String → List String → Prop where
  | nil {segments : List String} : TakeInTurn store registry [] segments segments
  | cons {first : Constraint} {others : List Constraint}
      {segments remaining rest : List String}
      (hfirst : first.Gives store registry segments (.ok remaining))
      (hothers : TakeInTurn store registry others remaining rest) :
      TakeInTurn store registry (first :: others) segments rest

end Constraint

namespace Schema

/-- The fault is that of a constraint of the schema, on what the constraints before it
left.  It is wrapped with the place and the description of the constraint and with all
segments, and wraps no other wrapper. -/
def FailsAtConstraint (store : Store) (registry : Registry) (schema : Schema)
    (segments : List String) (fault : Fault) : Prop :=
  ∃ (index : Nat) (hindex : index < schema.constraints.length)
      (remaining : List String) (cause : Fault),
    Constraint.TakeInTurn store registry (schema.constraints.take index) segments
        remaining ∧
      schema.constraints[index].Gives store registry remaining (.error cause) ∧
      cause.Bare ∧
      fault = .atConstraint index schema.constraints[index].describe (Path.join segments)
        cause

/-- The fault is that of segments at the end which no constraint took. -/
def LeavesSegments (store : Store) (registry : Registry) (schema : Schema)
    (segments : List String) (fault : Fault) : Prop :=
  ∃ leftover : List String,
    Constraint.TakeInTurn store registry schema.constraints segments leftover ∧
      leftover ≠ [] ∧ leftover <:+ segments ∧ fault = .trailingSegments leftover

end Schema

variable {store : Store} {registry : Registry}

namespace Constraint

theorem gives_iff {constraint : Constraint} {segments : List String}
    {result : Except Fault (List String)} :
    constraint.Gives store registry segments result ↔
      (Plain.evaluateConstraint store registry constraint segments).result? =
        some result := by
  have hfollows : (constraint.evaluate store registry segments).Follows
      (Plain.evaluateConstraint store registry constraint segments) :=
    evaluate_follows constraint segments
  constructor
  · intro hgives
    exact (hfollows.exists_run_iff Memory.sound_empty).mp (hgives {} Memory.sound_empty)
  · intro hresult memory hmemory
    exact (hfollows.exists_run_iff hmemory).mpr hresult

theorem takeInTurn_iff_passes {constraints : List Constraint}
    {segments rest : List String} :
    TakeInTurn store registry constraints segments rest ↔
      Plain.Passes (Plain.evaluateConstraint store registry) constraints segments rest := by
  constructor
  · intro h
    induction h with
    | nil => exact .nil
    | cons hfirst _ ih => exact .cons (gives_iff.mp hfirst) ih
  · intro h
    induction h with
    | nil => exact .nil
    | cons hstep _ ih => exact .cons (gives_iff.mpr hstep) ih

end Constraint

namespace Plain

/-- Evaluating a schema fails exactly with the fault of the first constraint that fails. -/
theorem evaluate_eq_error_iff (hstore : store.Grounded) {schema : Schema}
    {segments : List String} {fault : Fault} :
    (evaluate store registry schema segments).result? = some (.error fault) ↔
      schema.FailsAtConstraint store registry segments fault := by
  rw [evaluate_eq_consumeAll hstore, result?_consumeAll_eq_error_iff]
  constructor
  · rintro ⟨before, constraint, others, remaining, cause, hsplit, hbefore, hcause, hfault⟩
    have hindex : before.length < schema.constraints.length := by simp [hsplit]
    have htake : schema.constraints.take before.length = before := by simp [hsplit]
    have hget : schema.constraints[before.length] = constraint := by simp [hsplit]
    refine ⟨before.length, hindex, remaining, cause, ?_, ?_,
      bare_of_evaluateConstraint_eq_error hcause, ?_⟩
    · rw [htake]
      exact Constraint.takeInTurn_iff_passes.mpr hbefore
    · rw [hget]
      exact Constraint.gives_iff.mpr hcause
    · rw [hfault, hget, Nat.zero_add]
  · rintro ⟨index, hindex, remaining, cause, hbefore, hcause, -, hfault⟩
    have hlength : (schema.constraints.take index).length = index := by
      rw [List.length_take]
      omega
    refine ⟨schema.constraints.take index, schema.constraints[index],
      schema.constraints.drop (index + 1), remaining, cause, ?_,
      Constraint.takeInTurn_iff_passes.mp hbefore, Constraint.gives_iff.mp hcause, ?_⟩
    · rw [← List.drop_eq_getElem_cons hindex, List.take_append_drop]
    · rw [hfault, hlength, Nat.zero_add]

/-- What a schema leaves is what its constraints leave one after the other, and is found at
the end of the segments. -/
theorem evaluate_eq_ok_iff (hstore : store.Grounded) {schema : Schema}
    {segments rest : List String} :
    (evaluate store registry schema segments).result? = some (.ok rest) ↔
      Constraint.TakeInTurn store registry schema.constraints segments rest := by
  rw [evaluate_eq_consumeAll hstore, result?_consumeAll_eq_ok_iff,
    Constraint.takeInTurn_iff_passes]

theorem suffix_of_evaluate_eq_ok {schema : Schema} {segments rest : List String}
    (h : (evaluate store registry schema segments).result? = some (.ok rest)) :
    rest <:+ segments :=
  suffix_of_passes (result?_consumeAll_eq_ok_iff.mp h)

theorem validateSegments_eq_error_iff (hstore : store.Grounded) {schema : Schema}
    {segments : List String} {fault : Fault} :
    (validateSegments store registry schema segments).result? = some (.error fault) ↔
      schema.FailsAtConstraint store registry segments fault ∨
        schema.LeavesSegments store registry segments fault := by
  rw [result?_validateSegments_eq_error_iff, evaluate_eq_error_iff hstore]
  refine or_congr_right ?_
  constructor
  · rintro ⟨leftover, hne, hresult, hfault⟩
    exact ⟨leftover, (evaluate_eq_ok_iff hstore).mp hresult, hne,
      suffix_of_evaluate_eq_ok hresult, hfault⟩
  · rintro ⟨leftover, htake, hne, -, hfault⟩
    exact ⟨leftover, hne, (evaluate_eq_ok_iff hstore).mpr htake, hfault⟩

end Plain

namespace Schema

/-- A validation ends, and its fault is one of two things: the fault of the first
constraint that fails by itself, wrapped once with its place in this schema, or the
segments that are left over after all constraints.  It is never both, and every such
fault is that of the validation. -/
theorem validation_fault_is_of_constraint_or_leftover {store : Store}
    (hstore : store.Acyclic) (registry : Registry) (schema : Schema) {memory : Memory}
    (hmemory : memory.Sound) (segments : List String) :
    ∃ result after,
      (schema.validateSegments store registry segments).run memory =
        some (result, after) ∧
      ∀ fault,
        (result = .error fault ↔
          schema.FailsAtConstraint store registry segments fault ∨
            schema.LeavesSegments store registry segments fault) ∧
        ¬(schema.FailsAtConstraint store registry segments fault ∧
          schema.LeavesSegments store registry segments fault) := by
  obtain ⟨result, after, hrun, hresult⟩ :=
    exists_run_validateSegments hstore.grounded registry schema hmemory segments
  refine ⟨result, after, hrun, fun fault => ⟨?_, ?_⟩⟩
  · rw [← Plain.validateSegments_eq_error_iff hstore.grounded, hresult, Option.some.injEq]
  · rintro ⟨⟨_, _, _, _, _, _, _, hwrapped⟩, ⟨_, _, _, _, hbare⟩⟩
    cases hwrapped.symm.trans hbare

end Schema

end

namespace Schema

/-- A set inside of a member finds no match: the fault is that of the outer set, at its own
place and with all segments. -/
theorem validation_fault_is_of_constraint_around_inner_set :
    ∃ after,
      (validateSegments
        (Store.ofEntries [] [("outer", ["x/$[inner]", "$[inner]"]), ("inner", ["y/z", "$v"])])
        Registry.builtin ⟨"a/$[outer]/b", [.literal "a", .set "outer", .literal "b"]⟩
        ["a", "x", "w"]).run {} =
          some (.error (.atConstraint 1 "VariableSet($[outer])" "a/x/w"
            (.noMemberMatched "outer" 2)), after) ∧
      FailsAtConstraint
        (Store.ofEntries [] [("outer", ["x/$[inner]", "$[inner]"]), ("inner", ["y/z", "$v"])])
        Registry.builtin ⟨"a/$[outer]/b", [.literal "a", .set "outer", .literal "b"]⟩
        ["a", "x", "w"]
        (.atConstraint 1 "VariableSet($[outer])" "a/x/w" (.noMemberMatched "outer" 2)) := by
  let store : Store :=
    Store.ofEntries [] [("outer", ["x/$[inner]", "$[inner]"]), ("inner", ["y/z", "$v"])]
  have hstore : store.Acyclic :=
    Store.acyclic_of_rank (fun name => if name = "outer" then 1 else 0) (by decide +kernel)
  obtain ⟨result, after, hrun, hfault⟩ := validation_fault_is_of_constraint_or_leftover hstore
    Registry.builtin ⟨"a/$[outer]/b", [.literal "a", .set "outer", .literal "b"]⟩
    Memory.sound_empty ["a", "x", "w"]
  have hresult : ((validateSegments store Registry.builtin
      ⟨"a/$[outer]/b", [.literal "a", .set "outer", .literal "b"]⟩
      ["a", "x", "w"]).run {}).map Prod.fst =
        some (.error (.atConstraint 1 "VariableSet($[outer])" "a/x/w"
          (.noMemberMatched "outer" 2))) := by
    decide +kernel
  obtain rfl : result = .error (.atConstraint 1 "VariableSet($[outer])" "a/x/w"
      (.noMemberMatched "outer" 2)) := by
    rw [hrun] at hresult
    simpa using hresult
  refine ⟨after, hrun, ?_⟩
  rcases (hfault _).1.mp rfl with hconstraint | ⟨_, _, _, _, hleftover⟩
  · exact hconstraint
  · cases hleftover

end Schema

end PathSchema
