import PathSchema.Proofs.Compilation
import PathSchema.Proofs.Evaluation.Result

/-!
# Why a constraint refuses segments

A constraint that is no set fails for one of a few reasons: a variable or a modifier is
missing, a modifier refuses its call, a segment differs, or there are too few segments.
A set fails for reasons of its own, or with the compile fault of a member.  The faults
of the members that it tries are not among them, so the fault of a constraint wraps
no other and says nothing of segments that were left over.
-/

namespace PathSchema

namespace Fault

/-- A fault with which a constraint fails that is no set. -/
inductive Refusal : Fault → Prop where
  | variableNotFound (name : String) : Refusal (.variableNotFound name)
  | modifierNotFound (name : String) : Refusal (.modifierNotFound name)
  | modifierRefused (name : String) (error : ModifierError) :
      Refusal (.modifierRefused name error)
  | segmentMismatch (expected found : String) : Refusal (.segmentMismatch expected found)
  | insufficientSegments (needed available : Nat) :
      Refusal (.insufficientSegments needed available)

/-- A fault that wraps no other and is not about segments that were left over. -/
structure Bare (fault : Fault) : Prop where
  constraintIndex?_eq_none : fault.constraintIndex? = none
  kind_ne_trailingSegments : fault.kind ≠ .trailingSegments

theorem Refusal.bare {fault : Fault} (h : fault.Refusal) : fault.Bare := by
  cases h with
  | modifierRefused name error => cases error <;> exact ⟨rfl, nofun⟩
  | _ => exact ⟨rfl, nofun⟩

theorem Refusal.rootCause_eq {fault : Fault} (h : fault.Refusal) : fault.rootCause = fault := by
  cases h <;> rfl

theorem Refusal.isCompile_eq_false {fault : Fault} (h : fault.Refusal) :
    fault.isCompile = false := by
  cases h with
  | modifierRefused name error => cases error <;> rfl
  | _ => rfl

theorem constraintIndex?_rootCause (fault : Fault) :
    fault.rootCause.constraintIndex? = none := by
  induction fault with
  | atConstraint index constraint input cause ih => exact ih
  | _ => rfl

end Fault

/-! ## Constraints that are no sets -/

theorem Registry.refusal_of_applyAll_eq_error {registry : Registry}
    {calls : List ModifierCall} {segments : List String} {fault : Fault}
    (h : registry.applyAll segments calls = .error fault) : fault.Refusal := by
  induction calls generalizing segments with
  | nil => cases h
  | cons call rest ih =>
      rw [applyAll] at h
      split at h
      · obtain rfl := Except.error.inj h
        exact .modifierNotFound call.name
      · split at h
        · obtain rfl := Except.error.inj h
          exact .modifierRefused call.name _
        · exact ih h

namespace Constraint

theorem refusal_of_takeOne_eq_error {wrong? : String → Option Fault}
    {segments : List String}
    (hwrong : ∀ segment fault, wrong? segment = some fault → fault.Refusal)
    {fault : Fault} (h : takeOne wrong? segments = .error fault) : fault.Refusal := by
  rcases segments with _ | ⟨first, rest⟩
  · obtain rfl := Except.error.inj h
    exact .insufficientSegments 1 0
  · rw [takeOne] at h
    split at h
    · next cause hcause =>
        obtain rfl := Except.error.inj h
        exact hwrong first cause hcause
    · cases h

theorem refusal_of_mismatch?_eq_some {expected segments : List String} {fault : Fault}
    (h : mismatch? expected segments = some fault) : fault.Refusal := by
  induction expected generalizing segments with
  | nil => simp [mismatch?] at h
  | cons want others ih =>
      rcases segments with _ | ⟨found, rest⟩
      · simp [mismatch?] at h
      · rw [mismatch?] at h
        split at h
        · exact ih h
        · obtain rfl := Option.some.inj h
          exact .segmentMismatch want found

theorem refusal_of_takeAll_eq_error {expected segments : List String} {fault : Fault}
    (h : takeAll expected segments = .error fault) : fault.Refusal := by
  unfold takeAll at h
  split at h
  · obtain rfl := Except.error.inj h
    exact .insufficientSegments _ _
  · split at h
    · next cause hcause =>
        obtain rfl := Except.error.inj h
        exact refusal_of_mismatch?_eq_some hcause
    · cases h

end Constraint

variable [RegexLibrary]

theorem Schema.bare_of_ofText_eq_error {text : String} {fault : Fault}
    (h : ofText text = .error fault) : fault.Bare := by
  obtain ⟨hcompile, hroot⟩ := compileFault_of_ofText h
  refine ⟨?_, ?_⟩
  · rw [← hroot]
    exact fault.constraintIndex?_rootCause
  · intro hkind
    rw [Fault.isCompile, hkind] at hcompile
    cases hcompile

namespace Plain

variable {store : Store} {registry : Registry}

theorem refusal_of_consume_eq_error
    {enter : String → List String → Outcome (List String)} {constraint : Constraint}
    {segments : List String} {fault : Fault} (hset : ∀ name, constraint ≠ .set name)
    (h : (consume store registry enter constraint segments).result? = some (.error fault)) :
    fault.Refusal := by
  cases constraint with
  | literal text =>
      refine Constraint.refusal_of_takeOne_eq_error ?_ (Option.some.inj h)
      intro segment cause hcause
      split at hcause
      · cases hcause
      · obtain rfl := Option.some.inj hcause
        exact .segmentMismatch _ _
  | regex pattern =>
      refine Constraint.refusal_of_takeOne_eq_error ?_ (Option.some.inj h)
      intro segment cause hcause
      split at hcause
      · cases hcause
      · obtain rfl := Option.some.inj hcause
        exact .segmentMismatch _ _
  | run min max =>
      have hresult := Option.some.inj h
      split at hresult
      · obtain rfl := Except.error.inj hresult
        exact .insufficientSegments _ _
      · cases hresult
  | everything => cases h
  | var name calls =>
      have hresult := Option.some.inj h
      split at hresult
      · obtain rfl := Except.error.inj hresult
        exact .variableNotFound name
      · split at hresult
        · next cause hcause =>
            obtain rfl := Except.error.inj hresult
            exact Registry.refusal_of_applyAll_eq_error hcause
        · exact Constraint.refusal_of_takeAll_eq_error hresult
  | set name => exact absurd rfl (hset name)

/-! ## Sets -/

/-- Whatever is inside of a set, its own fault is bare: the fault of a member that was
tried is forgotten, and the compile fault of a member wraps nothing. -/
theorem bare_of_enterSet_eq_error {depth : Nat} {name : String}
    {segments : List String} {fault : Fault}
    (h : (enterSet store registry depth name segments).result? = some (.error fault)) :
    fault.Bare := by
  cases depth with
  | zero => cases h
  | succ depth =>
      rw [result?_enterSet_succ] at h
      split at h
      · obtain rfl := Except.error.inj (Option.some.inj h)
        exact ⟨rfl, nofun⟩
      · obtain rfl := Except.error.inj (Option.some.inj h)
        exact ⟨rfl, nofun⟩
      · rcases result?_firstMember_cases h with
          ⟨_, text, _, cause, _, _, htext, hresult⟩ | ⟨_, _, _, _, _, _, _, _, _, hresult⟩ |
          ⟨-, hresult⟩
        · obtain rfl := Except.error.inj hresult
          exact Schema.bare_of_ofText_eq_error htext
        · cases hresult
        · obtain rfl := Except.error.inj hresult
          exact ⟨rfl, nofun⟩

theorem bare_of_evaluateConstraint_eq_error {constraint : Constraint}
    {segments : List String} {fault : Fault}
    (h : (evaluateConstraint store registry constraint segments).result? =
      some (.error fault)) : fault.Bare := by
  by_cases hset : ∃ name, constraint = .set name
  · obtain ⟨name, rfl⟩ := hset
    exact bare_of_enterSet_eq_error h
  · have hrefusal :=
      refusal_of_consume_eq_error (fun name hname => hset ⟨name, hname⟩) h
    exact hrefusal.bare

end Plain

end PathSchema
