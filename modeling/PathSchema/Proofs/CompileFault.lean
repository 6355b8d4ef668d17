import PathSchema.Proofs.BrokenMember
import PathSchema.Proofs.FirstFault
import PathSchema.Pattern.Engine

/-!
# Faults of compiling and faults of validating

The kind of a fault tells whether it arose while a text was turned into a schema.  All
faults of compiling are of such a kind, and none of them is wrapped in the place of a
constraint.  A validation fails with a fault of such a kind only at a set, and only
because of a member that does not compile; whatever fails inside of a member that does
compile is a mismatch of this member.
-/

namespace PathSchema

namespace Schema

theorem constraintIndex?_eq_none_of_rootCause {fault : Fault}
    (h : fault.rootCause = fault) : fault.constraintIndex? = none := by
  have hnone := fault.constraintIndex?_rootCause
  rwa [h] at hnone

end Schema

section

variable [RegexLibrary]

namespace Schema

/-- The whole schema comes to the result, whatever members are remembered. -/
def Gives (store : Store) (registry : Registry) (schema : Schema)
    (segments : List String) (result : Except Fault (List String)) : Prop :=
  ∀ memory : Memory, memory.Sound →
    ∃ after, (schema.evaluate store registry segments).run memory = some (result, after)

/-- The text compiles, and its schema fails on the segments. -/
def Mismatches (store : Store) (registry : Registry) (segments : List String)
    (text : String) : Prop :=
  ∃ schema fault, ofText text = .ok schema ∧
    schema.Gives store registry segments (.error fault)

/-- The constraint at a place of the schema is a set, and the text is a member of this set
that does not compile.  All members before it compile, and mismatch what the constraints
before the set left. -/
def BreaksAt (store : Store) (registry : Registry) (schema : Schema)
    (segments : List String) (index : Nat) (text : String) : Prop :=
  ∃ (hindex : index < schema.constraints.length) (name : String)
      (tried later remaining : List String) (fault : Fault),
    schema.constraints[index] = .set name ∧
      Constraint.TakeInTurn store registry (schema.constraints.take index) segments
        remaining ∧
      store.set? name = some (tried ++ text :: later) ∧
      (∀ other ∈ tried, Mismatches store registry remaining other) ∧
      ofText text = .error fault

/-! ## Compiling -/

theorem compileFault_of_ofParts {parts : List Part} {fault : Fault}
    (h : ofParts parts = .error fault) :
    fault.isCompile = true ∧ fault.rootCause = fault :=
  compileFault_of_compile (eq_error_of_map_eq_error h)

/-! ## Members that mismatch -/

variable {store : Store} {registry : Registry}

theorem gives_iff {schema : Schema} {segments : List String}
    {result : Except Fault (List String)} :
    schema.Gives store registry segments result ↔
      (Plain.evaluate store registry schema segments).result? = some result := by
  have hfollows : (schema.evaluate store registry segments).Follows
      (Plain.evaluate store registry schema segments) :=
    evaluate_follows schema segments
  constructor
  · intro hgives
    exact (hfollows.exists_run_iff Memory.sound_empty).mp (hgives {} Memory.sound_empty)
  · intro hresult memory hmemory
    exact (hfollows.exists_run_iff hmemory).mpr hresult

theorem mismatches_iff_rejected {segments : List String} {text : String} :
    Mismatches store registry segments text ↔
      Plain.Rejected (fun schema => Plain.evaluate store registry schema segments) text := by
  simp only [Mismatches, Plain.Rejected, gives_iff]

/-! ## Validating -/

/-- A compile fault of a validation is that of a constraint, and the constraint is a set
that came to a member which does not compile. -/
theorem FailsAtConstraint.exists_breaksAt (hstore : store.Grounded) {schema : Schema}
    {segments : List String} {fault : Fault}
    (h : schema.FailsAtConstraint store registry segments fault)
    (hcompile : fault.isCompile = true) :
    ∃ index text, fault.constraintIndex? = some index ∧
      schema.BreaksAt store registry segments index text := by
  obtain ⟨index, hindex, remaining, cause, hbefore, hcause, -, rfl⟩ := h
  have hbroken : cause.isCompile = true := hcompile
  obtain ⟨name, tried, text, later, hset, hmembers, htried, htext⟩ :=
    (Plain.evaluateConstraint_eq_compileFault_iff hstore).mp
      ⟨Constraint.gives_iff.mp hcause, hbroken⟩
  have hmismatch : ∀ other ∈ tried, Mismatches store registry remaining other :=
    fun other hother => mismatches_iff_rejected.mpr (htried other hother)
  exact ⟨index, text, rfl, hindex, name, tried, later, remaining, cause, hset, hbefore,
    hmembers, hmismatch, htext⟩

/-- Where a member does not compile, the schema fails with the fault of the member. -/
theorem BreaksAt.exists_failsAtConstraint (hstore : store.Grounded) {schema : Schema}
    {segments : List String} {index : Nat} {text : String}
    (h : schema.BreaksAt store registry segments index text) :
    ∃ fault, schema.FailsAtConstraint store registry segments fault ∧
      fault.isCompile = true ∧ fault.constraintIndex? = some index ∧
      ofText text = .error fault.rootCause := by
  obtain ⟨hindex, name, tried, later, remaining, cause, hset, hbefore, hmembers, htried,
    htext⟩ := h
  have hrejected : ∀ other ∈ tried,
      Plain.Rejected (fun schema => Plain.evaluate store registry schema remaining) other :=
    fun other hother => mismatches_iff_rejected.mp (htried other hother)
  obtain ⟨hcause, hcompile⟩ := (Plain.evaluateConstraint_eq_compileFault_iff hstore).mpr
    ⟨name, tried, text, later, hset, hmembers, hrejected, htext⟩
  have hroot : cause.rootCause = cause := (compileFault_of_ofText htext).2
  refine ⟨.atConstraint index schema.constraints[index].describe (Path.join segments) cause,
    ?_, hcompile, rfl, ?_⟩
  · exact ⟨index, hindex, remaining, cause, hbefore, Constraint.gives_iff.mpr hcause,
      bare_of_ofText_eq_error htext, rfl⟩
  · rw [Fault.rootCause, hroot, htext]

theorem LeavesSegments.isCompile_eq_false {schema : Schema} {segments : List String}
    {fault : Fault} (h : schema.LeavesSegments store registry segments fault) :
    fault.isCompile = false := by
  obtain ⟨leftover, -, -, -, rfl⟩ := h
  rfl

/-- Compile faults are told apart from other faults by their kind.  Whatever keeps a text
or a list of parts from compiling is a compile fault and wraps nothing.  A validation
ends, and its fault is a compile fault exactly if the constraint that failed is a set
which came to a member that does not compile; the fault of this member is then the root
cause.  So if all members of all sets compile, no validation fails with a compile fault. -/
theorem compileFault_iff_of_broken_member :
    (∀ text fault, ofText text = .error fault →
      fault.isCompile = true ∧ fault.constraintIndex? = none) ∧
    (∀ parts fault, ofParts parts = .error fault →
      fault.isCompile = true ∧ fault.constraintIndex? = none) ∧
    ∀ store : Store, store.Acyclic →
      ∀ (registry : Registry) (schema : Schema) (memory : Memory), memory.Sound →
        ∀ path, ∃ result after,
          (schema.validate store registry path).run memory = some (result, after) ∧
          (∀ fault, result = .error fault →
            (fault.isCompile = true ↔
              ∃ index text, fault.constraintIndex? = some index ∧
                schema.BreaksAt store registry (Path.split path) index text)) ∧
          (∀ index text, schema.BreaksAt store registry (Path.split path) index text →
            ∃ fault, result = .error fault ∧ fault.constraintIndex? = some index ∧
              ofText text = .error fault.rootCause) ∧
          ((∀ name members, store.set? name = some members →
              ∀ text ∈ members, ∃ inner, ofText text = .ok inner) →
            ∀ fault, result = .error fault → fault.isCompile = false) := by
  refine ⟨?_, ?_, ?_⟩
  · intro text fault h
    obtain ⟨hcompile, hroot⟩ := compileFault_of_ofText h
    exact ⟨hcompile, constraintIndex?_eq_none_of_rootCause hroot⟩
  · intro parts fault h
    obtain ⟨hcompile, hroot⟩ := compileFault_of_ofParts h
    exact ⟨hcompile, constraintIndex?_eq_none_of_rootCause hroot⟩
  intro store hstore registry schema memory hmemory path
  obtain ⟨result, after, hrun, hresult⟩ := exists_run_validateSegments hstore.grounded
    registry schema hmemory (Path.split path)
  have hfails : ∀ fault, result = .error fault ↔
      schema.FailsAtConstraint store registry (Path.split path) fault ∨
        schema.LeavesSegments store registry (Path.split path) fault := by
    intro fault
    rw [← Plain.validateSegments_eq_error_iff hstore.grounded, hresult, Option.some.injEq]
  have hbroken : ∀ fault, result = .error fault → fault.isCompile = true →
      ∃ index text, fault.constraintIndex? = some index ∧
        schema.BreaksAt store registry (Path.split path) index text := by
    intro fault hfault hcompile
    rcases (hfails fault).mp hfault with hconstraint | hleftover
    · exact hconstraint.exists_breaksAt hstore.grounded hcompile
    · rw [hleftover.isCompile_eq_false] at hcompile
      cases hcompile
  refine ⟨result, after, hrun, ?_, ?_, ?_⟩
  · intro fault hfault
    refine ⟨hbroken fault hfault, ?_⟩
    rintro ⟨index, text, -, hbreaks⟩
    obtain ⟨other, hother, hcompile, -, -⟩ :=
      hbreaks.exists_failsAtConstraint hstore.grounded
    have hsame : result = .error other := (hfails other).mpr (.inl hother)
    rw [hfault] at hsame
    rwa [Except.error.inj hsame]
  · intro index text hbreaks
    obtain ⟨fault, hfault, -, hindex, htext⟩ :=
      hbreaks.exists_failsAtConstraint hstore.grounded
    exact ⟨fault, (hfails fault).mpr (.inl hfault), hindex, htext⟩
  · intro hmembers fault hfault
    rw [Bool.eq_false_iff]
    intro hcompile
    obtain ⟨index, text, -, -, name, tried, later, -, cause, -, -, hset, -, htext⟩ :=
      hbroken fault hfault hcompile
    obtain ⟨inner, hinner⟩ := hmembers name _ hset text (by simp)
    rw [hinner] at htext
    cases htext

end Schema

end

namespace Schema

/-- The second member of a set does not compile, the first one mismatches. -/
theorem compileFault_iff_of_broken_second_member :
    (∃ fault, ofText "a/+\x7b3,0\x7d" = .error fault ∧ fault.isCompile = true ∧
      fault.constraintIndex? = none) ∧
    (∃ fault, ofParts [] = .error fault ∧ fault.isCompile = true) ∧
    ∃ fault after,
      (validate (Store.ofEntries [] [("s", ["b", "+\x7b3,0\x7d", "a"])]) Registry.builtin
        ⟨"x/$[s]", [.literal "x", .set "s"]⟩ "x/a").run {} = some (.error fault, after) ∧
      fault.isCompile = true ∧ fault.constraintIndex? = some 1 ∧
      fault.rootCause = .quantifierRange 3 0 := by
  obtain ⟨htexts, hparts, hvalidations⟩ := compileFault_iff_of_broken_member
  have hbroken : ofText "a/+\x7b3,0\x7d" = .error (.quantifierRange 3 0) := by
    decide +kernel
  have hstore : Store.Acyclic (Store.ofEntries [] [("s", ["b", "+\x7b3,0\x7d", "a"])]) :=
    Store.acyclic_of_rank (fun _ => 0) (by decide +kernel)
  have hmember : ofText "+\x7b3,0\x7d" = .error (.quantifierRange 3 0) := by
    decide +kernel
  have hmismatch : Mismatches (Store.ofEntries [] [("s", ["b", "+\x7b3,0\x7d", "a"])])
      Registry.builtin ["a"] "b" := by
    refine ⟨⟨"b", [.literal "b"]⟩, .atConstraint 0 "Literal(b)" "a" (.segmentMismatch "b" "a"),
      by decide +kernel, ?_⟩
    exact gives_iff.mpr (by decide +kernel)
  have htake : Constraint.TakeInTurn (Store.ofEntries [] [("s", ["b", "+\x7b3,0\x7d", "a"])])
      Registry.builtin [.literal "x"] ["x", "a"] ["a"] :=
    .cons (Constraint.gives_iff.mpr (by decide +kernel)) .nil
  obtain ⟨result, after, hrun, hiff, hbreaks, -⟩ := hvalidations _ hstore Registry.builtin
    ⟨"x/$[s]", [.literal "x", .set "s"]⟩ {} Memory.sound_empty "x/a"
  have hbreak : BreaksAt (Store.ofEntries [] [("s", ["b", "+\x7b3,0\x7d", "a"])]) Registry.builtin
      ⟨"x/$[s]", [.literal "x", .set "s"]⟩ (Path.split "x/a") 1 "+\x7b3,0\x7d" :=
    ⟨by decide, "s", ["b"], ["a"], ["a"], _, rfl, htake, rfl, by simpa using hmismatch,
      hmember⟩
  obtain ⟨fault, rfl, hindex, hroot⟩ := hbreaks _ _ hbreak
  have hcompile := (hiff fault rfl).mpr ⟨1, _, hindex, hbreak⟩
  refine ⟨⟨_, hbroken, htexts _ _ hbroken⟩, ⟨_, rfl, (hparts [] _ rfl).1⟩, fault, after, hrun,
    hcompile, hindex, ?_⟩
  rw [hmember] at hroot
  exact (Except.error.inj hroot).symm

end Schema

end PathSchema
