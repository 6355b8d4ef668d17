import PathSchema.Proofs.Evaluation.Depth
import PathSchema.Proofs.Evaluation.Refusal
import PathSchema.Pattern.Engine

/-!
# Verdicts that further segments do not change

How many segments a wildcard takes depends on how many there are, so further segments at
the end may move every constraint behind it.  They do not once segments are left over, or
once one was found that is not the expected one: either shows that a segment was left
at every constraint before, hence that every wildcard before took as many as it may.
Such a verdict is the same for all extensions.

Sets are left out.  A set goes on with the next member if one is rejected, and further
segments may keep an earlier member from being rejected.
-/

namespace PathSchema

/-- Segments are left over, or one of them is not the expected one. -/
inductive Settled : Except Fault (List String) → Prop where
  | leftover {rest : List String} (hne : rest ≠ []) : Settled (.ok rest)
  | mismatch (expected found : String) : Settled (.error (.segmentMismatch expected found))

/-- The constraint with the index met a segment that is not the expected one. -/
structure Fault.IsMismatchAt (fault : Fault) (index : Nat) (expected found : String) :
    Prop where
  constraintIndex?_eq : fault.constraintIndex? = some index
  rootCause_eq : fault.rootCause = .segmentMismatch expected found

/-! ## One constraint -/

theorem Registry.applyAll_ne_mismatch {registry : Registry} {calls : List ModifierCall}
    {segments : List String} {expected found : String} :
    registry.applyAll segments calls ≠ .error (.segmentMismatch expected found) := by
  intro h
  induction calls generalizing segments with
  | nil => cases h
  | cons call rest ih =>
      rw [applyAll] at h
      split at h
      · cases h
      · split at h
        · cases h
        · exact ih h

namespace Constraint

theorem takeOne_append_of_settled {wrong? : String → Option Fault} {segments : List String}
    (hsettled : Settled (takeOne wrong? segments)) (more : List String) :
    takeOne wrong? (segments ++ more) = (takeOne wrong? segments).map (· ++ more) := by
  rcases segments with _ | ⟨first, rest⟩
  · cases hsettled
  · rw [List.cons_append, takeOne, takeOne]
    rcases wrong? first with _ | fault <;> rfl

theorem mismatch?_append {expected segments : List String}
    (hlength : expected.length ≤ segments.length) (more : List String) :
    mismatch? expected (segments ++ more) = mismatch? expected segments := by
  induction expected generalizing segments with
  | nil => simp [mismatch?]
  | cons want others ih =>
      rcases segments with _ | ⟨found, rest⟩
      · simp at hlength
      · have hrest : others.length ≤ rest.length := Nat.le_of_succ_le_succ hlength
        rw [List.cons_append, mismatch?, mismatch?, ih hrest]

theorem takeAll_nil_ne_mismatch {wanted : List String} {expected found : String} :
    takeAll wanted [] ≠ .error (.segmentMismatch expected found) := by
  rcases wanted with _ | ⟨first, others⟩
  · nofun
  · nofun

theorem takeAll_append_of_settled {expected segments : List String}
    (hsettled : Settled (takeAll expected segments)) (more : List String) :
    takeAll expected (segments ++ more) = (takeAll expected segments).map (· ++ more) := by
  by_cases hshort : segments.length < expected.length
  · rw [takeAll, if_pos hshort] at hsettled
    cases hsettled
  · have hlength : expected.length ≤ segments.length := Nat.le_of_not_lt hshort
    have hlonger : ¬(segments ++ more).length < expected.length := by
      rw [List.length_append]
      omega
    rw [takeAll, takeAll, if_neg hshort, if_neg hlonger, mismatch?_append hlength,
      List.drop_append_of_le_length hlength]
    rcases mismatch? expected segments with _ | fault <;> rfl

end Constraint

theorem drop_append_of_ne_nil {segments : List String} {max : Nat}
    (hne : segments.drop max ≠ []) (more : List String) :
    (segments ++ more).drop max = segments.drop max ++ more := by
  have hmax : max < segments.length := by
    by_contra hall
    exact hne (List.drop_eq_nil_of_le (Nat.le_of_not_lt hall))
  exact List.drop_append_of_le_length (Nat.le_of_lt hmax)

section

variable [RegexLibrary]

namespace Plain

variable {store : Store} {registry : Registry}
  {enter enter' : String → List String → Outcome (List String)}

/-- A constraint comes to a settled result also before more segments. -/
theorem consume_append_of_settled {constraint : Constraint}
    (hset : ∀ name, constraint ≠ .set name) {segments : List String}
    {result : Except Fault (List String)}
    (h : (consume store registry enter constraint segments).result? = some result)
    (hsettled : Settled result) (more : List String) :
    (consume store registry enter' constraint (segments ++ more)).result? =
      some (result.map (· ++ more)) := by
  cases constraint with
  | literal text =>
      obtain rfl := Option.some.inj h
      exact congrArg some (Constraint.takeOne_append_of_settled hsettled more)
  | regex pattern =>
      obtain rfl := Option.some.inj h
      exact congrArg some (Constraint.takeOne_append_of_settled hsettled more)
  | run min max =>
      rw [result?_consume_run] at h ⊢
      obtain rfl := Option.some.inj h
      by_cases hshort : segments.length < min
      · rw [if_pos hshort] at hsettled
        cases hsettled
      · rw [if_neg hshort] at hsettled ⊢
        obtain ⟨hne⟩ := hsettled
        have hlonger : ¬(segments ++ more).length < min := by
          rw [List.length_append]
          omega
        rw [if_neg hlonger, drop_append_of_ne_nil hne]
        rfl
  | everything =>
      obtain rfl := Option.some.inj h
      obtain ⟨hne⟩ := hsettled
      exact absurd rfl hne
  | var name calls =>
      rw [consume, Outcome.result?_after, Outcome.result?_done] at h ⊢
      obtain rfl := Option.some.inj h
      cases hvalue : store.value? name with
      | none => rfl
      | some value =>
          cases happly : registry.applyAll (Path.splitAll value) calls with
          | error fault => simp only [happly]; rfl
          | ok expected =>
              rw [hvalue] at hsettled
              simp only [happly] at hsettled ⊢
              rw [Constraint.takeAll_append_of_settled hsettled more]
  | set name => exact absurd rfl (hset name)

theorem ne_nil_of_consume_eq_mismatch {constraint : Constraint}
    (hset : ∀ name, constraint ≠ .set name) {segments : List String}
    {expected found : String}
    (h : (consume store registry enter constraint segments).result? =
      some (.error (.segmentMismatch expected found))) : segments ≠ [] := by
  rintro rfl
  cases constraint with
  | literal text => cases h
  | regex pattern => cases h
  | run min max =>
      rw [result?_consume_run, Option.some.injEq] at h
      split at h
      · cases h
      · cases h
  | everything => cases h
  | var name calls =>
      rw [consume, Outcome.result?_after, Outcome.result?_done, Option.some.injEq] at h
      split at h
      · cases h
      · split at h
        · next fault happly =>
            obtain rfl := Except.error.inj h
            exact Registry.applyAll_ne_mismatch happly
        · exact Constraint.takeAll_nil_ne_mismatch h
  | set name => exact hset name rfl

/-! ## Runs of constraints -/

variable {depth depth' : Nat} {constraints : List Constraint} {segments rest : List String}

/-- If segments are left over at the end, then also behind every constraint. -/
theorem Passes.append_of_ne_nil
    (h : Passes (consume store registry (enterSet store registry depth)) constraints
      segments rest)
    (hsets : ∀ name, .set name ∉ constraints) (hne : rest ≠ []) (more : List String) :
    Passes (consume store registry (enterSet store registry depth')) constraints
      (segments ++ more) (rest ++ more) := by
  induction h with
  | nil => exact .nil
  | @cons constraint others segments remaining rest hstep hothers ih =>
      have hremaining : remaining ≠ [] := (suffix_of_passes hothers).ne_nil hne
      simp only [List.mem_cons, not_or] at hsets
      have hset : ∀ name, constraint ≠ .set name := fun name => Ne.symm (hsets name).1
      refine .cons ?_ (ih (fun name => (hsets name).2) hne)
      exact consume_append_of_settled hset hstep (.leftover hremaining) more

variable {schema : Schema}

/-- What a schema leaves over is left over before more segments, too. -/
theorem evaluate_append_of_ne_nil (hsets : ∀ name, .set name ∉ schema.constraints)
    (h : (evaluate store registry schema segments).result? = some (.ok rest))
    (hne : rest ≠ []) (more : List String) :
    (evaluate store registry schema (segments ++ more)).result? =
      some (.ok (rest ++ more)) := by
  have hpasses := result?_consumeAll_eq_ok_iff.mp h
  exact result?_consumeAll_eq_ok_iff.mpr (hpasses.append_of_ne_nil hsets hne more)

/-- The segment that is not the expected one is found before more segments, too, and by the
same constraint. -/
theorem exists_evaluate_append_of_mismatch
    (hsets : ∀ name, .set name ∉ schema.constraints) {fault : Fault} {index : Nat}
    {expected found : String}
    (h : (evaluate store registry schema segments).result? = some (.error fault))
    (hmismatch : fault.IsMismatchAt index expected found) (more : List String) :
    ∃ fault', (evaluate store registry schema (segments ++ more)).result? =
        some (.error fault') ∧
      fault'.IsMismatchAt index expected found := by
  obtain ⟨before, constraint, others, remaining, cause, hsplit, hbefore, hcause, rfl⟩ :=
    result?_consumeAll_eq_error_iff.mp h
  simp only [hsplit, List.mem_append, List.mem_cons, not_or] at hsets
  have hbeforeSets : ∀ name, .set name ∉ before := fun name => (hsets name).1
  have hset : ∀ name, constraint ≠ .set name := fun name => Ne.symm (hsets name).2.1
  have hroot : cause = .segmentMismatch expected found := by
    have hrefusal := refusal_of_consume_eq_error hset hcause
    exact hrefusal.rootCause_eq.symm.trans hmismatch.rootCause_eq
  subst hroot
  have hremaining := ne_nil_of_consume_eq_mismatch hset hcause
  have hfound : (consume store registry
      (enterSet store registry (store.depthBound (segments ++ more))) constraint
      (remaining ++ more)).result? = some (.error (.segmentMismatch expected found)) :=
    consume_append_of_settled hset hcause (.mismatch expected found) more
  refine ⟨.atConstraint (0 + before.length) constraint.describe (Path.join (segments ++ more))
    (.segmentMismatch expected found), ?_, hmismatch.constraintIndex?_eq, rfl⟩
  exact result?_consumeAll_eq_error_iff.mpr ⟨before, constraint, others, remaining ++ more, _,
    hsplit, hbefore.append_of_ne_nil hbeforeSets hremaining more, hfound, rfl⟩

theorem evaluate_eq_error_of_mismatch {fault : Fault} {index : Nat} {expected found : String}
    (h : (validateSegments store registry schema segments).result? = some (.error fault))
    (hmismatch : fault.IsMismatchAt index expected found) :
    (evaluate store registry schema segments).result? = some (.error fault) := by
  rcases result?_validateSegments_eq_error_iff.mp h with hfault | ⟨_, -, -, rfl⟩
  · exact hfault
  · cases hmismatch.rootCause_eq

/-- A validation that complains of segments left over has them left by its evaluation. -/
theorem evaluate_eq_ok_of_trailingSegments {leftover : List String}
    (h : (validateSegments store registry schema segments).result? =
      some (.error (.trailingSegments leftover))) :
    (evaluate store registry schema segments).result? = some (.ok leftover) ∧
      leftover ≠ [] := by
  rcases result?_validateSegments_eq_error_iff.mp h with hfault | ⟨rest, hne, hrest, hsame⟩
  · obtain ⟨_, _, _, _, _, _, _, _, hwrapped⟩ := result?_consumeAll_eq_error_iff.mp hfault
    cases hwrapped
  · obtain rfl := Fault.trailingSegments.inj hsame
    exact ⟨hrest, hne⟩

end Plain

/-! ## Whole schemas -/

namespace Schema

/-- Without sets, segments that are left over and a segment that is not the expected one
settle an evaluation and a validation: before more segments they leave over the same and
the further ones, or fail at the same constraint because of the same segment. -/
theorem leftover_and_mismatch_are_final (store : Store) (registry : Registry)
    {schema : Schema} (hsets : ∀ name, .set name ∉ schema.constraints)
    {memory memory' : Memory} (hmemory : memory.Sound) (hmemory' : memory'.Sound)
    (segments more : List String) :
    (∀ rest after, rest ≠ [] →
      (schema.evaluate store registry segments).run memory = some (.ok rest, after) →
        ∃ after', (schema.evaluate store registry (segments ++ more)).run memory' =
          some (.ok (rest ++ more), after')) ∧
    (∀ fault after index expected found, fault.IsMismatchAt index expected found →
      (schema.evaluate store registry segments).run memory = some (.error fault, after) →
        ∃ fault' after', fault'.IsMismatchAt index expected found ∧
          (schema.evaluate store registry (segments ++ more)).run memory' =
            some (.error fault', after')) ∧
    (∀ leftover after,
      (schema.validateSegments store registry segments).run memory =
          some (.error (.trailingSegments leftover), after) →
        ∃ after', (schema.validateSegments store registry (segments ++ more)).run memory' =
          some (.error (.trailingSegments (leftover ++ more)), after')) ∧
    (∀ fault after index expected found, fault.IsMismatchAt index expected found →
      (schema.validateSegments store registry segments).run memory =
          some (.error fault, after) →
        ∃ fault' after', fault'.IsMismatchAt index expected found ∧
          (schema.validateSegments store registry (segments ++ more)).run memory' =
            some (.error fault', after')) := by
  have hevaluate := @evaluate_follows _ store registry schema
  have hvalidate := @validateSegments_follows _ store registry schema
  refine ⟨?_, ?_, ?_, ?_⟩
  · intro rest after hne hrun
    have hrest := (hevaluate segments).result?_of_run hmemory hrun
    have hmore := Plain.evaluate_append_of_ne_nil hsets hrest hne more
    exact ((hevaluate (segments ++ more)).exists_run_iff hmemory').mpr hmore
  · intro fault after index expected found hmismatch hrun
    have hfault := (hevaluate segments).result?_of_run hmemory hrun
    obtain ⟨fault', hfault', hagain⟩ :=
      Plain.exists_evaluate_append_of_mismatch hsets hfault hmismatch more
    obtain ⟨after', hrun'⟩ :=
      ((hevaluate (segments ++ more)).exists_run_iff hmemory').mpr hfault'
    exact ⟨fault', after', hagain, hrun'⟩
  · intro leftover after hrun
    have htrailing := (hvalidate segments).result?_of_run hmemory hrun
    obtain ⟨hrest, hne⟩ := Plain.evaluate_eq_ok_of_trailingSegments htrailing
    have hmore := Plain.evaluate_append_of_ne_nil hsets hrest hne more
    have hneMore : leftover ++ more ≠ [] := List.append_ne_nil_of_left_ne_nil hne more
    have htrailing' := Plain.result?_validateSegments_eq_error_iff.mpr
      (.inr ⟨leftover ++ more, hneMore, hmore, rfl⟩)
    exact ((hvalidate (segments ++ more)).exists_run_iff hmemory').mpr htrailing'
  · intro fault after index expected found hmismatch hrun
    have hfault := (hvalidate segments).result?_of_run hmemory hrun
    obtain ⟨fault', hfault', hagain⟩ := Plain.exists_evaluate_append_of_mismatch hsets
      (Plain.evaluate_eq_error_of_mismatch hfault hmismatch) hmismatch more
    have hinvalid := Plain.result?_validateSegments_eq_error_iff.mpr (.inl hfault')
    obtain ⟨after', hrun'⟩ :=
      ((hvalidate (segments ++ more)).exists_run_iff hmemory').mpr hinvalid
    exact ⟨fault', after', hagain, hrun'⟩

end Schema

end

namespace Schema

/-- A wildcard that could take fewer segments stands before a variable with a modifier. -/
theorem leftover_and_mismatch_are_final_behind_wildcard :
    (∃ after, (evaluate (Store.ofEntries [("v", "x/p-y")] []) Registry.builtin
        ⟨"+{0,2}/$v.strip_last_prefix(\"p-\")",
          [.run 0 2, .var "v" [⟨"strip_last_prefix", ["p-"]⟩]]⟩
        ["a", "b", "x", "y", "c", "d"]).run {} = some (.ok ["c", "d"], after)) ∧
      ∃ fault after, fault.IsMismatchAt 1 "y" "z" ∧
        (validateSegments (Store.ofEntries [("v", "x/p-y")] []) Registry.builtin
          ⟨"+{0,2}/$v.strip_last_prefix(\"p-\")",
            [.run 0 2, .var "v" [⟨"strip_last_prefix", ["p-"]⟩]]⟩
          ["a", "b", "x", "z", "x", "y"]).run {} = some (.error fault, after) := by
  have hfinal := @leftover_and_mismatch_are_final _ (Store.ofEntries [("v", "x/p-y")] [])
    Registry.builtin ⟨"+{0,2}/$v.strip_last_prefix(\"p-\")",
      [.run 0 2, .var "v" [⟨"strip_last_prefix", ["p-"]⟩]]⟩ (by simp) {} {}
    Memory.sound_empty Memory.sound_empty
  constructor
  · obtain ⟨hleftover, -, -, -⟩ := hfinal ["a", "b", "x", "y", "c"] ["d"]
    exact hleftover ["c"] ⟨[], [.var "v"]⟩ (by simp) (by decide +kernel)
  · obtain ⟨-, -, -, hmismatch⟩ := hfinal ["a", "b", "x", "z"] ["x", "y"]
    exact hmismatch (.atConstraint 1 "Variable($v.strip_last_prefix(\"p-\"))" "a/b/x/z"
      (.segmentMismatch "y" "z")) ⟨[], [.var "v"]⟩ 1 "y" "z" ⟨rfl, rfl⟩ (by decide +kernel)

/-- With one more segment the first member of a set is no longer rejected, and leaves
nothing over where the second one left a segment. -/
example :
    let store : Store := Store.ofEntries [] [("s", ["a/b/c", "a"])]
    let rest := fun segments =>
      (Plain.evaluate store Registry.builtin ⟨"$[s]", [.set "s"]⟩ segments).result?
    rest ["a", "b"] = some (.ok ["b"]) ∧ rest ["a", "b", "c"] = some (.ok []) := by
  decide +kernel

end Schema

end PathSchema
