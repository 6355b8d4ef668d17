import PathSchema.Proofs.Evaluation.Plain

/-!
# Results of the plain evaluation

What a run of constraints and a search through members come to, read off the
results of their steps.  A run succeeds if each constraint in turn takes
segments from what the one before it left (`Plain.Passes`), and fails with the
first fault, wrapped with its place.  A search ends at the first member that is
not rejected: one that matches, or one that does not compile.
-/

namespace PathSchema

/-! ## Taking segments from the front -/

namespace Constraint

theorem takeOne_eq_ok_iff
    {wrong? : String → Option Fault} {segments rest : List String} :
    takeOne wrong? segments = .ok rest ↔
      ∃ segment, wrong? segment = none ∧ segments = segment :: rest := by
  rcases segments with _ | ⟨first, others⟩
  · simp [takeOne]
  · cases hwrong : wrong? first with
    | none =>
        simp only [takeOne, hwrong, Except.ok.injEq, List.cons.injEq]
        constructor
        · rintro rfl
          exact ⟨first, hwrong, rfl, rfl⟩
        · rintro ⟨segment, -, -, rfl⟩
          rfl
    | some fault =>
        simp only [takeOne, hwrong, reduceCtorEq, false_iff]
        rintro ⟨segment, hnone, hsegments⟩
        obtain ⟨rfl, -⟩ := List.cons.inj hsegments
        simp [hwrong] at hnone

theorem mismatch?_eq_none_iff {expected segments : List String}
    (hlength : expected.length ≤ segments.length) :
    mismatch? expected segments = none ↔ expected <+: segments := by
  induction expected generalizing segments with
  | nil => simp [mismatch?]
  | cons want others ih =>
      rcases segments with _ | ⟨found, rest⟩
      · simp at hlength
      · rw [mismatch?, List.cons_prefix_cons]
        by_cases hsame : want = found
        · simpa [hsame] using ih (by simpa using hlength)
        · simp [hsame]

theorem takeAll_eq_ok_iff {expected segments rest : List String} :
    takeAll expected segments = .ok rest ↔ segments = expected ++ rest := by
  unfold takeAll
  split
  · next hshort =>
      constructor
      · intro h
        cases h
      · rintro rfl
        simp only [List.length_append] at hshort
        omega
  · next hlong =>
      have hmismatch := mismatch?_eq_none_iff (Nat.le_of_not_lt hlong)
      constructor
      · intro h
        split at h
        · cases h
        · next hnone =>
            obtain rfl := Except.ok.inj h
            exact (List.prefix_iff_eq_append.mp (hmismatch.mp hnone)).symm
      · rintro rfl
        simp [hmismatch.mpr (List.prefix_append expected rest)]

end Constraint

variable [RegexLibrary]

namespace Plain

section Steps

variable {store : Store} {registry : Registry}
  {enter : String → List String → Outcome (List String)} {segments rest : List String}

theorem consume_literal_eq_ok_iff {text : String} :
    (consume store registry enter (.literal text) segments).result? = some (.ok rest) ↔
      segments = text :: rest := by
  rw [consume, Outcome.result?_done, Option.some.injEq, Constraint.takeOne_eq_ok_iff]
  constructor
  · rintro ⟨segment, hsegment, rfl⟩
    obtain rfl : segment = text := by simpa using hsegment
    rfl
  · rintro rfl
    exact ⟨text, if_pos rfl, rfl⟩

theorem consume_regex_eq_ok_iff {pattern : Pattern} :
    (consume store registry enter (.regex pattern) segments).result? = some (.ok rest) ↔
      ∃ segment, pattern.isMatch segment = true ∧ segments = segment :: rest := by
  rw [consume, Outcome.result?_done, Option.some.injEq, Constraint.takeOne_eq_ok_iff]
  refine exists_congr fun segment => and_congr_left fun _ => ?_
  split
  · next hmatch => simp [hmatch]
  · next hmatch => simp [hmatch]

theorem consume_run_eq_ok_iff {min max : Nat} :
    (consume store registry enter (.run min max) segments).result? = some (.ok rest) ↔
      min ≤ segments.length ∧ rest = segments.drop (Nat.min segments.length max) := by
  by_cases hshort : segments.length < min
  · have hnot : ¬min ≤ segments.length := by omega
    simp [consume, hshort, hnot]
  · simp [consume, hshort, Nat.le_of_not_lt hshort, eq_comm]

/-- A bounded wildcard takes its greatest number of segments, or all if there are fewer. -/
theorem result?_consume_run {min max : Nat} :
    (consume store registry enter (.run min max) segments).result? =
      some (if segments.length < min then .error (.insufficientSegments min segments.length)
        else .ok (segments.drop max)) := by
  have hdrop : segments.drop (Nat.min segments.length max) = segments.drop max := by
    rcases Nat.le_total segments.length max with hall | hmax
    · have hmin : Nat.min segments.length max = segments.length := Nat.min_eq_left hall
      rw [hmin, List.drop_length, List.drop_eq_nil_of_le hall]
    · have hmin : Nat.min segments.length max = max := Nat.min_eq_right hmax
      rw [hmin]
  rw [consume, Outcome.result?_done, hdrop]

theorem consume_var_eq_ok_iff {name : String} {calls : List ModifierCall} :
    (consume store registry enter (.var name calls) segments).result? = some (.ok rest) ↔
      ∃ value expected, store.value? name = some value ∧
        registry.applyAll (Path.splitAll value) calls = .ok expected ∧
        segments = expected ++ rest := by
  cases hvalue : store.value? name with
  | none => simp [consume, hvalue]
  | some value =>
      cases happly : registry.applyAll (Path.splitAll value) calls with
      | error fault => simp [consume, hvalue, happly]
      | ok expected => simp [consume, hvalue, happly, Constraint.takeAll_eq_ok_iff]

/-- A variable without modifiers takes its value as it is split. -/
theorem consume_unmodified_eq_ok_iff {name value : String}
    (hvalue : store.value? name = some value) :
    (consume store registry enter (.var name []) segments).result? = some (.ok rest) ↔
      segments = Path.splitAll value ++ rest := by
  refine consume_var_eq_ok_iff.trans ?_
  constructor
  · rintro ⟨same, expected, hsame, happly, rfl⟩
    obtain rfl := Option.some.inj (hvalue.symm.trans hsame)
    obtain rfl := Except.ok.inj happly
    rfl
  · rintro rfl
    exact ⟨value, Path.splitAll value, hvalue, rfl, rfl⟩

end Steps

/-! ## Runs of constraints -/

/-- Constraints take segments one after the other, and leave the rest. -/
inductive Passes (step : Constraint → List String → Outcome (List String)) :
    List Constraint → List String → List String → Prop where
  | nil {segments : List String} : Passes step [] segments segments
  | cons {constraint : Constraint} {others : List Constraint}
      {segments remaining rest : List String}
      (hstep : (step constraint segments).result? = some (.ok remaining))
      (hothers : Passes step others remaining rest) :
      Passes step (constraint :: others) segments rest

variable {step : Constraint → List String → Outcome (List String)}

theorem passes_singleton_iff {constraint : Constraint} {segments rest : List String} :
    Passes step [constraint] segments rest ↔
      (step constraint segments).result? = some (.ok rest) := by
  constructor
  · intro hpasses
    cases hpasses with
    | cons hstep hnone =>
        cases hnone
        exact hstep
  · intro hstep
    exact .cons hstep .nil

theorem passes_append_iff {constraints others : List Constraint}
    {segments rest : List String} :
    Passes step (constraints ++ others) segments rest ↔
      ∃ remaining, Passes step constraints segments remaining ∧
        Passes step others remaining rest := by
  induction constraints generalizing segments with
  | nil =>
      constructor
      · intro hothers
        exact ⟨segments, .nil, hothers⟩
      · rintro ⟨remaining, ⟨⟩, hothers⟩
        exact hothers
  | cons constraint constraints ih =>
      constructor
      · rintro (_ | ⟨hstep, hpasses⟩)
        obtain ⟨remaining, hconstraints, hothers⟩ := ih.mp hpasses
        exact ⟨remaining, .cons hstep hconstraints, hothers⟩
      · rintro ⟨remaining, _ | ⟨hstep, hconstraints⟩, hothers⟩
        exact .cons hstep (ih.mpr ⟨remaining, hconstraints, hothers⟩)

theorem result?_consumeAll_cons
    (given : List String) (index : Nat) (constraint : Constraint)
    (others : List Constraint) (segments : List String) :
    (consumeAll step given index (constraint :: others) segments).result? =
      match (step constraint segments).result? with
      | none => none
      | some (.ok remaining) =>
        (consumeAll step given (index + 1) others remaining).result?
      | some (.error fault) =>
        some (.error
          (.atConstraint index constraint.describe (Path.join given) fault)) := by
  rw [consumeAll, Outcome.result?_andThen]
  rcases (step constraint segments).result? with _ | _ | _ <;> rfl

theorem result?_consumeAll_eq_ok_iff
    {given : List String} {index : Nat} {constraints : List Constraint}
    {segments rest : List String} :
    (consumeAll step given index constraints segments).result? = some (.ok rest) ↔
      Passes step constraints segments rest := by
  induction constraints generalizing index segments with
  | nil =>
      constructor
      · intro h
        obtain rfl : segments = rest := by simpa [consumeAll] using h
        exact .nil
      · rintro ⟨⟩
        rfl
  | cons constraint others ih =>
      rw [result?_consumeAll_cons]
      constructor
      · intro h
        split at h
        · cases h
        · next remaining hstep => exact .cons hstep (ih.mp h)
        · simp at h
      · rintro ⟨⟩
        rename_i remaining hstep hothers
        rw [hstep]
        exact ih.mpr hothers

/-- A run fails with the fault of the first constraint that does not pass. -/
theorem result?_consumeAll_eq_error_iff
    {given : List String} {index : Nat} {constraints : List Constraint}
    {segments : List String} {fault : Fault} :
    (consumeAll step given index constraints segments).result? = some (.error fault) ↔
      ∃ before constraint others remaining cause,
        constraints = before ++ constraint :: others ∧
        Passes step before segments remaining ∧
        (step constraint remaining).result? = some (.error cause) ∧
        fault = .atConstraint (index + before.length) constraint.describe
          (Path.join given) cause := by
  induction constraints generalizing index segments with
  | nil => simp [consumeAll]
  | cons first others ih =>
      rw [result?_consumeAll_cons]
      constructor
      · intro h
        split at h
        · cases h
        · next remaining hstep =>
            obtain ⟨before, constraint, after, final, cause, rfl, hbefore, hcause,
              hfault⟩ := ih.mp h
            refine ⟨first :: before, constraint, after, final, cause, rfl,
              .cons hstep hbefore, hcause, ?_⟩
            rw [hfault, List.length_cons]
            congr 1
            omega
        · next cause hstep =>
            refine ⟨[], first, others, segments, cause, rfl, .nil, hstep, ?_⟩
            simpa using h.symm
      · rintro ⟨before, constraint, after, remaining, cause, hcs, hbefore, hcause, hfault⟩
        cases hbefore with
        | nil =>
            obtain ⟨rfl, rfl⟩ := List.cons.inj hcs
            simp [hcause, hfault]
        | cons hstep hrest =>
            obtain ⟨rfl, rfl⟩ := List.cons.inj hcs
            rw [hstep]
            refine ih.mpr ⟨_, constraint, after, remaining, cause, rfl, hrest, hcause, ?_⟩
            rw [hfault, List.length_cons]
            congr 1
            omega

/-! ## Searches through members -/

/-- A member is rejected if it compiles and its constraints fail. -/
def Rejected (run : Schema → Outcome (List String)) (text : String) : Prop :=
  ∃ schema fault, Schema.ofText text = .ok schema ∧
    (run schema).result? = some (.error fault)

variable {run : Schema → Outcome (List String)} {otherwise : Fault}

theorem result?_firstMember_of_rejected
    {tried others : List String} (htried : ∀ text ∈ tried, Rejected run text) :
    (firstMember run otherwise (tried ++ others)).result? =
      (firstMember run otherwise others).result? := by
  induction tried with
  | nil => rfl
  | cons text tried ih =>
      obtain ⟨schema, fault, htext, hfault⟩ := htried text (by simp)
      simp only [List.cons_append, firstMember, htext, Outcome.result?_andThen, hfault]
      exact ih fun other hother => htried other (by simp [hother])

theorem result?_firstMember_broken
    {text : String} {fault : Fault} (others : List String)
    (htext : Schema.ofText text = .error fault) :
    (firstMember run otherwise (text :: others)).result? = some (.error fault) := by
  simp [firstMember, htext]

/-- A search that ends went through members that were rejected, up to one that
did not compile or matched, or to the end. -/
theorem result?_firstMember_cases
    {members : List String} {result : Except Fault (List String)}
    (h : (firstMember run otherwise members).result? = some result) :
    (∃ tried text others fault, members = tried ++ text :: others ∧
      (∀ other ∈ tried, Rejected run other) ∧
      Schema.ofText text = .error fault ∧ result = .error fault) ∨
    (∃ tried text others schema rest, members = tried ++ text :: others ∧
      (∀ other ∈ tried, Rejected run other) ∧
      Schema.ofText text = .ok schema ∧ (run schema).result? = some (.ok rest) ∧
      result = .ok rest) ∨
    ((∀ other ∈ members, Rejected run other) ∧ result = .error otherwise) := by
  induction members with
  | nil =>
      obtain rfl : .error otherwise = result := by simpa [firstMember] using h
      exact .inr (.inr ⟨by simp, rfl⟩)
  | cons text others ih =>
      cases htext : Schema.ofText text with
      | error fault =>
          obtain rfl : .error fault = result := by simpa [firstMember, htext] using h
          exact .inl ⟨[], text, others, fault, rfl, by simp, htext, rfl⟩
      | ok schema =>
          simp only [firstMember, htext, Outcome.result?_andThen] at h
          split at h
          · cases h
          · next rest hrest =>
              obtain rfl : .ok rest = result := by simpa using h
              exact .inr (.inl
                ⟨[], text, others, schema, rest, rfl, by simp, htext, hrest, rfl⟩)
          · next fault hfault =>
              have hrejected : Rejected run text := ⟨schema, fault, htext, hfault⟩
              rcases ih h with ⟨tried, other, after, cause, rfl, htried, hother, hresult⟩ |
                ⟨tried, other, after, inner, rest, rfl, htried, hother, hrest, hresult⟩ |
                ⟨hall, hresult⟩
              · exact .inl ⟨text :: tried, other, after, cause, rfl,
                  by simpa using ⟨hrejected, htried⟩, hother, hresult⟩
              · exact .inr (.inl ⟨text :: tried, other, after, inner, rest, rfl,
                  by simpa using ⟨hrejected, htried⟩, hother, hrest, hresult⟩)
              · exact .inr (.inr ⟨by simpa using ⟨hrejected, hall⟩, hresult⟩)

/-! ## Sets -/

variable {store : Store} {registry : Registry} {depth : Nat} {name : String}
  {segments : List String}

/-- A set without members decides by itself; any other searches them. -/
theorem result?_enterSet_succ :
    (enterSet store registry (depth + 1) name segments).result? =
      match store.set? name with
      | none => some (.error (.setNotFound name))
      | some [] => some (.error (.emptySet name))
      | some members =>
        (firstMember (fun schema => evaluateWithin store registry depth schema segments)
          (.noMemberMatched name members.length) members).result? := by
  rw [enterSet_succ, Outcome.result?_after]
  rcases store.set? name with _ | _ | ⟨_, _⟩ <;> rfl

/-- A set takes what its first member takes that is not rejected. -/
theorem exists_match_of_enterSet_eq_ok {rest : List String}
    (h : (enterSet store registry (depth + 1) name segments).result? = some (.ok rest)) :
    ∃ tried text others schema,
      store.set? name = some (tried ++ text :: others) ∧
      (∀ other ∈ tried,
        Rejected (fun schema => evaluateWithin store registry depth schema segments)
          other) ∧
      Schema.ofText text = .ok schema ∧
      (evaluateWithin store registry depth schema segments).result? = some (.ok rest) := by
  rw [result?_enterSet_succ] at h
  split at h
  · cases h
  · cases h
  · next members hmembers =>
      rcases result?_firstMember_cases h with ⟨_, _, _, _, _, _, _, hresult⟩ |
        ⟨tried, text, others, schema, found, hsplit, htried, htext, hfound, hresult⟩ |
        ⟨-, hresult⟩
      · cases hresult
      · obtain rfl := Except.ok.inj hresult
        exact ⟨tried, text, others, schema, hsplit ▸ hmembers, htried, htext, hfound⟩
      · cases hresult

/-! ## Whole schemas -/

theorem result?_validateSegments {schema : Schema} :
    (validateSegments store registry schema segments).result? =
      match (evaluate store registry schema segments).result? with
      | none => none
      | some (.ok []) => some (.ok ())
      | some (.ok leftover) => some (.error (.trailingSegments leftover))
      | some (.error fault) => some (.error fault) := by
  rw [validateSegments, Outcome.result?_andThen]
  rcases (evaluate store registry schema segments).result? with _ | _ | _ | ⟨_, _⟩ <;> rfl

theorem result?_validateSegments_eq_ok_iff {schema : Schema} :
    (validateSegments store registry schema segments).result? = some (.ok ()) ↔
      (evaluate store registry schema segments).result? = some (.ok []) := by
  rw [result?_validateSegments]
  constructor
  · intro h
    split at h
    · cases h
    · next hnone => exact hnone
    · cases h
    · cases h
  · intro h
    rw [h]

/-- A validation fails with the fault of its evaluation, or because of segments that
are left over. -/
theorem result?_validateSegments_eq_error_iff {schema : Schema} {fault : Fault} :
    (validateSegments store registry schema segments).result? = some (.error fault) ↔
      (evaluate store registry schema segments).result? = some (.error fault) ∨
        ∃ leftover, leftover ≠ [] ∧
          (evaluate store registry schema segments).result? = some (.ok leftover) ∧
          fault = .trailingSegments leftover := by
  rw [result?_validateSegments]
  rcases (evaluate store registry schema segments).result? with
    _ | cause | _ | ⟨first, others⟩
  · simp
  · simp
  · simp only [Option.some.injEq, Except.ok.injEq, reduceCtorEq, false_or, false_iff]
    rintro ⟨_, hne, rfl, -⟩
    exact hne rfl
  · constructor
    · intro h
      exact .inr
        ⟨first :: others, by simp, rfl, (Except.error.inj (Option.some.inj h)).symm⟩
    · rintro (h | ⟨leftover, -, h, rfl⟩)
      · cases h
      · obtain rfl := Except.ok.inj (Option.some.inj h)
        rfl

end Plain

end PathSchema
