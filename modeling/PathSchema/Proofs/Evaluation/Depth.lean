import PathSchema.Proofs.Language
import PathSchema.Proofs.Nesting

/-!
# Sets of a grounded store do not nest too deep

A set of a grounded store that is entered on some segments needs a depth that the
number of these segments and the rank of the set give: with each set entered
inside of it either the segments become fewer or the rank becomes lower.  Any
two depths that are large enough come to the same outcome, so the bound on the
depth disappears from the equations at the end of this module.
-/

namespace PathSchema

/-! ## Outcomes that agree -/

namespace Outcome

variable {α β : Type}

/-- Both evaluations end, and in the same way. -/
def Agree (first second : Outcome α) : Prop :=
  ∃ reached, first = some reached ∧ second = some reached

theorem agree_done (result : Except Fault α) : Agree (done result) (done result) :=
  ⟨_, rfl, rfl⟩

theorem Agree.eq {first second : Outcome α}
    (h : Agree first second) : first = second := by
  obtain ⟨_, rfl, rfl⟩ := h
  rfl

theorem Agree.after {first second : Outcome α} (asked : List Lookup)
    (h : Agree first second) : Agree (.after asked first) (.after asked second) := by
  obtain ⟨_, rfl, rfl⟩ := h
  exact ⟨_, rfl, rfl⟩

theorem Agree.andThen
    {first second : Outcome α} {next next' : α → Outcome β}
    {otherwise otherwise' : Fault → Outcome β}
    (h : Agree first second)
    (hok : ∀ value, first.result? = some (.ok value) → Agree (next value) (next' value))
    (herror : ∀ fault, first.result? = some (.error fault) →
      Agree (otherwise fault) (otherwise' fault)) :
    Agree (first.andThen next otherwise) (second.andThen next' otherwise') := by
  obtain ⟨⟨fault | value, asked⟩, rfl, rfl⟩ := h
  · exact (herror fault rfl).after asked
  · exact (hok value rfl).after asked

end Outcome

namespace Plain

theorem lt_depthBound (store : Store) (segments : List String) :
    segments.length * (store.setNames.length + 1) + store.setNames.length <
      (segments.length + 1) * (store.setNames.length + 1) := by
  rw [Nat.succ_mul]
  omega

end Plain

variable [RegexLibrary]

namespace Plain

/-! ## What is left over -/

section Rest

variable {store : Store} {registry : Registry} {depth : Nat}
  {segments rest : List String}

theorem suffix_of_consume_eq_ok {constraint : Constraint}
    (h : (consume store registry (enterSet store registry depth) constraint
      segments).result? = some (.ok rest)) :
    rest <:+ segments := by
  cases constraint with
  | literal text =>
      obtain rfl := consume_literal_eq_ok_iff.mp h
      exact List.suffix_cons text rest
  | regex pattern =>
      obtain ⟨segment, -, rfl⟩ := consume_regex_eq_ok_iff.mp h
      exact List.suffix_cons segment rest
  | run min max =>
      obtain ⟨-, rfl⟩ := consume_run_eq_ok_iff.mp h
      exact List.drop_suffix _ _
  | everything =>
      obtain rfl : [] = rest := by simpa [consume] using h
      exact List.nil_suffix
  | var name calls =>
      obtain ⟨_, expected, -, -, rfl⟩ := consume_var_eq_ok_iff.mp h
      exact List.suffix_append expected rest
  | set name =>
      obtain ⟨taken, rfl, -⟩ := Constraint.enterSet_sound h
      exact List.suffix_append taken rest

theorem suffix_of_passes {constraints : List Constraint}
    (h : Passes (consume store registry (enterSet store registry depth)) constraints
      segments rest) :
    rest <:+ segments := by
  induction h with
  | nil => exact List.suffix_refl _
  | cons hstep _ ih => exact ih.trans (suffix_of_consume_eq_ok hstep)

theorem length_lt_of_passes_guard {constraints : List Constraint}
    (hordered : ∀ constraint ∈ constraints, constraint.Ordered)
    {guard : Constraint} (hmem : guard ∈ constraints) (hguard : guard.Guards)
    (h : Passes (consume store registry (enterSet store registry depth)) constraints
      segments rest) :
    rest.length < segments.length := by
  induction h with
  | nil => simp at hmem
  | cons hstep hothers ih =>
      rcases List.mem_cons.mp hmem with rfl | hmem
      · obtain ⟨taken, rfl, hword⟩ := Constraint.consume_sound
          (fun _ _ _ => Constraint.enterSet_sound) (hordered _ (by simp)) hstep
        have htaken := List.length_pos_of_ne_nil (Constraint.ne_nil_of_word hguard hword)
        have hrest := (suffix_of_passes hothers).length_le
        rw [List.length_append]
        omega
      · have hrest := (suffix_of_consume_eq_ok hstep).length_le
        have hfewer := ih (fun other hother => hordered other (by simp [hother])) hmem
        omega

end Rest

/-! ## Enough depth -/

section Agreement

variable {step step' : Constraint → List String → Outcome (List String)}

/-- Runs agree if their steps do on what is left at each constraint. -/
theorem consumeAll_agree {given : List String} {index : Nat}
    {constraints : List Constraint}
    {segments : List String}
    (hstep : ∀ before constraint others remaining,
      constraints = before ++ constraint :: others → Passes step before segments remaining →
        (step constraint remaining).Agree (step' constraint remaining)) :
    (consumeAll step given index constraints segments).Agree
      (consumeAll step' given index constraints segments) := by
  induction constraints generalizing index segments with
  | nil => exact Outcome.agree_done _
  | cons constraint others ih =>
      rw [consumeAll, consumeAll]
      apply (hstep [] constraint others segments rfl .nil).andThen
      · intro remaining hremaining
        apply ih
        intro before next after final hsplit hbefore
        exact hstep (constraint :: before) next after final (by simp [hsplit])
          (.cons hremaining hbefore)
      · intro fault _
        exact Outcome.agree_done _

/-- Searches agree if their runs do on the members that compile. -/
theorem firstMember_agree {run run' : Schema → Outcome (List String)} {otherwise : Fault}
    {members : List String}
    (hrun : ∀ text ∈ members, ∀ schema, Schema.ofText text = .ok schema →
      (run schema).Agree (run' schema)) :
    (firstMember run otherwise members).Agree (firstMember run' otherwise members) := by
  induction members with
  | nil => exact Outcome.agree_done _
  | cons text rest ih =>
      rw [firstMember, firstMember]
      cases htext : Schema.ofText text with
      | error fault => exact Outcome.agree_done _
      | ok schema =>
          apply (hrun text (by simp) schema htext).andThen
          · intro remaining _
            exact Outcome.agree_done _
          · intro fault _
            exact ih fun other hother => hrun other (by simp [hother])

theorem consume_agree {store : Store} {registry : Registry}
    {enter enter' : String → List String → Outcome (List String)}
    {constraint : Constraint} {segments : List String}
    (henter : ∀ name, constraint = .set name →
      (enter name segments).Agree (enter' name segments)) :
    (consume store registry enter constraint segments).Agree
      (consume store registry enter' constraint segments) := by
  cases constraint with
  | set name => exact henter name rfl
  | var name calls => exact (Outcome.agree_done _).after _
  | literal text => exact Outcome.agree_done _
  | regex pattern => exact Outcome.agree_done _
  | run min max => exact Outcome.agree_done _
  | everything => exact Outcome.agree_done _

theorem validateSegments_agree {store : Store} {registry : Registry}
    {schema : Schema} {segments : List String}
    (h : (evaluate store registry schema segments).Agree
      (evaluate store registry schema segments)) :
    (validateSegments store registry schema segments).Agree
      (validateSegments store registry schema segments) := by
  apply h.andThen
  · intro leftover _
    rcases leftover with _ | ⟨first, others⟩
    · exact Outcome.agree_done _
    · exact Outcome.agree_done _
  · intro fault _
    exact Outcome.agree_done _

end Agreement

section Depths

variable {store : Store} {registry : Registry} {rank : String → Nat}

/-- Evaluating the set of the first pair on its segments may come to the set of the second
pair, on what is left of the segments: the second set is part of a member that compiles,
and the constraints before it pass. -/
inductive Enters (store : Store) (registry : Registry) :
    String × List String → String × List String → Prop where
  | inside {name inner text : String} {members : List String} {schema : Schema}
      {before after : List Constraint} {depth : Nat} {segments remaining : List String}
      (hmembers : store.set? name = some members) (htext : text ∈ members)
      (hschema : Schema.ofText text = .ok schema)
      (hsplit : schema.constraints = before ++ .set inner :: after)
      (hbefore : Passes (consume store registry (enterSet store registry depth)) before
        segments remaining) :
      Enters store registry (name, segments) (inner, remaining)

theorem Enters.leads {caller callee : String × List String}
    (h : Enters store registry caller callee) : store.Leads caller.1 callee.1 := by
  obtain ⟨hmembers, htext, hschema, hsplit, -⟩ := h
  exact ⟨_, _, _, hmembers, htext, hschema, by simp [hsplit]⟩

/-- A set that is entered inside of another one has fewer segments to take if a guard
stands before it, and has a lower rank if not. -/
theorem Enters.fewer_or_lower
    (hrank : store.RankedBy rank)
    {caller callee : String × List String} (h : Enters store registry caller callee) :
    callee.2.length < caller.2.length ∨
      callee.2.length ≤ caller.2.length ∧ rank callee.1 < rank caller.1 := by
  obtain @⟨name, inner, text, members, schema, before, after, depth, segments, remaining,
    hmembers, htext, hschema, hsplit, hbefore⟩ := h
  by_cases hguarded : ∃ guard ∈ before, guard.Guards
  · obtain ⟨guard, hmem, hguard⟩ := hguarded
    have hordered : ∀ constraint ∈ before, constraint.Ordered := by
      intro constraint hconstraint
      exact Schema.ordered_of_ofText hschema constraint (by simp [hsplit, hconstraint])
    exact .inl (length_lt_of_passes_guard hordered hmem hguard hbefore)
  · have hlead : store.LeadsUnguarded name inner :=
      ⟨members, text, schema, before, after, hmembers, htext, hschema, hsplit,
        fun constraint hmem hguard => hguarded ⟨constraint, hmem, hguard⟩⟩
    exact .inr ⟨(suffix_of_passes hbefore).length_le, hrank name inner hlead⟩

/-- A set that is entered inside of another one needs less depth. -/
theorem Enters.lower
    (hrank : store.RankedBy rank)
    (hbound : ∀ name, rank name ≤ store.setNames.length)
    {caller callee : String × List String} (h : Enters store registry caller callee) :
    callee.2.length * (store.setNames.length + 1) + rank callee.1 <
      caller.2.length * (store.setNames.length + 1) + rank caller.1 := by
  rcases h.fewer_or_lower hrank with hfewer | ⟨hlength, hlower⟩
  · have hinner := hbound callee.1
    calc callee.2.length * (store.setNames.length + 1) + rank callee.1
        < (callee.2.length + 1) * (store.setNames.length + 1) := by rw [Nat.succ_mul]; omega
      _ ≤ caller.2.length * (store.setNames.length + 1) := Nat.mul_le_mul_right _ hfewer
      _ ≤ caller.2.length * (store.setNames.length + 1) + rank caller.1 := Nat.le_add_right _ _
  · have hmul := Nat.mul_le_mul_right (store.setNames.length + 1) hlength
    omega

/-- What a set comes to depends only on the sets that are entered inside of it. -/
theorem enterSet_succ_agree {depth depth' : Nat} {name : String} {segments : List String}
    (h : ∀ inner remaining, Enters store registry (name, segments) (inner, remaining) →
      (enterSet store registry depth inner remaining).Agree
        (enterSet store registry depth' inner remaining)) :
    (enterSet store registry (depth + 1) name segments).Agree
      (enterSet store registry (depth' + 1) name segments) := by
  rw [enterSet_succ, enterSet_succ]
  apply Outcome.Agree.after
  cases hmembers : store.set? name with
  | none => exact Outcome.agree_done _
  | some members =>
      rcases members with _ | ⟨first, others⟩
      · exact Outcome.agree_done _
      · apply firstMember_agree
        intro text htext schema hschema
        apply consumeAll_agree
        intro before constraint after remaining hsplit hbefore
        apply consume_agree
        rintro inner rfl
        exact h inner remaining (.inside hmembers htext hschema hsplit hbefore)

/-- Two depths suffice for a set if both exceed what the number of segments and the
rank of the set give. -/
theorem enterSet_agree
    (hrank : store.RankedBy rank)
    (hbound : ∀ name, rank name ≤ store.setNames.length)
    {depth depth' : Nat} {name : String} {segments : List String}
    (hdepth : segments.length * (store.setNames.length + 1) + rank name < depth)
    (hdepth' : segments.length * (store.setNames.length + 1) + rank name < depth') :
    (enterSet store registry depth name segments).Agree
      (enterSet store registry depth' name segments) := by
  induction depth generalizing depth' name segments with
  | zero => omega
  | succ depth ih =>
      obtain ⟨depth', rfl⟩ : ∃ lower, depth' = lower + 1 := ⟨depth' - 1, by omega⟩
      apply enterSet_succ_agree
      intro inner remaining henters
      have hlower := henters.lower hrank hbound
      dsimp only at hlower
      exact ih (by omega) (by omega)

theorem enterSet_agree_of_grounded (hstore : store.Grounded)
    {depth depth' : Nat} {name : String} {segments : List String}
    (hdepth : segments.length * (store.setNames.length + 1) + store.setNames.length < depth)
    (hdepth' : segments.length * (store.setNames.length + 1) + store.setNames.length < depth') :
    (enterSet store registry depth name segments).Agree
      (enterSet store registry depth' name segments) := by
  obtain ⟨rank, hrank, hbound⟩ := hstore.exists_rank_le
  have hname := hbound name
  exact enterSet_agree hrank hbound (by omega) (by omega)

theorem evaluateWithin_agree (hstore : store.Grounded) (registry : Registry)
    (schema : Schema) {depth depth' : Nat} {segments : List String}
    (hdepth : segments.length * (store.setNames.length + 1) + store.setNames.length < depth)
    (hdepth' : segments.length * (store.setNames.length + 1) + store.setNames.length < depth') :
    (evaluateWithin store registry depth schema segments).Agree
      (evaluateWithin store registry depth' schema segments) := by
  apply consumeAll_agree
  intro before constraint others remaining _ hbefore
  apply consume_agree
  rintro name -
  have hlength := (suffix_of_passes hbefore).length_le
  have hmul := Nat.mul_le_mul_right (store.setNames.length + 1) hlength
  exact enterSet_agree_of_grounded hstore (by omega) (by omega)

end Depths

/-! ## Equations without a depth -/

section Equations

variable {store : Store} {registry : Registry}

/-- The depth that an evaluation is given suffices. -/
theorem exists_evaluate_eq_some (hstore : store.Grounded) (registry : Registry)
    (schema : Schema) (segments : List String) :
    ∃ reached, evaluate store registry schema segments = some reached := by
  have hdepth := lt_depthBound store segments
  obtain ⟨reached, hreached, -⟩ :=
    evaluateWithin_agree hstore registry schema (Nat.lt_succ_of_lt hdepth) hdepth
  exact ⟨reached, hreached⟩

theorem exists_validateSegments_eq_some (hstore : store.Grounded) (registry : Registry)
    (schema : Schema) (segments : List String) :
    ∃ reached, validateSegments store registry schema segments = some reached := by
  obtain ⟨reached, hevaluate⟩ := exists_evaluate_eq_some hstore registry schema segments
  obtain ⟨validated, hvalidated, -⟩ :=
    validateSegments_agree ⟨reached, hevaluate, hevaluate⟩
  exact ⟨validated, hvalidated⟩

/-- A schema runs its constraints one by one, each as if by itself. -/
theorem evaluate_eq_consumeAll (hstore : store.Grounded) (schema : Schema)
    (segments : List String) :
    evaluate store registry schema segments =
      consumeAll (evaluateConstraint store registry) segments 0 schema.constraints
        segments := by
  apply Outcome.Agree.eq
  apply consumeAll_agree
  intro before constraint others remaining _ hbefore
  apply consume_agree
  rintro name -
  have hlength := (suffix_of_passes hbefore).length_le
  have hmul := Nat.mul_le_mul_right (store.setNames.length + 1) hlength
  have hsegments := lt_depthBound store segments
  have hremaining := lt_depthBound store remaining
  exact enterSet_agree_of_grounded hstore (by rw [Store.depthBound]; omega)
    (by rw [Store.depthBound]; omega)

/-- A set searches its members, each as if by itself. -/
theorem evaluateConstraint_set (hstore : store.Grounded) (name : String)
    (segments : List String) :
    evaluateConstraint store registry (.set name) segments =
      .after [.set name] (match store.set? name with
        | none => .done (.error (.setNotFound name))
        | some [] => .done (.error (.emptySet name))
        | some members =>
          firstMember (fun schema => evaluate store registry schema segments)
            (.noMemberMatched name members.length) members) := by
  rw [evaluateConstraint, consume, Store.depthBound, enterSet_succ]
  rcases store.set? name with _ | _ | ⟨first, others⟩
  · rfl
  · rfl
  · have hdepth := lt_depthBound store segments
    apply Outcome.Agree.eq
    apply Outcome.Agree.after
    apply firstMember_agree
    intro text _ schema _
    exact evaluateWithin_agree hstore registry schema hdepth (Nat.lt_succ_of_lt hdepth)

theorem evaluateConstraint_set_of_ne_nil (hstore : store.Grounded) (registry : Registry)
    {name : String} {members : List String} (hmembers : store.set? name = some members)
    (hne : members ≠ []) (segments : List String) :
    evaluateConstraint store registry (.set name) segments =
      .after [.set name]
        (firstMember (fun schema => evaluate store registry schema segments)
          (.noMemberMatched name members.length) members) := by
  rw [evaluateConstraint_set hstore, hmembers]
  rcases members with _ | ⟨first, others⟩
  · exact absurd rfl hne
  · rfl

end Equations

end Plain

/-- From a sound memory a validation comes to an end, with the result of the plain one. -/
theorem Schema.exists_run_validateSegments {store : Store} (hstore : store.Grounded)
    (registry : Registry) (schema : Schema) {memory : Memory} (hmemory : memory.Sound)
    (segments : List String) :
    ∃ result after,
      (schema.validateSegments store registry segments).run memory = some (result, after) ∧
      (Plain.validateSegments store registry schema segments).result? = some result := by
  obtain ⟨⟨result, asked⟩, houtcome⟩ :=
    Plain.exists_validateSegments_eq_some hstore registry schema segments
  have hresult :
      (Plain.validateSegments store registry schema segments).result? = some result := by
    rw [houtcome]
    rfl
  obtain ⟨after, hrun⟩ :=
    ((validateSegments_follows schema segments).exists_run_iff hmemory).mpr hresult
  exact ⟨result, after, hrun, hresult⟩

end PathSchema
