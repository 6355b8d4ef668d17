import PathSchema.Proofs.Evaluation.Depth
import PathSchema.Proofs.Evaluation.Refusal
import PathSchema.Pattern.Engine

/-!
# Members that do not compile

A member that does not compile ends the search through its set, and its fault ends
the evaluation if the set is part of the schema itself.  If the set is part of a
member, the fault is one of that member, and the search around it goes on as after
a mismatch.  So a validation fails with the compile fault of a member exactly if
the member was tried by a set of the schema itself.
-/

namespace PathSchema

section

variable [RegexLibrary]

namespace Plain

variable {store : Store} {registry : Registry}

/-! ## Members that are tried -/

/-- Running constraints comes to try a member of a set on what is left of the
segments.  The depth counts the sets around the member. -/
inductive Tries (store : Store) (registry : Registry) :
    List Constraint → List String → Nat → String → List String → Prop where
  | direct {before others : List Constraint} {name text : String}
      {tried later segments remaining : List String}
      (hbefore : Passes (evaluateConstraint store registry) before segments remaining)
      (hmembers : store.set? name = some (tried ++ text :: later))
      (htried : ∀ other ∈ tried,
        Rejected (fun schema => evaluate store registry schema remaining) other) :
      Tries store registry (before ++ .set name :: others) segments 1 text remaining
  | inside {constraints : List Constraint} {segments remaining rest : List String}
      {outer text : String} {schema : Schema} {depth : Nat}
      (houter : Tries store registry constraints segments 1 outer remaining)
      (hschema : Schema.ofText outer = .ok schema)
      (hinner : Tries store registry schema.constraints remaining depth text rest) :
      Tries store registry constraints segments (depth + 1) text rest

theorem Tries.depth_pos {constraints : List Constraint}
    {segments remaining : List String}
    {depth : Nat} {text : String}
    (h : Tries store registry constraints segments depth text remaining) : 0 < depth := by
  cases h with
  | direct => exact Nat.zero_lt_one
  | inside => exact Nat.succ_pos _

/-- What is tried at depth one is a member of a set of the constraints themselves. -/
theorem Tries.exists_of_depth_one {constraints : List Constraint}
    {segments remaining : List String} {text : String}
    (h : Tries store registry constraints segments 1 text remaining) :
    ∃ before others name tried later,
      constraints = before ++ .set name :: others ∧
      Passes (evaluateConstraint store registry) before segments remaining ∧
      store.set? name = some (tried ++ text :: later) ∧
      ∀ other ∈ tried,
        Rejected (fun schema => evaluate store registry schema remaining) other := by
  cases h with
  | direct hbefore hmembers htried =>
      exact ⟨_, _, _, _, _, rfl, hbefore, hmembers, htried⟩
  | inside _ _ hinner => exact absurd hinner.depth_pos (Nat.lt_irrefl 0)

/-! ## Compile faults of constraints -/

/-- A constraint fails with a compile fault exactly if it is a set, and the fault is
that of a member before which all others are rejected. -/
theorem evaluateConstraint_eq_compileFault_iff (hstore : store.Grounded)
    {constraint : Constraint} {segments : List String} {fault : Fault} :
    (evaluateConstraint store registry constraint segments).result? = some (.error fault) ∧
        fault.isCompile = true ↔
      ∃ name tried text later, constraint = .set name ∧
        store.set? name = some (tried ++ text :: later) ∧
        (∀ other ∈ tried,
          Rejected (fun schema => evaluate store registry schema segments) other) ∧
        Schema.ofText text = .error fault := by
  constructor
  · rintro ⟨h, hcompile⟩
    by_cases hset : ∃ name, constraint = .set name
    · obtain ⟨name, rfl⟩ := hset
      rw [evaluateConstraint_set hstore, Outcome.result?_after] at h
      split at h
      · obtain rfl := Except.error.inj (Option.some.inj h)
        cases hcompile
      · obtain rfl := Except.error.inj (Option.some.inj h)
        cases hcompile
      · next members hmembers =>
          rcases result?_firstMember_cases h with
            ⟨tried, text, later, cause, hsplit, htried, htext, hresult⟩ |
            ⟨_, _, _, _, _, _, _, _, _, hresult⟩ | ⟨-, hresult⟩
          · obtain rfl := Except.error.inj hresult
            exact ⟨name, tried, text, later, rfl, hsplit ▸ hmembers, htried, htext⟩
          · cases hresult
          · obtain rfl := Except.error.inj hresult
            cases hcompile
    · have hrefusal :=
        refusal_of_consume_eq_error (fun name hname => hset ⟨name, hname⟩) h
      have hmismatch := hrefusal.isCompile_eq_false
      rw [hcompile] at hmismatch
      cases hmismatch
  · rintro ⟨name, tried, text, later, rfl, hmembers, htried, htext⟩
    refine ⟨?_, (Schema.compileFault_of_ofText htext).1⟩
    rw [evaluateConstraint_set_of_ne_nil hstore registry hmembers (by simp),
      Outcome.result?_after, result?_firstMember_of_rejected htried,
      result?_firstMember_broken later htext]

/-! ## Compile faults of schemas -/

/-- Evaluating a schema fails with a compile fault exactly if a set of the schema
itself tries a member that has this fault. -/
theorem evaluate_eq_compileFault_iff (hstore : store.Grounded) (registry : Registry)
    (schema : Schema) {segments : List String} {fault : Fault} :
    (∃ wrapped, (evaluate store registry schema segments).result? = some (.error wrapped) ∧
        wrapped.isCompile = true ∧ wrapped.rootCause = fault) ↔
      ∃ text remaining,
        Tries store registry schema.constraints segments 1 text remaining ∧
        Schema.ofText text = .error fault := by
  rw [evaluate_eq_consumeAll hstore]
  constructor
  · rintro ⟨wrapped, hresult, hcompile, rfl⟩
    obtain ⟨before, constraint, others, remaining, cause, hsplit, hbefore, hcause, rfl⟩ :=
      result?_consumeAll_eq_error_iff.mp hresult
    obtain ⟨name, tried, text, later, rfl, hmembers, htried, htext⟩ :=
      (evaluateConstraint_eq_compileFault_iff hstore).mp ⟨hcause, hcompile⟩
    refine ⟨text, remaining, ?_, ?_⟩
    · rw [hsplit]
      exact .direct hbefore hmembers htried
    · rw [Fault.rootCause, (Schema.compileFault_of_ofText htext).2, htext]
  · rintro ⟨text, remaining, htries, htext⟩
    obtain ⟨before, others, name, tried, later, hsplit, hbefore, hmembers, htried⟩ :=
      htries.exists_of_depth_one
    obtain ⟨hcause, hcompile⟩ := (evaluateConstraint_eq_compileFault_iff hstore).mpr
      ⟨name, tried, text, later, rfl, hmembers, htried, htext⟩
    refine ⟨_, result?_consumeAll_eq_error_iff.mpr
      ⟨before, .set name, others, remaining, fault, hsplit, hbefore, hcause, rfl⟩,
      hcompile, ?_⟩
    exact (Schema.compileFault_of_ofText htext).2

/-- A member that does not compile and is tried inside of another one makes the other
one rejected, as a mismatch would. -/
theorem Tries.exists_rejected (hstore : store.Grounded)
    {constraints : List Constraint} {segments rest : List String} {depth : Nat}
    {text : String} {fault : Fault}
    (h : Tries store registry constraints segments (depth + 2) text rest)
    (htext : Schema.ofText text = .error fault) :
    ∃ outer remaining,
      Tries store registry constraints segments (depth + 1) outer remaining ∧
      Rejected (fun schema => evaluate store registry schema remaining) outer := by
  induction depth generalizing constraints segments with
  | zero =>
      cases h with
      | inside houter hschema hinner =>
          obtain ⟨wrapped, hresult, -⟩ :=
            (evaluate_eq_compileFault_iff hstore registry _).mpr ⟨text, rest, hinner, htext⟩
          exact ⟨_, _, houter, _, wrapped, hschema, hresult⟩
  | succ depth ih =>
      cases h with
      | inside houter hschema hinner =>
          obtain ⟨outer, remaining, htries, hrejected⟩ := ih hinner
          exact ⟨outer, remaining, .inside houter hschema htries, hrejected⟩

theorem validateSegments_eq_compileFault_iff (hstore : store.Grounded)
    (registry : Registry)
    (schema : Schema) {segments : List String} {fault : Fault} :
    (∃ wrapped,
        (validateSegments store registry schema segments).result? = some (.error wrapped) ∧
        wrapped.isCompile = true ∧ wrapped.rootCause = fault) ↔
      ∃ text remaining,
        Tries store registry schema.constraints segments 1 text remaining ∧
        Schema.ofText text = .error fault := by
  rw [← evaluate_eq_compileFault_iff hstore registry schema]
  constructor
  · rintro ⟨wrapped, hresult, hcompile, hcause⟩
    rcases result?_validateSegments_eq_error_iff.mp hresult with hfault | ⟨_, _, _, rfl⟩
    · exact ⟨wrapped, hfault, hcompile, hcause⟩
    · cases hcompile
  · rintro ⟨wrapped, hresult, hcompile, hcause⟩
    exact ⟨wrapped, result?_validateSegments_eq_error_iff.mpr (.inl hresult), hcompile,
      hcause⟩

/-! ## Validations -/

/-- A validation always ends, and it fails with a compile fault exactly if a set of
the schema itself tries a member that has this fault.  A member that does not compile
and is tried further inside has the member around it rejected instead. -/
theorem validation_fails_with_compileFault_iff {store : Store} (hstore : store.Acyclic)
    (registry : Registry) (schema : Schema) {memory : Memory} (hmemory : memory.Sound)
    (segments : List String) :
    ∃ result after,
      (schema.validateSegments store registry segments).run memory = some (result, after) ∧
      (∀ fault,
        (∃ wrapped, result = .error wrapped ∧
            wrapped.isCompile = true ∧ wrapped.rootCause = fault) ↔
          ∃ text remaining,
            Tries store registry schema.constraints segments 1 text remaining ∧
            Schema.ofText text = .error fault) ∧
      ∀ depth text rest fault,
        Tries store registry schema.constraints segments (depth + 2) text rest →
          Schema.ofText text = .error fault →
            ∃ outer remaining,
              Tries store registry schema.constraints segments (depth + 1) outer remaining ∧
              Rejected (fun inner => evaluate store registry inner remaining) outer := by
  obtain ⟨⟨result, asked⟩, houtcome⟩ :=
    exists_validateSegments_eq_some hstore.grounded registry schema segments
  have hreaches :=
    @Schema.validateSegments_follows _ store registry schema segments memory hmemory
  rw [houtcome] at hreaches
  obtain ⟨after, -, -, hrun⟩ := hreaches
  refine ⟨result, after, hrun, ?_, ?_⟩
  · intro fault
    rw [← validateSegments_eq_compileFault_iff hstore.grounded registry schema, houtcome]
    simp [Outcome.result?]
  · intro depth text rest fault htries htext
    exact htries.exists_rejected hstore.grounded htext

end Plain

end

namespace Plain

/-- A broken member of a set of the schema itself ends the validation, although the
member after it would match. -/
theorem validation_fails_with_compileFault_of_first_member :
    ∃ wrapped after,
      (Schema.validateSegments (Store.ofEntries [] [("s", ["b", "+{3,0}", "a"])]) Registry.builtin
        ⟨"$[s]", [.set "s"]⟩ ["a"]).run {} = some (.error wrapped, after) ∧
      wrapped.isCompile = true ∧ wrapped.rootCause = .quantifierRange 3 0 := by
  have hstore : Store.Acyclic (Store.ofEntries [] [("s", ["b", "+{3,0}", "a"])]) :=
    Store.acyclic_of_rank (fun _ => 0) (by decide +kernel)
  obtain ⟨result, after, hrun, hiff, -⟩ := validation_fails_with_compileFault_iff hstore
    Registry.builtin ⟨"$[s]", [.set "s"]⟩ Memory.sound_empty ["a"]
  have hrejected : Rejected (fun schema =>
      evaluate (Store.ofEntries [] [("s", ["b", "+{3,0}", "a"])]) Registry.builtin schema ["a"]) "b" :=
    ⟨⟨"b", [.literal "b"]⟩,
      .atConstraint 0 "Literal(b)" "a" (.segmentMismatch "b" "a"), by decide +kernel,
      by decide +kernel⟩
  have htries : Tries (Store.ofEntries [] [("s", ["b", "+{3,0}", "a"])]) Registry.builtin
      ([] ++ [.set "s"]) ["a"] 1 "+{3,0}" ["a"] := by
    refine .direct .nil (show _ = some (["b"] ++ ["+{3,0}", "a"]) by rfl) ?_
    simpa using hrejected
  obtain ⟨wrapped, rfl, hcompile, hcause⟩ :=
    (hiff (.quantifierRange 3 0)).mpr ⟨"+{3,0}", ["a"], htries, by decide +kernel⟩
  exact ⟨wrapped, after, hrun, hcompile, hcause⟩

/-- Not every broken member that is tried ends the validation: the fault of one inside
of a member is lost. -/
theorem not_all_broken_members_end_validation :
    ¬∀ (store : Store) (registry : Registry) (schema : Schema) (path : String)
        (depth : Nat) (text : String) (remaining : List String) (fault : Fault),
        store.Acyclic →
        Tries store registry schema.constraints (Path.split path) depth text remaining →
        Schema.ofText text = .error fault →
        ∃ wrapped after,
          (schema.validate store registry path).run {} = some (.error wrapped, after) ∧
          wrapped.isCompile = true ∧ wrapped.rootCause = fault := by
  intro hall
  have hinner : Tries (Store.ofEntries [] [("outer", ["$[inner]", "a"]), ("inner", ["+{3,0}"])])
      Registry.builtin ([] ++ [.set "inner"]) ["a"] 1 "+{3,0}" ["a"] :=
    .direct .nil (show _ = some ([] ++ ["+{3,0}"]) by rfl) (by simp)
  have houter : Tries (Store.ofEntries [] [("outer", ["$[inner]", "a"]), ("inner", ["+{3,0}"])])
      Registry.builtin ([] ++ [.set "outer"]) ["a"] 1 "$[inner]" ["a"] :=
    .direct .nil (show _ = some ([] ++ ["$[inner]", "a"]) by rfl) (by simp)
  have htries := houter.inside
    (show Schema.ofText "$[inner]" = .ok ⟨"$[inner]", [.set "inner"]⟩ by decide +kernel)
    hinner
  obtain ⟨wrapped, after, hrun, -⟩ := hall
    (Store.ofEntries [] [("outer", ["$[inner]", "a"]), ("inner", ["+{3,0}"])]) Registry.builtin
    ⟨"$[outer]", [.set "outer"]⟩ "a" 2 "+{3,0}" ["a"] (.quantifierRange 3 0)
    (Store.acyclic_of_rank (fun name => if name = "outer" then 1 else 0)
      (by decide +kernel))
    htries (by decide +kernel)
  have hok : ((Schema.validate
      (Store.ofEntries [] [("outer", ["$[inner]", "a"]), ("inner", ["+{3,0}"])]) Registry.builtin
      ⟨"$[outer]", [.set "outer"]⟩ "a").run {}).map Prod.fst = some (.ok ()) := by
    decide +kernel
  rw [hrun] at hok
  simp at hok

end Plain

end PathSchema
