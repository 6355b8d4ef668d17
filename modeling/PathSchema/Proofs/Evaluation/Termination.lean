import Mathlib.Order.WellFounded
import PathSchema.Proofs.Evaluation.Depth
import PathSchema.Pattern.Engine

/-!
# Evaluations end

Nothing in an evaluation limits how deep sets are entered one inside the other, except the
depth that it is given.  If the sets of a store can be ranked so that a set leads only to
lower ones before a segment was taken, then every set entered inside of another one has
fewer segments to take, or as many and a lower rank.  So no chain of sets goes on without
end, the depth that an evaluation is given is never used up, and with any greater depth it
comes to the same.  Acyclic stores can be ranked, and so can sets that lead back to
themselves behind a guard.
-/

namespace PathSchema

section

variable [RegexLibrary]

namespace Schema

/-- Runs all constraints, entering at most `depth` sets one inside the other. -/
def evaluateWithin (store : Store) (registry : Registry) (depth : Nat) (schema : Schema)
    (segments : List String) : Evaluation (List String) :=
  Constraint.consumeAll
    (Constraint.consume store registry (Constraint.enterSet store registry depth))
    segments 0 schema.constraints segments

theorem evaluateWithin_follows (store : Store) (registry : Registry) (depth : Nat)
    (schema : Schema) (segments : List String) :
    (schema.evaluateWithin store registry depth segments).Follows
      (Plain.evaluateWithin store registry depth schema segments) :=
  Constraint.consumeAll_follows
    (Constraint.consume_follows (Constraint.enterSet_follows depth))
    segments 0 schema.constraints segments

end Schema

namespace Plain

variable {store : Store} {registry : Registry} {rank : String → Nat}

/-- In the order of the segments first and of the ranks then, what is entered is lower. -/
theorem Enters.lex (hrank : store.RankedBy rank) {caller callee : String × List String}
    (h : Enters store registry caller callee) :
    Prod.Lex (· < ·) (· < ·) (callee.2.length, rank callee.1)
      (caller.2.length, rank caller.1) := by
  rw [Prod.lex_def]
  rcases h.fewer_or_lower hrank with hfewer | ⟨hlength, hlower⟩
  · exact .inl hfewer
  · rcases Nat.lt_or_eq_of_le hlength with hfewer | hsame
    · exact .inl hfewer
    · exact .inr ⟨hsame, hlower⟩

theorem enters_wellFounded (hrank : store.RankedBy rank) (registry : Registry) :
    WellFounded fun callee caller => Enters store registry caller callee := by
  have hlex : WellFounded (Prod.Lex (fun m n : Nat => m < n) fun m n : Nat => m < n) :=
    (Prod.lex Nat.lt_wfRel Nat.lt_wfRel).wf
  have hmeasure := InvImage.wf
    (fun call : String × List String => (call.2.length, rank call.1)) hlex
  exact Subrelation.wf (fun henters => henters.lex hrank) hmeasure

theorem exists_evaluateConstraint_eq_some (hstore : store.Grounded) (registry : Registry)
    (constraint : Constraint) (segments : List String) :
    ∃ reached, evaluateConstraint store registry constraint segments = some reached := by
  have hagree : (evaluateConstraint store registry constraint segments).Agree
      (evaluateConstraint store registry constraint segments) := by
    apply consume_agree
    rintro name -
    have hdepth := lt_depthBound store segments
    exact enterSet_agree_of_grounded hstore (Nat.lt_succ_of_lt hdepth)
      (Nat.lt_succ_of_lt hdepth)
  obtain ⟨reached, hreached, -⟩ := hagree
  exact ⟨reached, hreached⟩

/-- A depth that is greater than the one given to an evaluation changes nothing. -/
theorem evaluateWithin_eq_evaluate (hstore : store.Grounded) (registry : Registry)
    (schema : Schema) {depth : Nat} {segments : List String}
    (hdepth : store.depthBound segments ≤ depth) :
    evaluateWithin store registry depth schema segments =
      evaluate store registry schema segments := by
  have hbound := lt_depthBound store segments
  have hdeeper : segments.length * (store.setNames.length + 1) + store.setNames.length < depth := by
    rw [Store.depthBound] at hdepth
    omega
  exact (evaluateWithin_agree hstore registry schema hdeeper (Nat.lt_succ_of_lt hbound)).eq

end Plain

namespace Schema

/-- A store can be ranked if it is acyclic.  In a ranked store, each set that is entered
inside of another one comes later in the order of the segments first and of the ranks then,
which has no infinite descents.  Every constraint, every schema and every validation
comes to an end from whatever sound memory, and entering sets deeper than an evaluation
does would change neither its result nor its questions. -/
theorem evaluation_ends_in_ranked_store (store : Store) :
    (store.Acyclic → ∃ rank, store.RankedBy rank) ∧
    ∀ rank : String → Nat, store.RankedBy rank → ∀ registry : Registry,
      (∀ caller callee, Plain.Enters store registry caller callee →
        Prod.Lex (· < ·) (· < ·) (callee.2.length, rank callee.1)
          (caller.2.length, rank caller.1)) ∧
      (WellFounded fun callee caller => Plain.Enters store registry caller callee) ∧
      ∀ (memory : Memory) (segments : List String), memory.Sound →
        (∀ constraint : Constraint, ∃ result after,
          (constraint.evaluate store registry segments).run memory =
            some (result, after)) ∧
        ∀ schema : Schema,
          (∃ result after,
            (schema.validateSegments store registry segments).run memory =
              some (result, after)) ∧
          ∃ result after,
            (schema.evaluate store registry segments).run memory = some (result, after) ∧
            ∀ depth, store.depthBound segments ≤ depth → ∃ other : Memory,
              (schema.evaluateWithin store registry depth segments).run memory =
                some (result, other) ∧
              other.lookups = after.lookups := by
  have hranks : store.Acyclic → ∃ rank, store.RankedBy rank := fun hstore =>
    let ⟨rank, hrank, _⟩ := hstore.grounded.exists_rank_le
    ⟨rank, hrank⟩
  refine ⟨hranks, ?_⟩
  intro rank hrank registry
  have hstore : store.Grounded := hrank.grounded
  refine ⟨fun _ _ henters => henters.lex hrank, Plain.enters_wellFounded hrank registry, ?_⟩
  intro memory segments hmemory
  refine ⟨?_, fun schema => ⟨?_, ?_⟩⟩
  · intro constraint
    obtain ⟨⟨result, asked⟩, houtcome⟩ :=
      Plain.exists_evaluateConstraint_eq_some hstore registry constraint segments
    obtain ⟨after, -, -, hrun⟩ :=
      (constraint.evaluate_follows segments).exists_run hmemory houtcome
    exact ⟨result, after, hrun⟩
  · obtain ⟨result, after, hrun, -⟩ :=
      exists_run_validateSegments hstore registry schema hmemory segments
    exact ⟨result, after, hrun⟩
  · obtain ⟨⟨result, asked⟩, houtcome⟩ :=
      Plain.exists_evaluate_eq_some hstore registry schema segments
    obtain ⟨after, -, hlookups, hrun⟩ :=
      (schema.evaluate_follows segments).exists_run hmemory houtcome
    refine ⟨result, after, hrun, ?_⟩
    intro depth hdepth
    rw [← Plain.evaluateWithin_eq_evaluate hstore registry schema hdepth] at houtcome
    obtain ⟨other, -, hothers, hdeeper⟩ :=
      (schema.evaluateWithin_follows store registry depth segments).exists_run hmemory houtcome
    exact ⟨other, hdeeper, hothers.trans hlookups.symm⟩

end Schema

end

namespace Schema

/-- A set that leads back to itself behind a literal, and a set that leads to it. -/
theorem evaluation_ends_in_ranked_store_of_guarded_set :
    Store.RankedBy (Store.ofEntries [] [("t", ["*/$[s]", "$[s]/c"]), ("s", ["a/$[s]", "b"])])
      (fun name => if name = "t" then 1 else 0) ∧
    ∃ after, (validateSegments
      (Store.ofEntries [] [("t", ["*/$[s]", "$[s]/c"]), ("s", ["a/$[s]", "b"])]) Registry.builtin
      ⟨"$[t]", [.set "t"]⟩ ["a", "a", "b", "c"]).run {} = some (.ok (), after) := by
  have hranked : Store.RankedBy
      (Store.ofEntries [] [("t", ["*/$[s]", "$[s]/c"]), ("s", ["a/$[s]", "b"])])
      (fun name => if name = "t" then 1 else 0) :=
    Store.rankedBy_of_members (by decide +kernel)
  obtain ⟨-, hends⟩ := evaluation_ends_in_ranked_store
    (Store.ofEntries [] [("t", ["*/$[s]", "$[s]/c"]), ("s", ["a/$[s]", "b"])])
  obtain ⟨-, -, hmemory⟩ := hends _ hranked Registry.builtin
  obtain ⟨-, hschemas⟩ := hmemory {} ["a", "a", "b", "c"] Memory.sound_empty
  obtain ⟨⟨result, after, hrun⟩, -⟩ := hschemas ⟨"$[t]", [.set "t"]⟩
  have hresult : ((validateSegments
      (Store.ofEntries [] [("t", ["*/$[s]", "$[s]/c"]), ("s", ["a/$[s]", "b"])]) Registry.builtin
      ⟨"$[t]", [.set "t"]⟩ ["a", "a", "b", "c"]).run {}).map Prod.fst = some (.ok ()) := by
    decide +kernel
  rw [hrun] at hresult
  obtain rfl : result = .ok () := by simpa using hresult
  exact ⟨hranked, after, hrun⟩

end Schema

end PathSchema
