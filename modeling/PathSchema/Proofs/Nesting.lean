import Mathlib.Data.Finset.Card
import Mathlib.Logic.Relation
import PathSchema.Schema
import PathSchema.Store

/-!
# How sets lead to sets

A set leads to those that its members hold, as far as these compile.  A store is
acyclic if no set leads back to itself, and grounded if no set does before a
segment was taken.  The sets of a grounded store can be ranked by numbers that do
not exceed the number of its sets.
-/

namespace PathSchema

namespace Store

/-! ## Ranks -/

/-- A relation without cycles whose sources are finitely many ranks its members by
the number of sources that they reach. -/
theorem exists_rank_of_no_cycle
    {related : String → String → Prop} (sources : Finset String)
    (hsources : ∀ name inner, related name inner → name ∈ sources)
    (hcycle : ∀ name, ¬Relation.TransGen related name name) :
    ∃ rank : String → Nat,
      (∀ name inner, related name inner → rank inner < rank name) ∧
        ∀ name, rank name ≤ sources.card := by
  classical
  refine ⟨fun name => (sources.filter (Relation.ReflTransGen related name)).card, ?_, ?_⟩
  · intro name inner h
    apply Finset.card_lt_card
    rw [Finset.ssubset_iff_of_subset]
    · refine ⟨name, ?_, ?_⟩
      · simpa using ⟨hsources name inner h, Relation.ReflTransGen.refl⟩
      · intro hback
        exact hcycle name (Relation.TransGen.head' h (Finset.mem_filter.mp hback).2)
    · intro source hsource
      obtain ⟨hmem, hreach⟩ := Finset.mem_filter.mp hsource
      exact Finset.mem_filter.mpr ⟨hmem, hreach.head h⟩
  · intro name
    exact Finset.card_filter_le _ _

theorem not_transGen_of_rank
    {related : String → String → Prop} {rank : String → Nat}
    (hrank : ∀ name inner, related name inner → rank inner < rank name) (name : String) :
    ¬Relation.TransGen related name name := by
  have hless : ∀ inner, Relation.TransGen related name inner → rank inner < rank name := by
    intro inner h
    induction h with
    | single h => exact hrank _ _ h
    | tail _ h ih => exact (hrank _ _ h).trans ih
  exact fun h => Nat.lt_irrefl _ (hless name h)

end Store

/-! ## Sets in members -/

variable [RegexLibrary]

/-- A constraint that takes a segment whenever it succeeds. -/
def Constraint.Guards : Constraint → Prop
  | literal _ => True
  | regex _ => True
  | run min _ => 1 ≤ min
  | _ => False

namespace Constraint

/-- The sets among some constraints before which no guard stands. -/
def unguardedSets : List Constraint → List String
  | [] => []
  | literal _ :: _ => []
  | regex _ :: _ => []
  | run min _ :: others => if 1 ≤ min then [] else unguardedSets others
  | everything :: others => unguardedSets others
  | var _ _ :: others => unguardedSets others
  | set name :: others => name :: unguardedSets others

theorem mem_unguardedSets {before others : List Constraint} {name : String}
    (h : ∀ constraint ∈ before, ¬constraint.Guards) :
    name ∈ unguardedSets (before ++ .set name :: others) := by
  induction before with
  | nil => exact List.mem_cons_self
  | cons constraint before ih =>
      have hfirst : ¬constraint.Guards := h constraint (by simp)
      have hrest := ih fun other hother => h other (by simp [hother])
      cases constraint with
      | literal text => exact absurd trivial hfirst
      | regex pattern => exact absurd trivial hfirst
      | run min max =>
          have hmin : ¬1 ≤ min := hfirst
          rwa [List.cons_append, unguardedSets, if_neg hmin]
      | everything => exact hrest
      | var name calls => exact hrest
      | set inner => exact List.mem_cons_of_mem inner hrest

end Constraint

namespace Store

/-- The set `inner` is part of a member of `name` that compiles. -/
def Leads (store : Store) (name inner : String) : Prop :=
  ∃ members text schema,
    store.set? name = some members ∧ text ∈ members ∧ Schema.ofText text = .ok schema ∧
      .set inner ∈ schema.constraints

/-- The set `inner` is part of a member of `name` that compiles, and no guard stands
before it. -/
def LeadsUnguarded (store : Store) (name inner : String) : Prop :=
  ∃ members text schema before others,
    store.set? name = some members ∧ text ∈ members ∧ Schema.ofText text = .ok schema ∧
      schema.constraints = before ++ .set inner :: others ∧
      ∀ constraint ∈ before, ¬constraint.Guards

/-- No set leads back to itself. -/
def Acyclic (store : Store) : Prop :=
  ∀ name, ¬Relation.TransGen store.Leads name name

/-- Before a segment was taken, a set leads only to sets of lower rank. -/
def RankedBy (store : Store) (rank : String → Nat) : Prop :=
  ∀ name inner, store.LeadsUnguarded name inner → rank inner < rank name

/-- No set leads back to itself before a segment was taken. -/
def Grounded (store : Store) : Prop :=
  ∀ name, ¬Relation.TransGen store.LeadsUnguarded name name

variable {store : Store}

theorem LeadsUnguarded.leads {name inner : String}
    (h : store.LeadsUnguarded name inner) :
    store.Leads name inner := by
  obtain ⟨members, text, schema, before, others, hmembers, htext, hschema, hsplit, -⟩ := h
  exact ⟨members, text, schema, hmembers, htext, hschema, by simp [hsplit]⟩

theorem Leads.mem_setNames {name inner : String} (h : store.Leads name inner) :
    name ∈ store.setNames := by
  obtain ⟨members, text, schema, hmembers, -⟩ := h
  exact store.mem_setNames name members hmembers

theorem RankedBy.grounded {rank : String → Nat} (h : store.RankedBy rank) :
    store.Grounded :=
  not_transGen_of_rank h

/-- The ranks need not exceed the number of sets. -/
theorem Grounded.exists_rank_le (h : store.Grounded) :
    ∃ rank, store.RankedBy rank ∧ ∀ name, rank name ≤ store.setNames.length := by
  obtain ⟨rank, hrank, hcard⟩ := exists_rank_of_no_cycle store.setNames.toFinset
    (fun name inner h => by simpa using h.leads.mem_setNames) h
  exact ⟨rank, hrank, fun name => (hcard name).trans (List.toFinset_card_le store.setNames)⟩

theorem Acyclic.grounded (h : store.Acyclic) : store.Grounded :=
  fun name hcycle =>
    h name (Relation.TransGen.mono (fun _ _ => LeadsUnguarded.leads) name name hcycle)

/-- The sets that a member holds; none if it does not compile. -/
def heldSets (text : String) : List String :=
  match Schema.ofText text with
  | .error _ => []
  | .ok schema => schema.constraints.filterMap fun
    | .set inner => some inner
    | _ => none

theorem acyclic_of_rank (rank : String → Nat)
    (h : ∀ name ∈ store.setNames, ∀ text ∈ (store.set? name).getD [],
      ∀ inner ∈ heldSets text, rank inner < rank name) :
    store.Acyclic := by
  apply @not_transGen_of_rank store.Leads rank
  rintro name inner ⟨members, text, schema, hmembers, htext, hschema, hinner⟩
  refine h name (store.mem_setNames name members hmembers) text (by simpa [hmembers]) inner ?_
  rw [heldSets, hschema]
  exact List.mem_filterMap.mpr ⟨.set inner, hinner, rfl⟩

/-- The sets of a member before which no guard stands; none if it does not compile. -/
def unguardedSets (text : String) : List String :=
  match Schema.ofText text with
  | .error _ => []
  | .ok schema => Constraint.unguardedSets schema.constraints

/-- A store is ranked if the sets before which no guard stands are lower. -/
theorem rankedBy_of_members {rank : String → Nat}
    (h : ∀ name ∈ store.setNames, ∀ text ∈ (store.set? name).getD [],
      ∀ inner ∈ unguardedSets text, rank inner < rank name) :
    store.RankedBy rank := by
  rintro name inner
    ⟨members, text, schema, before, others, hmembers, htext, hschema, hsplit, hbefore⟩
  refine h name (store.mem_setNames name members hmembers) text (by simpa [hmembers]) inner ?_
  rw [unguardedSets, hschema]
  show inner ∈ Constraint.unguardedSets schema.constraints
  rw [hsplit]
  exact Constraint.mem_unguardedSets hbefore

end Store

end PathSchema
