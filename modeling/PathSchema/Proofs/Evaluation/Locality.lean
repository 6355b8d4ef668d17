import PathSchema.Proofs.Evaluation.Termination

/-!
# Sets out of reach do not matter

An evaluation enters only the sets of its schema and those that these lead to.  So two
stores that differ in the members of one set evaluate alike whatever does not lead to this
set.  In an acyclic store no member of a set leads back to the set: its members come
to the same, whichever other members are put beside them.
-/

namespace PathSchema

variable [RegexLibrary]

/-- The stores differ at most in the members of one set. -/
structure Store.SameBut (name : String) (store other : Store) : Prop where
  value?_eq : ∀ inner, other.value? inner = store.value? inner
  set?_eq : ∀ inner, inner ≠ name → other.set? inner = store.set? inner

namespace Store

variable {store other : Store} {name : String}

theorem SameBut.acyclic (hsame : store.SameBut name other) {members others : List String}
    (hmembers : store.set? name = some members) (hothers : other.set? name = some others)
    (hsubset : others ⊆ members) (hstore : store.Acyclic) : other.Acyclic := by
  have hleads : ∀ outer inner, other.Leads outer inner → store.Leads outer inner := by
    rintro outer inner ⟨texts, text, schema, htexts, htext, hschema, hinner⟩
    by_cases houter : outer = name
    · obtain rfl := houter
      obtain rfl := Option.some.inj (hothers.symm.trans htexts)
      exact ⟨members, text, schema, hmembers, hsubset htext, hschema, hinner⟩
    · rw [hsame.set?_eq outer houter] at htexts
      exact ⟨texts, text, schema, htexts, htext, hschema, hinner⟩
  intro outer hcycle
  exact hstore outer (Relation.TransGen.mono hleads outer outer hcycle)

end Store

namespace Plain

/-! ## Steps that are the same -/

section Congruence

variable {step step' : Constraint → List String → Outcome (List String)}
  {run run' : Schema → Outcome (List String)}

theorem consumeAll_congr {given : List String} {constraints : List Constraint}
    (h : ∀ constraint ∈ constraints, ∀ segments,
      step constraint segments = step' constraint segments)
    (index : Nat) (segments : List String) :
    consumeAll step given index constraints segments =
      consumeAll step' given index constraints segments := by
  induction constraints generalizing index segments with
  | nil => rfl
  | cons constraint others ih =>
      obtain ⟨hfirst, hothers⟩ := List.forall_mem_cons.mp h
      rw [consumeAll, consumeAll, hfirst, funext (ih hothers (index + 1))]

theorem firstMember_congr {otherwise : Fault} {members : List String}
    (h : ∀ text ∈ members, ∀ schema, Schema.ofText text = .ok schema →
      run schema = run' schema) :
    firstMember run otherwise members = firstMember run' otherwise members := by
  induction members with
  | nil => rfl
  | cons text rest ih =>
      obtain ⟨hfirst, hrest⟩ := List.forall_mem_cons.mp h
      rw [firstMember, firstMember]
      cases hschema : Schema.ofText text with
      | error fault => rfl
      | ok schema =>
          dsimp only
          rw [hfirst schema hschema, ih hrest]

theorem consume_congr {store other : Store} {registry : Registry}
    {enter enter' : String → List String → Outcome (List String)}
    (hvalue : ∀ name, other.value? name = store.value? name) {constraint : Constraint}
    (henter : ∀ name, constraint = .set name → ∀ segments,
      enter' name segments = enter name segments)
    (segments : List String) :
    consume other registry enter' constraint segments =
      consume store registry enter constraint segments := by
  cases constraint with
  | set name => exact henter name rfl segments
  | var name calls => rw [consume, consume, hvalue]
  | _ => rfl

end Congruence

/-! ## Stores that differ in one set -/

variable {store other : Store} {registry : Registry} {name : String}

/-- Sets that do not lead to the set in which the stores differ come to the same.  By
induction on the depth: what such a set leads to does not lead there either. -/
theorem enterSet_eq_of_sameBut (hsame : store.SameBut name other) {depth : Nat}
    {inner : String} (hapart : ¬Relation.ReflTransGen store.Leads inner name)
    (segments : List String) :
    enterSet other registry depth inner segments =
      enterSet store registry depth inner segments := by
  induction depth generalizing inner segments with
  | zero => rfl
  | succ depth ih =>
      have hne : inner ≠ name := by
        rintro rfl
        exact hapart .refl
      rw [enterSet_succ, enterSet_succ, hsame.set?_eq inner hne]
      congr 1
      split
      · rfl
      · rfl
      · next members _ hmembers =>
          apply firstMember_congr
          intro text htext schema hschema
          apply consumeAll_congr
          intro constraint hconstraint remaining
          refine consume_congr hsame.value?_eq ?_ remaining
          rintro deeper rfl left
          have hleads : store.Leads inner deeper :=
            ⟨members, text, schema, hmembers, htext, hschema, hconstraint⟩
          exact ih (fun hreach => hapart (hreach.head hleads)) left

theorem evaluate_eq_of_sameBut (hsame : store.SameBut name other) (hstore : store.Grounded)
    (hother : other.Grounded) {schema : Schema}
    (hapart : ∀ inner, .set inner ∈ schema.constraints →
      ¬Relation.ReflTransGen store.Leads inner name)
    (segments : List String) :
    evaluate other registry schema segments = evaluate store registry schema segments := by
  let depth := max (store.depthBound segments) (other.depthBound segments)
  have hwithin : evaluateWithin other registry depth schema segments =
      evaluateWithin store registry depth schema segments := by
    apply consumeAll_congr
    intro constraint hconstraint remaining
    refine consume_congr hsame.value?_eq ?_ remaining
    rintro inner rfl left
    exact enterSet_eq_of_sameBut hsame (hapart inner hconstraint) left
  rw [← evaluateWithin_eq_evaluate hother registry schema (Nat.le_max_right _ _), hwithin,
    evaluateWithin_eq_evaluate hstore registry schema (Nat.le_max_left _ _)]

/-- A member of a set comes to the same, whichever members the set has beside it. -/
theorem evaluate_member_eq_of_sameBut (hsame : store.SameBut name other)
    (hstore : store.Acyclic) (hother : other.Acyclic) {members : List String}
    (hmembers : store.set? name = some members) {text : String} (htext : text ∈ members)
    {schema : Schema} (hschema : Schema.ofText text = .ok schema)
    (segments : List String) :
    evaluate other registry schema segments = evaluate store registry schema segments := by
  refine evaluate_eq_of_sameBut hsame hstore.grounded hother.grounded ?_ segments
  intro inner hinner hreach
  have hleads : store.Leads name inner :=
    ⟨members, text, schema, hmembers, htext, hschema, hinner⟩
  exact hstore name (.head' hleads hreach)

end Plain

end PathSchema
