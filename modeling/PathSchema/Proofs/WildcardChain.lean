import Mathlib.Data.Nat.Find
import PathSchema.Proofs.Evaluation.Result
import PathSchema.Proofs.Evaluation.Transparency
import PathSchema.Pattern.Engine

/-!
# Chains of bounded wildcards

A bounded wildcard takes as many segments as it may, so in a chain of them each finds what
is left if those before it have taken their greatest numbers.  This makes a validation a
matter of arithmetic: it fails at the first wildcard for which less is left than its
least number, and if there is none, only because of what exceeds the greatest numbers
of all.  An unbounded wildcard at the end takes that.

The sums are not bounded, even if every number fits in a machine word.
-/

namespace PathSchema

namespace Quantifier

/-- The most segments that wildcards with the quantifiers take together. -/
def capacity : List Quantifier → Nat
  | [] => 0
  | first :: others => first.max + capacity others

/-- Of so many segments, those that are left for the wildcard with the index. -/
def leftFor (quantifiers : List Quantifier) (given index : Nat) : Nat :=
  given - capacity (quantifiers.take index)

/-- For every wildcard its least number is left. -/
def Suffices (quantifiers : List Quantifier) (given : Nat) : Prop :=
  ∀ index (h : index < quantifiers.length),
    quantifiers[index].min ≤ leftFor quantifiers given index

/-- What is left behind the first wildcard is divided among the others. -/
theorem leftFor_cons_succ (first : Quantifier) (others : List Quantifier)
    (given index : Nat) :
    leftFor (first :: others) given (index + 1) = leftFor others (given - first.max) index := by
  rw [leftFor, leftFor, List.take_succ_cons, capacity, Nat.sub_add_eq]

theorem suffices_cons_iff {first : Quantifier} {others : List Quantifier} {given : Nat} :
    Suffices (first :: others) given ↔
      first.min ≤ given ∧ Suffices others (given - first.max) := by
  constructor
  · intro h
    refine ⟨h 0 (Nat.zero_lt_succ _), ?_⟩
    intro index hindex
    have hnext := h (index + 1) (Nat.succ_lt_succ hindex)
    rw [leftFor_cons_succ] at hnext
    exact hnext
  · rintro ⟨hfirst, hothers⟩ (_ | index) hindex
    · exact hfirst
    · rw [leftFor_cons_succ]
      exact hothers index (Nat.lt_of_succ_lt_succ hindex)

/-- For the wildcards in front of one, it does not matter what follows them. -/
theorem suffices_take_iff {quantifiers : List Quantifier} {given place : Nat}
    (hplace : place ≤ quantifiers.length) :
    Suffices (quantifiers.take place) given ↔
      ∀ index (h : index < place),
        quantifiers[index].min ≤ leftFor quantifiers given index := by
  have hlength : (quantifiers.take place).length = place := List.length_take_of_le hplace
  have hleft : ∀ index < place,
      leftFor (quantifiers.take place) given index = leftFor quantifiers given index := by
    intro index hindex
    rw [leftFor, leftFor, List.take_take, Nat.min_eq_left (Nat.le_of_lt hindex)]
  constructor
  · intro h index hindex
    have hmin := h index (by omega)
    rw [List.getElem_take, hleft index hindex] at hmin
    exact hmin
  · intro h index hindex
    rw [List.getElem_take, hleft index (by omega)]
    exact h index (by omega)

/-- If too little is left for some wildcard, there is a first one. -/
theorem exists_first_short {quantifiers : List Quantifier} {given : Nat}
    (h : ¬Suffices quantifiers given) :
    ∃ index, ∃ hindex : index < quantifiers.length,
      leftFor quantifiers given index < quantifiers[index].min ∧
      ∀ earlier (he : earlier < index),
        quantifiers[earlier].min ≤ leftFor quantifiers given earlier := by
  classical
  have hshort : ∃ index, ∃ hindex : index < quantifiers.length,
      leftFor quantifiers given index < quantifiers[index].min := by
    by_contra hnone
    apply h
    intro index hindex
    by_contra hless
    exact hnone ⟨index, hindex, Nat.lt_of_not_le hless⟩
  obtain ⟨hindex, hless⟩ := Nat.find_spec hshort
  refine ⟨Nat.find hshort, hindex, hless, ?_⟩
  intro earlier he
  have hnot := Nat.find_min hshort he
  by_contra hmore
  exact hnot ⟨Nat.lt_trans he hindex, Nat.lt_of_not_le hmore⟩

end Quantifier

section

variable [RegexLibrary]

namespace Constraint

/-- A bounded wildcard for each of the quantifiers. -/
def runs (quantifiers : List Quantifier) : List Constraint :=
  quantifiers.map fun quantifier => run quantifier.min quantifier.max

/-- Bounded wildcards, and perhaps an unbounded one behind them. -/
def chain (quantifiers : List Quantifier) (unbounded : Bool) : List Constraint :=
  runs quantifiers ++ if unbounded then [everything] else []

theorem chain_eq_append {quantifiers : List Quantifier} {index : Nat}
    (h : index < quantifiers.length) (unbounded : Bool) :
    chain quantifiers unbounded =
      runs (quantifiers.take index) ++
        .run quantifiers[index].min quantifiers[index].max ::
          chain (quantifiers.drop (index + 1)) unbounded := by
  have hquantifiers : quantifiers.take index ++ quantifiers[index] ::
      quantifiers.drop (index + 1) = quantifiers := by
    rw [← List.drop_eq_getElem_cons h, List.take_append_drop]
  calc
    chain quantifiers unbounded =
        chain (quantifiers.take index ++ quantifiers[index] ::
          quantifiers.drop (index + 1)) unbounded := by rw [hquantifiers]
    _ = runs (quantifiers.take index) ++
        .run quantifiers[index].min quantifiers[index].max ::
          chain (quantifiers.drop (index + 1)) unbounded := by
      simp only [chain, runs, List.map_append, List.map_cons, List.append_assoc,
        List.cons_append]

end Constraint

open Quantifier (capacity leftFor Suffices)

namespace Plain

variable {store : Store} {registry : Registry}
  {enter : String → List String → Outcome (List String)}
  {quantifiers : List Quantifier} {segments rest : List String}

/-- Bounded wildcards pass if enough is left for each of them, and leave what exceeds
their greatest numbers. -/
theorem passes_runs_iff :
    Passes (consume store registry enter) (Constraint.runs quantifiers) segments rest ↔
      Suffices quantifiers segments.length ∧ rest = segments.drop (capacity quantifiers) := by
  induction quantifiers generalizing segments with
  | nil =>
      constructor
      · rintro ⟨⟩
        exact ⟨nofun, rfl⟩
      · rintro ⟨-, rfl⟩
        exact .nil
  | cons first others ih =>
      have hothers : ∀ remaining, remaining = segments.drop first.max →
          (Passes (consume store registry enter) (Constraint.runs others) remaining rest ↔
            Suffices others (segments.length - first.max) ∧
              rest = segments.drop (capacity (first :: others))) := by
        rintro remaining rfl
        rw [ih, List.length_drop, List.drop_drop, capacity]
      rw [Quantifier.suffices_cons_iff, and_assoc]
      constructor
      · rintro (_ | ⟨hstep, hpasses⟩)
        rename_i remaining
        rw [result?_consume_run] at hstep
        by_cases hshort : segments.length < first.min
        · rw [if_pos hshort] at hstep
          cases hstep
        · rw [if_neg hshort] at hstep
          have hremaining := Except.ok.inj (Option.some.inj hstep)
          exact ⟨Nat.le_of_not_lt hshort, (hothers remaining hremaining.symm).mp hpasses⟩
      · rintro ⟨hfirst, hsuffices⟩
        refine .cons ?_ ((hothers _ rfl).mpr hsuffices)
        rw [result?_consume_run, if_neg (Nat.not_lt.mpr hfirst)]

/-- If enough is left for each wildcard, a chain leaves what exceeds the greatest numbers
of the bounded ones, or nothing if an unbounded one stands behind them. -/
theorem passes_chain_of_suffices {unbounded : Bool}
    (h : Suffices quantifiers segments.length) :
    Passes (consume store registry enter) (Constraint.chain quantifiers unbounded) segments
      (if unbounded then [] else segments.drop (capacity quantifiers)) := by
  refine passes_append_iff.mpr
    ⟨segments.drop (capacity quantifiers), passes_runs_iff.mpr ⟨h, rfl⟩, ?_⟩
  cases unbounded with
  | false => exact .nil
  | true => exact passes_singleton_iff.mpr rfl

/-- A chain fails at the first wildcard for which too little is left. -/
theorem consumeAll_chain_of_short {given : List String} {unbounded : Bool} {index : Nat}
    (h : index < quantifiers.length)
    (hshort : leftFor quantifiers segments.length index < quantifiers[index].min)
    (hbefore : ∀ earlier (he : earlier < index),
      quantifiers[earlier].min ≤ leftFor quantifiers segments.length earlier) :
    (consumeAll (consume store registry enter) given 0
        (Constraint.chain quantifiers unbounded) segments).result? =
      some (.error (.atConstraint index
        (Constraint.run quantifiers[index].min quantifiers[index].max).describe
        (Path.join given)
        (.insufficientSegments quantifiers[index].min
          (leftFor quantifiers segments.length index)))) := by
  have hlength : (Constraint.runs (quantifiers.take index)).length = index := by
    rw [Constraint.runs, List.length_map, List.length_take_of_le (Nat.le_of_lt h)]
  have hpasses : Passes (consume store registry enter)
      (Constraint.runs (quantifiers.take index)) segments
      (segments.drop (capacity (quantifiers.take index))) := by
    refine passes_runs_iff.mpr ⟨?_, rfl⟩
    exact (Quantifier.suffices_take_iff (Nat.le_of_lt h)).mpr hbefore
  have hleft : (segments.drop (capacity (quantifiers.take index))).length =
      leftFor quantifiers segments.length index := List.length_drop
  refine result?_consumeAll_eq_error_iff.mpr
    ⟨_, _, _, _, .insufficientSegments quantifiers[index].min
      (leftFor quantifiers segments.length index), Constraint.chain_eq_append h unbounded,
      hpasses, ?_, ?_⟩
  · rw [result?_consume_run, hleft, if_pos hshort]
  · rw [hlength, Nat.zero_add]

variable {schema : Schema} {unbounded : Bool}

theorem validateSegments_chain_of_suffices
    (hchain : schema.constraints = Constraint.chain quantifiers unbounded)
    (h : Suffices quantifiers segments.length) :
    (validateSegments store registry schema segments).result? =
      some (if unbounded = true ∨ segments.length ≤ capacity quantifiers then .ok ()
        else .error (.trailingSegments (segments.drop (capacity quantifiers)))) := by
  have hpasses := @passes_chain_of_suffices _ store registry
    (enterSet store registry (store.depthBound segments)) _ _ unbounded h
  rw [← hchain] at hpasses
  have hevaluate : (evaluate store registry schema segments).result? = _ :=
    result?_consumeAll_eq_ok_iff.mpr hpasses
  by_cases hall : unbounded = true ∨ segments.length ≤ capacity quantifiers
  · have hnone : (if unbounded = true then [] else segments.drop (capacity quantifiers)) =
        [] := by
      rcases hall with rfl | hlength
      · rfl
      · rw [List.drop_eq_nil_of_le hlength, ite_self]
    rw [hnone] at hevaluate
    rw [if_pos hall]
    exact result?_validateSegments_eq_ok_iff.mpr hevaluate
  · obtain ⟨hbounded, hlength⟩ := not_or.mp hall
    rw [if_neg hbounded] at hevaluate
    rw [if_neg hall]
    refine result?_validateSegments_eq_error_iff.mpr (.inr ⟨_, ?_, hevaluate, rfl⟩)
    rw [ne_eq, List.drop_eq_nil_iff]
    exact hlength

theorem validateSegments_chain_of_short
    (hchain : schema.constraints = Constraint.chain quantifiers unbounded) {index : Nat}
    (h : index < quantifiers.length)
    (hshort : leftFor quantifiers segments.length index < quantifiers[index].min)
    (hbefore : ∀ earlier (he : earlier < index),
      quantifiers[earlier].min ≤ leftFor quantifiers segments.length earlier) :
    (validateSegments store registry schema segments).result? =
      some (.error (.atConstraint index
        (Constraint.run quantifiers[index].min quantifiers[index].max).describe
        (Path.join segments)
        (.insufficientSegments quantifiers[index].min
          (leftFor quantifiers segments.length index)))) := by
  refine result?_validateSegments_eq_error_iff.mpr (.inl ?_)
  rw [evaluate, evaluateWithin, hchain]
  exact consumeAll_chain_of_short h hshort hbefore

end Plain

namespace Schema

/-- The validation of a chain of bounded wildcards in closed form.  It ends, and succeeds
exactly if for each wildcard its least number is left behind the greatest numbers of
those before it, and no more segments are given than all may take, unless an unbounded
wildcard stands at the end.  Otherwise it fails at the first wildcard for which too
little is left, or else because of the segments that exceed what all may take. -/
theorem chain_validates_in_closed_form (store : Store) (registry : Registry)
    {schema : Schema} {quantifiers : List Quantifier} {unbounded : Bool}
    (hchain : schema.constraints = Constraint.chain quantifiers unbounded)
    {memory : Memory} (hmemory : memory.Sound) (segments : List String) :
    ∃ result after,
      (schema.validateSegments store registry segments).run memory = some (result, after) ∧
      (result = .ok () ↔
        Suffices quantifiers segments.length ∧
          (unbounded = false → segments.length ≤ capacity quantifiers)) ∧
      (∀ index (h : index < quantifiers.length),
        leftFor quantifiers segments.length index < quantifiers[index].min →
        (∀ earlier (he : earlier < index),
          quantifiers[earlier].min ≤ leftFor quantifiers segments.length earlier) →
        result = .error (.atConstraint index
          (Constraint.run quantifiers[index].min quantifiers[index].max).describe
          (Path.join segments)
          (.insufficientSegments quantifiers[index].min
            (leftFor quantifiers segments.length index)))) ∧
      (unbounded = false → Suffices quantifiers segments.length →
        capacity quantifiers < segments.length →
        result = .error (.trailingSegments (segments.drop (capacity quantifiers)))) := by
  have hfollows := @validateSegments_follows _ store registry schema segments
  have hends : ∃ result,
      (Plain.validateSegments store registry schema segments).result? = some result := by
    by_cases hsuffices : Suffices quantifiers segments.length
    · exact ⟨_, Plain.validateSegments_chain_of_suffices hchain hsuffices⟩
    · obtain ⟨index, h, hshort, hbefore⟩ := Quantifier.exists_first_short hsuffices
      exact ⟨_, Plain.validateSegments_chain_of_short hchain h hshort hbefore⟩
  obtain ⟨result, hresult⟩ := hends
  obtain ⟨after, hrun⟩ := (hfollows.exists_run_iff hmemory).mpr hresult
  have hsame : ∀ other,
      (Plain.validateSegments store registry schema segments).result? = some other →
        result = other := by
    intro other hother
    exact Option.some.inj (hresult.symm.trans hother)
  have hshort : ∀ index (h : index < quantifiers.length), _ → _ → result = .error _ :=
    fun index h hless hbefore =>
      hsame _ (Plain.validateSegments_chain_of_short hchain h hless hbefore)
  have hsuffices : Suffices quantifiers segments.length → result = _ :=
    fun h => hsame _ (Plain.validateSegments_chain_of_suffices hchain h)
  refine ⟨result, after, hrun, ?_, hshort, ?_⟩
  · constructor
    · rintro rfl
      have hall : Suffices quantifiers segments.length := by
        by_contra hnot
        obtain ⟨index, h, hless, hbefore⟩ := Quantifier.exists_first_short hnot
        cases hshort index h hless hbefore
      refine ⟨hall, ?_⟩
      rintro rfl
      by_contra hmore
      have hfails := hsuffices hall
      rw [if_neg (by simpa using hmore)] at hfails
      cases hfails
    · rintro ⟨hall, hlength⟩
      rw [hsuffices hall, if_pos]
      cases unbounded with
      | false => exact .inr (hlength rfl)
      | true => exact .inl rfl
  · rintro rfl hall hmore
    rw [hsuffices hall, if_neg]
    simpa using hmore

end Schema

end

namespace Schema

/-- The greatest numbers together do not fit in a machine word: the first wildcard takes the
only segment, and none is left for the second. -/
theorem chain_validates_in_closed_form_beyond_machine_words :
    (ofText "+{0,18446744073709551615}/+{1,18446744073709551615}/*").map Schema.constraints =
      .ok (Constraint.chain [⟨0, 18446744073709551615⟩, ⟨1, 18446744073709551615⟩] true) ∧
    ∃ after, (validateSegments {} Registry.builtin
      ⟨"+{0,18446744073709551615}/+{1,18446744073709551615}/*",
        Constraint.chain [⟨0, 18446744073709551615⟩, ⟨1, 18446744073709551615⟩] true⟩
      ["a"]).run {} =
        some (.error (.atConstraint 1 "WildcardSingle{1,18446744073709551615}" "a"
          (.insufficientSegments 1 0)), after) := by
  refine ⟨by decide +kernel, ?_⟩
  obtain ⟨result, after, hrun, -, hshort, -⟩ :=
    @chain_validates_in_closed_form _ {} Registry.builtin
      ⟨"+{0,18446744073709551615}/+{1,18446744073709551615}/*",
        Constraint.chain [⟨0, 18446744073709551615⟩, ⟨1, 18446744073709551615⟩] true⟩
      _ _ rfl {} Memory.sound_empty ["a"]
  have hfails := hshort 1 (by decide) (by decide) (by decide)
  have hdescribe : (Constraint.run 1 18446744073709551615).describe =
      "WildcardSingle{1,18446744073709551615}" := by
    decide +kernel
  refine ⟨after, ?_⟩
  rw [hrun, hfails, ← hdescribe]
  rfl

end Schema

end PathSchema
