import PathSchema.Proofs.Substitution
import PathSchema.Pattern.Engine

/-!
# Behind the unbounded wildcard

The unbounded wildcard leaves nothing over, and whatever passes where nothing is left over
leaves nothing over in its turn.  So the constraints behind the wildcard are evaluated as
if on the empty path, whatever stands before the wildcard and whatever the path is.  A
schema that needs a segment there, whichever sets and further wildcards stand around,
rejects every path in every store.
-/

namespace PathSchema

section

variable [RegexLibrary]

/-- A constraint that fails where no segment is left: a literal, a pattern, a wildcard with
a least number, or a variable without modifiers, whose value has at least one segment. -/
def Constraint.NeedsSegment (constraint : Constraint) : Prop :=
  constraint.Guards ∨ ∃ name, constraint = .var name []

namespace Plain

variable {store : Store} {registry : Registry} {constraints others : List Constraint}
  {segments rest : List String}

/-! ## Where nothing is left -/

theorem rest_eq_nil_of_passes_nil
    (h : Passes (evaluateConstraint store registry) constraints [] rest) : rest = [] := by
  induction constraints with
  | nil =>
      cases h
      rfl
  | cons constraint others ih =>
      obtain _ | ⟨hstep, hothers⟩ := h
      obtain rfl := List.suffix_nil.mp (suffix_of_consume_eq_ok hstep)
      exact ih hothers

theorem evaluateConstraint_nil_ne_ok_of_guards {constraint : Constraint}
    (hguards : constraint.Guards) :
    (evaluateConstraint store registry constraint []).result? ≠ some (.ok rest) := by
  intro h
  cases constraint with
  | literal text => cases consume_literal_eq_ok_iff.mp h
  | regex pattern =>
      obtain ⟨segment, -, hsegments⟩ := consume_regex_eq_ok_iff.mp h
      cases hsegments
  | run min max =>
      have hmin : 1 ≤ min := hguards
      have hlength := (consume_run_eq_ok_iff.mp h).1
      rw [List.length_nil] at hlength
      omega
  | everything => exact hguards
  | var name calls => exact hguards
  | set name => exact hguards

/-- Every value has a first segment, even if it is empty. -/
theorem evaluateConstraint_nil_ne_ok_of_unmodified {name : String} :
    (evaluateConstraint store registry (.var name []) []).result? ≠ some (.ok rest) := by
  intro h
  obtain ⟨value, -, hvalue, -, -⟩ := consume_var_eq_ok_iff.mp h
  have hsegments := (consume_unmodified_eq_ok_iff hvalue).mp h
  exact Path.splitAll_ne_nil value (List.append_eq_nil_iff.mp hsegments.symm).1

theorem not_passes_nil_of_needsSegment
    (hneeds : ∃ constraint ∈ constraints, constraint.NeedsSegment) :
    ¬Passes (evaluateConstraint store registry) constraints [] rest := by
  intro hpasses
  obtain ⟨constraint, hmem, hneeds⟩ := hneeds
  obtain ⟨before, after, rfl⟩ := List.append_of_mem hmem
  obtain ⟨remaining, hbefore, _ | ⟨hstep, -⟩⟩ := passes_append_iff.mp hpasses
  obtain rfl := rest_eq_nil_of_passes_nil hbefore
  rcases hneeds with hguards | ⟨name, rfl⟩
  · exact evaluateConstraint_nil_ne_ok_of_guards hguards hstep
  · exact evaluateConstraint_nil_ne_ok_of_unmodified hstep

/-! ## Around the unbounded wildcard -/

/-- Behind the unbounded wildcard nothing is left, wherever the constraints before it
stopped. -/
theorem passes_append_everything_iff :
    Passes (evaluateConstraint store registry) (constraints ++ .everything :: others)
        segments rest ↔
      (∃ remaining, Passes (evaluateConstraint store registry) constraints segments
        remaining) ∧
      Passes (evaluateConstraint store registry) others [] rest := by
  rw [passes_append_iff]
  constructor
  · rintro ⟨remaining, hconstraints, _ | ⟨hstep, hothers⟩⟩
    obtain rfl := Except.ok.inj (Option.some.inj hstep)
    exact ⟨⟨remaining, hconstraints⟩, hothers⟩
  · rintro ⟨⟨remaining, hconstraints⟩, hothers⟩
    exact ⟨remaining, hconstraints, .cons rfl hothers⟩

end Plain

namespace Schema

open Plain (Passes evaluateConstraint)

variable {store : Store} {registry : Registry} {memory : Memory}

/-- The constraints of the schema succeed, and take some segments from the front of the
path. -/
def TakesFront (schema : Schema) (store : Store) (registry : Registry) (memory : Memory)
    (path : String) : Prop :=
  ∃ taken remaining after, Path.split path = taken ++ remaining ∧
    (schema.evaluate store registry (Path.split path)).run memory =
      some (.ok remaining, after)

theorem takesFront_iff (hstore : store.Grounded) (hmemory : memory.Sound) {schema : Schema}
    {path : String} :
    schema.TakesFront store registry memory path ↔
      ∃ remaining, Passes (evaluateConstraint store registry) schema.constraints
        (Path.split path) remaining := by
  have hfollows := @evaluate_follows _ store registry schema (Path.split path)
  constructor
  · rintro ⟨taken, remaining, after, -, hrun⟩
    exact ⟨remaining, (Plain.evaluate_eq_ok_iff_passes hstore).mp
      (hfollows.result?_of_run hmemory hrun)⟩
  · rintro ⟨remaining, hpasses⟩
    have hresult := (Plain.evaluate_eq_ok_iff_passes hstore).mpr hpasses
    obtain ⟨after, hrun⟩ := (hfollows.exists_run_iff hmemory).mpr hresult
    obtain ⟨taken, htaken⟩ :=
      Plain.suffix_of_passes (Plain.result?_consumeAll_eq_ok_iff.mp hresult)
    exact ⟨taken, remaining, after, htaken.symm, hrun⟩

theorem exists_validate_ok_iff_passes (hstore : store.Grounded) (hmemory : memory.Sound)
    {schema : Schema} {path : String} :
    (∃ after, (schema.validate store registry path).run memory = some (.ok (), after)) ↔
      Passes (evaluateConstraint store registry) schema.constraints (Path.split path) [] := by
  rw [(validate_follows schema path).exists_run_iff hmemory,
    ← Plain.evaluate_eq_ok_iff_passes hstore]
  exact Plain.result?_validateSegments_eq_ok_iff

/-- Validating a path with an unbounded wildcard between other constraints comes to an end,
and succeeds if the constraints before it take some of the path and those behind it take
nothing. -/
theorem exists_run_around_everything (hstore : store.Grounded) (registry : Registry)
    (hmemory : memory.Sound) {whole : Schema} {front others : List Constraint}
    (hwhole : whole.constraints = front ++ .everything :: others) (path : String) :
    ∃ result after, (whole.validate store registry path).run memory = some (result, after) ∧
      (result = .ok () ↔
        (∃ remaining, Passes (evaluateConstraint store registry) front (Path.split path)
          remaining) ∧
        Passes (evaluateConstraint store registry) others [] []) := by
  obtain ⟨result, after, hrun, hresult⟩ :=
    exists_run_validate hstore registry whole hmemory path
  rw [hwhole, Plain.passes_append_everything_iff] at hresult
  exact ⟨result, after, hrun, hresult⟩

/-- A text with the unbounded wildcard before another text, and maybe with a third text
before the wildcard, has the constraints of all of them. -/
theorem exists_ofText_around_everything {before : Option String} {after : String}
    {rest : Schema} (hbefore : ∀ text ∈ before, ∃ front, ofText text = .ok front)
    (hafter : ofText after = .ok rest) :
    ∃ whole front, ofText (surround before (some after) "*") = .ok whole ∧
      whole.constraints = front ++ .everything :: rest.constraints ∧
      (before = none → front = []) ∧
      ∀ text ∈ before, ∃ given, ofText text = .ok given ∧ given.constraints = front := by
  have hstar : ofText "*" = .ok ⟨"*", [.everything]⟩ :=
    ofText_eq_ok_iff.mpr ⟨rfl, [.wildcard .multi none], by decide +kernel, rfl⟩
  cases before with
  | none => exact ⟨_, [], ofText_append_slash hstar hafter, rfl, fun _ => rfl, by simp⟩
  | some text =>
      obtain ⟨given, hgiven⟩ := hbefore text rfl
      have hbegun := ofText_append_slash hgiven hstar
      refine ⟨_, given.constraints, ofText_append_slash hbegun hafter, by simp, by simp, ?_⟩
      rintro _ ⟨⟩
      exact ⟨given, hgiven, rfl⟩

/-- Between two schema texts, or before one, the unbounded wildcard leaves only the empty
path to what stands behind it: a path is accepted exactly if the text before the wildcard
takes some of it and the text behind the wildcard accepts the empty path.  So nothing at
all is accepted if there is a constraint behind the wildcard that needs a segment. -/
theorem unbounded_wildcard_leaves_empty_path {before : Option String} {after : String}
    {rest : Schema} (hbefore : ∀ text ∈ before, ∃ front, ofText text = .ok front)
    (hafter : ofText after = .ok rest) :
    ∃ whole, ofText (surround before (some after) "*") = .ok whole ∧
      ∀ (store : Store) (registry : Registry) (memory : Memory) (path : String),
        store.Acyclic → memory.Sound →
          ∃ result ended,
            (whole.validate store registry path).run memory = some (result, ended) ∧
            (result = .ok () ↔
              (∀ text ∈ before, ∃ front, ofText text = .ok front ∧
                front.TakesFront store registry memory path) ∧
              ∃ final, (rest.validate store registry "").run memory =
                some (.ok (), final)) ∧
            ((∃ constraint ∈ rest.constraints, constraint.NeedsSegment) →
              ∃ fault, result = .error fault) := by
  obtain ⟨whole, front, hwhole, hconstraints, hnone, hsome⟩ :=
    exists_ofText_around_everything hbefore hafter
  refine ⟨whole, hwhole, ?_⟩
  intro store registry memory path hstore hmemory
  obtain ⟨result, ended, hrun, hresult⟩ :=
    exists_run_around_everything hstore.grounded registry hmemory hconstraints path
  have hfront : (∀ text ∈ before, ∃ front, ofText text = .ok front ∧
      front.TakesFront store registry memory path) ↔
        ∃ remaining, Passes (evaluateConstraint store registry) front (Path.split path)
          remaining := by
    cases before with
    | none =>
        obtain rfl := hnone rfl
        exact ⟨fun _ => ⟨Path.split path, .nil⟩, fun _ => by simp⟩
    | some text =>
        obtain ⟨given, hgiven, rfl⟩ := hsome text rfl
        rw [← takesFront_iff hstore.grounded hmemory]
        constructor
        · intro h
          obtain ⟨same, hsame, htakes⟩ := h text rfl
          obtain rfl := Except.ok.inj (hgiven.symm.trans hsame)
          exact htakes
        · rintro htakes _ ⟨⟩
          exact ⟨given, hgiven, htakes⟩
  refine ⟨result, ended, hrun, ?_, ?_⟩
  · rw [hresult, hfront, exists_validate_ok_iff_passes hstore.grounded hmemory]
    rfl
  · intro hneeds
    cases result with
    | error fault => exact ⟨fault, rfl⟩
    | ok done => exact absurd (hresult.mp rfl).2 (Plain.not_passes_nil_of_needsSegment hneeds)

end Schema

end

namespace Schema

/-- Behind the wildcard stand a wildcard that needs nothing and a set whose second member is
the unbounded wildcard; a variable behind them would need a segment. -/
theorem unbounded_wildcard_leaves_empty_path_before_set :
    (∃ whole ended, ofText "$v/*/+{0,2}/$[s]" = .ok whole ∧
      (whole.validate (Store.ofEntries [("v", "a")] [("s", ["b", "*"])])
        Registry.builtin "a/b/c").run {} = some (.ok (), ended)) ∧
    ∃ whole fault ended, ofText "*/$[s]/$v" = .ok whole ∧
      (whole.validate (Store.ofEntries [("v", "a")] [("s", ["b", "*"])])
        Registry.builtin "b/a").run {} = some (.error fault, ended) := by
  let store : Store := Store.ofEntries [("v", "a")] [("s", ["b", "*"])]
  have hstore : store.Acyclic := Store.acyclic_of_rank (fun _ => 0) (by decide +kernel)
  have hfront : ofText "$v" = .ok ⟨"$v", [.var "v" []]⟩ := by decide +kernel
  have hopen : ofText "+{0,2}/$[s]" = .ok ⟨"+{0,2}/$[s]", [.run 0 2, .set "s"]⟩ := by
    decide +kernel
  have hclosed : ofText "$[s]/$v" = .ok ⟨"$[s]/$v", [.set "s", .var "v" []]⟩ := by
    decide +kernel
  constructor
  · obtain ⟨whole, hwhole, hpaths⟩ := @unbounded_wildcard_leaves_empty_path _ (some "$v")
      "+{0,2}/$[s]" _ (by simpa using ⟨_, hfront⟩) hopen
    obtain ⟨result, ended, hrun, hresult, -⟩ :=
      hpaths store Registry.builtin {} "a/b/c" hstore Memory.sound_empty
    have haccepted : result = .ok () := by
      refine hresult.mpr ⟨?_, ⟨[("*", ⟨"*", [.everything]⟩), ("b", ⟨"b", [.literal "b"]⟩)],
        [.set "s"]⟩, by decide +kernel⟩
      rintro _ ⟨⟩
      exact ⟨_, hfront, ["a"], ["b", "c"], ⟨[], [.var "v"]⟩, by decide +kernel,
        by decide +kernel⟩
    rw [haccepted] at hrun
    exact ⟨whole, ended, hwhole, hrun⟩
  · obtain ⟨whole, hwhole, hpaths⟩ := @unbounded_wildcard_leaves_empty_path _ none "$[s]/$v" _
      (by simp) hclosed
    obtain ⟨result, ended, hrun, -, hrejected⟩ :=
      hpaths store Registry.builtin {} "b/a" hstore Memory.sound_empty
    obtain ⟨fault, rfl⟩ := hrejected ⟨.var "v" [], by simp, .inr ⟨"v", rfl⟩⟩
    exact ⟨whole, fault, ended, hwhole, hrun⟩

end Schema

end PathSchema
