import Mathlib.Computability.Language
import PathSchema.Proofs.Compilation
import PathSchema.Proofs.Evaluation.Result
import PathSchema.Proofs.Evaluation.Transparency
import PathSchema.Proofs.Nesting
import PathSchema.Pattern.Engine

/-!
# The language of a schema

A constraint stands for a set of lists of segments, given without regard to how
segments are taken: a wildcard for all lists of an admitted length, a variable
for its resolved value, a set for the languages of its members together.  A
schema stands for the concatenation of the languages of its constraints.

The evaluation is greedy and takes nothing back, so it may reject a word of the
language.  It is sound: what it takes from the front is always a word.
-/

namespace PathSchema

section

variable [RegexLibrary]

namespace Constraint

/-- The words of a constraint.  A word of a set is cut into words of the
constraints of a member that compiles. -/
inductive Word (store : Store)
    (registry : Registry) : Constraint → List String → Prop where
  | literal {text : String} : Word store registry (.literal text) [text]
  | regex {pattern : Pattern} {segment : String}
      (hmatch : pattern.isMatch segment = true) :
      Word store registry (.regex pattern) [segment]
  | run {min max : Nat} {taken : List String}
      (hmin : min ≤ taken.length) (hmax : taken.length ≤ max) :
      Word store registry (.run min max) taken
  | everything {taken : List String} : Word store registry .everything taken
  | var {name value : String} {calls : List ModifierCall} {taken : List String}
      (hvalue : store.value? name = some value)
      (happly : registry.applyAll (Path.splitAll value) calls = .ok taken) :
      Word store registry (.var name calls) taken
  | set {name text : String} {members : List String} {schema : Schema}
      {blocks : List (List String)}
      (hmembers : store.set? name = some members) (htext : text ∈ members)
      (hschema : Schema.ofText text = .ok schema)
      (hblocks : List.Forall₂ (Word store registry) schema.constraints blocks) :
      Word store registry (.set name) blocks.flatten

/-- The lists of segments that a constraint stands for. -/
def language (store : Store) (registry : Registry) (constraint : Constraint) :
    Language String :=
  {taken | Word store registry constraint taken}

end Constraint

/-- The lists of segments that a schema stands for: the languages of its
constraints, concatenated in order. -/
def Schema.language (store : Store) (registry : Registry) (schema : Schema) :
    Language String :=
  (schema.constraints.map (Constraint.language store registry)).prod

variable {store : Store} {registry : Registry}

namespace Constraint

theorem mem_prod_language_iff {constraints : List Constraint} {taken : List String} :
    taken ∈ (constraints.map (language store registry)).prod ↔
      ∃ blocks, List.Forall₂ (Word store registry) constraints blocks ∧
        taken = blocks.flatten := by
  induction constraints generalizing taken with
  | nil => simp [Language.mem_one]
  | cons constraint others ih =>
      rw [List.map_cons, List.prod_cons, Language.mem_mul]
      constructor
      · rintro ⟨first, hfirst, second, hsecond, rfl⟩
        obtain ⟨blocks, hblocks, rfl⟩ := ih.mp hsecond
        exact ⟨first :: blocks, .cons hfirst hblocks, rfl⟩
      · rintro ⟨_, hblocks, rfl⟩
        cases hblocks with
        | cons hfirst hrest =>
            exact ⟨_, hfirst, _, ih.mpr ⟨_, hrest, rfl⟩, rfl⟩

theorem ne_nil_of_word {constraint : Constraint} (hguard : constraint.Guards)
    {taken : List String}
    (hword : Word store registry constraint taken) : taken ≠ [] := by
  cases hword with
  | literal => simp
  | regex _ => simp
  | run hmin _ =>
      have hone : 1 ≤ _ := hguard
      exact List.ne_nil_of_length_pos (by omega)
  | everything => cases hguard
  | var _ _ => cases hguard
  | set _ _ _ _ => cases hguard

/-! ## What is taken is a word -/

theorem consume_sound
    {enter : String → List String → Outcome (List String)}
    (henter : ∀ name segments rest, (enter name segments).result? = some (.ok rest) →
      ∃ taken, segments = taken ++ rest ∧ Word store registry (.set name) taken)
    {constraint : Constraint} (hordered : constraint.Ordered)
    {segments rest : List String}
    (h : (Plain.consume store registry enter constraint segments).result? =
      some (.ok rest)) :
    ∃ taken, segments = taken ++ rest ∧ Word store registry constraint taken := by
  cases constraint with
  | literal text =>
      obtain rfl := Plain.consume_literal_eq_ok_iff.mp h
      exact ⟨[text], rfl, .literal⟩
  | regex pattern =>
      obtain ⟨segment, hmatch, rfl⟩ := Plain.consume_regex_eq_ok_iff.mp h
      exact ⟨[segment], rfl, .regex hmatch⟩
  | run min max =>
      obtain ⟨hmin, rfl⟩ := Plain.consume_run_eq_ok_iff.mp h
      have hminMax : min ≤ max := hordered
      refine ⟨segments.take (Nat.min segments.length max), by simp, .run ?_ ?_⟩
      · have hle : min ≤ Nat.min segments.length max := Nat.le_min.mpr ⟨hmin, hminMax⟩
        rw [List.length_take]
        omega
      · have hle : Nat.min segments.length max ≤ max := Nat.min_le_right _ _
        rw [List.length_take]
        omega
  | everything =>
      obtain rfl : [] = rest := by simpa [Plain.consume] using h
      exact ⟨segments, by simp, .everything⟩
  | var name calls =>
      obtain ⟨value, expected, hvalue, happly, rfl⟩ := Plain.consume_var_eq_ok_iff.mp h
      exact ⟨expected, rfl, .var hvalue happly⟩
  | set name => exact henter name segments rest h

theorem exists_words_of_passes
    {step : Constraint → List String → Outcome (List String)}
    {constraints : List Constraint}
    (hstep : ∀ constraint ∈ constraints, ∀ segments rest,
      (step constraint segments).result? = some (.ok rest) →
        ∃ taken, segments = taken ++ rest ∧ Word store registry constraint taken)
    {segments rest : List String} (h : Plain.Passes step constraints segments rest) :
    ∃ blocks, List.Forall₂ (Word store registry) constraints blocks ∧
      segments = blocks.flatten ++ rest := by
  induction h with
  | nil => exact ⟨[], .nil, rfl⟩
  | cons hfirst _ ih =>
      obtain ⟨taken, rfl, hword⟩ := hstep _ (by simp) _ _ hfirst
      obtain ⟨blocks, hblocks, rfl⟩ := ih fun other hother => hstep other (by simp [hother])
      exact ⟨taken :: blocks, .cons hword hblocks, by simp⟩

/-- What a set takes is a word of the member that took it, by induction on the
depth to which sets nest. -/
theorem enterSet_sound {depth : Nat} {name : String} {segments rest : List String}
    (h : (Plain.enterSet store registry depth name segments).result? = some (.ok rest)) :
    ∃ taken, segments = taken ++ rest ∧ Word store registry (.set name) taken := by
  induction depth generalizing name segments rest with
  | zero => cases h
  | succ depth ih =>
      obtain ⟨tried, text, others, schema, hmembers, -, hschema, hmatch⟩ :=
        Plain.exists_match_of_enterSet_eq_ok h
      have hordered := Schema.ordered_of_ofText hschema
      obtain ⟨blocks, hblocks, rfl⟩ := exists_words_of_passes
        (fun constraint hmem _ _ =>
          consume_sound (fun _ _ _ => ih) (hordered constraint hmem))
        (Plain.result?_consumeAll_eq_ok_iff.mp hmatch)
      exact ⟨blocks.flatten, rfl, .set hmembers (by simp) hschema hblocks⟩

end Constraint

namespace Schema

theorem evaluateWithin_sound {schema : Schema}
    (hordered : ∀ constraint ∈ schema.constraints, constraint.Ordered)
    {depth : Nat} {segments rest : List String}
    (h : (Plain.evaluateWithin store registry depth schema segments).result? =
      some (.ok rest)) :
    ∃ taken, segments = taken ++ rest ∧ taken ∈ schema.language store registry := by
  obtain ⟨blocks, hblocks, rfl⟩ := Constraint.exists_words_of_passes
    (fun constraint hmem _ _ =>
      Constraint.consume_sound (fun _ _ _ => Constraint.enterSet_sound)
        (hordered constraint hmem))
    (Plain.result?_consumeAll_eq_ok_iff.mp h)
  exact ⟨blocks.flatten, rfl, Constraint.mem_prod_language_iff.mpr ⟨blocks, hblocks, rfl⟩⟩

/-- The evaluation is sound: whatever a compiled schema takes from the front of the
segments is a word of its language, and a path that it validates is a word as a
whole.  What was remembered before does not matter. -/
theorem mem_language_of_evaluate {text : String} {schema : Schema}
    (htext : ofText text = .ok schema) (store : Store) (registry : Registry)
    {memory : Memory} (hmemory : memory.Sound) :
    (∀ segments rest after,
      (schema.evaluate store registry segments).run memory = some (.ok rest, after) →
        ∃ taken, segments = taken ++ rest ∧ taken ∈ schema.language store registry) ∧
    (∀ segments after,
      (schema.validateSegments store registry segments).run memory = some (.ok (), after) →
        segments ∈ schema.language store registry) ∧
    (∀ path after,
      (schema.validate store registry path).run memory = some (.ok (), after) →
        Path.split path ∈ schema.language store registry) := by
  have hevaluate : ∀ segments rest,
      (Plain.evaluate store registry schema segments).result? = some (.ok rest) →
        ∃ taken, segments = taken ++ rest ∧ taken ∈ schema.language store registry :=
    fun segments rest h => evaluateWithin_sound (ordered_of_ofText htext) h
  have hvalidate : ∀ segments after,
      (schema.validateSegments store registry segments).run memory = some (.ok (), after) →
        segments ∈ schema.language store registry := by
    intro segments after hrun
    have hresult := (validateSegments_follows schema segments).result?_of_run hmemory hrun
    obtain ⟨taken, hsegments, htaken⟩ :=
      hevaluate segments [] (Plain.result?_validateSegments_eq_ok_iff.mp hresult)
    rw [hsegments, List.append_nil]
    exact htaken
  refine ⟨?_, hvalidate, fun path => hvalidate (Path.split path)⟩
  intro segments rest after hrun
  have hresult := (evaluate_follows schema segments).result?_of_run hmemory hrun
  exact hevaluate segments rest hresult

end Schema

end

namespace Schema

/-- A set whose member holds a variable with a chain of modifiers, and a bounded wildcard
after it. -/
theorem mem_language_of_set_and_run :
    ["a", "b", "c", "d"] ∈
      Schema.language
        (Store.ofEntries [("v", "b/p-q-c")]
          [("s", ["x", "a/$v.strip_last_prefix(\"p-\").strip_last_prefix(\"x\", \"q-\")"])])
        Registry.builtin ⟨"$[s]/+{1,2}", [.set "s", .run 1 2]⟩ := by
  have htext :
      ofText "$[s]/+{1,2}" = .ok ⟨"$[s]/+{1,2}", [.set "s", .run 1 2]⟩ := by
    decide +kernel
  let member := "a/$v.strip_last_prefix(\"p-\").strip_last_prefix(\"x\", \"q-\")"
  let calls : List ModifierCall :=
    [⟨"strip_last_prefix", ["p-"]⟩, ⟨"strip_last_prefix", ["x", "q-"]⟩]
  refine (mem_language_of_evaluate htext _ _ Memory.sound_empty).2.1 _
    ⟨[(member, ⟨member, [.literal "a", .var "v" calls]⟩), ("x", ⟨"x", [.literal "x"]⟩)],
      [.set "s", .var "v"]⟩ ?_
  decide +kernel

end Schema

end PathSchema
