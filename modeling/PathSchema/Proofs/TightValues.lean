import PathSchema.Proofs.Evaluation.Depth
import PathSchema.Proofs.Path
import PathSchema.Pattern.Engine

/-!
# Values with empty segments

A path loses its empty segments when it is split, the value of a variable keeps them.  A
tight value has none, so that as a path it is split alike and is accepted by its own
variable.  No path has the segments of any other value, not even the value itself: a
schema with such a variable accepts nothing at all, whatever else it consists of.
-/

namespace PathSchema

section

variable [RegexLibrary]

namespace Plain

variable {store : Store} {registry : Registry} {name value : String}

/-- What constraints take from segments none of which is empty leaves no room for a
value that has an empty segment. -/
theorem tight_of_passes_unmodified {depth : Nat} (hvalue : store.value? name = some value)
    {constraints : List Constraint} (hvar : .var name [] ∈ constraints)
    {segments rest : List String} (hsegments : "" ∉ segments)
    (h : Passes (consume store registry (enterSet store registry depth)) constraints
      segments rest) :
    Path.Tight value := by
  obtain ⟨before, others, rfl⟩ := List.append_of_mem hvar
  obtain ⟨remaining, hbefore, _ | ⟨hstep, -⟩⟩ := passes_append_iff.mp h
  obtain rfl := (consume_unmodified_eq_ok_iff hvalue).mp hstep
  have hsuffix := suffix_of_passes hbefore
  rw [Path.tight_iff]
  intro hempty
  exact hsegments (hsuffix.subset (List.mem_append_left _ hempty))

theorem exists_validateSegments_unmodified (hvalue : store.value? name = some value)
    {schema : Schema} (hschema : schema.constraints = [.var name []])
    (segments : List String) :
    ∃ result,
      (validateSegments store registry schema segments).result? = some result ∧
      (result = .ok () ↔ segments = Path.splitAll value) := by
  have hends : ∃ result,
      (validateSegments store registry schema segments).result? = some result := by
    rw [result?_validateSegments, evaluate, evaluateWithin, hschema,
      result?_consumeAll_cons]
    obtain ⟨taken, htaken⟩ : ∃ taken,
        (consume store registry (enterSet store registry (store.depthBound segments))
          (.var name []) segments).result? = some taken := ⟨_, rfl⟩
    rw [htaken]
    rcases taken with fault | _ | ⟨first, others⟩
    · exact ⟨_, rfl⟩
    · exact ⟨_, rfl⟩
    · exact ⟨_, rfl⟩
  obtain ⟨result, hresult⟩ := hends
  refine ⟨result, hresult, ?_⟩
  have hok : result = .ok () ↔
      (validateSegments store registry schema segments).result? = some (.ok ()) := by
    rw [hresult, Option.some.injEq]
  rw [hok, result?_validateSegments_eq_ok_iff, evaluate, evaluateWithin, hschema,
    result?_consumeAll_eq_ok_iff, passes_singleton_iff, consume_unmodified_eq_ok_iff hvalue,
    List.append_nil]

end Plain

namespace Schema

/-- A text is split alike as a path and as a value exactly if it is tight.  So a variable
by itself accepts its own value exactly if the value is tight, and a schema that has a
variable without modifiers whose value is not tight rejects every path. -/
theorem tight_values_alone_are_found_in_paths :
    (∀ text, Path.split text = Path.splitAll text ↔ Path.Tight text) ∧
    ∀ {store : Store} {name value : String}, store.value? name = some value →
      ∀ (registry : Registry) (schema : Schema) {memory : Memory}, memory.Sound →
        (schema.constraints = [.var name []] →
          ∃ result after,
            (schema.validate store registry value).run memory = some (result, after) ∧
            (result = .ok () ↔ Path.Tight value)) ∧
        (store.Acyclic → .var name [] ∈ schema.constraints → ¬Path.Tight value →
          ∀ path, ∃ fault after,
            (schema.validate store registry path).run memory =
              some (.error fault, after)) := by
  refine ⟨fun text => Path.split_eq_splitAll_iff, ?_⟩
  intro store name value hvalue registry schema memory hmemory
  constructor
  · intro hschema
    obtain ⟨result, hresult, hok⟩ := @Plain.exists_validateSegments_unmodified _ store registry
      name value hvalue schema hschema (Path.split value)
    obtain ⟨after, hrun⟩ := ((validate_follows schema value).exists_run_iff hmemory).mpr
      hresult
    exact ⟨result, after, hrun, hok.trans Path.split_eq_splitAll_iff⟩
  · intro hstore hvar hloose path
    obtain ⟨result, after, hrun, hresult⟩ :=
      exists_run_validateSegments hstore.grounded registry schema hmemory (Path.split path)
    cases result with
    | error fault => exact ⟨fault, after, hrun⟩
    | ok done =>
        have hsegments : "" ∉ Path.split path :=
          fun hempty => Path.ne_empty_of_mem_split hempty rfl
        have hpasses := Plain.result?_consumeAll_eq_ok_iff.mp
          (Plain.result?_validateSegments_eq_ok_iff.mp hresult)
        exact absurd (Plain.tight_of_passes_unmodified hvalue hvar hsegments hpasses) hloose

end Schema

end

namespace Schema

/-- The value of the second variable has two slashes in a row. -/
theorem tight_values_alone_are_found_in_paths_behind_wildcard :
    (∃ after, (validate (Store.ofEntries [("v", "a/b"), ("w", "a//b")] []) Registry.builtin
      ⟨"$v", [.var "v" []]⟩ "a/b").run {} = some (.ok (), after)) ∧
    ∃ fault after, (validate
      (Store.ofEntries [("v", "a/b"), ("w", "a//b")] [("s", ["$w", "x"])])
      Registry.builtin ⟨"$[s]/+{0,1}/$w", [.set "s", .run 0 1, .var "w" []]⟩
      "x/a//b").run {} = some (.error fault, after) := by
  obtain ⟨-, hvalues⟩ := tight_values_alone_are_found_in_paths
  constructor
  · have hvalue : Store.value? (Store.ofEntries [("v", "a/b"), ("w", "a//b")] []) "v" =
        some "a/b" := by
      decide +kernel
    obtain ⟨result, after, hrun, hok⟩ := (hvalues hvalue Registry.builtin
      ⟨"$v", [.var "v" []]⟩ Memory.sound_empty).1 rfl
    have htight : Path.Tight "a/b" :=
      ⟨by decide +kernel, by decide +kernel, by decide +kernel, by decide +kernel⟩
    rw [hok.mpr htight] at hrun
    exact ⟨after, hrun⟩
  · have hvalue : Store.value?
        (Store.ofEntries [("v", "a/b"), ("w", "a//b")] [("s", ["$w", "x"])]) "w" =
          some "a//b" := by
      decide +kernel
    have hstore : Store.Acyclic
        (Store.ofEntries [("v", "a/b"), ("w", "a//b")] [("s", ["$w", "x"])]) :=
      Store.acyclic_of_rank (fun _ => 0) (by decide +kernel)
    have hloose : ¬Path.Tight "a//b" := fun htight =>
      htight.not_doubled (by decide +kernel)
    exact (hvalues hvalue Registry.builtin
      ⟨"$[s]/+{0,1}/$w", [.set "s", .run 0 1, .var "w" []]⟩ Memory.sound_empty).2 hstore
      (by simp) hloose "x/a//b"

end Schema

end PathSchema
