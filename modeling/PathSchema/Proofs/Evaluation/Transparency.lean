import PathSchema.Proofs.Evaluation.Plain

/-!
# Members that are remembered change nothing

A memory is sound if every member in it is the schema that its text compiles
to.  From a sound memory an evaluation comes to the outcome of the plain
evaluation, which remembers nothing: the same result and the same questions in
the same order.  It leaves a sound memory, also when it fails.

The evaluation of a set goes through members of members, so the statement is
proved for an arbitrary evaluation of the inner sets first and then by
induction on the depth to which sets may nest.
-/

namespace PathSchema

variable [RegexLibrary]

namespace Memory

/-- Every remembered member is the schema that its text compiles to. -/
def Sound (memory : Memory) : Prop :=
  ∀ entry ∈ memory.members, Schema.ofText entry.1 = .ok entry.2

theorem sound_empty : Memory.Sound {} := by
  simp [Sound]

theorem Sound.ofText_eq_of_lookup {memory : Memory} (hmemory : memory.Sound)
    {text : String} {schema : Schema} (h : memory.members.lookup text = some schema) :
    Schema.ofText text = .ok schema := by
  obtain ⟨before, after, hmembers, -⟩ := List.lookup_eq_some_iff.mp h
  exact hmemory (text, schema) (by simp [hmembers])

theorem Sound.lookup_eq_none {memory : Memory} (hmemory : memory.Sound)
    {text : String} {fault : Fault} (h : Schema.ofText text = .error fault) :
    memory.members.lookup text = none := by
  cases hlookup : memory.members.lookup text with
  | none => rfl
  | some schema =>
      rw [hmemory.ofText_eq_of_lookup hlookup] at h
      cases h

/-- A member may be added that is the schema of its text. -/
theorem Sound.cons {memory : Memory} (hmemory : memory.Sound)
    {text : String} {schema : Schema} (h : Schema.ofText text = .ok schema) :
    Sound { memory with members := (text, schema) :: memory.members } := by
  intro entry hentry
  rcases List.mem_cons.mp hentry with rfl | hentry
  · exact h
  · exact hmemory entry hentry

end Memory

/-! ## Evaluations that follow an outcome -/

namespace Evaluation

variable {α β : Type}

/-- What an evaluation comes to, once its memory before and after is compared:
questions are added to those recorded before, and the memory stays sound. -/
def Reaches (memory : Memory) (run : Option (Except Fault α × Memory)) :
    Outcome α → Prop
  | none => run = none
  | some (result, asked) =>
    ∃ after : Memory, after.Sound ∧ after.lookups = memory.lookups ++ asked ∧
      run = some (result, after)

/-- The evaluation comes to the outcome from every sound memory. -/
def Follows (evaluation : Evaluation α) (outcome : Outcome α) : Prop :=
  ∀ memory : Memory, memory.Sound → Reaches memory (evaluation.run memory) outcome

theorem Follows.result?_of_run
    {evaluation : Evaluation α} {outcome : Outcome α} (h : evaluation.Follows outcome)
    {memory after : Memory} (hmemory : memory.Sound) {result : Except Fault α}
    (hrun : evaluation.run memory = some (result, after)) :
    outcome.result? = some result := by
  have hreaches := h memory hmemory
  rw [hrun] at hreaches
  rcases outcome with _ | ⟨reached, asked⟩
  · cases hreaches
  · obtain ⟨_, -, -, hsame⟩ := hreaches
    obtain ⟨rfl, -⟩ := Prod.mk.inj (Option.some.inj hsame)
    rfl

/-- From a sound memory a run ends exactly with the result of the outcome. -/
theorem Follows.exists_run_iff
    {evaluation : Evaluation α} {outcome : Outcome α} (h : evaluation.Follows outcome)
    {memory : Memory} (hmemory : memory.Sound) {result : Except Fault α} :
    (∃ after, evaluation.run memory = some (result, after)) ↔
      outcome.result? = some result := by
  constructor
  · rintro ⟨after, hrun⟩
    exact h.result?_of_run hmemory hrun
  · intro hresult
    have hreaches := h memory hmemory
    rcases outcome with _ | ⟨reached, asked⟩
    · cases hresult
    · obtain rfl : reached = result := Option.some.inj hresult
      obtain ⟨after, -, -, hrun⟩ := hreaches
      exact ⟨after, hrun⟩

/-- If the outcome is known, so is the run from a sound memory. -/
theorem Follows.exists_run
    {evaluation : Evaluation α} {outcome : Outcome α} (h : evaluation.Follows outcome)
    {memory : Memory} (hmemory : memory.Sound) {result : Except Fault α}
    {asked : List Lookup} (houtcome : outcome = some (result, asked)) :
    ∃ after : Memory, after.Sound ∧ after.lookups = memory.lookups ++ asked ∧
      evaluation.run memory = some (result, after) := by
  subst houtcome
  exact h memory hmemory

theorem follows_tooDeep : (tooDeep : Evaluation α).Follows none :=
  fun _ _ => rfl

/-- A computation that leaves its memory alone follows its result. -/
theorem follows_done {evaluation : Evaluation α} {result : Except Fault α}
    (h : ∀ memory, evaluation.run memory = some (result, memory)) :
    evaluation.Follows (.done result) := by
  intro memory hmemory
  exact ⟨memory, hmemory, by simp, h memory⟩

theorem Reaches.after
    {memory middle : Memory} {asked : List Lookup} {outcome : Outcome α}
    {run : Option (Except Fault α × Memory)}
    (hmiddle : middle.lookups = memory.lookups ++ asked)
    (h : Reaches middle run outcome) : Reaches memory run (.after asked outcome) := by
  rcases outcome with _ | ⟨result, more⟩
  · exact h
  · obtain ⟨final, hfinal, hlookups, hrun⟩ := h
    exact ⟨final, hfinal, by rw [hlookups, hmiddle, List.append_assoc], hrun⟩

/-- An evaluation that runs `first` and goes on from its value or its fault
follows the outcomes of both, one after the other. -/
theorem Follows.andThen
    {first : Evaluation α} {evaluation : Evaluation β} {outcome : Outcome α}
    (next : Except Fault α → Evaluation β)
    {goesOn : α → Outcome β} {otherwise : Fault → Outcome β}
    (hfirst : first.Follows outcome)
    (hok : ∀ value, (next (.ok value)).Follows (goesOn value))
    (herror : ∀ fault, (next (.error fault)).Follows (otherwise fault))
    (hrun : ∀ memory, evaluation.run memory =
      (first.run memory).bind fun reached => (next reached.1).run reached.2) :
    evaluation.Follows (outcome.andThen goesOn otherwise) := by
  intro memory hmemory
  have hfirst := hfirst memory hmemory
  rw [hrun]
  rcases outcome with _ | ⟨fault | value, asked⟩
  · rw [show first.run memory = none from hfirst]
    rfl
  · obtain ⟨middle, hmiddle, hlookups, hmiddleRun⟩ := hfirst
    rw [hmiddleRun]
    exact (herror fault middle hmiddle).after hlookups
  · obtain ⟨middle, hmiddle, hlookups, hmiddleRun⟩ := hfirst
    rw [hmiddleRun]
    exact (hok value middle hmiddle).after hlookups

theorem Follows.ask
    {lookup : Lookup} {next : Evaluation α} {outcome : Outcome α}
    (hnext : next.Follows outcome) :
    (record lookup >>= fun _ => next).Follows (.after [lookup] outcome) := by
  intro memory hmemory
  exact (hnext { memory with lookups := memory.lookups ++ [lookup] } hmemory).after rfl

/-- A computation, and what follows its success. -/
theorem Follows.bind
    {first : Evaluation α} {outcome : Outcome α}
    {next : α → Evaluation β} {goesOn : α → Outcome β}
    (hfirst : first.Follows outcome)
    (hnext : ∀ value, (next value).Follows (goesOn value)) :
    (first >>= next).Follows
      (outcome.andThen goesOn fun fault => .done (.error fault)) := by
  refine Follows.andThen
    (fun
      | .ok value => next value
      | .error fault => throw fault) hfirst hnext ?_ ?_
  · exact fun _ => follows_done fun _ => rfl
  · intro memory
    show Option.bind (first.run memory) _ = _
    rcases first.run memory with _ | ⟨_ | _, _⟩ <;> rfl

/-- A computation whose fault is rewritten, and what follows its success. -/
theorem Follows.mapFault_bind
    {first : Evaluation α} {outcome : Outcome α}
    {next : α → Evaluation β} {goesOn : α → Outcome β} (rewrite : Fault → Fault)
    (hfirst : first.Follows outcome)
    (hnext : ∀ value, (next value).Follows (goesOn value)) :
    (mapFault rewrite first >>= next).Follows
      (outcome.andThen goesOn fun fault => .done (.error (rewrite fault))) := by
  refine Follows.andThen
    (fun
      | .ok value => next value
      | .error fault => throw (rewrite fault)) hfirst hnext ?_ ?_
  · exact fun _ => follows_done fun _ => rfl
  · intro memory
    show Option.bind (Option.bind (first.run memory) _) _ = _
    rcases first.run memory with _ | ⟨_ | _, _⟩ <;> rfl

/-- A computation whose fault is forgotten, and what follows either way. -/
theorem Follows.attempt_bind
    {first : Evaluation α} {outcome : Outcome α}
    {next : Option α → Evaluation β} {goesOn : α → Outcome β} {otherwise : Outcome β}
    (hfirst : first.Follows outcome)
    (hsome : ∀ value, (next (some value)).Follows (goesOn value))
    (hnone : (next none).Follows otherwise) :
    (attempt first >>= next).Follows (outcome.andThen goesOn fun _ => otherwise) := by
  refine Follows.andThen (fun result => next result.toOption) hfirst hsome ?_ ?_
  · exact fun _ => hnone
  · intro memory
    show Option.bind (Option.bind (Option.bind (first.run memory) _) _) _ = _
    rcases first.run memory with _ | ⟨_ | _, _⟩ <;> rfl

/-! ### Members -/

theorem run_member (text : String) (memory : Memory) :
    (member text).run memory =
      match memory.members.lookup text with
      | some schema => some (.ok schema, memory)
      | none =>
        match Schema.ofText text with
        | .error fault => some (.error fault, memory)
        | .ok schema =>
          some (.ok schema,
            { memory with members := (text, schema) :: memory.members }) := by
  have hget : (member text).run memory =
      (match memory.members.lookup text with
        | some schema => return schema
        | none =>
          match Schema.ofText text with
          | .error fault => throw fault
          | .ok schema => do
            modify fun memory => { memory with members := (text, schema) :: memory.members }
            return schema : Evaluation Schema).run memory := rfl
  rw [hget]
  cases memory.members.lookup text with
  | some schema => rfl
  | none => cases Schema.ofText text <;> rfl

/-- The schema of a member is what its text compiles to, remembered or not; only
a text that compiles is added to the memory. -/
theorem follows_member (text : String) :
    (member text).Follows (.done (Schema.ofText text)) := by
  intro memory hmemory
  rw [run_member]
  cases hlookup : memory.members.lookup text with
  | some schema =>
      rw [hmemory.ofText_eq_of_lookup hlookup]
      exact ⟨memory, hmemory, by simp, rfl⟩
  | none =>
      cases htext : Schema.ofText text with
      | error fault => exact ⟨memory, hmemory, by simp, rfl⟩
      | ok schema => exact ⟨_, hmemory.cons htext, by simp, rfl⟩

theorem Follows.member_bind
    {text : String} {next : Schema → Evaluation β} {goesOn : Schema → Outcome β}
    (hnext : ∀ schema, (next schema).Follows (goesOn schema)) :
    (member text >>= next).Follows
      (match Schema.ofText text with
        | .error fault => .done (.error fault)
        | .ok schema => goesOn schema) := by
  have h := Follows.bind (follows_member text) hnext
  cases htext : Schema.ofText text with
  | error fault => simpa [htext] using h
  | ok schema => simpa [htext] using h

end Evaluation

/-! ## The evaluation of constraints -/

open Evaluation

namespace Constraint

variable {store : Store} {registry : Registry}

theorem consume_follows
    {enter : String → List String → Evaluation (List String)}
    {plain : String → List String → Outcome (List String)}
    (henter : ∀ name segments, (enter name segments).Follows (plain name segments))
    (constraint : Constraint) (segments : List String) :
    (constraint.consume store registry enter segments).Follows
      (Plain.consume store registry plain constraint segments) := by
  cases constraint with
  | literal text => exact follows_done fun _ => rfl
  | regex pattern => exact follows_done fun _ => rfl
  | run min max =>
      apply follows_done
      intro memory
      simp only [Constraint.consume]
      split <;> rfl
  | everything => exact follows_done fun _ => rfl
  | var name calls =>
      apply Follows.ask
      apply follows_done
      intro memory
      cases store.value? name with
      | none => rfl
      | some value =>
          dsimp only
          cases registry.applyAll (Path.splitAll value) calls <;> rfl
  | set name => exact henter name segments

theorem consumeAll_follows
    {consume : Constraint → List String → Evaluation (List String)}
    {plain : Constraint → List String → Outcome (List String)}
    (hconsume : ∀ constraint segments,
      (consume constraint segments).Follows (plain constraint segments))
    (given : List String) (index : Nat) (constraints : List Constraint)
    (segments : List String) :
    (consumeAll consume given index constraints segments).Follows
      (Plain.consumeAll plain given index constraints segments) := by
  induction constraints generalizing index segments with
  | nil => exact follows_done fun _ => rfl
  | cons constraint others ih =>
      rw [consumeAll, Plain.consumeAll]
      exact Follows.mapFault_bind
        (.atConstraint index constraint.describe (Path.join given))
        (hconsume constraint segments) fun remaining => ih (index + 1) remaining

theorem firstMember_follows
    {run : Schema → Evaluation (List String)} {plain : Schema → Outcome (List String)}
    (hrun : ∀ schema, (run schema).Follows (plain schema))
    (otherwise : Fault) (members : List String) :
    (firstMember run otherwise members).Follows
      (Plain.firstMember plain otherwise members) := by
  induction members with
  | nil => exact follows_done fun _ => rfl
  | cons text rest ih =>
      apply Follows.member_bind
      intro schema
      exact (hrun schema).attempt_bind (fun _ => follows_done fun _ => rfl) ih

theorem enterSet_follows (depth : Nat) (name : String) (segments : List String) :
    (enterSet store registry depth name segments).Follows
      (Plain.enterSet store registry depth name segments) := by
  induction depth generalizing name segments with
  | zero => exact follows_tooDeep
  | succ depth ih =>
      apply Follows.ask
      rcases store.set? name with _ | _ | ⟨text, rest⟩
      · exact follows_done fun _ => rfl
      · exact follows_done fun _ => rfl
      · apply firstMember_follows
        intro schema
        exact consumeAll_follows (consume_follows ih) segments 0 schema.constraints segments

theorem evaluate_follows (constraint : Constraint) (segments : List String) :
    (constraint.evaluate store registry segments).Follows
      (Plain.evaluateConstraint store registry constraint segments) :=
  consume_follows (enterSet_follows _) constraint segments

end Constraint

namespace Schema

variable {store : Store} {registry : Registry}

theorem evaluate_follows (schema : Schema) (segments : List String) :
    (schema.evaluate store registry segments).Follows
      (Plain.evaluate store registry schema segments) :=
  Constraint.consumeAll_follows
    (Constraint.consume_follows (Constraint.enterSet_follows _))
    segments 0 schema.constraints segments

theorem validateSegments_follows (schema : Schema) (segments : List String) :
    (schema.validateSegments store registry segments).Follows
      (Plain.validateSegments store registry schema segments) := by
  apply (evaluate_follows schema segments).bind
  rintro (_ | ⟨segment, rest⟩)
  · exact follows_done fun _ => rfl
  · exact follows_done fun _ => rfl

theorem validate_follows (schema : Schema) (path : String) :
    (schema.validate store registry path).Follows
      (Plain.validateSegments store registry schema (Path.split path)) :=
  validateSegments_follows schema (Path.split path)

end Schema

end PathSchema
