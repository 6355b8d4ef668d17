import PathSchema.Proofs.Evaluation.Depth
import PathSchema.Pattern.Engine

/-!
# Many validations with one memory

In a session some schemas validate some paths one after the other, with one memory
and with a store that may change in between.  The answers are those of the same
validations with a fresh memory each: the texts of members alone say what they
compile to, so what is remembered stays right when the store changes.
-/

namespace PathSchema

section

variable [RegexLibrary]

/-- A validation that is asked for. -/
inductive Call where
  | validate (schema : Schema) (path : String)
  | validateSegments (schema : Schema) (segments : List String)

/-- What happens in a session. -/
inductive Event where
  | change (store : Store)
  | call (call : Call)

/-- What comes of a call: its result and the questions it put to the store. -/
structure Answer where
  result : Except Fault Unit
  lookups : List Lookup
  deriving DecidableEq

/-- A store as it is at the moment, and a memory for all calls. -/
structure Session where
  store : Store
  memory : Memory := {}

namespace Call

/-- The validation of a call. -/
def evaluation (store : Store) (registry : Registry) : Call → Evaluation Unit
  | .validate schema path => schema.validate store registry path
  | .validateSegments schema segments => schema.validateSegments store registry segments

/-- The answer to a call, with what is remembered after it; there is none if sets
nest too deep. -/
def answer? (call : Call) (store : Store) (registry : Registry) (memory : Memory) :
    Option (Answer × Memory) :=
  ((call.evaluation store registry).run { memory with lookups := [] }).map
    fun (result, after) => (⟨result, after.lookups⟩, after)

end Call

namespace Session

/-- Lets events happen one after the other.  Gives the answers to the calls and what
the session is in the end. -/
def run (registry : Registry) : Session → List Event → Option (List Answer × Session)
  | session, [] => some ([], session)
  | session, .change store :: events => run registry { session with store } events
  | session, .call call :: events =>
    (call.answer? session.store registry session.memory).bind fun (answer, memory) =>
      (run registry { session with memory } events).map fun (answers, final) =>
        (answer :: answers, final)

/-- The answers to the calls when each has a memory of its own. -/
def freshAnswers (registry : Registry) : Store → List Event → Option (List Answer)
  | _, [] => some []
  | _, .change store :: events => freshAnswers registry store events
  | store, .call call :: events =>
    (call.answer? store registry {}).bind fun (answer, _) =>
      (freshAnswers registry store events).map (answer :: ·)

end Session

/-! ## One call -/

namespace Call

/-- The outcome of a call that remembers nothing. -/
def outcome (store : Store) (registry : Registry) : Call → Outcome Unit
  | .validate schema path =>
    Plain.validateSegments store registry schema (Path.split path)
  | .validateSegments schema segments =>
    Plain.validateSegments store registry schema segments

theorem evaluation_follows (store : Store) (registry : Registry) (call : Call) :
    (call.evaluation store registry).Follows (call.outcome store registry) := by
  cases call with
  | validate schema path => exact Schema.validate_follows schema path
  | validateSegments schema segments => exact Schema.validateSegments_follows schema segments

/-- From a sound memory a call is answered with its outcome, and the memory stays sound. -/
theorem exists_answer_of_outcome {store : Store} {registry : Registry} {call : Call}
    {result : Except Fault Unit} {asked : List Lookup}
    (houtcome : call.outcome store registry = some (result, asked))
    {memory : Memory} (hmemory : memory.Sound) :
    ∃ after : Memory, after.Sound ∧
      call.answer? store registry memory = some (⟨result, asked⟩, after) := by
  have hreaches :=
    call.evaluation_follows store registry { memory with lookups := [] } hmemory
  rw [houtcome] at hreaches
  obtain ⟨after, hafter, hlookups, hrun⟩ := hreaches
  refine ⟨after, hafter, ?_⟩
  rw [answer?, hrun]
  simpa using hlookups

theorem exists_answer {store : Store} (hstore : store.Acyclic) (registry : Registry)
    (call : Call) :
    ∃ answer, ∀ memory : Memory, memory.Sound →
      ∃ after : Memory, after.Sound ∧
        call.answer? store registry memory = some (answer, after) := by
  obtain ⟨⟨result, asked⟩, houtcome⟩ :
      ∃ reached, call.outcome store registry = some reached := by
    cases call with
    | validate schema path =>
        exact Plain.exists_validateSegments_eq_some hstore.grounded registry schema _
    | validateSegments schema segments =>
        exact Plain.exists_validateSegments_eq_some hstore.grounded registry schema segments
  exact ⟨⟨result, asked⟩, fun memory hmemory => exists_answer_of_outcome houtcome hmemory⟩

end Call

/-! ## All calls of a session -/

namespace Session

/-- A session that remembers what is right answers as if it remembered nothing. -/
theorem exists_run_of_sound (registry : Registry) {events : List Event}
    {session : Session}
    (hmemory : session.memory.Sound) (hstore : session.store.Acyclic)
    (hevents : ∀ store, .change store ∈ events → store.Acyclic) :
    ∃ answers final, session.run registry events = some (answers, final) ∧
      freshAnswers registry session.store events = some answers ∧ final.memory.Sound := by
  induction events generalizing session with
  | nil => exact ⟨[], session, rfl, rfl, hmemory⟩
  | cons event events ih =>
      have hothers : ∀ store, .change store ∈ events → store.Acyclic :=
        fun store hmem => hevents store (by simp [hmem])
      cases event with
      | change store => exact ih hmemory (hevents store (by simp)) hothers
      | call call =>
          obtain ⟨answer, hanswer⟩ := Call.exists_answer hstore registry call
          obtain ⟨after, hafter, hcall⟩ := hanswer session.memory hmemory
          obtain ⟨fresh, -, hfresh⟩ := hanswer {} Memory.sound_empty
          obtain ⟨answers, final, hrun, hanswers, hfinal⟩ :=
            @ih { session with memory := after } hafter hstore hothers
          refine ⟨answer :: answers, final, ?_, ?_, hfinal⟩
          · simp [run, hcall, hrun]
          · simp [freshAnswers, hfresh, hanswers]

/-- However calls and changes of the store follow each other: a session that starts
with nothing in its memory gives the answers that fresh memories give, and all that
it ever remembers are the schemas of texts that compile. -/
theorem run_eq_freshAnswers (registry : Registry) {store : Store} {events : List Event}
    (hstore : store.Acyclic)
    (hevents : ∀ changed, .change changed ∈ events → changed.Acyclic) :
    ∃ answers final, Session.run registry { store } events = some (answers, final) ∧
      freshAnswers registry store events = some answers ∧
      (∀ entry ∈ final.memory.members, Schema.ofText entry.1 = .ok entry.2) ∧
      ∀ text fault, Schema.ofText text = .error fault →
        final.memory.members.lookup text = none := by
  obtain ⟨answers, final, hrun, hfresh, hfinal⟩ :=
    @exists_run_of_sound _ registry events { store } Memory.sound_empty hstore hevents
  exact ⟨answers, final, hrun, hfresh, hfinal, fun text fault h => hfinal.lookup_eq_none h⟩

end Session

end

namespace Session

/-- A broken member is met inside a member, and is replaced before the second call. -/
theorem run_eq_freshAnswers_of_replaced_member :
    ∃ answers final,
      run Registry.builtin
          { store := Store.ofEntries [] [("outer", ["$[inner]", "a"]), ("inner", ["b", "+{3,0}"])] }
          [.call (.validate ⟨"$[outer]", [.set "outer"]⟩ "a"),
            .change (Store.ofEntries [] [("outer", ["$[inner]", "a"]), ("inner", ["b", "c"])]),
            .call (.validateSegments ⟨"$[outer]", [.set "outer"]⟩ ["c"])] =
        some (answers, final) ∧
      freshAnswers Registry.builtin
          (Store.ofEntries [] [("outer", ["$[inner]", "a"]), ("inner", ["b", "+{3,0}"])])
          [.call (.validate ⟨"$[outer]", [.set "outer"]⟩ "a"),
            .change (Store.ofEntries [] [("outer", ["$[inner]", "a"]), ("inner", ["b", "c"])]),
            .call (.validateSegments ⟨"$[outer]", [.set "outer"]⟩ ["c"])] =
        some answers ∧
      (∀ entry ∈ final.memory.members, Schema.ofText entry.1 = .ok entry.2) ∧
      ∀ text fault, Schema.ofText text = .error fault →
        final.memory.members.lookup text = none := by
  apply run_eq_freshAnswers
  · exact Store.acyclic_of_rank (fun name => if name = "outer" then 1 else 0)
      (by decide +kernel)
  · intro changed hchanged
    obtain rfl : changed =
        (Store.ofEntries [] [("outer", ["$[inner]", "a"]), ("inner", ["b", "c"])]) := by
      simpa using hchanged
    exact Store.acyclic_of_rank (fun name => if name = "outer" then 1 else 0)
      (by decide +kernel)

end Session

end PathSchema
