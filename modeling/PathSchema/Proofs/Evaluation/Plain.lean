import PathSchema.Evaluation

/-!
# Evaluation without a memory

An evaluation remembers the members of sets that it compiled.  The plain
evaluation below compiles every member again.  It is defined function by
function like the one it is compared with, and its outcome is a result together
with the questions put to the store.  That both agree is shown in
`PathSchema.Proofs.Evaluation.Transparency`.
-/

namespace PathSchema

/-- What an evaluation comes to: its result and the questions it put, in order;
nothing if sets nest too deep. -/
abbrev Outcome (α : Type) := Option (Except Fault α × List Lookup)

namespace Outcome

variable {α β : Type}

/-- A result for which nothing was asked. -/
def done (result : Except Fault α) : Outcome α :=
  some (result, [])

/-- An outcome before which some questions were put. -/
def after (asked : List Lookup) (outcome : Outcome α) : Outcome α :=
  outcome.map fun (result, more) => (result, asked ++ more)

/-- Goes on from a value with `next` and from a fault with `otherwise`. -/
def andThen (outcome : Outcome α) (next : α → Outcome β)
    (otherwise : Fault → Outcome β) :
    Outcome β :=
  match outcome with
  | none => none
  | some (.ok value, asked) => after asked (next value)
  | some (.error fault, asked) => after asked (otherwise fault)

def result? (outcome : Outcome α) : Option (Except Fault α) :=
  outcome.map Prod.fst

@[simp] theorem after_nil (outcome : Outcome α) : after [] outcome = outcome := by
  cases outcome <;> simp [after]

@[simp] theorem andThen_done_ok
    (value : α) (next : α → Outcome β) (otherwise : Fault → Outcome β) :
    (done (.ok value)).andThen next otherwise = next value :=
  after_nil (next value)

@[simp] theorem andThen_done_error
    (fault : Fault) (next : α → Outcome β) (otherwise : Fault → Outcome β) :
    (done (.error fault)).andThen next otherwise = otherwise fault :=
  after_nil (otherwise fault)

@[simp] theorem result?_done (result : Except Fault α) :
    (done result).result? = some result := rfl

@[simp] theorem result?_after (asked : List Lookup) (outcome : Outcome α) :
    (after asked outcome).result? = outcome.result? := by
  cases outcome <;> rfl

theorem result?_andThen
    (outcome : Outcome α) (next : α → Outcome β) (otherwise : Fault → Outcome β) :
    (outcome.andThen next otherwise).result? =
      match outcome.result? with
      | none => none
      | some (.ok value) => (next value).result?
      | some (.error fault) => (otherwise fault).result? := by
  rcases outcome with _ | ⟨_ | _, _⟩
  · rfl
  · exact result?_after _ _
  · exact result?_after _ _

theorem after_andThen
    (asked : List Lookup) (outcome : Outcome α) (next : α → Outcome β)
    (otherwise : Fault → Outcome β) :
    (after asked outcome).andThen next otherwise =
      after asked (outcome.andThen next otherwise) := by
  have happend : ∀ (more : List Lookup) (final : Outcome β),
      after (asked ++ more) final = after asked (after more final) := by
    intro more final
    cases final <;> simp [after]
  rcases outcome with _ | ⟨fault | value, more⟩
  · rfl
  · exact happend more (otherwise fault)
  · exact happend more (next value)

theorem andThen_assoc {γ : Type}
    (outcome : Outcome α) (next : α → Outcome β) (otherwise : Fault → Outcome β)
    (further : β → Outcome γ) (failing : Fault → Outcome γ) :
    (outcome.andThen next otherwise).andThen further failing =
      outcome.andThen (fun value => (next value).andThen further failing)
        fun fault => (otherwise fault).andThen further failing := by
  rcases outcome with _ | ⟨fault | value, asked⟩
  · rfl
  · exact after_andThen asked (otherwise fault) further failing
  · exact after_andThen asked (next value) further failing

end Outcome

variable [RegexLibrary]

/-! ## The plain evaluation -/

namespace Plain

open Constraint (takeOne takeAll)

/-- Takes segments from the front, and leaves the rest.  `enter` evaluates a set. -/
def consume (store : Store) (registry : Registry)
    (enter : String → List String → Outcome (List String))
    (constraint : Constraint) (segments : List String) : Outcome (List String) :=
  match constraint with
  | .literal text =>
    .done (takeOne (fun segment =>
      if segment = text then none else some (.segmentMismatch text segment)) segments)
  | .regex pattern =>
    .done (takeOne (fun segment =>
      if pattern.isMatch segment then none
      else some (.segmentMismatch ("match for \"" ++ pattern.source ++ "\"") segment))
      segments)
  | .run min max =>
    .done (if segments.length < min then .error (.insufficientSegments min segments.length)
      else .ok (segments.drop (Nat.min segments.length max)))
  | .everything => .done (.ok [])
  | .var name calls =>
    .after [.var name] (.done (match store.value? name with
      | none => .error (.variableNotFound name)
      | some value =>
        match registry.applyAll (Path.splitAll value) calls with
        | .error fault => .error fault
        | .ok expected => takeAll expected segments))
  | .set name => enter name segments

/-- Runs constraints one after the other, and wraps the first fault. -/
def consumeAll (consume : Constraint → List String → Outcome (List String))
    (given : List String) :
    Nat → List Constraint → List String → Outcome (List String)
  | _, [], segments => .done (.ok segments)
  | index, constraint :: others, segments =>
    (consume constraint segments).andThen
      (consumeAll consume given (index + 1) others)
      fun fault =>
        .done (.error (.atConstraint index constraint.describe (Path.join given) fault))

/-- Tries members in order, up to the first that matches or does not compile. -/
def firstMember (run : Schema → Outcome (List String)) (otherwise : Fault) :
    List String → Outcome (List String)
  | [] => .done (.error otherwise)
  | text :: rest =>
    match Schema.ofText text with
    | .error fault => .done (.error fault)
    | .ok schema =>
      (run schema).andThen (fun remaining => .done (.ok remaining))
        fun _ => firstMember run otherwise rest

/-- Evaluates a set, entering at most `depth` sets one inside the other. -/
def enterSet (store : Store) (registry : Registry) :
    Nat → String → List String → Outcome (List String)
  | 0, _, _ => none
  | depth + 1, name, segments =>
    .after [.set name] (match store.set? name with
      | none => .done (.error (.setNotFound name))
      | some [] => .done (.error (.emptySet name))
      | some members =>
        firstMember
          (fun schema =>
            consumeAll (consume store registry (enterSet store registry depth)) segments 0
              schema.constraints segments)
          (.noMemberMatched name members.length) members)

/-- Runs all constraints of a schema, entering at most `depth` sets one inside the
other. -/
def evaluateWithin (store : Store) (registry : Registry) (depth : Nat) (schema : Schema)
    (segments : List String) : Outcome (List String) :=
  consumeAll (consume store registry (enterSet store registry depth))
    segments 0 schema.constraints segments

theorem enterSet_succ
    (store : Store) (registry : Registry) (depth : Nat) (name : String)
    (segments : List String) :
    enterSet store registry (depth + 1) name segments =
      .after [.set name] (match store.set? name with
        | none => .done (.error (.setNotFound name))
        | some [] => .done (.error (.emptySet name))
        | some members =>
          firstMember (fun schema => evaluateWithin store registry depth schema segments)
            (.noMemberMatched name members.length) members) := by
  rw [enterSet]
  rcases store.set? name with _ | _ | ⟨_, _⟩ <;> rfl

/-- Runs one constraint by itself. -/
def evaluateConstraint (store : Store) (registry : Registry) (constraint : Constraint)
    (segments : List String) : Outcome (List String) :=
  consume store registry (enterSet store registry (store.depthBound segments))
    constraint segments

/-- Runs all constraints, and leaves what they do not take. -/
def evaluate (store : Store) (registry : Registry) (schema : Schema)
    (segments : List String) : Outcome (List String) :=
  evaluateWithin store registry (store.depthBound segments) schema segments

/-- Fails if segments are left. -/
def complete (leftover : List String) : Outcome Unit :=
  match leftover with
  | [] => .done (.ok ())
  | leftover => .done (.error (.trailingSegments leftover))

/-- Checks that the constraints take all segments. -/
def validateSegments (store : Store) (registry : Registry) (schema : Schema)
    (segments : List String) : Outcome Unit :=
  (evaluate store registry schema segments).andThen complete
    fun fault => .done (.error fault)

end Plain

end PathSchema
