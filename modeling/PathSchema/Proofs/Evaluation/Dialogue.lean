import PathSchema.Proofs.Evaluation.Plain

/-!
# Evaluations as dialogues

An evaluation learns of its store and its registry by asking questions only: for the
value of a variable, for the members of a set, for the modifier of a name.  A dialogue is
an evaluation before its questions are answered.  It is defined function by function like
the plain evaluation, without a store and without a registry; answered by a store and a
registry it comes to the outcome of the plain evaluation.

So whoever answers alike the questions that are put sees the same evaluation
(`Dialogue.run_eq_of_same_answers`), and an evaluation that is allowed to go deeper puts
the same questions, if it had not to go that deep (`Dialogue.Within`).
-/

namespace PathSchema

/-- What an evaluation may ask for. -/
inductive Question where
  | value (name : String)
  | members (name : String)
  | modifier (name : String)
  deriving DecidableEq

namespace Question

def Answer : Question → Type
  | value _ => Option String
  | members _ => Option (List String)
  | modifier _ => Option Modifier

def answer (store : Store) (registry : Registry) : (question : Question) → question.Answer
  | value name => store.value? name
  | members name => store.set? name
  | modifier name => registry.find? name

/-- A question as a question to the store, if it is one. -/
def lookup? : Question → Option Lookup
  | value name => some (.var name)
  | members name => some (.set name)
  | modifier _ => none

end Question

/-- A computation that asks questions one at a time, and goes on as they are answered. -/
inductive Dialogue (α : Type) where
  | tooDeep
  | done (result : Except Fault α)
  | ask (question : Question) (next : question.Answer → Dialogue α)

namespace Dialogue

variable {α β : Type}

/-- Answers all questions.  Gives the result and the questions in order, or nothing if sets
nest too deep. -/
def run (store : Store) (registry : Registry) :
    Dialogue α → Option (Except Fault α × List Question)
  | tooDeep => none
  | done result => some (result, [])
  | ask question next =>
    (run store registry (next (question.answer store registry))).map
      fun (result, questions) => (result, question :: questions)

/-- Goes on from a value with `next` and from a fault with `otherwise`. -/
def andThen (dialogue : Dialogue α) (next : α → Dialogue β)
    (otherwise : Fault → Dialogue β) : Dialogue β :=
  match dialogue with
  | tooDeep => tooDeep
  | done (.ok value) => next value
  | done (.error fault) => otherwise fault
  | ask question further =>
    ask question fun answer => (further answer).andThen next otherwise

/-- Applies a chain of modifiers from left to right. -/
def applyAll (segments : List String) : List ModifierCall → Dialogue (List String)
  | [] => done (.ok segments)
  | call :: rest =>
    ask (.modifier call.name) fun
      | none => done (.error (.modifierNotFound call.name))
      | some modifier =>
        match modifier segments call.arguments with
        | .error error => done (.error (.modifierRefused call.name error))
        | .ok segments => applyAll segments rest

/-! ## The outcome of a dialogue -/

section Outcomes

variable (store : Store) (registry : Registry)

/-- What a dialogue comes to, with the questions to the store alone. -/
def outcome (dialogue : Dialogue α) : Outcome α :=
  (dialogue.run store registry).map fun (result, questions) =>
    (result, questions.filterMap Question.lookup?)

@[simp] theorem outcome_done (result : Except Fault α) :
    (done result).outcome store registry = .done result := by
  simp [outcome, run, Outcome.done]

theorem outcome_ask (question : Question) (next : question.Answer → Dialogue α) :
    (ask question next).outcome store registry =
      .after question.lookup?.toList
        ((next (question.answer store registry)).outcome store registry) := by
  rw [outcome, run, outcome]
  cases (next (question.answer store registry)).run store registry with
  | none => rfl
  | some reached => cases question <;> rfl

theorem outcome_andThen (dialogue : Dialogue α) (next : α → Dialogue β)
    (otherwise : Fault → Dialogue β) :
    (dialogue.andThen next otherwise).outcome store registry =
      (dialogue.outcome store registry).andThen
        (fun value => (next value).outcome store registry)
        fun fault => (otherwise fault).outcome store registry := by
  induction dialogue with
  | tooDeep => rfl
  | done result => cases result <;> simp [andThen]
  | ask question further ih =>
      rw [andThen, outcome_ask, outcome_ask, ih, Outcome.after_andThen]

theorem outcome_applyAll (segments : List String) (calls : List ModifierCall) :
    (applyAll segments calls).outcome store registry =
      .done (registry.applyAll segments calls) := by
  induction calls generalizing segments with
  | nil => rfl
  | cons call rest ih =>
      rw [applyAll, outcome_ask, Registry.applyAll]
      show Outcome.after [] _ = _
      rw [Outcome.after_nil, Question.answer]
      rcases registry.find? call.name with _ | modifier
      · rfl
      · dsimp only
        rcases modifier segments call.arguments with error | segments
        · rfl
        · exact ih segments

end Outcomes

/-! ## Questions that are answered alike -/

/-- Two stores and registries that answer alike the questions that are put let a dialogue
take the same course. -/
theorem run_eq_of_same_answers {store store' : Store} {registry registry' : Registry}
    {dialogue : Dialogue α} {result : Except Fault α} {questions : List Question}
    (hrun : dialogue.run store registry = some (result, questions))
    (hsame : ∀ question ∈ questions,
      question.answer store registry = question.answer store' registry') :
    dialogue.run store' registry' = some (result, questions) := by
  induction dialogue generalizing questions with
  | tooDeep => cases hrun
  | done given => exact hrun
  | ask question next ih =>
      rw [run] at hrun
      obtain ⟨⟨reached, others⟩, hothers, hsplit⟩ := Option.map_eq_some_iff.mp hrun
      obtain ⟨rfl, rfl⟩ : reached = result ∧ question :: others = questions := by
        simpa using hsplit
      have hanswer := hsame question (by simp)
      have hnext := ih _ hothers fun other hother => hsame other (by simp [hother])
      rw [run, ← hanswer, hnext]
      rfl

/-! ## Dialogues that may go deeper -/

/-- The second dialogue goes on where the first one went too deep, and nowhere else differs
from it. -/
inductive Within : Dialogue α → Dialogue α → Prop where
  | tooDeep (dialogue : Dialogue α) : Within .tooDeep dialogue
  | done (result : Except Fault α) : Within (.done result) (.done result)
  | ask (question : Question) {next next' : question.Answer → Dialogue α}
      (hnext : ∀ answer, Within (next answer) (next' answer)) :
      Within (.ask question next) (.ask question next')

theorem Within.refl (dialogue : Dialogue α) : Within dialogue dialogue := by
  induction dialogue with
  | tooDeep => exact .tooDeep _
  | done result => exact .done result
  | ask question next ih => exact .ask question ih

/-- A run that ends does not change by going deeper. -/
theorem Within.run_eq {dialogue deeper : Dialogue α} (h : Within dialogue deeper)
    {store : Store} {registry : Registry}
    {reached : Except Fault α × List Question}
    (hrun : dialogue.run store registry = some reached) :
    deeper.run store registry = some reached := by
  induction h generalizing reached with
  | tooDeep => cases hrun
  | done result => exact hrun
  | ask question hnext ih =>
      rw [Dialogue.run] at hrun
      obtain ⟨others, hothers, hreached⟩ := Option.map_eq_some_iff.mp hrun
      rw [Dialogue.run, ih _ hothers, ← hreached]
      rfl

theorem Within.andThen {dialogue deeper : Dialogue α} (h : Within dialogue deeper)
    {next next' : α → Dialogue β} {otherwise otherwise' : Fault → Dialogue β}
    (hnext : ∀ value, Within (next value) (next' value))
    (hotherwise : ∀ fault, Within (otherwise fault) (otherwise' fault)) :
    Within (dialogue.andThen next otherwise) (deeper.andThen next' otherwise') := by
  induction h with
  | tooDeep => exact .tooDeep _
  | done result =>
      rcases result with fault | value
      · exact hotherwise fault
      · exact hnext value
  | ask question _ ih => exact .ask question ih

end Dialogue

/-! ## The dialogue of an evaluation -/

variable [RegexLibrary]

namespace Dialogue

open Constraint (takeOne takeAll)

/-- Takes segments from the front, and leaves the rest.  `enter` evaluates a set. -/
def consume (enter : String → List String → Dialogue (List String))
    (constraint : Constraint) (segments : List String) : Dialogue (List String) :=
  match constraint with
  | .literal text =>
    done (takeOne (fun segment =>
      if segment = text then none else some (.segmentMismatch text segment)) segments)
  | .regex pattern =>
    done (takeOne (fun segment =>
      if pattern.isMatch segment then none
      else some (.segmentMismatch ("match for \"" ++ pattern.source ++ "\"") segment))
      segments)
  | .run min max =>
    done (if segments.length < min then .error (.insufficientSegments min segments.length)
      else .ok (segments.drop (Nat.min segments.length max)))
  | .everything => done (.ok [])
  | .var name calls =>
    ask (.value name) fun
      | none => done (.error (.variableNotFound name))
      | some value =>
        (applyAll (Path.splitAll value) calls).andThen
          (fun expected => done (takeAll expected segments))
          fun fault => done (.error fault)
  | .set name => enter name segments

/-- Runs constraints one after the other, and wraps the first fault. -/
def consumeAll (consume : Constraint → List String → Dialogue (List String))
    (given : List String) :
    Nat → List Constraint → List String → Dialogue (List String)
  | _, [], segments => done (.ok segments)
  | index, constraint :: others, segments =>
    (consume constraint segments).andThen
      (consumeAll consume given (index + 1) others)
      fun fault =>
        done (.error (.atConstraint index constraint.describe (Path.join given) fault))

/-- Tries members in order, up to the first that matches or does not compile. -/
def firstMember (run : Schema → Dialogue (List String)) (otherwise : Fault) :
    List String → Dialogue (List String)
  | [] => done (.error otherwise)
  | text :: rest =>
    match Schema.ofText text with
    | .error fault => done (.error fault)
    | .ok schema =>
      (run schema).andThen (fun remaining => done (.ok remaining))
        fun _ => firstMember run otherwise rest

/-- Evaluates a set, entering at most `depth` sets one inside the other. -/
def enterSet : Nat → String → List String → Dialogue (List String)
  | 0, _, _ => tooDeep
  | depth + 1, name, segments =>
    ask (.members name) fun
      | none => done (.error (.setNotFound name))
      | some [] => done (.error (.emptySet name))
      | some members =>
        firstMember
          (fun schema =>
            consumeAll (consume (enterSet depth)) segments 0 schema.constraints segments)
          (.noMemberMatched name members.length) members

/-- Fails if segments are left. -/
def complete (leftover : List String) : Dialogue Unit :=
  match leftover with
  | [] => done (.ok ())
  | leftover => done (.error (.trailingSegments leftover))

/-- Checks that the constraints of a schema take all segments, entering at most `depth`
sets one inside the other. -/
def validateWithin (depth : Nat) (schema : Schema) (segments : List String) :
    Dialogue Unit :=
  (consumeAll (consume (enterSet depth)) segments 0 schema.constraints segments).andThen
    complete fun fault => done (.error fault)

end Dialogue

/-- The questions that a validation puts to its store and its registry, in order. -/
def Schema.questions? (store : Store) (registry : Registry) (schema : Schema)
    (segments : List String) : Option (List Question) :=
  ((Dialogue.validateWithin (store.depthBound segments) schema segments).run store
    registry).map Prod.snd

namespace Dialogue

variable {α β : Type}

/-! ## The outcome of a dialogue -/

section Outcomes

variable (store : Store) (registry : Registry)

theorem outcome_consume
    {enter : String → List String → Dialogue (List String)}
    {plain : String → List String → Outcome (List String)}
    (henter : ∀ name segments,
      (enter name segments).outcome store registry = plain name segments)
    (constraint : Constraint) (segments : List String) :
    (consume enter constraint segments).outcome store registry =
      Plain.consume store registry plain constraint segments := by
  cases constraint with
  | literal text => rfl
  | regex pattern => rfl
  | run min max => rfl
  | everything => rfl
  | var name calls =>
      rw [consume, outcome_ask, Plain.consume, Question.answer]
      congr 1
      rcases store.value? name with _ | value
      · rfl
      · dsimp only
        rw [outcome_andThen, outcome_applyAll]
        rcases registry.applyAll (Path.splitAll value) calls with fault | expected <;>
          simp
  | set name => exact henter name segments

theorem outcome_consumeAll
    {step : Constraint → List String → Dialogue (List String)}
    {plain : Constraint → List String → Outcome (List String)}
    (hstep : ∀ constraint segments,
      (step constraint segments).outcome store registry = plain constraint segments)
    (given : List String) (index : Nat) (constraints : List Constraint)
    (segments : List String) :
    (consumeAll step given index constraints segments).outcome store registry =
      Plain.consumeAll plain given index constraints segments := by
  induction constraints generalizing index segments with
  | nil => rfl
  | cons constraint others ih =>
      rw [consumeAll, outcome_andThen, hstep, Plain.consumeAll]
      simp only [ih, outcome_done]

theorem outcome_firstMember
    {run : Schema → Dialogue (List String)} {plain : Schema → Outcome (List String)}
    (hrun : ∀ schema, (run schema).outcome store registry = plain schema)
    (otherwise : Fault) (members : List String) :
    (firstMember run otherwise members).outcome store registry =
      Plain.firstMember plain otherwise members := by
  induction members with
  | nil => rfl
  | cons text rest ih =>
      rw [firstMember, Plain.firstMember]
      rcases Schema.ofText text with fault | schema
      · rfl
      · dsimp only
        rw [outcome_andThen, hrun]
        simp only [ih, outcome_done]

theorem outcome_enterSet (depth : Nat) (name : String) (segments : List String) :
    (enterSet depth name segments).outcome store registry =
      Plain.enterSet store registry depth name segments := by
  induction depth generalizing name segments with
  | zero => rfl
  | succ depth ih =>
      rw [enterSet, outcome_ask, Plain.enterSet, Question.answer]
      congr 1
      rcases store.set? name with _ | _ | ⟨text, rest⟩
      · rfl
      · rfl
      · apply outcome_firstMember
        intro schema
        exact outcome_consumeAll store registry
          (outcome_consume store registry fun name segments => ih name segments) segments 0
          schema.constraints segments

/-- Answered by a store and a registry, the dialogue of a validation comes to the outcome
of the plain validation. -/
theorem outcome_validateWithin (schema : Schema) (segments : List String) :
    (validateWithin (store.depthBound segments) schema segments).outcome store registry =
      Plain.validateSegments store registry schema segments := by
  have hevaluate := outcome_consumeAll store registry
    (outcome_consume store registry
      (outcome_enterSet store registry (store.depthBound segments)))
    segments 0 schema.constraints segments
  rw [validateWithin, outcome_andThen, hevaluate, Plain.validateSegments, Plain.evaluate,
    Plain.evaluateWithin]
  congr 1
  funext leftover
  rcases leftover with _ | ⟨segment, rest⟩ <;> rfl

end Outcomes

theorem consume_within {enter enter' : String → List String → Dialogue (List String)}
    (henter : ∀ name segments, Within (enter name segments) (enter' name segments))
    (constraint : Constraint) (segments : List String) :
    Within (consume enter constraint segments) (consume enter' constraint segments) := by
  cases constraint with
  | set name => exact henter name segments
  | _ => exact .refl _

theorem consumeAll_within
    {step step' : Constraint → List String → Dialogue (List String)}
    (hstep : ∀ constraint segments,
      Within (step constraint segments) (step' constraint segments))
    (given : List String) (index : Nat) (constraints : List Constraint)
    (segments : List String) :
    Within (consumeAll step given index constraints segments)
      (consumeAll step' given index constraints segments) := by
  induction constraints generalizing index segments with
  | nil => exact .done _
  | cons constraint others ih =>
      exact (hstep constraint segments).andThen (ih (index + 1)) fun _ => .done _

theorem firstMember_within {run run' : Schema → Dialogue (List String)}
    (hrun : ∀ schema, Within (run schema) (run' schema)) (otherwise : Fault)
    (members : List String) :
    Within (firstMember run otherwise members) (firstMember run' otherwise members) := by
  induction members with
  | nil => exact .done _
  | cons text rest ih =>
      rw [firstMember, firstMember]
      rcases Schema.ofText text with fault | schema
      · exact .done _
      · exact (hrun schema).andThen (fun _ => .done _) fun _ => ih

theorem enterSet_within {depth deeper : Nat} (h : depth ≤ deeper) (name : String)
    (segments : List String) :
    Within (enterSet depth name segments) (enterSet deeper name segments) := by
  induction depth generalizing deeper name segments with
  | zero => exact .tooDeep _
  | succ depth ih =>
      obtain ⟨deeper, rfl⟩ : ∃ lower, deeper = lower + 1 := ⟨deeper - 1, by omega⟩
      refine .ask (.members name) ?_
      rintro (_ | _ | ⟨text, rest⟩)
      · exact .done _
      · exact .done _
      · apply firstMember_within
        intro schema
        exact consumeAll_within
          (consume_within fun name segments => ih (by omega) name segments) _ _ _ _

theorem validateWithin_within {depth deeper : Nat} (h : depth ≤ deeper) (schema : Schema)
    (segments : List String) :
    Within (validateWithin depth schema segments) (validateWithin deeper schema segments) :=
  (consumeAll_within (consume_within (enterSet_within h)) _ _ _ _).andThen
    (fun _ => .refl _) fun _ => .refl _

end Dialogue

end PathSchema
