import PathSchema.Schema
import PathSchema.Store

/-!
# Evaluation

Constraints take segments from the front, each as many as it can, and hand the
rest to the next one.  Nothing is taken back, except that the members of a set
are tried in order on the same segments until one matches.

An evaluation may put questions to the store, which it records in order, and it
remembers the members of sets that it compiled.  Sets may lead to further sets;
an evaluation that is allowed to enter `depth` sets one inside the other has no
result if it would have to go deeper.
-/

namespace PathSchema

variable [RegexLibrary]

/-- What an evaluation carries along: the members compiled so far, by their texts,
and the questions put to the store, in order. -/
structure Memory where
  members : List (String × Schema) := []
  lookups : List Lookup := []
  deriving DecidableEq

/-- A computation that may fail with a fault, keeps its memory when it does, and has
no result if sets nest too deep for it. -/
abbrev Evaluation (α : Type) := ExceptT Fault (StateT Memory Option) α

namespace Evaluation

/-- No result: sets nest too deep. -/
def tooDeep {α : Type} : Evaluation α :=
  fun _ => none

def record (lookup : Lookup) : Evaluation Unit :=
  modify fun memory => { memory with lookups := memory.lookups ++ [lookup] }

/-- The result of a computation, or nothing if it failed; the fault is forgotten. -/
def attempt {α : Type} (evaluation : Evaluation α) : Evaluation (Option α) :=
  tryCatch (some <$> evaluation) fun _ => pure none

/-- Rewrites the fault of a computation. -/
def mapFault {α : Type} (f : Fault → Fault) (evaluation : Evaluation α) : Evaluation α :=
  tryCatch evaluation fun fault => throw (f fault)

/-- The schema of a member of a set.  A text is compiled once; a text that does not
compile is not remembered. -/
def member (text : String) : Evaluation Schema := do
  match (← get).members.lookup text with
  | some schema => return schema
  | none =>
    match Schema.ofText text with
    | .error fault => throw fault
    | .ok schema =>
      modify fun memory => { memory with members := (text, schema) :: memory.members }
      return schema

end Evaluation

/-- Applies a chain of modifiers from left to right. -/
def Registry.applyAll (registry : Registry) (segments : List String) :
    List ModifierCall → Except Fault (List String)
  | [] => .ok segments
  | call :: rest =>
    match registry.find? call.name with
    | none => .error (.modifierNotFound call.name)
    | some modifier =>
      match modifier segments call.arguments with
      | .error error => .error (.modifierRefused call.name error)
      | .ok segments => registry.applyAll segments rest

namespace Constraint

def takeOne (wrong? : String → Option Fault) (segments : List String) :
    Except Fault (List String) :=
  match segments with
  | [] => .error (.insufficientSegments 1 0)
  | first :: rest =>
    match wrong? first with
    | some fault => .error fault
    | none => .ok rest

/-- The first place where two lists of segments differ. -/
def mismatch? : List String → List String → Option Fault
  | expected :: others, found :: rest =>
    if expected = found then mismatch? others rest else some (.segmentMismatch expected found)
  | _, _ => none

def takeAll (expected segments : List String) : Except Fault (List String) :=
  if segments.length < expected.length then
    .error (.insufficientSegments expected.length segments.length)
  else
    match mismatch? expected segments with
    | some fault => .error fault
    | none => .ok (segments.drop expected.length)

/-- Takes segments from the front, and leaves the rest.  `enter` evaluates a set. -/
def consume (store : Store) (registry : Registry)
    (enter : String → List String → Evaluation (List String))
    (constraint : Constraint) (segments : List String) : Evaluation (List String) :=
  match constraint with
  | literal text =>
    ExceptT.mk (pure (takeOne (fun segment =>
      if segment = text then none else some (.segmentMismatch text segment)) segments))
  | regex pattern =>
    ExceptT.mk (pure (takeOne (fun segment =>
      if pattern.isMatch segment then none
      else some (.segmentMismatch ("match for \"" ++ pattern.source ++ "\"") segment)) segments))
  | run min max =>
    if segments.length < min then throw (.insufficientSegments min segments.length)
    else return segments.drop (Nat.min segments.length max)
  | everything => return []
  | var name calls => do
    Evaluation.record (.var name)
    match store.value? name with
    | none => throw (.variableNotFound name)
    | some value =>
      match registry.applyAll (Path.splitAll value) calls with
      | .error fault => throw fault
      | .ok expected => ExceptT.mk (pure (takeAll expected segments))
  | set name => enter name segments

/-- Runs constraints one after the other.  A fault is wrapped with the place and
the description of its constraint, and with the segments `given` to the first. -/
def consumeAll (consume : Constraint → List String → Evaluation (List String))
    (given : List String) :
    Nat → List Constraint → List String → Evaluation (List String)
  | _, [], segments => return segments
  | index, constraint :: others, segments => do
    let remaining ← Evaluation.mapFault
      (.atConstraint index constraint.describe (Path.join given))
      (consume constraint segments)
    consumeAll consume given (index + 1) others remaining

/-- Tries members in order; the first that matches decides.  A member that does not
compile ends the search, a member that does not match is passed over. -/
def firstMember (run : Schema → Evaluation (List String)) (otherwise : Fault) :
    List String → Evaluation (List String)
  | [] => throw otherwise
  | text :: rest => do
    let schema ← Evaluation.member text
    match ← Evaluation.attempt (run schema) with
    | some remaining => return remaining
    | none => firstMember run otherwise rest

/-- Evaluates a set, entering at most `depth` sets one inside the other. -/
def enterSet (store : Store) (registry : Registry) :
    Nat → String → List String → Evaluation (List String)
  | 0, _, _ => Evaluation.tooDeep
  | depth + 1, name, segments => do
    Evaluation.record (.set name)
    match store.set? name with
    | none => throw (.setNotFound name)
    | some [] => throw (.emptySet name)
    | some members =>
      firstMember
        (fun schema =>
          consumeAll (consume store registry (enterSet store registry depth)) segments 0
            schema.constraints segments)
        (.noMemberMatched name members.length) members

end Constraint

/-- How deep sets can nest in a store on so many segments, unless a set leads back to
itself before a segment was taken: between two taken segments no set is entered
twice, and the last one entered may be missing. -/
def Store.depthBound (store : Store) (segments : List String) : Nat :=
  (segments.length + 1) * (store.setNames.length + 1) + 1

namespace Constraint

/-- Takes segments from the front, and leaves the rest. -/
def evaluate (store : Store) (registry : Registry) (constraint : Constraint)
    (segments : List String) : Evaluation (List String) :=
  constraint.consume store registry (enterSet store registry (store.depthBound segments)) segments

end Constraint

namespace Schema

/-- Runs all constraints, and leaves what they do not take. -/
def evaluate (store : Store) (registry : Registry) (schema : Schema)
    (segments : List String) : Evaluation (List String) :=
  Constraint.consumeAll
    (Constraint.consume store registry
      (Constraint.enterSet store registry (store.depthBound segments)))
    segments 0 schema.constraints segments

/-- Checks that the constraints take all segments. -/
def validateSegments (store : Store) (registry : Registry) (schema : Schema)
    (segments : List String) : Evaluation Unit := do
  match ← schema.evaluate store registry segments with
  | [] => return ()
  | leftover => throw (.trailingSegments leftover)

/-- Checks that a path satisfies a schema. -/
def validate (store : Store) (registry : Registry) (schema : Schema) (path : String) :
    Evaluation Unit :=
  schema.validateSegments store registry (Path.split path)

end Schema

end PathSchema
