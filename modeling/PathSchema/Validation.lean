import PathSchema.Evaluation
import PathSchema.Failure
import PathSchema.Harvest

/-!
# Validating many paths

The paths of a command line are validated one after the other, and members of sets
that were compiled for one path are remembered for the next.  Placeholders are
validated by tasks that share nothing.  Only so many tasks run at once: one that is to
start waits for a permit, and gives it back when it finishes.  The tasks start in the
order of their numbers but may finish in any order; their reports are put in the order
of the numbers again.
-/

namespace PathSchema

variable [RegexLibrary]

namespace Validation

/-- The report on a path, with what is remembered after it; there is none if sets nest
without end. -/
def report (store : Store) (schema : Schema) (detailed : Bool) (path : String)
    (memory : Memory) : Option (Report × Memory) :=
  ((schema.validate store Registry.builtin path).run memory).map fun (result, memory) =>
    (Report.ofResult path detailed result, memory)

/-- The reports on some paths, in their order. -/
def reports (store : Store) (schema : Schema) (detailed : Bool) :
    List String → Memory → Option (List Report)
  | [], _ => some []
  | path :: rest, memory =>
    (report store schema detailed path memory).bind fun (report, memory) =>
      (reports store schema detailed rest memory).map (report :: ·)

/-- What a task finds out about a placeholder. -/
def task (store : Store) (schema : Schema) (finding : Finding) : Option Report :=
  (report store schema false finding.placeholder.path {}).map fun (report, _) =>
    report.withOrigin finding.file finding.placeholder.key

/-- Reports in the order of their numbers, whatever the order in which they came. -/
def inOrder (finished : List (Nat × Report)) : List Report :=
  (finished.mergeSort fun x y => decide (x.1 ≤ y.1)).map Prod.snd

/-- The outcome of a command that validated some paths. -/
def outcome (reports : List Report) : Except Failure Unit :=
  if Report.failures reports = 0 then .ok ()
  else .error (.validationFailed (Report.failures reports) reports.length)

/-- What can happen to the tasks of a pool. -/
inductive Move where
  /-- The first task that waits gets a permit. -/
  | start
  /-- The task that runs at a place finishes. -/
  | finish (place : Nat)
  deriving DecidableEq

/-- The numbered tasks that wait and those that run, and the numbered reports of those
that finished, in the order in which they did. -/
structure Pool where
  waiting : List (Finding × Nat)
  running : List (Finding × Nat)
  finished : List (Nat × Report)
  deriving DecidableEq

namespace Pool

/-- All tasks wait. -/
def ofFindings (findings : List Finding) : Pool :=
  ⟨findings.zipIdx, [], []⟩

/-- Whether no task is left. -/
def isDone (pool : Pool) : Bool :=
  pool.waiting.isEmpty && pool.running.isEmpty

/-- How many tasks may run at once: as many as were asked for, and at least one. -/
def permits (jobs : Nat) : Nat :=
  max jobs 1

/-- No semaphore can give more permits than this. -/
def maxPermits : Nat :=
  (UInt64.size - 1) / 8

/-- Makes a move, if the pool allows it.  A task that goes on without end never
finishes. -/
def move? (store : Store) (schema : Schema) (permits : Nat) (pool : Pool) :
    Move → Option Pool
  | .start =>
    match pool.waiting with
    | [] => none
    | first :: waiting =>
      if pool.running.length < permits then
        some { pool with waiting, running := pool.running ++ [first] }
      else none
  | .finish place =>
    (pool.running[place]?).bind fun (finding, number) =>
      (task store schema finding).map fun report =>
        { pool with
          running := pool.running.eraseIdx place
          finished := pool.finished ++ [(number, report)] }

/-- Makes some moves in turn, if the pool allows them. -/
def run? (store : Store) (schema : Schema) (permits : Nat) :
    Pool → List Move → Option Pool
  | pool, [] => some pool
  | pool, move :: moves =>
    (pool.move? store schema permits move).bind fun next =>
      run? store schema permits next moves

/-- Lets every task finish before the next one starts. -/
def inTurn (findings : List Finding) : List Move :=
  findings.flatMap fun _ => [.start, .finish 0]

/-- The reports of the tasks that finished, in the order of the tasks. -/
def reports (pool : Pool) : List Report :=
  inOrder pool.finished

end Pool

end Validation

end PathSchema
