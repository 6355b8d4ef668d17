import Mathlib.Data.List.Nodup
import PathSchema.Execution
import PathSchema.Proofs.Evaluation.Depth
import PathSchema.Pattern.Engine

/-!
# Tasks in any order

What is remembered of members does not change the report on a path, so a task that
remembers nothing reports the same as a batch that remembers everything.  A move of a
pool leaves the numbered reports alone that the pool has or is going to have: it only
lets one of them become known.  When no task is left these are exactly the reports that
the pool has, in some order, and since their numbers are different there is only one way
to put them in the order of the numbers.  Each move brings a pool nearer to its end, and
a pool that has at least one permit can always make one.
-/

namespace PathSchema

namespace Validation

/-! ## The order of the numbers -/

def numbered (reportOf : Finding → Report) (entry : Finding × Nat) : Nat × Report :=
  (entry.2, reportOf entry.1)

theorem map_fst_map_numbered (reportOf : Finding → Report) (findings : List Finding) :
    (findings.zipIdx.map (numbered reportOf)).map Prod.fst =
      List.range' 0 findings.length := by
  rw [List.map_map]
  exact List.zipIdx_map_snd 0 findings

theorem map_snd_map_numbered (reportOf : Finding → Report) (findings : List Finding) :
    (findings.zipIdx.map (numbered reportOf)).map Prod.snd = findings.map reportOf := by
  have hfindings : findings.zipIdx.map Prod.fst = findings := List.zipIdx_map_fst 0 findings
  rw [List.map_map]
  conv_rhs => rw [← hfindings, List.map_map]
  rfl

/-- In whatever order numbered reports come, in the order of their numbers they are those
of the placeholders. -/
theorem inOrder_of_perm {reportOf : Finding → Report} {findings : List Finding}
    {finished : List (Nat × Report)}
    (h : finished.Perm (findings.zipIdx.map (numbered reportOf))) :
    inOrder finished = findings.map reportOf := by
  have hsorted : (finished.mergeSort fun x y => decide (x.1 ≤ y.1)).Pairwise
      fun x y => decide (x.1 ≤ y.1) = true := by
    refine List.pairwise_mergeSort ?_ ?_ finished
    · intro x y z hxy hyz
      exact decide_eq_true (Nat.le_trans (of_decide_eq_true hxy) (of_decide_eq_true hyz))
    · intro x y
      simpa using Nat.le_total x.1 y.1
  have hincreasing : (findings.zipIdx.map (numbered reportOf)).Pairwise
      fun x y => decide (x.1 ≤ y.1) = true := by
    have hrange := List.pairwise_lt_range' (s := 0) (n := findings.length)
    rw [← map_fst_map_numbered reportOf, List.pairwise_map] at hrange
    exact hrange.imp fun hlt => decide_eq_true (Nat.le_of_lt hlt)
  have hdistinct : ((findings.zipIdx.map (numbered reportOf)).map Prod.fst).Nodup := by
    rw [map_fst_map_numbered]
    exact List.nodup_range'
  have hperm := (List.mergeSort_perm finished fun x y => decide (x.1 ≤ y.1)).trans h
  have hsame : finished.mergeSort (fun x y => decide (x.1 ≤ y.1)) =
      findings.zipIdx.map (numbered reportOf) := by
    refine List.Perm.eq_of_pairwise ?_ hsorted hincreasing hperm
    intro x y hx hy hxy hyx
    have hnumber : x.1 = y.1 :=
      Nat.le_antisymm (of_decide_eq_true hxy) (of_decide_eq_true hyx)
    exact List.inj_on_of_nodup_map hdistinct (hperm.mem_iff.mp hx) hy hnumber
  rw [inOrder, hsame, map_snd_map_numbered]

/-! ## Pools -/

namespace Pool

variable {pool : Pool}

theorem eq_nil_of_isDone (h : pool.isDone = true) : pool.waiting = [] ∧ pool.running = [] := by
  simpa [isDone] using h

/-- How many moves are left. -/
def remaining (pool : Pool) : Nat :=
  2 * pool.waiting.length + pool.running.length

theorem isDone_iff_remaining : pool.isDone = true ↔ pool.remaining = 0 := by
  have hlengths : pool.remaining = 0 ↔ pool.waiting.length = 0 ∧ pool.running.length = 0 := by
    rw [remaining]
    omega
  rw [hlengths, List.length_eq_zero_iff, List.length_eq_zero_iff]
  simp [isDone]

theorem permits_pos (jobs : Nat) : 0 < Pool.permits jobs :=
  Nat.lt_of_lt_of_le Nat.one_pos (Nat.le_max_right jobs 1)

theorem maxPermits_lt_permits_iff {jobs : Nat} :
    maxPermits < Pool.permits jobs ↔ maxPermits < jobs := by
  have hone : 1 ≤ maxPermits := by decide
  rw [Pool.permits]
  omega

end Pool

/-- A command ends well if all reports are on valid paths, and else counts those that are
not. -/
theorem outcome_eq (reports : List Report) :
    outcome reports =
      if reports.all (·.valid) then .ok ()
      else .error (.validationFailed (reports.countP (!·.valid)) reports.length) := by
  have hnone : Report.failures reports = 0 ↔ reports.all (·.valid) = true := by
    rw [Report.failures, List.countP_eq_zero, List.all_eq_true]
    simp
  by_cases hall : reports.all (·.valid) = true
  · rw [outcome, if_pos (hnone.mpr hall), if_pos hall]
  · rw [outcome, if_neg fun hzero => hall (hnone.mp hzero), if_neg hall]
    rfl

end Validation

section

variable [RegexLibrary]

namespace Validation

/-! ## The report on a path -/

/-- From every sound memory validating a path has the result that is given, and the memory
stays sound. -/
def ResultsIn (store : Store) (schema : Schema) (resultOf : String → Except Fault Unit) : Prop :=
  ∀ (path : String) (memory : Memory), memory.Sound → ∃ after : Memory, after.Sound ∧
    (schema.validate store Registry.builtin path).run memory = some (resultOf path, after)

/-- From every sound memory the report on a path is the one that is given, and the memory
stays sound. -/
def ReportsOn (store : Store) (schema : Schema) (detailed : Bool)
    (reportOn : String → Report) : Prop :=
  ∀ (path : String) (memory : Memory), memory.Sound → ∃ after : Memory, after.Sound ∧
    report store schema detailed path memory = some (reportOn path, after)

variable {store : Store} {schema : Schema} {detailed : Bool} {reportOn : String → Report}

theorem exists_resultsIn (hstore : store.Acyclic) (schema : Schema) :
    ∃ resultOf, ResultsIn store schema resultOf := by
  have houtcome : ∀ path, ∃ reached,
      Plain.validateSegments store Registry.builtin schema (Path.split path) =
        some reached := fun path =>
    Plain.exists_validateSegments_eq_some hstore.grounded Registry.builtin schema _
  choose reached hreached using houtcome
  refine ⟨fun path => (reached path).1, ?_⟩
  intro path memory hmemory
  obtain ⟨after, hafter, -, hrun⟩ :=
    (Schema.validate_follows schema path).exists_run hmemory (hreached path)
  exact ⟨after, hafter, hrun⟩

theorem ResultsIn.reportsOn {resultOf : String → Except Fault Unit}
    (h : ResultsIn store schema resultOf) (detailed : Bool) :
    ReportsOn store schema detailed
      fun path => Report.ofResult path detailed (resultOf path) := by
  intro path memory hmemory
  obtain ⟨after, hafter, hrun⟩ := h path memory hmemory
  refine ⟨after, hafter, ?_⟩
  rw [report, hrun]
  rfl

theorem exists_reportsOn (hstore : store.Acyclic) (schema : Schema) (detailed : Bool) :
    ∃ reportOn, ReportsOn store schema detailed reportOn := by
  obtain ⟨resultOf, hresults⟩ := exists_resultsIn hstore schema
  exact ⟨_, hresults.reportsOn detailed⟩

/-- Each path of a batch is reported on as if it were the only one. -/
theorem ReportsOn.reports (h : ReportsOn store schema detailed reportOn)
    (paths : List String) {memory : Memory} (hmemory : memory.Sound) :
    reports store schema detailed paths memory = some (paths.map reportOn) := by
  induction paths generalizing memory with
  | nil => rfl
  | cons path rest ih =>
      obtain ⟨after, hafter, hreport⟩ := h path memory hmemory
      have hrest : Validation.reports store schema detailed rest after =
          some (rest.map reportOn) := ih hafter
      rw [Validation.reports, hreport]
      show (Validation.reports store schema detailed rest after).map (reportOn path :: ·) = _
      rw [hrest]
      rfl

/-- The report on the path of a placeholder, with the origin of the placeholder. -/
def reportWithOrigin (reportOn : String → Report) (finding : Finding) : Report :=
  (reportOn finding.placeholder.path).withOrigin finding.file finding.placeholder.key

theorem ReportsOn.task (h : ReportsOn store schema false reportOn) (finding : Finding) :
    task store schema finding = some (reportWithOrigin reportOn finding) := by
  obtain ⟨after, -, hreport⟩ := h finding.placeholder.path {} Memory.sound_empty
  rw [Validation.task, hreport]
  rfl

/-! ## Moves -/

namespace Pool

variable {permits : Nat} {pool next final : Pool} {move : Move} {moves : List Move}
  {reportOf : Finding → Report}

/-- What a move does: the first task that waits begins to run, or a task that runs makes
way for its numbered report. -/
theorem move?_cases (h : pool.move? store schema permits move = some next) :
    (∃ first waiting, pool.waiting = first :: waiting ∧ pool.running.length < permits ∧
      next = { pool with waiting, running := pool.running ++ [first] }) ∨
    ∃ place, ∃ hplace : place < pool.running.length, ∃ report,
      task store schema pool.running[place].1 = some report ∧
      next = { pool with
        running := pool.running.eraseIdx place
        finished := pool.finished ++ [(pool.running[place].2, report)] } := by
  cases move with
  | start =>
      rw [move?] at h
      split at h
      · cases h
      · next first waiting hwaiting =>
          split at h
          · next hfree => exact .inl ⟨first, waiting, hwaiting, hfree, (Option.some.inj h).symm⟩
          · cases h
  | finish place =>
      obtain ⟨⟨finding, number⟩, hrunning, hmove⟩ := Option.bind_eq_some_iff.mp h
      obtain ⟨report, hreport, rfl⟩ := Option.map_eq_some_iff.mp hmove
      obtain ⟨hplace, hentry⟩ := List.getElem?_eq_some_iff.mp hrunning
      refine .inr ⟨place, hplace, report, ?_, ?_⟩
      · rw [hentry]
        exact hreport
      · rw [hentry]

/-- The numbered reports that the pool has, and those that its tasks are going to give. -/
def accounted (reportOf : Finding → Report) (pool : Pool) : List (Nat × Report) :=
  pool.finished ++ (pool.running ++ pool.waiting).map (numbered reportOf)

/-- A move neither loses a report nor makes one up. -/
theorem accounted_of_move (htask : ∀ finding, task store schema finding = some (reportOf finding))
    (h : pool.move? store schema permits move = some next) :
    (next.accounted reportOf).Perm (pool.accounted reportOf) := by
  rcases move?_cases h with ⟨first, waiting, hwaiting, -, rfl⟩ | ⟨place, hplace, report, hreport, rfl⟩
  · have hsame : pool.running ++ [first] ++ waiting = pool.running ++ pool.waiting := by
      rw [hwaiting, List.append_assoc]
      rfl
    rw [accounted, accounted, hsame]
  · obtain rfl : reportOf pool.running[place].1 = report := by
      rw [htask] at hreport
      exact Option.some.inj hreport
    have hrunning := (List.getElem_cons_eraseIdx_perm hplace).append_right pool.waiting
    have hreports := hrunning.map (numbered reportOf)
    rw [accounted, accounted, List.append_assoc]
    exact hreports.append_left pool.finished

theorem accounted_of_run (htask : ∀ finding, task store schema finding = some (reportOf finding))
    (h : pool.run? store schema permits moves = some final) :
    (final.accounted reportOf).Perm (pool.accounted reportOf) := by
  induction moves generalizing pool with
  | nil =>
      obtain rfl := Option.some.inj h
      exact .refl _
  | cons move rest ih =>
      obtain ⟨next, hmove, hrest⟩ := Option.bind_eq_some_iff.mp h
      exact (ih hrest).trans (accounted_of_move htask hmove)

/-- A pool that began with all tasks and has none left has all reports, which are in the
order of the placeholders once they are put in order. -/
theorem reports_of_run {findings : List Finding}
    (htask : ∀ finding, task store schema finding = some (reportOf finding))
    (h : (ofFindings findings).run? store schema permits moves = some final)
    (hdone : final.isDone = true) : final.reports = findings.map reportOf := by
  obtain ⟨hwaiting, hrunning⟩ := eq_nil_of_isDone hdone
  have hperm := accounted_of_run htask h
  have hfinal : final.accounted reportOf = final.finished := by
    rw [accounted, hwaiting, hrunning]
    exact List.append_nil _
  have hall : (ofFindings findings).accounted reportOf =
      findings.zipIdx.map (numbered reportOf) := rfl
  rw [hfinal, hall] at hperm
  exact inOrder_of_perm hperm

/-! ## The end -/

theorem remaining_of_move (h : pool.move? store schema permits move = some next) :
    next.remaining + 1 = pool.remaining := by
  rcases move?_cases h with ⟨first, waiting, hwaiting, -, rfl⟩ | ⟨place, hplace, report, -, rfl⟩
  · simp only [remaining, hwaiting, List.length_cons, List.length_append, List.length_nil]
    omega
  · have herased := List.length_eraseIdx_add_one hplace
    simp only [remaining]
    omega

theorem remaining_of_run (h : pool.run? store schema permits moves = some final) :
    final.remaining + moves.length = pool.remaining := by
  induction moves generalizing pool with
  | nil =>
      obtain rfl := Option.some.inj h
      rfl
  | cons move rest ih =>
      obtain ⟨next, hmove, hrest⟩ := Option.bind_eq_some_iff.mp h
      have hfirst := remaining_of_move hmove
      have hothers := ih hrest
      rw [List.length_cons]
      omega

/-- With at least one permit a pool that is not done can go on. -/
theorem exists_move (htask : ∀ finding, task store schema finding = some (reportOf finding))
    (hpermits : 0 < permits) (h : pool.isDone = false) :
    ∃ move next, pool.move? store schema permits move = some next := by
  obtain ⟨waiting, running, finished⟩ := pool
  cases running with
  | nil =>
      cases waiting with
      | nil => cases h
      | cons first waiting =>
          refine ⟨.start, ⟨waiting, [first], finished⟩, ?_⟩
          simp [move?, hpermits]
  | cons entry running =>
      refine ⟨.finish 0, ⟨waiting, running, finished ++ [numbered reportOf entry]⟩, ?_⟩
      simp [move?, htask, numbered]

/-- Tasks that run one by one come to an end. -/
theorem run?_inTurn (htask : ∀ finding, task store schema finding = some (reportOf finding))
    (hpermits : 0 < permits) (findings : List Finding) (first : Nat)
    (finished : List (Nat × Report)) :
    (Pool.mk (findings.zipIdx first) [] finished).run? store schema permits (inTurn findings) =
      some ⟨[], [], finished ++ (findings.zipIdx first).map (numbered reportOf)⟩ := by
  induction findings generalizing first finished with
  | nil => simp [inTurn, run?]
  | cons finding rest ih =>
      have hrest := ih (first + 1) (finished ++ [numbered reportOf (finding, first)])
      have hmoves : inTurn (finding :: rest) = .start :: .finish 0 :: inTurn rest := rfl
      have hstart : (Pool.mk ((finding, first) :: rest.zipIdx (first + 1)) [] finished).move?
          store schema permits .start =
          some ⟨rest.zipIdx (first + 1), [(finding, first)], finished⟩ := by
        simp [move?, hpermits]
      have hfinish : (Pool.mk (rest.zipIdx (first + 1)) [(finding, first)] finished).move?
          store schema permits (.finish 0) =
          some ⟨rest.zipIdx (first + 1), [],
            finished ++ [numbered reportOf (finding, first)]⟩ := by
        simp [move?, htask, numbered]
      rw [List.zipIdx_cons, hmoves, run?, hstart, Option.bind_some, run?, hfinish,
        Option.bind_some, hrest, List.map_cons, List.append_assoc]
      rfl

end Pool

end Validation

/-- One directory with one file, and nothing else. -/
def Surroundings.ofFile (directory name text : String) : Surroundings where
  files := fun path =>
    if path = directory then some (.directory [(name, .file text.toUTF8)]) else none
  environment := fun _ => none

namespace Execution

open Validation

variable {surroundings : Surroundings} {configuration : Configuration} {asked : Option String}
  {schema : Schema} {directory : String} {findings : List Finding}

theorem scan_of_findings (hschema : Execution.schema configuration asked = .ok schema)
    (hfindings : Harvest.ofDirectory surroundings directory = .ok findings)
    (hne : findings ≠ []) (console : Console) (jobs : Nat) (failuresOnly : Bool) :
    scan surroundings configuration asked console directory jobs failuresOnly =
      if Pool.maxPermits < Pool.permits jobs then failed tooManyPermits
      else
        match (Pool.ofFindings findings).run?
          (configuration.store surroundings.environment) schema
          (Pool.permits jobs) (Pool.inTurn findings) with
        | none => failed endless
        | some pool => scanned console failuresOnly pool.reports := by
  have hsome : findings.isEmpty = false := by simpa using hne
  rw [scan, hschema]
  show after (Harvest.ofDirectory surroundings directory) _ = _
  rw [hfindings]
  show (if findings.isEmpty then _ else _) = _
  rw [hsome]
  rfl

/-- A scan shows the reports of all tasks and ends with their outcome. -/
theorem scan_eq_scanned (hschema : Execution.schema configuration asked = .ok schema)
    (hfindings : Harvest.ofDirectory surroundings directory = .ok findings)
    (hne : findings ≠ []) {reportOf : Finding → Report}
    (htask : ∀ finding,
      task (configuration.store surroundings.environment) schema finding =
        some (reportOf finding))
    {jobs : Nat} (hjobs : jobs ≤ Pool.maxPermits) (console : Console) (failuresOnly : Bool) :
    scan surroundings configuration asked console directory jobs failuresOnly =
      scanned console failuresOnly (findings.map reportOf) := by
  have hpermits : ¬Pool.maxPermits < Pool.permits jobs := by
    rw [Pool.maxPermits_lt_permits_iff]
    omega
  have hrun := Pool.run?_inTurn htask (Pool.permits_pos jobs) findings 0 []
  have hreports := Pool.reports_of_run htask hrun rfl
  rw [scan_of_findings hschema hfindings hne, if_neg hpermits, Pool.ofFindings, hrun, ← hreports]

/-- A scan reports on each placeholder what a validation reports on its path, whatever else
the validation validates, with the origin of the placeholder and in the order in which the
placeholders were found.  No order in which its tasks finish changes that or anything that
the scan shows, none of them leads to a standstill, and the scan ends with the number of the invalid placeholders
among all of them, whether the valid ones are shown or not.  All this holds for as many
jobs as a semaphore has permits; with more of them the scan breaks off. -/
theorem scan_reports_like_validation_in_any_order
    (hschema : Execution.schema configuration asked = .ok schema)
    (hfindings : Harvest.ofDirectory surroundings directory = .ok findings)
    (hne : findings ≠ [])
    (hstore : (configuration.store surroundings.environment).Acyclic) :
    ∃ (reportOn : String → Report) (expected : List Report),
      (∀ paths, Validation.reports
        (configuration.store surroundings.environment) schema false paths {} =
          some (paths.map reportOn)) ∧
      expected = findings.map (fun finding =>
        (reportOn finding.placeholder.path).withOrigin finding.file finding.placeholder.key) ∧
      ∀ jobs,
        (jobs ≤ Pool.maxPermits →
          (∀ moves pool, (Pool.ofFindings findings).run?
              (configuration.store surroundings.environment) schema
              (Pool.permits jobs) moves = some pool →
            (pool.isDone = true → pool.reports = expected ∧ ∀ console failuresOnly,
              scanned console failuresOnly pool.reports =
                scan surroundings configuration asked console directory jobs failuresOnly) ∧
            (pool.isDone = false → moves.length < 2 * findings.length ∧
              ∃ move next, pool.move?
                (configuration.store surroundings.environment) schema
                (Pool.permits jobs) move = some next)) ∧
          ∀ console failuresOnly,
            scan surroundings configuration asked console directory jobs failuresOnly =
              { output := console.reports
                  (if failuresOnly then expected.filter (!·.valid) else expected)
                result :=
                  if expected.all (·.valid) then .ok ()
                  else .error
                    (.validationFailed (expected.countP (!·.valid)) findings.length) }) ∧
        (Pool.maxPermits < jobs → ∀ console failuresOnly,
          scan surroundings configuration asked console directory jobs failuresOnly =
            failed tooManyPermits) := by
  obtain ⟨reportOn, hreports⟩ := exists_reportsOn hstore schema false
  have htask := hreports.task
  refine ⟨reportOn, findings.map (reportWithOrigin reportOn),
    fun paths => hreports.reports paths Memory.sound_empty, rfl, ?_⟩
  intro jobs
  refine ⟨fun hjobs => ⟨?_, ?_⟩, ?_⟩
  · intro moves pool hrun
    refine ⟨fun hdone => ?_, fun hnotDone => ?_⟩
    · have hexpected := Pool.reports_of_run htask hrun hdone
      refine ⟨hexpected, fun console failuresOnly => ?_⟩
      rw [scan_eq_scanned hschema hfindings hne htask hjobs, hexpected]
    · have hleft : pool.remaining ≠ 0 := by
        rw [Ne, ← Pool.isDone_iff_remaining, hnotDone]
        decide
      have hremaining := Pool.remaining_of_run hrun
      have hall : (Pool.ofFindings findings).remaining = 2 * findings.length := by
        simp [Pool.ofFindings, Pool.remaining]
      exact ⟨by omega, Pool.exists_move htask (Pool.permits_pos jobs) hnotDone⟩
  · intro console failuresOnly
    rw [scan_eq_scanned hschema hfindings hne htask hjobs, scanned, outcome_eq,
      List.length_map]
  · intro hjobs console failuresOnly
    rw [scan_of_findings hschema hfindings hne, if_pos (Pool.maxPermits_lt_permits_iff.mpr hjobs)]

end Execution

end

namespace Execution

open Validation

/-- Of two tasks at once the second finishes first, and so does a third that begins then. -/
theorem scan_reports_like_validation_when_overtaken :
    ∃ (surroundings : Surroundings) (configuration : Configuration) (schema : Schema)
      (findings : List Finding) (pool : Pool),
      Execution.schema configuration none = .ok schema ∧
      Harvest.ofDirectory surroundings "d" = .ok findings ∧
      (Pool.ofFindings findings).run?
        (configuration.store surroundings.environment) schema (Pool.permits 2)
        [.start, .start, .finish 1, .start, .finish 1, .finish 0] = some pool ∧
      pool.finished.map Prod.fst = [1, 2, 0] ∧
      pool.reports.map (·.path) = ["a/b", "c/b", "a/d"] ∧
      ∀ console failuresOnly,
        (scan surroundings configuration none console "d" 0 failuresOnly).result =
          .error (.validationFailed 1 3) := by
  let surroundings := Surroundings.ofFile "d" "m.yaml" "[<path:a/b#k>, <path:c/b>, <path:a/d>]"
  let configuration : Configuration :=
    { schema := some "$[s]/+", inputs := [.variableSet "s" ["a", "b"]] }
  let schema : Schema := ⟨"$[s]/+", [.set "s", .run 1 1]⟩
  let findings : List Finding :=
    [⟨"d/m.yaml", ⟨"<path:a/b#k>", "a/b", some "k"⟩⟩,
      ⟨"d/m.yaml", ⟨"<path:c/b>", "c/b", none⟩⟩, ⟨"d/m.yaml", ⟨"<path:a/d>", "a/d", none⟩⟩]
  have hschema : Execution.schema configuration none = .ok schema := by decide +kernel
  have hfindings : Harvest.ofDirectory surroundings "d" = .ok findings := by decide +kernel
  have hstore : (configuration.store surroundings.environment).Acyclic :=
    Store.acyclic_of_rank (fun _ => 0) (by decide +kernel)
  obtain ⟨reportOn, expected, hreports, rfl, hscan⟩ :=
    scan_reports_like_validation_in_any_order hschema hfindings (by decide) hstore
  have hmoves : ((Pool.ofFindings findings).run?
      (configuration.store surroundings.environment) schema (Pool.permits 2)
      [.start, .start, .finish 1, .start, .finish 1, .finish 0]).map
        (fun pool => (pool.isDone, pool.finished.map Prod.fst)) = some (true, [1, 2, 0]) := by
    decide +kernel
  obtain ⟨pool, hpool, hend⟩ := Option.map_eq_some_iff.mp hmoves
  obtain ⟨hdone, horder⟩ := Prod.mk.inj hend
  have hvalidated : (Validation.reports
      (configuration.store surroundings.environment) schema false
      ["a/b", "c/b", "a/d"] {}).map (List.map fun report => (report.path, report.valid)) =
        some [("a/b", true), ("c/b", false), ("a/d", true)] := by
    decide +kernel
  rw [hreports] at hvalidated
  simp only [List.map_cons, List.map_nil, Option.map_some, Option.some.injEq,
    List.cons.injEq, Prod.mk.injEq, and_true] at hvalidated
  obtain ⟨hfirst, hsecond, hthird⟩ := hvalidated
  have hinTime := ((hscan 2).1 (by decide)).1 _ pool hpool
  refine ⟨surroundings, configuration, schema, findings, pool, hschema, hfindings, hpool,
    horder, ?_, ?_⟩
  · rw [(hinTime.1 hdone).1]
    simp [findings, Report.withOrigin, hfirst, hsecond, hthird]
  · intro console failuresOnly
    rw [((hscan 0).1 (by decide)).2 console failuresOnly]
    simp [findings, Report.withOrigin, hfirst, hsecond, hthird]

/-- With one job more than a semaphore has permits a scan does not end with the outcome of
its reports. -/
theorem not_every_number_of_jobs_is_scanned :
    ¬∀ (surroundings : Surroundings) (configuration : Configuration) (schema : Schema)
      (findings : List Finding) (jobs : Nat),
      Execution.schema configuration none = .ok schema →
      Harvest.ofDirectory surroundings "d" = .ok findings → findings ≠ [] →
      (configuration.store surroundings.environment).Acyclic →
      ∀ console, ∃ reports,
        Validation.reports (configuration.store surroundings.environment)
          schema false (findings.map (·.placeholder.path)) {} = some reports ∧
        (scan surroundings configuration none console "d" jobs false).result =
          outcome reports := by
  intro h
  let surroundings := Surroundings.ofFile "d" "m.yaml" "k: <path:a/b#c>\n"
  let configuration : Configuration := { schema := some "a/+" }
  have hschema : Execution.schema configuration none =
      .ok ⟨"a/+", [.literal "a", .run 1 1]⟩ := by
    decide +kernel
  have hfindings : Harvest.ofDirectory surroundings "d" =
      .ok [⟨"d/m.yaml", ⟨"<path:a/b#c>", "a/b", some "c"⟩⟩] := by
    decide +kernel
  have hstore : (configuration.store surroundings.environment).Acyclic :=
    Store.acyclic_of_rank (fun _ => 0) (by decide +kernel)
  obtain ⟨reports, -, hresult⟩ := h surroundings configuration _ _
    2305843009213693952 hschema hfindings (by simp) hstore { format := .human }
  rw [scan_of_findings hschema hfindings (by simp), if_pos (by decide)] at hresult
  rw [outcome] at hresult
  split at hresult
  · cases hresult
  · cases hresult

end Execution

end PathSchema
