import PathSchema.Proofs.Pool
import PathSchema.Pattern.Engine

/-!
# Paths of a batch

The paths of a command line share what is remembered of members of sets.  Still each of
them is reported on as if its schema were compiled for it and nothing else were validated:
its report is a function of the path, wherever in the batch the path stands and however
often.  The command ends with the number of the invalid paths among all of them.  How it is
asked to write decides about the text and the messages only, and a console that is quiet
still tells people of every invalid path.
-/

namespace PathSchema

namespace Validation

/-- The fault of a path that is invalid. -/
def fault? : Except Fault Unit → Option Fault
  | .ok () => none
  | .error fault => some fault

end Validation

open Validation

/-- The report tells what the result of validating a path is.  Only its message is left open. -/
structure Report.TellsOf (report : Report) (path : String) (result : Except Fault Unit) :
    Prop where
  path_eq : report.path = path
  valid_iff : report.valid = true ↔ result = .ok ()
  kind_eq : report.kind = (fault? result).map (·.kind.name)
  constraint_eq : report.constraint = (fault? result).bind Fault.constraintIndex?
  noOrigin : report.file = none ∧ report.key = none

namespace Report

theorem ofResult_tellsOf (path : String) (detailed : Bool) (result : Except Fault Unit) :
    (ofResult path detailed result).TellsOf path result := by
  cases result with
  | ok done => exact ⟨rfl, ⟨fun _ => rfl, fun _ => rfl⟩, rfl, rfl, rfl, rfl⟩
  | error fault => exact ⟨rfl, by simp [ofResult], rfl, rfl, rfl, rfl⟩

theorem valid_ofResult (path : String) (detailed : Bool) (result : Except Fault Unit) :
    (ofResult path detailed result).valid = result.isOk := by
  cases result <;> rfl

end Report

/-- A command that validated some paths counts those whose result is a fault. -/
theorem Validation.outcome_ofResults (resultOf : String → Except Fault Unit) (detailed : Bool)
    (paths : List String) :
    outcome (paths.map fun path => Report.ofResult path detailed (resultOf path)) =
      if paths.all fun path => (resultOf path).isOk then .ok ()
      else .error (.validationFailed
        (paths.countP fun path => !(resultOf path).isOk) paths.length) := by
  rw [outcome_eq, List.all_map, List.countP_map, List.length_map]
  simp only [Function.comp_def, Report.valid_ofResult]

namespace Console

variable {console : Console}

def faultLine (color : Bool) (path : String) (fault : Fault) : String :=
  let text := "✗ " ++ path ++ ": " ++ fault.rootCause.message
  line (if color then Ink.red.paint text else "ERROR: " ++ text)

/-- The line on a path that was validated.  Only that on a valid path is left out when
quiet. -/
def resultLine (console : Console) (path : String) : Except Fault Unit → String
  | .ok () => console.success ("✓ " ++ path)
  | .error fault => faultLine console.color path fault

theorem info_of_quiet (hquiet : console.quiet = true) (text : String) :
    console.info text = "" := by
  rw [info, chatter, if_pos hquiet]

theorem success_of_quiet (hquiet : console.quiet = true) (text : String) :
    console.success text = "" := by
  rw [success, chatter, if_pos hquiet]

theorem report_ofResult (hhuman : console.format = .human) (path : String)
    (result : Except Fault Unit) :
    console.report (Report.ofResult path false result) = console.resultLine path result := by
  cases result with
  | ok done => rfl
  | error fault =>
      show console.error ("✗ " ++ path ++ ": " ++ fault.rootCause.message) = _
      rw [error, forPeople, if_pos hhuman]
      rfl

theorem reports_ofResults (hhuman : console.format = .human)
    (resultOf : String → Except Fault Unit) (paths : List String) :
    console.reports (paths.map fun path => Report.ofResult path false (resultOf path)) =
      String.join (paths.map fun path => console.resultLine path (resultOf path)) := by
  rw [reports, if_pos hhuman, List.map_map]
  simp only [Function.comp_def, report_ofResult hhuman]

theorem reports_of_ne_human (h : console.format ≠ .human) (reports : List Report) :
    console.reports reports =
      line (console.format.print (.list (reports.map Report.toDocument))) := by
  rw [Console.reports, if_neg h, OutputFormat.printReports, if_neg h]

theorem join_resultLines (hquiet : console.quiet = true)
    (resultOf : String → Except Fault Unit) (paths : List String) :
    String.join (paths.map fun path => console.resultLine path (resultOf path)) =
      String.join (paths.filterMap fun path =>
        (fault? (resultOf path)).map (faultLine console.color path)) := by
  induction paths with
  | nil => rfl
  | cons path rest ih =>
      rw [List.map_cons, String.join_cons, ih]
      cases hresult : resultOf path with
      | ok done =>
          rw [List.filterMap_cons_none (by rw [hresult]; rfl), resultLine,
            success_of_quiet hquiet, String.empty_append]
      | error fault =>
          rw [List.filterMap_cons_some (by rw [hresult]; rfl), String.join_cons, resultLine]

end Console

section

variable [RegexLibrary]

namespace Validation

/-- The result of compiling a schema for one path and validating nothing else with it; there
is none if sets nest without end. -/
def single? (store : Store) (text path : String) : Option (Except Fault Unit) :=
  match Schema.ofText text with
  | .error fault => some (.error fault)
  | .ok schema => ((schema.validate store Registry.builtin path).run {}).map Prod.fst

theorem ResultsIn.single?_eq {store : Store} {text : String} {schema : Schema}
    {resultOf : String → Except Fault Unit} (h : ResultsIn store schema resultOf)
    (hschema : Schema.ofText text = .ok schema) (path : String) :
    single? store text path = some (resultOf path) := by
  obtain ⟨after, -, hrun⟩ := h path {} Memory.sound_empty
  rw [single?, hschema]
  show ((schema.validate store Registry.builtin path).run {}).map Prod.fst = _
  rw [hrun]
  rfl

end Validation

namespace Execution

variable {surroundings : Surroundings} {configuration : Configuration} {asked : Option String}
  {text : String} {schema : Schema}

/-- A validation writes what it is going to do and then its reports, and ends with their
outcome. -/
theorem validate_of_reports (htext : configuration.schemaText asked = .ok text)
    (hschema : Schema.ofText text = .ok schema) {paths : List String} {detailed : Bool}
    {reports : List Report}
    (hreports : Validation.reports
      (configuration.store surroundings.environment) schema detailed paths {} =
        some reports) (console : Console) :
    validate surroundings configuration asked console paths detailed =
      { output :=
          console.info ("Validating " ++ Decimal.render paths.length ++ " path(s) against " ++
            text) ++
          (if detailed && console.format = .human then
            console.heading "Validation Results" ++
              Console.line (console.format.printReports reports)
          else console.reports reports)
        result := outcome reports } := by
  obtain ⟨rfl, -⟩ := Schema.ofText_eq_ok_iff.mp hschema
  have hknown : Execution.schema configuration asked = .ok schema := by
    rw [Execution.schema, htext]
    show (Schema.ofText schema.source).mapError Failure.schema = _
    rw [hschema]
    rfl
  rw [validate, hknown]
  show writing _ _ = _
  rw [hreports]
  rfl

/-- Every path of a batch is reported on by itself: what the report tells is the result of
compiling the schema for that path and validating nothing else, wherever in the batch the
path stands and however often, so other orders of the paths only order the reports anew.
The command ends well exactly if all paths are valid, and else with the number of the
invalid ones among all.  How much is told, and in which format, decides about messages and
about what is written; but people who do not ask for details are told of every invalid path,
in the order of the paths, and when quiet of nothing else. -/
theorem validate_reports_each_path_by_itself
    (htext : configuration.schemaText asked = .ok text)
    (hschema : Schema.ofText text = .ok schema)
    (hstore : (configuration.store surroundings.environment).Acyclic) :
    ∃ resultOf : String → Except Fault Unit,
      (∀ path, single? (configuration.store surroundings.environment)
        text path = some (resultOf path)) ∧
      ∀ detailed, ∃ reportOn : String → Report,
        (∀ path, (reportOn path).TellsOf path (resultOf path)) ∧
        ∀ paths,
          Validation.reports
            (configuration.store surroundings.environment) schema detailed
            paths {} = some (paths.map reportOn) ∧
          ∀ console, ∃ output,
            validate surroundings configuration asked console paths detailed =
              { output :=
                  console.info ("Validating " ++ Decimal.render paths.length ++
                    " path(s) against " ++ text) ++ output
                result :=
                  if paths.all fun path => (resultOf path).isOk then .ok ()
                  else .error (.validationFailed
                    (paths.countP fun path => !(resultOf path).isOk) paths.length) } ∧
            (console.format ≠ .human →
              output = Console.line (console.format.print
                (.list (paths.map fun path => (reportOn path).toDocument)))) ∧
            (console.format = .human → detailed = false →
              output = String.join (paths.map fun path =>
                console.resultLine path (resultOf path)) ∧
              (console.quiet = true →
                (validate surroundings configuration asked console paths detailed).output =
                  String.join (paths.filterMap fun path =>
                    (fault? (resultOf path)).map (Console.faultLine console.color path)))) := by
  obtain ⟨resultOf, hresults⟩ := exists_resultsIn hstore schema
  refine ⟨resultOf, hresults.single?_eq hschema, fun detailed => ?_⟩
  refine ⟨fun path => Report.ofResult path detailed (resultOf path),
    fun path => Report.ofResult_tellsOf path detailed (resultOf path), fun paths => ?_⟩
  have hreports := (hresults.reportsOn detailed).reports paths Memory.sound_empty
  refine ⟨hreports, fun console => ?_⟩
  have hvalidate := validate_of_reports htext hschema hreports console
  rw [outcome_ofResults] at hvalidate
  refine ⟨_, hvalidate, ?_, ?_⟩
  · intro hformat
    rw [if_neg (by simp [hformat]), Console.reports_of_ne_human hformat, List.map_map]
    rfl
  · rintro hhuman rfl
    refine ⟨Console.reports_ofResults hhuman resultOf paths, fun hquiet => ?_⟩
    rw [hvalidate]
    show _ ++ console.reports _ = _
    rw [Console.info_of_quiet hquiet, String.empty_append, Console.reports_ofResults hhuman,
      Console.join_resultLines hquiet]

end Execution

end

namespace Execution

/-- The second path is reported on after the members were compiled for the first one, and the
first path again after that. -/
theorem validate_reports_each_path_by_itself_when_quiet :
    ∃ (surroundings : Surroundings) (configuration : Configuration) (schema : Schema),
      configuration.schemaText none = .ok "$v/$[s]" ∧
      Schema.ofText "$v/$[s]" = .ok schema ∧
      (configuration.store surroundings.environment).Acyclic ∧
      (∀ console detailed,
        (validate surroundings configuration none console ["a/b/d", "a/b/c", "a/b/d"]
          detailed).result = .error (.validationFailed 2 3)) ∧
      (validate surroundings configuration none ⟨.human, false, true⟩
        ["a/b/d", "a/b/c", "a/b/d"] false).output =
          "ERROR: ✗ a/b/d: No member of variable set 's' matched (tried 2)\n" ++
          "ERROR: ✗ a/b/d: No member of variable set 's' matched (tried 2)\n" := by
  let surroundings : Surroundings :=
    { files := fun _ => none
      environment := fun source => if source = "APP" then some "a/b" else none }
  let configuration : Configuration :=
    { schema := some "$v/$[s]"
      inputs := [.environment "v" "APP", .variableSet "s" ["c", "+{2}"]] }
  have hschema : Schema.ofText "$v/$[s]" = .ok ⟨"$v/$[s]", [.var "v" [], .set "s"]⟩ := by
    decide +kernel
  have hstore : (configuration.store surroundings.environment).Acyclic :=
    Store.acyclic_of_rank (fun _ => 0) (by decide +kernel)
  obtain ⟨resultOf, hsingle, hreports⟩ :=
    @validate_reports_each_path_by_itself _ surroundings configuration none _ _ rfl hschema hstore
  have hvalid : resultOf "a/b/c" = .ok () :=
    Option.some.inj ((hsingle "a/b/c").symm.trans (by decide +kernel))
  have hinvalid : resultOf "a/b/d" =
      .error (.atConstraint 1 "VariableSet($[s])" "a/b/d" (.noMemberMatched "s" 2)) :=
    Option.some.inj ((hsingle "a/b/d").symm.trans (by decide +kernel))
  refine ⟨surroundings, configuration, _, rfl, hschema, hstore, ?_, ?_⟩
  · intro console detailed
    obtain ⟨reportOn, -, hpaths⟩ := hreports detailed
    obtain ⟨output, hvalidate, -⟩ := (hpaths ["a/b/d", "a/b/c", "a/b/d"]).2 console
    rw [hvalidate]
    simp [hvalid, hinvalid, Except.isOk, Except.toBool]
  · obtain ⟨reportOn, -, hpaths⟩ := hreports false
    obtain ⟨output, -, -, hhuman⟩ :=
      (hpaths ["a/b/d", "a/b/c", "a/b/d"]).2 ⟨.human, false, true⟩
    rw [(hhuman rfl rfl).2 rfl]
    simp only [List.filterMap_cons, List.filterMap_nil, hvalid, hinvalid, fault?,
      Option.map_some, Option.map_none]
    decide +kernel

end Execution

end PathSchema
