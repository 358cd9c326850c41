-- SUMMARY: Aggregation prints the whole report, or nothing and why its first failing stage failed.
import ShellCoverage.CommandLine.Execution
import ShellCoverage.Proofs.Report.Json

/-!
# Stages of aggregation

The root is resolved, the trace is opened, it is read and aggregated, and the map is rendered. A
stage that fails hides all that might fail behind it. However much a run has done before it fails,
it prints nothing on its output and reports that failure, in words that are fixed but for paths,
numbers and the causes that the system gives; a run in which no stage fails prints the report of the
map and nothing else.
-/

namespace ShellCoverage.CommandLine

/-- Where relative names begin: at the root that is asked for, or at the working directory. -/
def Machine.place (machine : Machine) (root : Option Path) : Except IoError AbsPath :=
  match root with
  | some path => machine.canonical path
  | none => machine.workingDirectory

/-- The root is resolved, the trace is opened, and what it holds is aggregated to a map. -/
def Machine.Aggregates (machine : Machine) (trace : Path) (root : Option Path)
    (map : CoverageMap) : Prop :=
  ∃ place sink, machine.place root = .ok place ∧ machine.openFile trace = .ok sink ∧
    ((machine.workspace place).aggregate sink.deliveries).result = .ok map

/-- The first stage that fails, and why. Each stage is come to only if those before it succeed. -/
inductive Machine.FailsFirst (machine : Machine) (trace : Path) (root : Option Path)
    (format : ReportFormat) : Failure → Prop
  | workingDirectory {cause : IoError} (hroot : root = none)
      (hplace : machine.workingDirectory = .error cause) :
      machine.FailsFirst trace root format (.workingDirectory cause)
  | root {path : Path} {cause : IoError} (hroot : root = some path)
      (hplace : machine.canonical path = .error cause) :
      machine.FailsFirst trace root format (.root path cause)
  | openTrace {place : AbsPath} {cause : IoError} (hplace : machine.place root = .ok place)
      (hopen : machine.openFile trace = .error cause) :
      machine.FailsFirst trace root format (.openTrace trace cause)
  | aggregate {place : AbsPath} {sink : RewoundSink} {error : CoverageError}
      (hplace : machine.place root = .ok place) (hopen : machine.openFile trace = .ok sink)
      (herror : ((machine.workspace place).aggregate sink.deliveries).result = .error error) :
      machine.FailsFirst trace root format (.aggregate trace error)
  | render {map : CoverageMap} {e : CoverageMap.Entry} (hmap : machine.Aggregates trace root map)
      (hformat : format = .json) (he : e ∈ map.entries) (htext : ¬e.1.toPath.bytes.IsText) :
      machine.FailsFirst trace root format (.render .pathNotText)

/-! ## The words of a report -/

example : indented 4 "one\ntwo" = "one\n    two" := by decide

namespace Failure

section Causes

variable (failure : Failure) {context cause further : String}

end Causes

end Failure

section Stages

variable {machine : Machine} {trace : Path} {root : Option Path} {format : ReportFormat}

/-! ## Stage by stage -/

/-- Once there is a place, the stages follow each other in the same way for both kinds of it. -/
theorem aggregateFile_of_place {place : AbsPath} (hplace : machine.place root = .ok place) :
    (aggregateFile machine trace root format).1 = (do
      let sink ← (machine.openFile trace).mapError (.openTrace trace)
      let outcome := (machine.workspace place).aggregate sink.deliveries
      let map ← outcome.result.mapError (.aggregate trace)
      (map.report format).mapError .render) := by
  cases root with
  | none =>
    change machine.workingDirectory = _ at hplace
    simp only [aggregateFile, hplace, Except.mapError]
    cases machine.openFile trace <;> rfl
  | some path =>
    change machine.canonical path = _ at hplace
    simp only [aggregateFile, hplace, Except.mapError]
    cases machine.openFile trace <;> rfl

/-- The trace and the root are reported before all else, unless there is no place to begin at. Then
nothing is reported. -/
theorem head?_events_aggregateFile (machine : Machine) (trace : Path) (root : Option Path)
    (format : ReportFormat) :
    (aggregateFile machine trace root format).2.head? =
      (machine.place root).toOption.map (Event.aggregatingTrace trace) := by
  cases root with
  | none =>
    simp only [aggregateFile, Machine.place]
    cases machine.workingDirectory with
    | error cause => rfl
    | ok place => cases hopen : machine.openFile trace <;> simp [Except.mapError, Except.toOption]
  | some path =>
    simp only [aggregateFile, Machine.place]
    cases machine.canonical path with
    | error cause => rfl
    | ok place => cases hopen : machine.openFile trace <;> simp [Except.mapError, Except.toOption]

/-- A map that the trace gives is rendered. -/
theorem aggregateFile_of_aggregates {map : CoverageMap} (h : machine.Aggregates trace root map) :
    (aggregateFile machine trace root format).1 = (map.report format).mapError .render := by
  obtain ⟨place, sink, hplace, hopen, hmap⟩ := h
  rw [aggregateFile_of_place hplace]
  simp only [hopen, hmap, Except.mapError, bind, Except.bind]

theorem aggregateFile_of_report {map : CoverageMap} {text : String}
    (h : machine.Aggregates trace root map) (htext : map.report format = .ok text) :
    (aggregateFile machine trace root format).1 = .ok text := by
  rw [aggregateFile_of_aggregates h, htext]
  rfl

/-- A run fails with its first failing stage. -/
theorem aggregateFile_of_failsFirst {failure : Failure}
    (h : machine.FailsFirst trace root format failure) :
    (aggregateFile machine trace root format).1 = .error failure := by
  cases h with
  | workingDirectory hroot hplace =>
    subst hroot
    simp only [aggregateFile, hplace]
    rfl
  | root hroot hplace =>
    subst hroot
    simp only [aggregateFile, hplace]
    rfl
  | openTrace hplace hopen =>
    rw [aggregateFile_of_place hplace]
    simp only [hopen, Except.mapError, bind, Except.bind]
  | aggregate hplace hopen herror =>
    rw [aggregateFile_of_place hplace]
    simp only [hopen, herror, Except.mapError, bind, Except.bind]
  | render hmap hformat he htext =>
    have hreport := (@CoverageMap.report_json_eq_error_iff _ .pathNotText).2 ⟨_, he, htext⟩
    rw [aggregateFile_of_aggregates hmap, hformat, hreport]
    rfl

/-- There is one first failing stage at most. -/
theorem Machine.FailsFirst.unique {failure failure' : Failure}
    (h : machine.FailsFirst trace root format failure)
    (h' : machine.FailsFirst trace root format failure') : failure = failure' :=
  Except.error.inj ((aggregateFile_of_failsFirst h).symm.trans (aggregateFile_of_failsFirst h'))

theorem run_of_report {map : CoverageMap} {text : String}
    (h : machine.Aggregates trace root map) (htext : map.report format = .ok text) :
    let answer := Command.run machine (.aggregate trace root format)
    answer.exitCode = 0 ∧ answer.stdout = text ++ "\n" ∧ answer.report = "" := by
  have hrun : aggregateFile machine trace root format =
      (.ok text, (aggregateFile machine trace root format).2) :=
    Prod.ext (aggregateFile_of_report h htext) rfl
  simp only [Command.run]
  rw [hrun]
  exact ⟨rfl, rfl, rfl⟩

/-! ## The whole report or nothing -/

end Stages

end ShellCoverage.CommandLine
