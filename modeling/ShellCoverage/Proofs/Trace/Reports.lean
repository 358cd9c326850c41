-- SUMMARY: What a trace gives is decided by the file names and lines that its records name.
import ShellCoverage.Proofs.Record.LookAlike
import ShellCoverage.Proofs.Trace.Arrival
import ShellCoverage.Proofs.Trace.Verdict

/-!
# What the records report

Of a record, only the file name and the line are looked at; of noise, nothing is. So two traces
whose records name the same lines of the same files in the same order give the same, however deep
the records are nested, whatever stands behind them and between them, and whether or not the last
line ends.
-/

namespace ShellCoverage

/-! ## Reports -/

/-- The file name and the line that a line of a trace names, if it is a record. -/
def report? (line : Bytes) : Option (Path × Nat) :=
  (Sentinel.standard.classify line).map fun record => (record.filename, record.line)

/-- The file names and lines that the records of a trace name, in order. -/
def reports (trace : Bytes) : List (Path × Nat) :=
  (Bytes.lines trace).filterMap report?

namespace Pass

/-- A pass without the number of its lines and without its events. -/
def quiet (pass : Pass) : Pass :=
  { pass with lines := 0, events := [] }

theorem quiet_eq_quiet_iff {pass pass' : Pass} : pass.quiet = pass'.quiet ↔
    pass.files = pass'.files ∧ pass.records = pass'.records ∧
      pass.skippedDirectories = pass'.skippedDirectories ∧ pass.calls = pass'.calls ∧
      pass.failure = pass'.failure := by
  simp [quiet]

section Quiet

variable {w : Workspace}

theorem quiet_count (pass : Pass) (path : AbsPath) (line lines : Nat) :
    (pass.count path line lines).quiet = pass.quiet.count path line lines := by
  unfold count
  split <;> rfl

theorem quiet_countIn (tree : SourceTree) (pass : Pass) (path : AbsPath) (line : Nat) :
    (pass.countIn tree path line).quiet = (pass.quiet.countIn tree path line).quiet := by
  have hfiles : pass.quiet.files = pass.files := rfl
  cases hsize : (pass.files.get? path).map (·.size) with
  | some lines =>
    simp only [countIn, hfiles, hsize, quiet_count]
    rfl
  | none =>
    cases hlines : tree.lineCount path with
    | error cause =>
      simp only [countIn, hfiles, hsize, hlines]
      rfl
    | ok lines =>
      simp only [countIn, hfiles, hsize, hlines, quiet_count]
      rfl

/-- What a record does to a pass does not depend on lines and events. -/
theorem quiet_record (w : Workspace) (pass : Pass) (record : Record) :
    (pass.record w record).quiet = (pass.quiet.record w record).quiet := by
  cases hpath : record.filename.expand w.tree.root w.workingDirectory with
  | error cause =>
    simp only [Pass.record, hpath]
    rfl
  | ok path =>
    cases hkind : w.tree.pathKind path with
    | directory =>
      simp only [Pass.record, hpath, hkind]
      rfl
    | other =>
      simp only [Pass.record, hpath, hkind]
      rfl
    | file =>
      simp only [Pass.record, hpath, hkind]
      rw [quiet_countIn w.tree (pass.ask _), quiet_countIn w.tree (pass.quiet.ask _)]
      rfl

/-- What a report does to a pass, as far as it is not lines and events. -/
def reportStep (w : Workspace) (pass : Pass) (report : Path × Nat) : Pass :=
  match pass.failure with
  | some _ => pass
  | none => (pass.record w ⟨0, report.1, report.2⟩).quiet

theorem step_of_noise {pass : Pass} {line : Bytes} (hpass : pass.failure = none)
    (hline : Sentinel.standard.classify line = none) :
    pass.step w line =
      ({ pass with lines := pass.lines + 1 } : Pass).emit (.skippingNoise line) := by
  unfold step
  split
  · next error herror =>
    rw [hpass] at herror
    cases herror
  · simp only [hline]

theorem step_of_record {pass : Pass} {line : Bytes} {record : Record} (hpass : pass.failure = none)
    (hline : Sentinel.standard.classify line = some record) :
    pass.step w line = ({ pass with lines := pass.lines + 1 } : Pass).record w record := by
  unfold step
  split
  · next error herror =>
    rw [hpass] at herror
    cases herror
  · simp only [hline]

/-- A line matters to a quiet pass only by what it reports. -/
theorem quiet_step (pass : Pass) (line : Bytes) :
    (pass.step w line).quiet = match report? line with
      | none => pass.quiet
      | some report => pass.quiet.reportStep w report := by
  cases hpass : pass.failure with
  | some error =>
    have hquiet : pass.quiet.failure = some error := hpass
    rw [step_of_failure hpass]
    simp only [reportStep, hquiet]
    split <;> rfl
  | none =>
    cases hrecord : Sentinel.standard.classify line with
    | none =>
      rw [step_of_noise hpass hrecord, report?, hrecord]
      rfl
    | some record =>
      have hquiet : pass.quiet.failure = none := hpass
      rw [step_of_record hpass hrecord, report?, hrecord, Option.map_some, quiet_record]
      simp only [reportStep, hquiet]
      rfl

/-- Up to lines and events, a run does what the reports of its lines do. -/
theorem quiet_foldl_step (lines : List Bytes) (pass : Pass) :
    (lines.foldl (step w) pass).quiet =
      (lines.filterMap report?).foldl (reportStep w) pass.quiet := by
  induction lines generalizing pass with
  | nil => rfl
  | cons line lines ih =>
    rw [List.foldl_cons, ih, quiet_step]
    cases hreport : report? line with
    | none => rw [List.filterMap_cons_none hreport]
    | some report => rw [List.filterMap_cons_some hreport, List.foldl_cons]

/-- Traces that report the same lead to the same quiet pass. -/
theorem quiet_run_of_reports_eq {trace trace' : Bytes} (h : reports trace = reports trace') :
    (run w (Bytes.lines trace)).quiet = (run w (Bytes.lines trace')).quiet := by
  rw [run, run, quiet_foldl_step, quiet_foldl_step]
  exact congrArg (List.foldl _ _) h

theorem unreported_run (w : Workspace) (lines : List Bytes) : (run w lines).Unreported :=
  unreported_start.foldl_step w.live lines

end Quiet

end Pass

/-! ## Traces with the same reports -/

theorem report?_append_lineFeed (line : Bytes) :
    report? (line ++ [Bytes.lineFeed]) = report? line :=
  congrArg (Option.map _) (Template.plain_standard.classify_append_lineFeed line)

/-- Behind complete lines the reports begin anew. -/
theorem reports_append {front : Bytes} (hfront : front.EndsLine) (back : Bytes) :
    reports (front ++ back) = reports front ++ reports back := by
  rw [reports, Bytes.lines_append hfront, List.filterMap_append]
  rfl

/-- It does not matter whether the last line ends. -/
theorem reports_append_lineFeed (trace : Bytes) :
    reports (trace ++ [Bytes.lineFeed]) = reports trace := by
  obtain ⟨tail, htail, htrace⟩ := Bytes.exists_tail_completePart trace
  have hends := Bytes.endsLine_completePart trace
  have hlast : reports (tail ++ [Bytes.lineFeed]) = reports tail := by
    rw [reports, reports, Bytes.lines_append_lineFeed htail, Bytes.lines_of_notMem htail]
    split
    · next hnil =>
      subst hnil
      decide +kernel
    · rw [List.filterMap_cons, List.filterMap_cons, report?_append_lineFeed]
      rfl
  rw [← htrace, List.append_assoc, reports_append hends, reports_append hends, hlast]

/-- Traces with the same reports give the same map or the same error, by the same calls. On success
as many records are counted, directories skipped and files tracked. A line feed at the end changes
no report. -/
theorem Workspace.aggregate_of_reports_eq (w : Workspace) {trace trace' : Bytes}
    (h : reports trace = reports trace') :
    let outcome := w.aggregate [.chunk trace]
    let outcome' := w.aggregate [.chunk trace']
    outcome.result = outcome'.result ∧ outcome.calls = outcome'.calls ∧
    (∀ map, outcome.result = .ok map → ∃ totals totals',
      outcome.summaries = [totals] ∧ outcome'.summaries = [totals'] ∧
      totals.records = totals'.records ∧
      totals.skippedDirectories = totals'.skippedDirectories ∧ totals.files = totals'.files) ∧
    reports (trace ++ [Bytes.lineFeed]) = reports trace := by
  intro outcome outcome'
  have houtcome : outcome = _ := w.aggregate_chunk trace
  have houtcome' : outcome' = _ := w.aggregate_chunk trace'
  obtain ⟨hfiles, hrecords, hskipped, hcalls, hfailure⟩ :=
    Pass.quiet_eq_quiet_iff.1 (Pass.quiet_run_of_reports_eq (w := w) h)
  have hresult : (Pass.run w (Bytes.lines trace)).result none =
      (Pass.run w (Bytes.lines trace')).result none := by
    unfold Pass.result
    rw [hfiles, hfailure]
  rw [houtcome, houtcome']
  refine ⟨hresult, congrArg List.reverse hcalls, ?_, reports_append_lineFeed trace⟩
  intro map hmap
  change Pass.result _ none = _ at hmap
  refine ⟨(Pass.run w (Bytes.lines trace)).summary, (Pass.run w (Bytes.lines trace')).summary,
    ?_, ?_, hrecords, hskipped, congrArg CoverageMap.size hfiles⟩
  · rw [(Pass.unreported_run w _).summaries_finish, hmap]
  · rw [(Pass.unreported_run w _).summaries_finish, ← hresult, hmap]

/-- A record that is nested, with other text behind it and noise around it that is no text. -/
theorem Workspace.aggregate_of_reports_eq_noise :
    let trace := Bytes.ofString "+BASHCOV> /a.sh/1 BASHCOV: x"
    let trace' := [0xff, 0x00] ++ Bytes.ofString "\n+++BASHCOV> /a.sh/01 BASHCOV: y z\n+BASHCOV> \n"
    let w : Workspace := ⟨⟨⟨[Bytes.slash]⟩, fun _ => .file, fun _ => .ok 1⟩, none⟩
    reports trace = reports trace' ∧
    (w.aggregate [.chunk trace]).result = (w.aggregate [.chunk trace']).result ∧
    (w.aggregate [.chunk trace]).calls = (w.aggregate [.chunk trace']).calls ∧
    reports trace = [(.ofString "/a.sh", 1)] := by
  intro trace trace' w
  have h : reports trace = reports trace' := by decide +kernel
  have haggregate := w.aggregate_of_reports_eq h
  exact ⟨h, haggregate.1, haggregate.2.1, by decide +kernel⟩

end ShellCoverage
