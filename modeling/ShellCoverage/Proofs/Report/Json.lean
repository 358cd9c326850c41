-- SUMMARY: A map has a JSON report exactly if the paths of all its files are text.
import ShellCoverage.Proofs.Text.Utf8
import ShellCoverage.Report

/-!
# Which maps have a JSON report

Every map has a text report. A single file whose path is no text leaves a map without a JSON report,
wherever the file stands among the others.
-/

namespace ShellCoverage

namespace CoverageMap

theorem member?_eq_none_iff {e : Entry} : member? e = none ↔ ¬e.1.toPath.bytes.IsText := by
  rw [Bytes.isText_iff, member?, Option.map_eq_none_iff, Option.not_isSome_iff_eq_none]

/-- A map has no JSON form exactly if the path of one of its files is no text. -/
theorem toJson_eq_error_iff {m : CoverageMap} {error : JsonError} :
    m.toJson = .error error ↔ ∃ e ∈ m.entries, ¬e.1.toPath.bytes.IsText := by
  simp only [← member?_eq_none_iff, ← mapM_eq_none_iff, toJson]
  cases m.entries.mapM member? <;> cases error <;> simp

theorem report_json_eq_error_iff {m : CoverageMap} {error : JsonError} :
    m.report .json = .error error ↔ ∃ e ∈ m.entries, ¬e.1.toPath.bytes.IsText := by
  rw [← @toJson_eq_error_iff m error]
  simp only [report, prettyJson]
  cases m.toJson <;> simp [Except.map]

/-- A map is reported as text always, and as JSON if the paths of all its files are text. -/
theorem exists_report_iff {m : CoverageMap} {format : ReportFormat} :
    (∃ text, m.report format = .ok text) ↔
      (format = .json → ∀ e ∈ m.entries, e.1.toPath.bytes.IsText) := by
  cases format with
  | text => simp [report]
  | json =>
    have hnone : (∀ e ∈ m.entries, e.1.toPath.bytes.IsText) ↔
        ¬m.report .json = .error .pathNotText := by
      rw [report_json_eq_error_iff]
      simp only [not_exists, not_and, not_not]
    rw [hnone]
    cases m.report .json with
    | ok text => simp
    | error error =>
      cases error
      simp

end CoverageMap

end ShellCoverage
