-- SUMMARY: A line gets its verdict by the answers of its time, if the source tree may change.
import ShellCoverage.Proofs.Trace.Arrival
import ShellCoverage.Proofs.Trace.Calls

/-!
# Verdicts while the source tree changes

A file has the number of lines that the source tree told when the file was first named, and it is
not asked again. Thus the counters of a pass remember that answer, and whatever the source tree
would tell now, a pass does what the remembered answer calls for.
-/

namespace ShellCoverage

/-! ## What a pass remembers -/

/-- The workspace in which a file with counters has as many lines as counters. -/
def Workspace.remembering (w : Workspace) (files : CoverageMap) : Workspace :=
  { w with
    tree := { w.tree with
      lineCount := fun path => match files.get? path with
        | some hits => .ok hits.size
        | none => w.tree.lineCount path } }

namespace Pass

/-- A workspace that remembers agrees with the counters there are. -/
theorem sized_remembering (pass : Pass) (w : Workspace) :
    pass.Sized (w.remembering pass.files).tree := by
  intro path hits hget
  simp only [Workspace.remembering, hget]

theorem countIn_remembering (w : Workspace) (pass : Pass) (path : AbsPath) (line : Nat) :
    pass.countIn (w.remembering pass.files).tree path line = pass.countIn w.tree path line := by
  cases hget : pass.files.get? path with
  | none => simp only [countIn, Workspace.remembering, hget, Option.map_none]
  | some hits => simp only [countIn, hget, Option.map_some]

/-- A pass never asks again for the lines of a file with counters, so remembering them changes
nothing. -/
theorem record_remembering (w : Workspace) (pass : Pass) (record : Record) :
    pass.record (w.remembering pass.files) record = pass.record w record := by
  cases hpath : record.filename.expand w.tree.root w.workingDirectory with
  | error cause => simp only [Pass.record, Workspace.remembering, hpath]
  | ok path =>
    cases hkind : w.tree.pathKind path with
    | directory | other => simp only [Pass.record, Workspace.remembering, hpath, hkind]
    | file =>
      simp only [Pass.record, Workspace.remembering, hpath, hkind]
      exact countIn_remembering w (pass.ask (.pathKind path)) path record.line

/-- The lines of a file with counters are not asked for, so the answer does not matter. -/
theorem step_remembering (w : Workspace) (pass : Pass) (line : Bytes) :
    pass.step (w.remembering pass.files) line = pass.step w line := by
  unfold step
  split
  · rfl
  · dsimp only
    split
    · rfl
    · next record _ => exact record_remembering w { pass with lines := pass.lines + 1 } record

end Pass

/-! ## Verdicts -/

namespace LiveWorkspace

/-- The verdict on a line by the answers of its time. -/
def verdict (w : LiveWorkspace) (pass : Pass) (line : Bytes) : Verdict :=
  ((w.behind pass.calls).remembering pass.files).verdict line

/-- The files that lines name, each by the answers of its time. -/
def named (w : LiveWorkspace) (pass : Pass) : List Bytes → List AbsPath
  | [] => []
  | line :: lines =>
    ((w.behind pass.calls).file? line).toList ++ w.named (w.step pass line) lines

section Verdict

variable {w : LiveWorkspace} {pass : Pass} {line : Bytes}

/-- A step does what the verdict of its time says. -/
theorem step_eq_apply (h : pass.failure = none) (w : LiveWorkspace) (line : Bytes) :
    w.step pass line = pass.apply line (w.verdict pass line) := by
  rw [step, ← Pass.step_remembering]
  exact Pass.step_eq_apply h (pass.sized_remembering _) line

/-- A visit names a slot of a file, which has counters for all of its lines if it has any. -/
theorem size_of_verdict {path : AbsPath} {slot lines : Nat}
    (h : w.verdict pass line = .visit path slot lines) :
    slot < lines ∧ ∀ hits, pass.files.get? path = some hits → hits.size = lines := by
  obtain ⟨-, hlines, hslot⟩ := Workspace.lineCount_of_verdict h
  refine ⟨hslot, fun hits hget => ?_⟩
  have hsize := pass.sized_remembering (w.behind pass.calls) path hits hget
  rw [hlines] at hsize
  exact (Except.ok.inj hsize).symm

theorem failure_of_failure_step (h : (w.step pass line).failure = none) : pass.failure = none := by
  cases hfailure : pass.failure with
  | none => rfl
  | some error =>
    rw [step_of_failure (by rw [hfailure]; rfl), hfailure] at h
    cases h

theorem map_fst_visit?_verdict (h : (w.verdict pass line).offence? = none) :
    (w.verdict pass line).visit?.map Prod.fst = (w.behind pass.calls).file? line :=
  Workspace.map_fst_visit?_verdict h

theorem named_append_singleton (w : LiveWorkspace) (pass : Pass) (lines : List Bytes)
    (line : Bytes) :
    w.named pass (lines ++ [line]) = w.named pass lines ++
      ((w.behind (lines.foldl w.step pass).calls).file? line).toList := by
  induction lines generalizing pass with
  | nil => simp [named]
  | cons other lines ih => simp [named, ih]

end Verdict

end LiveWorkspace

/-- If the source tree does not change, it makes no difference when a line names a file. -/
theorem Workspace.named_live (w : Workspace) (pass : Pass) (lines : List Bytes) :
    w.live.named pass lines = lines.filterMap w.file? := by
  induction lines generalizing pass with
  | nil => rfl
  | cons line lines ih =>
    rw [LiveWorkspace.named, ih, List.filterMap_cons]
    change (w.file? line).toList ++ _ = _
    cases w.file? line <;> rfl

end ShellCoverage
