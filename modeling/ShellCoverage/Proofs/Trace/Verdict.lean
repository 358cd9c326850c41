-- SUMMARY: What a line does to a pass is decided by the line and the answers of the workspace alone.
import ShellCoverage.Aggregation

/-!
# Verdicts

A pass decides what to do with a line step by step, and what it has counted so far has a say in it:
a file that has counters is not counted again. The verdict on a line looks at the line and at the
answers of the workspace only. As long as every file has as many counters as it has lines, a step of
a pass does what the verdict says.
-/

namespace ShellCoverage

/-- What a line of a trace amounts to. -/
inductive Verdict where
  /-- The line is no record. -/
  | noise
  /-- It is not known which file the record names. -/
  | unlocated (name : Path) (cause : IoError)
  /-- The record names a directory. -/
  | directory (path : AbsPath)
  /-- The record names neither a file nor a directory. -/
  | notAFile (path : AbsPath)
  /-- The lines of the file cannot be counted. -/
  | uncounted (path : AbsPath) (cause : IoError)
  /-- The record names a line behind the last one of its file. -/
  | outOfRange (path : AbsPath) (line lines : Nat)
  /-- The record names a line of a file that has `lines` lines. -/
  | visit (path : AbsPath) (slot lines : Nat)

namespace Verdict

def offence? : Verdict → Option CoverageError
  | .noise | .directory _ | .visit .. => none
  | .unlocated name cause => some (.io name cause)
  | .notAFile path => some (.notAFile path.toPath)
  | .uncounted path cause => some (.io path.toPath cause)
  | .outOfRange path line lines => some (.lineOutOfRange path.toPath line lines)

def visit? : Verdict → Option (AbsPath × Nat)
  | .visit path slot _ => some (path, slot)
  | _ => none

end Verdict

namespace Workspace

/-- The verdict on a record. Line 0 stands for line 1. -/
def judge (w : Workspace) (record : Record) : Verdict :=
  match record.filename.expand w.tree.root w.workingDirectory with
  | .error cause => .unlocated record.filename cause
  | .ok path =>
    match w.tree.pathKind path with
    | .directory => .directory path
    | .other => .notAFile path
    | .file =>
      match w.tree.lineCount path with
      | .error cause => .uncounted path cause
      | .ok lines =>
        if lines < max record.line 1 then .outOfRange path record.line lines
        else .visit path (max record.line 1 - 1) lines

def verdict (w : Workspace) (line : Bytes) : Verdict :=
  match Sentinel.standard.classify line with
  | none => .noise
  | some record => w.judge record

def offence? (w : Workspace) (line : Bytes) : Option CoverageError :=
  (w.verdict line).offence?

def visits (w : Workspace) (lines : List Bytes) : List (AbsPath × Nat) :=
  lines.filterMap fun line => (w.verdict line).visit?

/-- A visit names a slot of a file of the source tree. -/
theorem lineCount_of_verdict {w : Workspace} {line : Bytes} {path : AbsPath} {slot lines : Nat}
    (h : w.verdict line = .visit path slot lines) :
    w.tree.pathKind path = .file ∧ w.tree.lineCount path = .ok lines ∧ slot < lines := by
  unfold verdict at h
  split at h
  · cases h
  · unfold judge at h
    split at h <;> try cases h
    split at h <;> try cases h
    next path' hkind =>
      split at h
      · cases h
      · next lines' hlines =>
        split at h
        · cases h
        · next hrange =>
          cases h
          exact ⟨hkind, hlines, by omega⟩

theorem slot_of_visit?_judge {w : Workspace} {record : Record} {path : AbsPath} {slot : Nat}
    (h : (w.judge record).visit? = some (path, slot)) : slot = max record.line 1 - 1 := by
  unfold judge at h
  split at h
  · cases h
  · split at h
    · cases h
    · cases h
    · split at h
      · cases h
      · split at h
        · cases h
        · cases h
          rfl

end Workspace

namespace Pass

/-- Every file with counters has one for each of its lines. -/
def Sized (pass : Pass) (tree : SourceTree) : Prop :=
  ∀ path hits, pass.files.get? path = some hits → tree.lineCount path = .ok hits.size

/-- Gives a file counters if it has none. -/
def ensureCounters (pass : Pass) (path : AbsPath) (lines : Nat) : Pass :=
  if (pass.files.get? path).isSome then pass
  else
    { (pass.ask (.lineCount path)).emit (.trackingFile path lines) with
      files := pass.files.track path lines }

/-- Does with a line what the verdict says. -/
def apply (pass : Pass) (line : Bytes) (verdict : Verdict) : Pass :=
  let pass := { pass with lines := pass.lines + 1 }
  match verdict with
  | .noise => pass.emit (.skippingNoise line)
  | .unlocated name cause => pass.fail (.io name cause)
  | .directory path =>
    { (pass.ask (.pathKind path)).emit (.skippingDirectory path) with
      skippedDirectories := pass.skippedDirectories + 1 }
  | .notAFile path => (pass.ask (.pathKind path)).fail (.notAFile path.toPath)
  | .uncounted path cause =>
    ((pass.ask (.pathKind path)).ask (.lineCount path)).fail (.io path.toPath cause)
  | .outOfRange path n lines =>
    ((pass.ask (.pathKind path)).ensureCounters path lines).fail (.lineOutOfRange path.toPath n lines)
  | .visit path slot lines =>
    let pass := (pass.ask (.pathKind path)).ensureCounters path lines
    { pass with files := pass.files.hit path slot, records := pass.records + 1 }

section Step

variable {w : Workspace} {pass : Pass}

/-- Whether a file has counters already makes no difference to what is counted. -/
private theorem countIn_eq_count (hsized : pass.Sized w.tree) {path : AbsPath} {lines : Nat}
    (hlines : w.tree.lineCount path = .ok lines) (line : Nat) :
    pass.countIn w.tree path line = (pass.ensureCounters path lines).count path line lines := by
  cases hget : pass.files.get? path with
  | none =>
    simp only [countIn, ensureCounters, hget, hlines, Option.map_none, Option.isSome_none]
    rfl
  | some hits =>
    have hsize := hsized path hits hget
    rw [hlines] at hsize
    cases hsize
    simp only [countIn, ensureCounters, hget, Option.map_some, Option.isSome_some, if_true]

private theorem countIn_eq_fail (hsized : pass.Sized w.tree) {path : AbsPath} {cause : IoError}
    (hlines : w.tree.lineCount path = .error cause) (line : Nat) :
    pass.countIn w.tree path line = (pass.ask (.lineCount path)).fail (.io path.toPath cause) := by
  cases hget : pass.files.get? path with
  | none => simp only [countIn, hget, hlines, Option.map_none]
  | some hits =>
    rw [hsized path hits hget] at hlines
    cases hlines

private theorem record_eq_apply (hsized : pass.Sized w.tree) (line : Bytes) (record : Record) :
    Pass.record w { pass with lines := pass.lines + 1 } record =
      pass.apply line (w.judge record) := by
  cases hpath : record.filename.expand w.tree.root w.workingDirectory with
  | error cause =>
    simp only [Pass.record, Workspace.judge, hpath]
    rfl
  | ok path =>
    have hasked : (({ pass with lines := pass.lines + 1 } : Pass).ask (.pathKind path)).Sized
        w.tree := hsized
    cases hkind : w.tree.pathKind path with
    | directory =>
      simp only [Pass.record, Workspace.judge, hpath, hkind]
      rfl
    | other =>
      simp only [Pass.record, Workspace.judge, hpath, hkind]
      rfl
    | file =>
      cases hlines : w.tree.lineCount path with
      | error cause =>
        simp only [Pass.record, Workspace.judge, hpath, hkind, hlines,
          countIn_eq_fail hasked hlines]
        rfl
      | ok lines =>
        have hslot : slot record.line = max record.line 1 - 1 := by
          unfold slot
          omega
        simp only [Pass.record, Workspace.judge, hpath, hkind, hlines,
          countIn_eq_count hasked hlines, count, hslot]
        by_cases hrange : lines < max record.line 1
        · rw [if_pos hrange, if_neg (by omega)]
          rfl
        · rw [if_neg hrange, if_pos (by omega)]
          rfl

/-- A step does what the verdict on the line says. -/
theorem step_eq_apply (hfailure : pass.failure = none) (hsized : pass.Sized w.tree)
    (line : Bytes) : pass.step w line = pass.apply line (w.verdict line) := by
  unfold step
  split
  · next error herror =>
    rw [hfailure] at herror
    cases herror
  · cases hrecord : Sentinel.standard.classify line with
    | none =>
      simp only [Workspace.verdict, hrecord]
      rfl
    | some record =>
      simp only [Workspace.verdict, hrecord]
      exact record_eq_apply hsized line record

theorem step_of_failure {error : CoverageError} (hfailure : pass.failure = some error)
    (line : Bytes) : pass.step w line = pass := by
  simp only [step, hfailure]

end Step

end Pass

end ShellCoverage
