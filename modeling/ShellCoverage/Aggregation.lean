-- SUMMARY: One pass over a trace: classify each line, locate its file, count the execution.
import ShellCoverage.CoverageError
import ShellCoverage.CoverageMap
import ShellCoverage.Delivery
import ShellCoverage.Event
import ShellCoverage.Path.Expand
import ShellCoverage.Record
import ShellCoverage.SourceTree

/-!
# Aggregation

A trace is read once, line by line. A line that is no record is noise and is skipped, and so is a
record that names a directory. Any other record has to name a line of a file: the file is counted
when it is first named, and the slot of the line then goes up by one. The first record for which
that fails is the error of the whole trace.
-/

namespace ShellCoverage

/-- Where paths are looked up: the source tree, and the working directory if there is one. -/
structure Workspace where
  tree : SourceTree
  workingDirectory : Option Path

/-- A trace as far as it is read. -/
structure Pass where
  /-- The counters so far. -/
  files : CoverageMap
  /-- The lines read. -/
  lines : Nat
  /-- The records counted into a slot. -/
  records : Nat
  /-- The records that name a directory. -/
  skippedDirectories : Nat
  /-- The questions put to the source tree, the newest first. -/
  calls : List TreeCall
  /-- The events so far, the newest first. -/
  events : List Event
  /-- Why the trace is refused. -/
  failure : Option CoverageError
  deriving DecidableEq, Repr

namespace Pass

def start : Pass where
  files := .empty
  lines := 0
  records := 0
  skippedDirectories := 0
  calls := []
  events := []
  failure := none

def emit (pass : Pass) (event : Event) : Pass :=
  { pass with events := event :: pass.events }

/-- Notes a question to the source tree. -/
def ask (pass : Pass) (call : TreeCall) : Pass :=
  { pass with calls := call :: pass.calls }

def fail (pass : Pass) (error : CoverageError) : Pass :=
  { pass with failure := some error }

def summary (pass : Pass) : Summary where
  lines := pass.lines
  records := pass.records
  skippedDirectories := pass.skippedDirectories
  files := pass.files.size

/-- The slot of a line. Line 0 shares the slot of line 1. -/
def slot (line : Nat) : Nat :=
  line - 1

/-- Counts the execution of a line of a file that has counters. -/
def count (pass : Pass) (path : AbsPath) (line : Nat) (lines : Nat) : Pass :=
  if slot line < lines then
    { pass with files := pass.files.hit path (slot line), records := pass.records + 1 }
  else pass.fail (.lineOutOfRange path.toPath line lines)

/-- Counts the execution of a line of a file. The first record of a file gives it counters. -/
def countIn (tree : SourceTree) (pass : Pass) (path : AbsPath) (line : Nat) : Pass :=
  match (pass.files.get? path).map (·.size) with
  | some lines => pass.count path line lines
  | none =>
    let pass := pass.ask (.lineCount path)
    match tree.lineCount path with
    | .error cause => pass.fail (.io path.toPath cause)
    | .ok lines =>
      let pass := pass.emit (.trackingFile path lines)
      { pass with files := pass.files.track path lines }.count path line lines

def record (workspace : Workspace) (pass : Pass) (record : Record) : Pass :=
  match record.filename.expand workspace.tree.root workspace.workingDirectory with
  | .error cause => pass.fail (.io record.filename cause)
  | .ok path =>
    let pass := pass.ask (.pathKind path)
    match workspace.tree.pathKind path with
    | .directory =>
      { pass.emit (.skippingDirectory path) with
        skippedDirectories := pass.skippedDirectories + 1 }
    | .file => pass.countIn workspace.tree path record.line
    | .other => pass.fail (.notAFile path.toPath)

/-- Reads a line. Behind an error nothing is read. -/
def step (workspace : Workspace) (pass : Pass) (line : Bytes) : Pass :=
  match pass.failure with
  | some _ => pass
  | none =>
    let pass := { pass with lines := pass.lines + 1 }
    match Sentinel.standard.classify line with
    | none => pass.emit (.skippingNoise line)
    | some r => pass.record workspace r

def run (workspace : Workspace) (lines : List Bytes) : Pass :=
  lines.foldl (step workspace) start

end Pass

/-- What aggregating a trace gives, and what it did on the way. -/
structure Outcome where
  result : Except CoverageError CoverageMap
  /-- The questions put to the source tree, in order. -/
  calls : List TreeCall
  /-- The events, in order. -/
  events : List Event

/-- The result of a pass that has read all lines it will get. A record error comes before a failure
of the trace itself, which lies behind the last line read. -/
def Pass.result (pass : Pass) (failure : Option IoError) : Except CoverageError CoverageMap :=
  match pass.failure, failure with
  | some error, _ => .error error
  | none, some cause => .error (.sink cause)
  | none, none => .ok pass.files

/-- The outcome of a pass that has read all lines it will get. Only a success is reported. -/
def Pass.finish (pass : Pass) (failure : Option IoError) : Outcome :=
  let result := pass.result failure
  let events : List Event := match result with
    | .ok _ => .aggregated pass.summary :: pass.events
    | .error _ => pass.events
  ⟨result, pass.calls.reverse, events.reverse⟩

/-- Aggregates a trace as it arrives. -/
def Workspace.aggregate (workspace : Workspace) (deliveries : List Delivery) : Outcome :=
  let reading := Reading.ofDeliveries deliveries
  (Pass.run workspace reading.lines).finish reading.failure

end ShellCoverage
