-- SUMMARY: Running a command: what is printed, the exit code, and the report of a failure.
import ShellCoverage.CommandLine.Arguments
import ShellCoverage.FileTree

/-!
# Execution

A command is run on a machine, which answers questions about files. Aggregation goes through
stages: resolve the root, open the trace, aggregate it, render the map. The first stage that fails
is reported and nothing is printed; only a run without a failure prints, and then the whole report
and a line feed.
-/

namespace ShellCoverage.CommandLine

/-- The answers of the machine that a command runs on. -/
structure Machine where
  /-- The working directory. -/
  workingDirectory : Except IoError AbsPath
  /-- Where a path leads, without any link on the way. -/
  canonical : Path → Except IoError AbsPath
  /-- A file, opened for reading from its start. -/
  openFile : Path → Except IoError RewoundSink
  /-- What a path names. -/
  pathKind : AbsPath → PathKind
  /-- The number of lines of a file. -/
  lineCount : AbsPath → Except IoError Nat

def Machine.workspace (machine : Machine) (root : AbsPath) : Workspace where
  tree := { root := root.toPath, pathKind := machine.pathKind, lineCount := machine.lineCount }
  workingDirectory := machine.workingDirectory.toOption.map AbsPath.toPath

def Machine.ofFileTree (tree : FileTree) (workingDirectory : AbsPath) : Machine where
  workingDirectory := .ok workingDirectory
  canonical := tree.canonical workingDirectory
  openFile path := tree.openAt workingDirectory path 0
  pathKind path := tree.kind workingDirectory path.toPath
  lineCount path := tree.lineCount workingDirectory path.toPath

/-! ## Failures -/

/-- The stage at which a run failed, and why. -/
inductive Failure where
  | workingDirectory (cause : IoError)
  | root (root : Path) (cause : IoError)
  | openTrace (trace : Path) (cause : IoError)
  | aggregate (trace : Path) (error : CoverageError)
  | render (error : JsonError)
  deriving DecidableEq, Repr

/-- What failed, and behind it each cause of the one before. -/
def Failure.chain : Failure → String × List String
  | .workingDirectory cause => ("Failed to read current directory", [cause.message])
  | .root path cause => ("Failed to resolve root " ++ path.display, [cause.message])
  | .openTrace trace cause => ("Failed to open trace file " ++ trace.display, [cause.message])
  | .aggregate trace error =>
    ("Failed to aggregate " ++ trace.display,
      error.message :: (error.cause?.map IoError.message).toList)
  | .render error => (error.message, [])

/-- A text with blanks behind each of its line feeds. -/
def indented (blanks : Nat) (s : String) : String :=
  String.ofList <| s.toList.flatMap fun c =>
    if c = '\n' then c :: List.replicate blanks ' ' else [c]

/-- The lines for the causes of a failure. Several causes are numbered. -/
def causeLines : List String → List String
  | [] => []
  | [cause] => ["    " ++ indented 4 cause]
  | causes => causes.mapIdx fun i cause => "    " ++ toString i ++ ": " ++ indented 7 cause

/-- The report of a failure, without a line feed at its end. -/
def Failure.report (failure : Failure) : String :=
  let (context, causes) := failure.chain
  let head := "Error: " ++ context
  match causes with
  | [] => head
  | causes => String.intercalate "\n" (head :: "" :: "Caused by:" :: causeLines causes)

/-! ## Running -/

structure Answer where
  exitCode : UInt8
  stdout : String
  report : String
  events : List Event
  deriving DecidableEq, Repr

/-- A run that printed a text and a line feed. -/
def Answer.printed (text : String) (events : List Event) : Answer :=
  ⟨0, text ++ "\n", "", events⟩

/-- The report of the trace in a file. -/
def aggregateFile (machine : Machine) (trace : Path) (root : Option Path) (format : ReportFormat) :
    Except Failure String × List Event :=
  let rooted : Except Failure AbsPath := match root with
    | some root => (machine.canonical root).mapError (.root root)
    | none => machine.workingDirectory.mapError .workingDirectory
  match rooted with
  | .error failure => (.error failure, [])
  | .ok place =>
    let started := Event.aggregatingTrace trace place
    match machine.openFile trace with
    | .error cause => (.error (.openTrace trace cause), [started])
    | .ok sink =>
      let outcome := (machine.workspace place).aggregateSink sink
      let text : Except Failure String := do
        let map ← outcome.result.mapError (.aggregate trace)
        (map.report format).mapError .render
      (text, started :: outcome.events)

/-- What is printed for a line. -/
def classification (line : Bytes) : String :=
  match Sentinel.standard.classify line with
  | some record =>
    "record depth=" ++ toString record.depth ++ " file=" ++ record.filename.display ++ " line=" ++
      toString record.line
  | none => "noise"

def version : String := "0.1.0"

def Command.run (machine : Machine) : Command → Answer
  | .ps4 => .printed Sentinel.standard.ps4 []
  | .classify line => .printed (classification line) []
  | .aggregate trace root format =>
    match aggregateFile machine trace root format with
    | (.ok text, events) => .printed text events
    | (.error failure, events) => ⟨1, "", failure.report, events⟩

/-- Runs the program on its arguments. Help is answered without text. -/
def run (machine : Machine) (environmentRoot : Option Bytes) (args : List Bytes) : Answer :=
  match parse environmentRoot args with
  | .ok invocation => invocation.command.run machine
  | .error .usage => ⟨2, "", "", []⟩
  | .error .help => ⟨0, "", "", []⟩
  | .error (.version program) => .printed (program ++ " " ++ version) []

end ShellCoverage.CommandLine
