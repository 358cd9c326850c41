-- SUMMARY: The program: it asks the machine it runs on and prints what the library answers.
import ShellCoverage.CommandLine.Execution

/-!
# Program

The library decides everything from answers about files. This module reads those answers from the
machine: the working directory, the root, the trace, and every path that a record of the trace
names. A path that is no text cannot be asked about and names nothing.
-/

namespace ShellCoverage.Program

def usage : String :=
  "usage: bashcov [-v] ps4\n" ++
  "       bashcov [-v] aggregate TRACE [--root DIR] [-f|--format text|json]\n" ++
  "       bashcov [-v] classify LINE"

def causeOf : IO.Error → IoError
  | .noFileOrDirectory .. => .notFound
  | .inappropriateType .. => .isDirectory
  | error => .other (toString error)

/-- Runs an action, and keeps the cause if it fails. -/
def attempt (action : IO α) : BaseIO (Except IoError α) := do
  match ← action.toBaseIO with
  | .ok a => return .ok a
  | .error error => return .error (causeOf error)

def textOf (path : Path) : Except IoError String :=
  match Utf8.decode? path.bytes with
  | some text => .ok text
  | none => .error .notFound

def absolute (text : String) : AbsPath :=
  (Path.ofString text).normalize

def kindOf (path : Path) : IO PathKind := do
  let .ok text := textOf path | return .other
  match ← attempt ((← IO.currentDir) / text).metadata with
  | .ok data =>
    match data.type with
    | .dir => return .directory
    | .file => return .file
    | _ => return .other
  | .error _ => return .other

def contentOf (path : Path) : IO (Except IoError Bytes) := do
  match textOf path with
  | .ok text => attempt (return (← IO.FS.readBinFile text).toList)
  | .error cause => return .error cause

/-- A file of this machine, opened for reading. That it can be opened but not read shows only when
it is read. -/
def openFile (path : Path) : IO (Except IoError RewoundSink) := do
  match ← contentOf path with
  | .ok content => return .ok (.ofFile content 0)
  | .error cause =>
    if (← kindOf path) = .other then return .error cause
    else return .ok ⟨[.failed cause]⟩

/-- The paths that the records of a trace name, each once. -/
def tracedPaths (workspace : Workspace) (sink : RewoundSink) : List AbsPath :=
  let add (paths : List AbsPath) (line : Bytes) : List AbsPath :=
    match Sentinel.standard.classify line with
    | none => paths
    | some record =>
      match record.filename.expand workspace.tree.root workspace.workingDirectory with
      | .ok path => if path ∈ paths then paths else path :: paths
      | .error _ => paths
  (Reading.ofDeliveries sink.deliveries).lines.foldl add []

/-- The answers of this machine to all that a command asks. -/
def machineFor (command : CommandLine.Command) : IO CommandLine.Machine := do
  let workingDirectory ← attempt (return absolute (← IO.currentDir).toString)
  let bare : CommandLine.Machine :=
    { workingDirectory
      canonical := fun _ => .error .notFound
      openFile := fun _ => .error .notFound
      pathKind := fun _ => .other
      lineCount := fun _ => .error .notFound }
  let .aggregate trace root _ := command | return bare
  let canonical ← match root with
    | none => pure workingDirectory
    | some root =>
      match textOf root with
      | .ok text => attempt (return absolute (← IO.FS.realPath text).toString)
      | .error cause => pure (.error cause)
  let opened ← openFile trace
  let machine := { bare with canonical := fun _ => canonical, openFile := fun _ => opened }
  let (.ok place, .ok sink) := (canonical, opened) | return machine
  let answers ← (tracedPaths (machine.workspace place) sink).mapM fun path => do
    let lines := (← contentOf path.toPath).map Bytes.lineCount
    return (path, ← kindOf path.toPath, lines)
  return { machine with
    pathKind := fun path => ((answers.lookup path).map (·.1)).getD .other
    lineCount := fun path => ((answers.lookup path).map (·.2)).getD (.error .notFound) }

def logLine (event : Event) : String :=
  let level := match event.level with
    | .trace => "TRACE"
    | .debug => "DEBUG"
    | .info => "INFO"
  let fields := event.fields.map fun (name, value) =>
    match value with
    | .text s => s!" {name}={s}"
    | .number n => s!" {name}={n}"
  s!"{level} {event.message}" ++ String.join fields

def isLogged (verbose : Bool) (event : Event) : Bool :=
  match event.level with
  | .trace => false
  | .debug => verbose
  | .info => true

/-- Logs the events of a run, then prints what it printed and its report. -/
def printAnswer (verbose : Bool) (answer : CommandLine.Answer) : IO UInt32 := do
  for event in answer.events do
    if isLogged verbose event then IO.eprintln (logLine event)
  IO.print answer.stdout
  unless answer.report.isEmpty do
    IO.eprintln answer.report
  return answer.exitCode.toUInt32

end ShellCoverage.Program

open ShellCoverage in
def main (args : List String) : IO UInt32 := do
  let environmentRoot := (← IO.getEnv "BASHCOV_ROOT").map Bytes.ofString
  match CommandLine.parse environmentRoot (args.map Bytes.ofString) with
  | .ok invocation =>
    let machine ← Program.machineFor invocation.command
    Program.printAnswer invocation.verbose (invocation.command.run machine)
  | .error .help =>
    IO.println Program.usage
    return 0
  | .error .usage =>
    IO.eprintln Program.usage
    return 2
  | .error (.version program) =>
    IO.println s!"{program} {CommandLine.version}"
    return 0
