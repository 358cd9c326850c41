-- SUMMARY: What is reported while a trace is aggregated.
import ShellCoverage.Path.Absolute
import ShellCoverage.Text.Blank

/-!
# Events

Aggregation reports what it does, event by event. An event has a level, a message, and fields that
hold text or numbers. The number of a descriptor is left out of the events, since the system chooses
it anew in every run.
-/

namespace ShellCoverage

inductive Level where
  | trace
  | debug
  | info
  deriving DecidableEq, Repr

/-- The totals of a trace that was aggregated. -/
structure Summary where
  /-- The lines read. -/
  lines : Nat
  /-- The records counted into a slot. -/
  records : Nat
  /-- The records that name a directory. -/
  skippedDirectories : Nat
  /-- The files with counters. -/
  files : Nat
  deriving DecidableEq, Repr

inductive Event where
  /-- A sink was created. Its descriptor is left out. -/
  | createdSink
  /-- A trace that was captured before is about to be opened, with the root that is in force. -/
  | aggregatingTrace (trace : Path) (root : AbsPath)
  /-- A line is no record. -/
  | skippingNoise (line : Bytes)
  /-- A record names a directory. -/
  | skippingDirectory (path : AbsPath)
  /-- A file is named for the first time; it has `lines` lines. -/
  | trackingFile (path : AbsPath) (lines : Nat)
  /-- The whole trace is aggregated. -/
  | aggregated (summary : Summary)
  /-- A sink was read and closed. -/
  | closedSink
  deriving DecidableEq, Repr

inductive Event.Field where
  | text (s : String)
  | number (n : Nat)
  deriving DecidableEq, Repr

namespace Event

def level : Event → Level
  | .skippingNoise _ => .trace
  | .aggregated _ => .info
  | .createdSink | .aggregatingTrace .. | .skippingDirectory _ | .trackingFile ..
  | .closedSink => .debug

def message : Event → String
  | .createdSink => "Created xtrace sink"
  | .aggregatingTrace .. => "Aggregating captured trace"
  | .skippingNoise _ => "Skipping noise"
  | .skippingDirectory _ => "Skipping directory record"
  | .trackingFile .. => "Tracking new file"
  | .aggregated _ => "Aggregated xtrace output"
  | .closedSink => "Closed xtrace sink"

/-- The fields of an event, each with its name. A line of noise is shown without the blanks at its
end. -/
def fields : Event → List (String × Field)
  | .createdSink | .closedSink => []
  | .aggregatingTrace trace root =>
    [("trace", .text trace.display), ("root", .text root.toPath.display)]
  | .skippingNoise line => [("line", .text (Text.trimEnd (Utf8.lossy line)))]
  | .skippingDirectory path => [("path", .text path.toPath.display)]
  | .trackingFile path lines => [("path", .text path.toPath.display), ("lines", .number lines)]
  | .aggregated s =>
    [("lines", .number s.lines), ("records", .number s.records),
      ("skipped_directories", .number s.skippedDirectories), ("files", .number s.files)]

end Event

end ShellCoverage
