-- SUMMARY: The file that a traced shell writes its trace to, and reading it back once.
import ShellCoverage.Aggregation
import ShellCoverage.Prompt

/-!
# Trace sinks

A sink is a file without a name. Every descriptor of it shares one position, so what several
writers print follows on. A write puts its bytes at the position, over what stands there, and a gap
before the position reads as NUL. Once the writers are done the sink is rewound, and what it holds
from then on is read once.
-/

namespace ShellCoverage

/-- A sink that is open for writing. -/
structure Sink where
  /-- What is written so far. -/
  content : Array UInt8
  /-- Where the next write begins. -/
  position : Nat
  /-- The number under which the process knows the file. -/
  descriptor : Nat
  /-- Is the descriptor closed when another program is started? -/
  closeOnExec : Bool
  deriving DecidableEq, Repr

namespace Sink

/-- A new sink under a descriptor, and the event that reports it. The event leaves the descriptor
out. -/
def create (descriptor : Nat) : Sink × Event :=
  (⟨#[], 0, descriptor, true⟩, .createdSink)

/-- `content` with a byte put at `position`, over what stands there. A gap before it is filled. -/
def put (content : Array UInt8) (position : Nat) (b : UInt8) : Array UInt8 :=
  if h : position < content.size then content.set position b
  else (content ++ Array.replicate (position - content.size) Bytes.nul).push b

/-- `content` with `bytes` written at `position`. Writing nothing changes nothing. -/
def overwrite (content : Array UInt8) (position : Nat) : Bytes → Array UInt8
  | [] => content
  | b :: bytes => overwrite (put content position b) (position + 1) bytes

/-- Writes through any of the descriptors. -/
def write (sink : Sink) (bytes : Bytes) : Sink :=
  { sink with
    content := overwrite sink.content sink.position bytes
    position := sink.position + bytes.length }

def seek (sink : Sink) (position : Nat) : Sink :=
  { sink with position := position }

/-- Lets the descriptor pass to programs that are started. -/
def makeInheritable (sink : Sink) : Sink :=
  { sink with closeOnExec := false }

/-- The shell variables that make a shell trace into the sink. -/
def environment (sink : Sink) : List (String × String) :=
  [("PS4", Sentinel.standard.ps4), ("BASH_XTRACEFD", toString sink.descriptor)]

/-! ## Operations -/

inductive Operation where
  | write (bytes : Bytes)
  /-- A write through another descriptor of the same file. -/
  | writeThroughDuplicate (bytes : Bytes)
  | seekThroughDuplicate (position : Nat)
  | flush
  | makeInheritable
  | environment
  deriving DecidableEq, Repr

def apply (sink : Sink) : Operation → Sink
  | .write bytes | .writeThroughDuplicate bytes => sink.write bytes
  | .seekThroughDuplicate position => sink.seek position
  | .makeInheritable => sink.makeInheritable
  | .flush | .environment => sink

end Sink

/-- A sink whose content is read from its position on. -/
structure RewoundSink where
  deliveries : List Delivery
  deriving DecidableEq, Repr

/-- A file that holds a complete trace, read from `position` on. -/
def RewoundSink.ofFile (content : Bytes) (position : Nat) : RewoundSink :=
  ⟨[.chunk (content.drop position)]⟩

/-- Goes back to the start of the file, whatever the position is. -/
def Sink.rewind (sink : Sink) : RewoundSink :=
  .ofFile sink.content.toList 0

/-- All that is left to read. -/
def RewoundSink.content (sink : RewoundSink) : Bytes :=
  sink.deliveries.flatMap fun
    | .chunk bytes => bytes
    | .interrupted | .failed _ => []

/-- Aggregates a rewound sink and closes it, whatever the outcome is. -/
def Workspace.aggregateSink (workspace : Workspace) (sink : RewoundSink) : Outcome :=
  let outcome := workspace.aggregate sink.deliveries
  { outcome with events := outcome.events ++ [.closedSink] }

end ShellCoverage
