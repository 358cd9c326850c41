-- SUMMARY: How the bytes of a trace arrive, and the lines they make up.
import ShellCoverage.IoError
import ShellCoverage.Lines

/-!
# Deliveries

A trace arrives in deliveries: chunks cut anywhere, interruptions, and perhaps one failure that
ends it. Lines are put together byte by byte; an interruption loses nothing, and what stands behind
the last line feed is a line only if the trace ends without a failure.
-/

namespace ShellCoverage

/-- What one attempt to read gives. -/
inductive Delivery where
  /-- The next bytes. A chunk is not empty: where nothing comes, the trace ends, so an empty chunk
  can stand behind all others only. -/
  | chunk (bytes : Bytes)
  /-- Nothing yet; the next attempt goes on. -/
  | interrupted
  /-- Reading is over. -/
  | failed (cause : IoError)
  deriving DecidableEq, Repr

/-- Lines being put together. -/
structure LineBuffer where
  /-- The complete lines, the newest first. -/
  complete : List Bytes
  /-- The bytes of the line that has begun, the newest first. -/
  partialLine : Bytes
  deriving DecidableEq, Repr

namespace LineBuffer

def empty : LineBuffer := ⟨[], []⟩

/-- Adds a byte; a line feed completes the line. -/
def push (buffer : LineBuffer) (b : UInt8) : LineBuffer :=
  if b = Bytes.lineFeed then ⟨(b :: buffer.partialLine).reverse :: buffer.complete, []⟩
  else ⟨buffer.complete, b :: buffer.partialLine⟩

def lines (buffer : LineBuffer) : List Bytes :=
  buffer.complete.reverse

/-- All lines, in order, if nothing follows. -/
def finish (buffer : LineBuffer) : List Bytes :=
  if buffer.partialLine = [] then buffer.lines
  else (buffer.partialLine.reverse :: buffer.complete).reverse

end LineBuffer

/-- The lines of a trace, and why it could not be read further. -/
structure Reading where
  lines : List Bytes
  failure : Option IoError
  deriving DecidableEq, Repr

/-- Reads deliveries behind what is already in the buffer. -/
def LineBuffer.read (buffer : LineBuffer) : List Delivery → Reading
  | [] => ⟨buffer.finish, none⟩
  | .chunk bytes :: deliveries => (bytes.foldl push buffer).read deliveries
  | .interrupted :: deliveries => buffer.read deliveries
  | .failed cause :: _ => ⟨buffer.lines, some cause⟩

/-- The lines that deliveries make up. -/
def Reading.ofDeliveries (deliveries : List Delivery) : Reading :=
  LineBuffer.empty.read deliveries

example : Reading.ofDeliveries [.chunk [97], .interrupted, .chunk [10, 98]] =
    ⟨[[97, 10], [98]], none⟩ := by decide
example : Reading.ofDeliveries [.chunk [97, 10, 98], .failed .isDirectory, .chunk [10]] =
    ⟨[[97, 10]], some .isDirectory⟩ := by decide

end ShellCoverage
