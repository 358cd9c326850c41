-- SUMMARY: Aggregating a trace again and again while it grows, without reading a line twice.
import ShellCoverage.Aggregation

/-!
# Growing traces

A trace may be looked at while it still grows. Each look gives what aggregating the whole trace so
far would give. The lines that are complete are read once; only the line that has begun is read anew
at each look.
-/

namespace ShellCoverage

namespace LineBuffer

/-- A buffer with complete lines in front of it. -/
def behind (buffer : LineBuffer) (complete : List Bytes) : LineBuffer :=
  ⟨buffer.complete ++ complete, buffer.partialLine⟩

theorem push_behind (buffer : LineBuffer) (complete : List Bytes) (b : UInt8) :
    (buffer.behind complete).push b = (buffer.push b).behind complete := by
  simp only [push, behind]
  split <;> simp

theorem foldl_push_behind (bytes : Bytes) (buffer : LineBuffer) (complete : List Bytes) :
    bytes.foldl push (buffer.behind complete) = (bytes.foldl push buffer).behind complete := by
  induction bytes generalizing buffer with
  | nil => rfl
  | cons b bytes ih => simp [push_behind, ih]

/-- The complete lines stay as they are; only the line that has begun depends on the end. -/
theorem finish_eq (buffer : LineBuffer) :
    buffer.finish = buffer.lines ++ finish ⟨[], buffer.partialLine⟩ := by
  simp only [finish, lines]
  split <;> simp

theorem read_chunks (pieces : List Bytes) (buffer : LineBuffer) :
    buffer.read (pieces.map .chunk) = ⟨(pieces.flatten.foldl push buffer).finish, none⟩ := by
  induction pieces generalizing buffer with
  | nil => rfl
  | cons piece pieces ih => simp [read, ih]

end LineBuffer

/-- A trace that may still grow, as far as it is read. -/
structure GrowingTrace where
  /-- The pass over its complete lines. -/
  pass : Pass
  /-- The bytes of the line that has begun, the newest first. -/
  partialLine : Bytes

namespace GrowingTrace

def empty : GrowingTrace := ⟨.start, []⟩

def extend (workspace : Workspace) (trace : GrowingTrace) (piece : Bytes) : GrowingTrace :=
  let buffer := piece.foldl LineBuffer.push ⟨[], trace.partialLine⟩
  ⟨buffer.lines.foldl (Pass.step workspace) trace.pass, buffer.partialLine⟩

/-- What the trace gives if it grows no more. -/
def result (workspace : Workspace) (trace : GrowingTrace) : Except CoverageError CoverageMap :=
  let last := LineBuffer.finish ⟨[], trace.partialLine⟩
  (last.foldl (Pass.step workspace) trace.pass).result none

/-- What the trace gives after each piece that it grows by. -/
def results (workspace : Workspace) (trace : GrowingTrace) :
    List Bytes → List (Except CoverageError CoverageMap)
  | [] => []
  | piece :: pieces =>
    let trace := trace.extend workspace piece
    trace.result workspace :: trace.results workspace pieces

def ofBuffer (workspace : Workspace) (buffer : LineBuffer) : GrowingTrace :=
  ⟨Pass.run workspace buffer.lines, buffer.partialLine⟩

theorem extend_ofBuffer (workspace : Workspace) (buffer : LineBuffer) (piece : Bytes) :
    (ofBuffer workspace buffer).extend workspace piece =
      ofBuffer workspace (piece.foldl LineBuffer.push buffer) := by
  have h : piece.foldl LineBuffer.push buffer = _ :=
    LineBuffer.foldl_push_behind piece ⟨[], buffer.partialLine⟩ buffer.complete
  rw [h]
  simp [extend, ofBuffer, Pass.run, LineBuffer.lines, LineBuffer.behind]

theorem result_ofBuffer (workspace : Workspace) (buffer : LineBuffer) :
    (ofBuffer workspace buffer).result workspace =
      (Pass.run workspace buffer.finish).result none := by
  simp [result, ofBuffer, Pass.run, LineBuffer.finish_eq buffer]

theorem getElem?_results_ofBuffer (workspace : Workspace) (buffer : LineBuffer)
    (pieces : List Bytes) (i : Nat) (h : i < pieces.length) :
    ((ofBuffer workspace buffer).results workspace pieces)[i]? =
      some ((Pass.run workspace
        ((pieces.take (i + 1)).flatten.foldl LineBuffer.push buffer).finish).result none) := by
  induction pieces generalizing buffer i with
  | nil => simp at h
  | cons piece pieces ih =>
    cases i with
    | zero => simp [results, extend_ofBuffer, result_ofBuffer]
    | succ i =>
      rw [results, extend_ofBuffer, List.getElem?_cons_succ, ih _ _ (by simpa using h)]
      simp

end GrowingTrace

/-- What a trace gives after each of the pieces that it consists of. -/
def Workspace.aggregateGrowing (workspace : Workspace) (pieces : List Bytes) :
    List (Except CoverageError CoverageMap) :=
  GrowingTrace.empty.results workspace pieces

/-- Each look at a growing trace gives the result of aggregating all pieces so far. -/
theorem Workspace.getElem?_aggregateGrowing (workspace : Workspace) (pieces : List Bytes) (i : Nat)
    (h : i < pieces.length) :
    (workspace.aggregateGrowing pieces)[i]? =
      some (workspace.aggregate ((pieces.take (i + 1)).map .chunk)).result := by
  rw [aggregate, Reading.ofDeliveries, LineBuffer.read_chunks]
  exact GrowingTrace.getElem?_results_ofBuffer workspace .empty pieces i h

end ShellCoverage
