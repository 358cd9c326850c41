-- SUMMARY: Lines of a byte string, each with the line feed that ends it.
import ShellCoverage.Bytes

/-!
# Lines

A byte string is cut after every line feed. A line keeps the line feed that ends it, and only the
last line may lack one. `lineCount` counts the same lines without cutting.
-/

namespace ShellCoverage.Bytes

/-- Puts a byte in front of a byte string that is already cut into lines. -/
def consLine (b : UInt8) (lines : List Bytes) : List Bytes :=
  if b = lineFeed then [b] :: lines
  else match lines with
    | [] => [[b]]
    | line :: lines => (b :: line) :: lines

def lines (bytes : Bytes) : List Bytes :=
  bytes.foldr consLine []

/-- The number of lines: one for each line feed, and one more for an unterminated tail. -/
def lineCount (bytes : Bytes) : Nat :=
  bytes.count lineFeed +
    match bytes.getLast? with
    | none => 0
    | some b => if b = lineFeed then 0 else 1

example : lines [97, 10, 10, 98] = [[97, 10], [10], [98]] := by decide
example : lineCount [97, 10, 10, 98] = 3 := by decide
example : lineCount [10] = 1 ∧ lineCount [] = 0 := by decide

end ShellCoverage.Bytes
