-- SUMMARY: The literals that open and close a trace record.
import ShellCoverage.Bytes

/-!
# Sentinels

A traced shell prints its trace prompt before every command, and repeats the first character of the
prompt once for each level of nesting. The sentinel is the literal text of the prompt: the marker,
which is that first character, the rest of the opening, and the closing.
-/

namespace ShellCoverage

/-- The literal text around the file name and the line number of a record. -/
structure Sentinel where
  /-- The character that the shell repeats. -/
  marker : Char
  /-- What follows the markers. -/
  rest : String
  /-- What follows the line number. -/
  closing : String
  deriving DecidableEq, Repr

namespace Sentinel

/-- The sentinel of every trace that is aggregated. -/
def standard : Sentinel where
  marker := '+'
  rest := "BASHCOV> "
  closing := " BASHCOV: "

/-- The opening of a record that is not nested. -/
def opening (s : Sentinel) : String :=
  s.marker.toString ++ s.rest

end Sentinel

/-- The bytes of a sentinel, as they stand in a trace. -/
structure Template where
  /-- The marker. -/
  marker : Bytes
  /-- What follows the markers. -/
  rest : Bytes
  /-- What follows the line number. -/
  closing : Bytes
  marker_ne_nil : marker ≠ []
  deriving DecidableEq, Repr

def Sentinel.template (s : Sentinel) : Template where
  marker := String.utf8EncodeChar s.marker
  rest := Bytes.ofString s.rest
  closing := Bytes.ofString s.closing
  marker_ne_nil := by simp

end ShellCoverage
