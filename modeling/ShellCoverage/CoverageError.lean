-- SUMMARY: Why a trace is refused, and the wording of the refusal.
import ShellCoverage.IoError
import ShellCoverage.Path.Basic

/-!
# Coverage errors

A trace is refused as a whole. The error names the path and the line at fault, or says that the
trace itself could not be read.
-/

namespace ShellCoverage

/-- The reason for which a trace is refused. -/
inductive CoverageError where
  /-- A record names something that is neither a file nor a directory. -/
  | notAFile (path : Path)
  /-- A record names a line behind the last one of its file. -/
  | lineOutOfRange (path : Path) (line lines : Nat)
  /-- The file of a record cannot be located or counted. -/
  | io (path : Path) (cause : IoError)
  /-- The trace cannot be read. -/
  | sink (cause : IoError)
  deriving DecidableEq, Repr

namespace CoverageError

/-- The wording of an error. Only an access that failed shows its path in quotes. -/
def message : CoverageError → String
  | .notAFile path => path.display ++ " is not a file"
  | .lineOutOfRange path line lines =>
    path.display ++ " has " ++ toString lines ++ " lines but the trace reports line " ++
      toString line
  | .io path cause => "io error at " ++ path.quoted ++ ": " ++ cause.message
  | .sink cause => "trace sink error: " ++ cause.message

/-- The failed access behind an error. -/
def cause? : CoverageError → Option IoError
  | .notAFile _ | .lineOutOfRange .. => none
  | .io _ cause | .sink cause => some cause

end CoverageError

end ShellCoverage
