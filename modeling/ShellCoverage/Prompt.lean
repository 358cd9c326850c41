-- SUMMARY: The trace prompt: its source for the shell and what the shell prints for it.
import ShellCoverage.Decimal
import ShellCoverage.Sentinel

/-!
# Trace prompts

A prompt is a list of parts. Its source is the value of the shell variable `PS4`; what the shell
prints before a command fills in the parts that it computes. The file name is computed by the
shell, so that a record is absolute whatever the working directory is.
-/

namespace ShellCoverage

inductive Prompt.Part where
  /-- Text that stands for itself. -/
  | literal (text : String)
  /-- The absolute path of the directory of the running file. -/
  | directory
  /-- The name of the running file in its directory. -/
  | basename
  /-- The number of the running line. -/
  | lineNumber
  deriving DecidableEq, Repr

abbrev Prompt := List Prompt.Part

namespace Prompt

/-- The part as the shell reads it. -/
def Part.source : Part → String
  | .literal text => text
  | .directory => "$(cd \"$(dirname \"$\x7bBASH_SOURCE[0]\x7d\")\" && pwd)"
  | .basename => "$(basename \"$\x7bBASH_SOURCE[0]\x7d\")"
  | .lineNumber => "$\x7bLINENO\x7d"

def source (prompt : Prompt) : String :=
  String.join (prompt.map Part.source)

/-- The part as the shell prints it at line `line` of the file `basename` in `directory`. -/
def Part.printed (directory basename : Bytes) (line : Nat) : Part → Bytes
  | .literal text => Bytes.ofString text
  | .directory => directory
  | .basename => basename
  | .lineNumber => Decimal.encode line

/-- The prompt as the shell prints it at the outermost level. -/
def printed (prompt : Prompt) (directory basename : Bytes) (line : Nat) : Bytes :=
  prompt.flatMap (Part.printed directory basename line)

end Prompt

namespace Sentinel

/-- The prompt of a sentinel: the path of the running file and the line number, one slash apart,
between the opening and the closing. -/
def prompt (s : Sentinel) : Prompt :=
  [.literal s.opening, .directory, .literal "/", .basename, .literal "/", .lineNumber,
    .literal s.closing]

/-- The value of `PS4` for a sentinel. -/
def ps4 (s : Sentinel) : String :=
  s.prompt.source

end Sentinel

end ShellCoverage
