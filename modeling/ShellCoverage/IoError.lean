-- SUMMARY: Why reading from a file system fails.

/-!
# Input and output errors

The causes for which a file cannot be looked up or read, and their wording.
-/

namespace ShellCoverage

/-- The cause of a failed access to a file. -/
inductive IoError where
  /-- A name on the way does not exist, or the working directory is gone. -/
  | notFound
  /-- A directory was read as if it were a file. -/
  | isDirectory
  /-- Something that is no directory was entered. -/
  | notDirectory
  /-- A name or a whole path is longer than the system allows. -/
  | nameTooLong
  /-- The path leads through too many links. -/
  | tooManyLinks
  /-- The path holds a NUL byte. -/
  | nulInPath
  /-- Any other cause, in the words of whoever reports it. -/
  | other (message : String)
  deriving DecidableEq, Repr

def IoError.message : IoError → String
  | .notFound => "No such file or directory (os error 2)"
  | .isDirectory => "Is a directory (os error 21)"
  | .notDirectory => "Not a directory (os error 20)"
  | .nameTooLong => "File name too long (os error 36)"
  | .tooManyLinks => "Too many levels of symbolic links (os error 40)"
  | .nulInPath => "file name contained an unexpected NUL byte"
  | .other message => message

end ShellCoverage
