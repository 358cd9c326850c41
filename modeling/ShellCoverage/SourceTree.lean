-- SUMMARY: What aggregation asks about the traced files.
import Std.Data.ExtTreeMap
import Std.Data.ExtTreeSet
import ShellCoverage.IoError
import ShellCoverage.Path.Absolute

/-!
# Source trees

Aggregation never opens a file. It asks a source tree where relative names are rooted, what a path
names, and how many lines a file has. The answers are fixed: the same question has the same answer
whenever it is asked.
-/

namespace ShellCoverage

inductive PathKind where
  | directory
  | file
  /-- Nothing, or something that is neither a file nor a directory. -/
  | other
  deriving DecidableEq, Repr

/-- The answers that aggregation needs. -/
structure SourceTree where
  /-- The directory that relative names are taken against. -/
  root : Path
  /-- What a path names. -/
  pathKind : AbsPath → PathKind
  /-- The number of lines of a file. -/
  lineCount : AbsPath → Except IoError Nat

inductive TreeCall where
  | pathKind (path : AbsPath)
  | lineCount (path : AbsPath)
  deriving DecidableEq, Repr

/-- A source tree that is written down: its directories, and its files with what counting their
lines gives. A directory hides a file of the same path, and the first of several files counts. What
is written down under a relative path, or one with a `..`, is never asked for. -/
def SourceTree.ofTables (root : Path) (directories : List Path)
    (files : List (Path × Except IoError Nat)) : SourceTree :=
  let directories : Std.ExtTreeSet AbsPath := .ofList (directories.filterMap AbsPath.ofPath?)
  let files : Std.ExtTreeMap AbsPath (Except IoError Nat) := files.foldl (fun files file =>
    match AbsPath.ofPath? file.1 with
    | some path => files.insertIfNew path file.2
    | none => files) ∅
  { root := root
    pathKind := fun path =>
      if path ∈ directories then .directory
      else if path ∈ files then .file
      else .other
    lineCount := fun path => files[path]?.getD (.error .notFound) }

end ShellCoverage
