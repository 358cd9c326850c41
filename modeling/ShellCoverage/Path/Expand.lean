-- SUMMARY: Expansion of a path against a root and the working directory.
import ShellCoverage.IoError
import ShellCoverage.Path.Absolute

/-!
# Expansion

A name from a trace is taken relative to a root, and the result, while still relative, to the
working directory. Expansion then reads the pieces from left to right and keeps the names passed so
far: an empty piece and `.` change nothing, `..` drops the last name, and the root is its own
parent. No link is followed.
-/

namespace ShellCoverage.Path

/-- One step of expansion, on the names passed so far with the last one first. -/
def climb (passed : List Bytes) (piece : Bytes) : List Bytes :=
  if piece = dotDot then passed.tail
  else if IsName piece then piece :: passed
  else passed

theorem isName_of_mem_climb {passed : List Bytes} {piece name : Bytes}
    (h : ∀ name ∈ passed, IsName name) (hname : name ∈ climb passed piece) : IsName name := by
  unfold climb at hname
  split at hname
  · exact h name (List.mem_of_mem_tail hname)
  · split at hname
    · rcases List.mem_cons.1 hname with rfl | hname
      · assumption
      · exact h name hname
    · exact h name hname

theorem isName_of_mem_foldl_climb {pieces passed : List Bytes} {name : Bytes}
    (h : ∀ name ∈ passed, IsName name) (hname : name ∈ pieces.foldl climb passed) :
    IsName name := by
  induction pieces generalizing passed with
  | nil => exact h name hname
  | cons piece pieces ih => exact ih (fun _ => isName_of_mem_climb h) hname

/-- The names left after all pieces are read, with the last one first. -/
def climbAll (pieces : List Bytes) : List Bytes :=
  pieces.foldl climb []

theorem isName_of_mem_climbAll {pieces : List Bytes} {name : Bytes}
    (hname : name ∈ climbAll pieces) : IsName name :=
  isName_of_mem_foldl_climb (fun _ h => absurd h List.not_mem_nil) hname

/-- The absolute path that a path leads to from the root, by its spelling alone. -/
def normalize (p : Path) : AbsPath :=
  ⟨(climbAll p.pieces).reverse, fun _ hname => isName_of_mem_climbAll (List.mem_reverse.1 hname)⟩

/-- The absolute path that `name` stands for, relative to `root`, where that is relative to the
working directory. A missing working directory matters only to a path that needs one. -/
def expand (name root : Path) (workingDirectory : Option Path) : Except IoError AbsPath :=
  let joined := name.within root
  if joined.isAbsolute then .ok joined.normalize
  else match workingDirectory with
    | none => .error .notFound
    | some directory => .ok (joined.within directory).normalize

end ShellCoverage.Path
