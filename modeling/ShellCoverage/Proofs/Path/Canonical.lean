-- SUMMARY: An absolute path in canonical form is expanded to itself.
import ShellCoverage.Path.Expand

/-!
# Canonical paths stay as they are

The spelling of a canonical path begins with a slash, and its pieces are an empty one and its names.
Neither a root nor a working directory is looked at, and there is nothing to leave out.
-/

namespace ShellCoverage

theorem intercalate_singleton_cons {α : Type} (separator : α) (first : List α)
    (more : List (List α)) :
    [separator].intercalate (first :: more) = first ++ more.flatMap (separator :: ·) := by
  induction more generalizing first with
  | nil => simp
  | cons next more ih => simp [ih]

namespace AbsPath

/-! ## The spelling -/

theorem isAbsolute_toPath (p : AbsPath) : p.toPath.isAbsolute := by
  unfold toPath Path.isAbsolute
  split
  · rfl
  · next hne =>
    obtain ⟨name, names, hnames⟩ := List.exists_cons_of_ne_nil hne
    simp [hnames]

theorem flatMap_slash_eq_intercalate (names : List Bytes) :
    names.flatMap (Bytes.slash :: ·) = [Bytes.slash].intercalate ([] :: names) :=
  (intercalate_singleton_cons Bytes.slash [] names).symm

/-- The spelling of names falls apart into these names, behind an empty piece for the first slash.
-/
theorem splitOn_flatMap_slash {names : List Bytes} (h : ∀ name ∈ names, Bytes.slash ∉ name) :
    (names.flatMap (Bytes.slash :: ·)).splitOn Bytes.slash = [] :: names := by
  rw [flatMap_slash_eq_intercalate]
  exact List.splitOn_intercalate _ (by simpa using h) (by simp)

/-- The pieces of a canonical path that stand for something are its names. -/
theorem foldl_climb_pieces_toPath (p : AbsPath) (passed : List Bytes) :
    p.toPath.pieces.foldl Path.climb passed = p.names.foldl Path.climb passed := by
  have hnil : ∀ passed, Path.climb passed [] = passed := fun _ => rfl
  unfold toPath Path.pieces
  split
  · next hnames =>
    have hroot : [Bytes.slash].splitOn Bytes.slash = [[], []] :=
      @splitOn_flatMap_slash [[]] (by simp)
    rw [hroot, hnames, List.foldl_cons, List.foldl_cons, hnil, hnil]
  · rw [splitOn_flatMap_slash fun name hname => (p.isName name hname).2.1, List.foldl_cons, hnil]

end AbsPath

/-! ## The way down -/

theorem Path.climb_of_isName {name : Bytes} (h : Path.IsName name) (passed : List Bytes) :
    Path.climb passed name = name :: passed := by
  rw [Path.climb, if_neg h.2.2.2, if_pos h]

theorem Path.foldl_climb_of_isName {names : List Bytes} (h : ∀ name ∈ names, Path.IsName name)
    (passed : List Bytes) : names.foldl Path.climb passed = names.reverse ++ passed := by
  induction names generalizing passed with
  | nil => rfl
  | cons name names ih =>
    rw [List.foldl_cons, climb_of_isName (h name (by simp)),
      ih fun name hname => h name (by simp [hname])]
    simp

namespace AbsPath

/-- The spelling of a canonical path leads to that path. -/
theorem normalize_toPath (p : AbsPath) : p.toPath.normalize = p := by
  apply AbsPath.ext
  simp only [Path.normalize, Path.climbAll]
  rw [foldl_climb_pieces_toPath, Path.foldl_climb_of_isName p.isName]
  simp

/-- A canonical path is what it is expanded to, wherever it is expanded. -/
theorem expand_toPath (p : AbsPath) (root : Path) (workingDirectory : Option Path) :
    p.toPath.expand root workingDirectory = .ok p := by
  have hwithin : p.toPath.within root = p.toPath := if_pos p.isAbsolute_toPath
  simp only [Path.expand, hwithin, if_pos p.isAbsolute_toPath, normalize_toPath]

end AbsPath

end ShellCoverage
