-- SUMMARY: Hit counts of the lines of each traced file, in the order of the paths.
import Std.Data.ExtTreeMap
import ShellCoverage.Path.Absolute

/-!
# Coverage maps

A coverage map holds, for each traced file, one counter per line. Counter `i` belongs to line
`i + 1`; zero says that the line was never seen to run, not that it cannot. The files stand in the
order of their paths, each once. Two maps are equal if they have the same counters for every path.
-/

namespace ShellCoverage

/-- The counters of a file, first line first. -/
abbrev Hits := Array Nat

/-- The hit counts of the traced files. -/
structure CoverageMap where
  files : Std.ExtTreeMap AbsPath Hits
  deriving DecidableEq, Repr

namespace CoverageMap

abbrev Entry := AbsPath × Hits

def empty : CoverageMap := ⟨∅⟩

/-- The files and their counters, in the order of the paths. -/
def entries (m : CoverageMap) : List Entry :=
  m.files.toList

def size (m : CoverageMap) : Nat :=
  m.files.size

def isEmpty (m : CoverageMap) : Bool :=
  m.files.isEmpty

def get? (m : CoverageMap) (path : AbsPath) : Option Hits :=
  m.files[path]?

/-- The counters of the file that a path is a spelling of. -/
def find? (m : CoverageMap) (path : Path) : Option Hits :=
  (AbsPath.ofPath? path).bind m.get?

/-- Adds a file of `lines` lines, none of them hit. -/
def track (m : CoverageMap) (path : AbsPath) (lines : Nat) : CoverageMap :=
  ⟨m.files.insert path (Array.replicate lines 0)⟩

/-- Counts one more execution in a slot of a file. -/
def hit (m : CoverageMap) (path : AbsPath) (slot : Nat) : CoverageMap :=
  ⟨m.files.modify path (·.modify slot (· + 1))⟩

/-- A map is known by its lookups. -/
theorem ext_get? {m n : CoverageMap} (h : ∀ path, m.get? path = n.get? path) : m = n := by
  cases m; cases n
  exact congrArg mk (Std.ExtTreeMap.ext_getElem? h)

@[simp]
theorem get?_empty (path : AbsPath) : empty.get? path = none := by
  simp [get?, empty]

/-- Adding a file changes no other file. Counters that the file had before are lost. -/
theorem get?_track (m : CoverageMap) (path : AbsPath) (lines : Nat) (q : AbsPath) :
    (m.track path lines).get? q = if path = q then some (Array.replicate lines 0) else m.get? q := by
  simp [get?, track, Std.ExtTreeMap.getElem?_insert]

/-- A hit changes one slot of one file. It does nothing to a file without counters, or without that
slot. -/
theorem get?_hit (m : CoverageMap) (path : AbsPath) (slot : Nat) (q : AbsPath) :
    (m.hit path slot).get? q =
      if path = q then (m.get? q).map (·.modify slot (· + 1)) else m.get? q := by
  by_cases h : path = q <;> simp [get?, hit, Std.ExtTreeMap.getElem?_modify, h]

/-- The entries and the lookups of a map tell the same. -/
theorem mem_entries {m : CoverageMap} {path : AbsPath} {hits : Hits} :
    (path, hits) ∈ m.entries ↔ m.get? path = some hits :=
  Std.ExtTreeMap.mem_toList_iff_getElem?_eq_some

theorem mem_map_fst_entries {m : CoverageMap} {path : AbsPath} :
    path ∈ m.entries.map Prod.fst ↔ (m.get? path).isSome := by
  simp [mem_entries, Option.isSome_iff_exists]

theorem length_entries (m : CoverageMap) : m.entries.length = m.size :=
  Std.ExtTreeMap.length_toList

/-- The entries stand in the order of their paths, and no path stands twice. -/
theorem pairwise_entries (m : CoverageMap) : m.entries.Pairwise (·.1 < ·.1) :=
  Std.ExtTreeMap.ordered_keys_toList.imp fun h => (AbsPath.compare_eq_lt ..).1 h

end CoverageMap

end ShellCoverage
