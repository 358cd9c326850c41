-- SUMMARY: The files of a map that a trace gives: how they are spelled, ordered and found.
import ShellCoverage.Proofs.Path.Components
import ShellCoverage.Proofs.Trace.Append

/-!
# The files of a map

Records name a file in many spellings and in any order. The map has each file once, under its
canonical path and in the order of the components, and finds it again under every spelling that has
the same components.
-/

namespace ShellCoverage

namespace CoverageMap

/-- A path finds the counters of the file that has its components. -/
theorem find?_eq_some_iff {m : CoverageMap} {q : Path} {hits : Hits} :
    m.find? q = some hits ↔
      ∃ p, (p, hits) ∈ m.entries ∧ q.components = p.toPath.components := by
  simp only [find?, Option.bind_eq_some_iff, AbsPath.ofPath?_eq_some_iff, mem_entries, and_comm]

/-- A relative path, or one that leads up, finds nothing. -/
theorem find?_eq_none {m : CoverageMap} {q : Path}
    (h : ¬(q.isAbsolute ∧ Path.dotDot ∉ q.pieces)) : m.find? q = none := by
  simp only [find?, AbsPath.ofPath?, if_neg h, Option.bind_none]

end CoverageMap

namespace Workspace

/-- Only files have counters. -/
theorem Counts.pathKind {w : Workspace} {lines : List Bytes} {map : CoverageMap}
    (h : w.Counts (w.visits lines) map) {path : AbsPath} {hits : Hits}
    (hget : map.get? path = some hits) : w.tree.pathKind path = .file := by
  obtain ⟨⟨path, slot⟩, hvisit, rfl⟩ := List.mem_map.1 ((h path hits).1 hget).1
  obtain ⟨line, -, hverdict⟩ := List.mem_filterMap.1 hvisit
  cases hline : w.verdict line with
  | visit path' slot' lines' =>
    rw [hline] at hverdict
    cases hverdict
    exact (lineCount_of_verdict hline).1
  | noise | unlocated | directory | notAFile | uncounted | outOfRange =>
    rw [hline] at hverdict
    cases hverdict

/-- A map that a trace gives has files only, under canonical paths, in the order of their components
and none twice. A path finds the counters of a file exactly if it is absolute and has the components
of the file; a relative path, or one that leads up, finds nothing. -/
theorem entries_of_result_ok {w : Workspace} {trace : Bytes} {map : CoverageMap}
    (h : (w.aggregate [.chunk trace]).result = .ok map) :
    (map.entries.map (·.1.toPath.components)).Pairwise (· < ·) ∧
    (map.entries.map (·.1.toPath.components)).Nodup ∧
    (∀ path hits, (path, hits) ∈ map.entries →
      path.toPath.IsCanonical ∧ w.tree.pathKind path = .file) ∧
    map.size = map.entries.length ∧
    (∀ q hits, map.find? q = some hits ↔ q.isAbsolute ∧
      ∃ path, (path, hits) ∈ map.entries ∧ q.components = path.toPath.components) ∧
    ∀ q : Path, ¬q.isAbsolute ∨ Path.dotDot ∈ q.pieces → map.find? q = none := by
  refine ⟨?_, ?_, ?_, ?_, ?_, ?_⟩
  · refine List.pairwise_map.2 (map.pairwise_entries.imp fun hlt => ?_)
    exact AbsPath.lt_iff_components_lt.1 hlt
  · refine List.pairwise_map.2 (map.pairwise_entries.imp fun hlt => ?_)
    exact fun heq => AbsPath.ne_of_lt hlt (AbsPath.components_injective heq)
  · intro path hits hmem
    exact ⟨path.isCanonical_toPath, (counts_of_chunk h).pathKind (CoverageMap.mem_entries.1 hmem)⟩
  · exact map.length_entries.symm
  · intro q hits
    constructor
    · intro hfind
      refine ⟨?_, CoverageMap.find?_eq_some_iff.1 hfind⟩
      by_contra hrelative
      rw [CoverageMap.find?_eq_none fun hboth => hrelative hboth.1] at hfind
      cases hfind
    · exact fun hentry => CoverageMap.find?_eq_some_iff.2 hentry.2
  · intro q hq
    exact CoverageMap.find?_eq_none fun hboth => hq.elim (· hboth.1) hboth.2

/-- Two files that come in the order of their components and not of their bytes, looked up in other
spellings. -/
theorem entries_of_result_ok_spellings :
    let w : Workspace := ⟨⟨⟨[Bytes.slash]⟩, fun _ => .file, fun _ => .ok 1⟩, none⟩
    let trace := Bytes.ofString
      "+BASHCOV> /a.sh/1 BASHCOV: \n+BASHCOV> a//b/1 BASHCOV: \n+BASHCOV> /a/c/../b/0 BASHCOV: "
    let inside : AbsPath := ⟨[Bytes.ofString "a", Bytes.ofString "b"], by decide⟩
    let beside : AbsPath := ⟨[Bytes.ofString "a.sh"], by decide⟩
    let map := ((((CoverageMap.empty.track beside 1).hit beside 0).track inside 1).hit inside 0).hit
      inside 0
    (w.aggregate [.chunk trace]).result = .ok map ∧
    map.entries = [(inside, #[2]), (beside, #[1])] ∧
    map.find? (.ofString "//a/./b/") = some #[2] ∧
    (¬(Path.ofString "a/b").isAbsolute ∧ map.find? (.ofString "a/b") = none) ∧
    Path.dotDot ∈ (Path.ofString "/a/../a.sh").pieces ∧
    map.find? (.ofString "/a/../a.sh") = none := by
  intro w trace inside beside map
  have hmap : (w.aggregate [.chunk trace]).result = .ok map := by decide +kernel
  have hentries : map.entries = [(inside, #[2]), (beside, #[1])] := by decide +kernel
  have hrelative : ¬(Path.ofString "a/b").isAbsolute := by decide
  have hup : Path.dotDot ∈ (Path.ofString "/a/../a.sh").pieces := by decide
  obtain ⟨-, -, -, -, hfound, hnone⟩ := entries_of_result_ok hmap
  refine ⟨hmap, hentries, (hfound _ _).2 ⟨by decide, inside, ?_, by decide⟩,
    ⟨hrelative, hnone _ (.inl hrelative)⟩, hup, hnone _ (.inr hup)⟩
  rw [hentries]
  exact List.mem_cons_self

end Workspace

end ShellCoverage
