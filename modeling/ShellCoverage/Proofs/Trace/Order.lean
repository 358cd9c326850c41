-- SUMMARY: The order of its lines does not change what a trace gives.
import ShellCoverage.Proofs.Trace.Append
import ShellCoverage.Report

/-!
# Lines in another order

What a trace gives is said by the verdicts on its lines, and a verdict does not depend on the lines
before. So lines in another order give the same map, file by file and slot by slot. They may fail
with another error, but it is the error of one of the lines.
-/

namespace ShellCoverage

namespace Workspace

variable {w : Workspace}

section Counts

variable {visits visits' : List (AbsPath × Nat)} {map map' : CoverageMap}

/-- It does not matter in which order slots are visited. -/
theorem Counts.perm (h : w.Counts visits map) (hperm : visits.Perm visits') :
    w.Counts visits' map := by
  intro path hits
  simpa only [← (hperm.map Prod.fst).mem_iff, ← hperm.count_eq] using h path hits

/-- Visits are counted in one way only. -/
theorem Counts.unique (h : w.Counts visits map) (h' : w.Counts visits map') : map = map' := by
  apply CoverageMap.ext_get?
  intro path
  apply Option.ext
  intro hits
  exact (h path hits).trans (h' path hits).symm

end Counts

/-! ## Lines put together -/

section Lines

variable {trace : Bytes} {order : List Bytes}

/-- Complete lines stay the lines of what they make up, in any order. -/
theorem lines_flatten_of_perm (htrace : trace.EndsLine) (horder : order.Perm (Bytes.lines trace)) :
    Bytes.lines order.flatten = order :=
  Bytes.lines_flatten fun _ hline => htrace.exists_front (horder.mem_iff.1 hline)

/-- A complete line alone fails if it offends. -/
theorem result_of_mem_lines (htrace : trace.EndsLine) {line : Bytes}
    (hline : line ∈ Bytes.lines trace) {error : CoverageError} (herror : w.offence? line = some error) :
    (w.aggregate [.chunk line]).result = .error error := by
  obtain ⟨front, hfront, rfl⟩ := htrace.exists_front hline
  rw [result_eq_error_iff, Bytes.lines_append_lineFeed hfront, List.findSome?_cons, herror]

/-- Lines fail in one order if they do in another. -/
theorem findSome?_offence_of_perm {lines : List Bytes} (horder : order.Perm lines) :
    order.findSome? w.offence? = none ↔ lines.findSome? w.offence? = none := by
  simp only [List.findSome?_eq_none_iff, horder.mem_iff]

/-- An error of lines in any order is the error of one of them alone. -/
theorem exists_line_of_error (htrace : trace.EndsLine) (horder : order.Perm (Bytes.lines trace))
    {error : CoverageError} (herror : (w.aggregate [.chunk order.flatten]).result = .error error) :
    ∃ line ∈ Bytes.lines trace, (w.aggregate [.chunk line]).result = .error error := by
  rw [result_eq_error_iff, lines_flatten_of_perm htrace horder] at herror
  obtain ⟨line, hline, hoffence⟩ := List.exists_of_findSome?_eq_some herror
  have hmem := horder.mem_iff.1 hline
  exact ⟨line, hmem, result_of_mem_lines htrace hmem hoffence⟩

/-- Complete lines succeed in any order or in none, with the same map, and so with the same entries
in the same order and the same JSON text. Where they fail, each order fails with the error of a line
that fails alone. -/
theorem aggregate_perm (w : Workspace) (htrace : trace.EndsLine)
    (horder : order.Perm (Bytes.lines trace)) :
    let result := (w.aggregate [.chunk trace]).result
    let result' := (w.aggregate [.chunk order.flatten]).result
    ((∃ map, result = .ok map) ↔ ∃ map, result' = .ok map) ∧
    (∀ map map', result = .ok map → result' = .ok map' → map = map' ∧
      map.entries = map'.entries ∧ map.compactJson = map'.compactJson ∧
      map.prettyJson = map'.prettyJson) ∧
    ∀ error, result = .error error ∨ result' = .error error →
      ∃ line ∈ Bytes.lines trace, (w.aggregate [.chunk line]).result = .error error := by
  intro result result'
  have hlines := lines_flatten_of_perm htrace horder
  refine ⟨?_, ?_, ?_⟩
  · rw [exists_result_ok_iff, exists_result_ok_iff, hlines]
    exact (findSome?_offence_of_perm horder).symm
  · intro map map' hmap hmap'
    have hcounts := counts_of_chunk hmap'
    rw [hlines] at hcounts
    have heq : map = map' :=
      (counts_of_chunk hmap).unique (hcounts.perm (horder.filterMap _))
    exact heq ▸ ⟨rfl, rfl, rfl, rfl⟩
  · rintro error (herror | herror)
    · refine exists_line_of_error htrace (List.Perm.refl _) ?_
      rwa [Bytes.flatten_lines]
    · exact exists_line_of_error htrace horder herror

/-- The first of two files is traced last, and then first. -/
theorem aggregate_perm_swap :
    let w : Workspace := ⟨⟨⟨[Bytes.slash]⟩, fun _ => .file, fun _ => .ok 2⟩, none⟩
    let line := Bytes.ofString "+BASHCOV> /b.sh/2 BASHCOV: x\n"
    let line' := Bytes.ofString "++BASHCOV> /a.sh/1 BASHCOV: y\n"
    let trace := line ++ line ++ line'
    let order := [line, line', line]
    let a : AbsPath := ⟨[Bytes.ofString "a.sh"], by decide⟩
    let b : AbsPath := ⟨[Bytes.ofString "b.sh"], by decide⟩
    let map := ((((CoverageMap.empty.track b 2).hit b 1).hit b 1).track a 2).hit a 0
    trace.EndsLine ∧ order.Perm (Bytes.lines trace) ∧
    (w.aggregate [.chunk trace]).result = .ok map ∧
    (w.aggregate [.chunk order.flatten]).result = .ok map := by
  intro w line line' trace order a b map
  have htrace : trace.EndsLine := .inr (by decide)
  have horder : order.Perm (Bytes.lines trace) := by decide +kernel
  have hmap : (w.aggregate [.chunk trace]).result = .ok map := by decide +kernel
  obtain ⟨hok, heq, -⟩ := w.aggregate_perm htrace horder
  obtain ⟨map', hmap'⟩ := hok.1 ⟨map, hmap⟩
  have hmaps := (heq map map' hmap hmap').1
  exact ⟨htrace, horder, hmap, hmaps ▸ hmap'⟩

end Lines

end Workspace

end ShellCoverage
