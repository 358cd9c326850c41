-- SUMMARY: Behind complete lines, a trace gives the sum of its two halves or their first error.
import ShellCoverage.Proofs.Trace.Counts

/-!
# Traces put together

A trace that goes on behind complete lines is read by a pass that has counters already. That makes
no difference: its counters are the sums of what the two halves give on their own, and it is refused
exactly if one of the halves is, the first one before the second.
-/

namespace ShellCoverage

/-! ## Sums of maps -/

/-- The counters of a file in two maps, added slot by slot. -/
def Hits.add (hits more : Hits) : Hits :=
  Array.zipWith (· + ·) hits more

namespace CoverageMap

/-- The files of either map, where the counters of a file of both are added. -/
structure IsSum (first second whole : CoverageMap) : Prop where
  get?_eq : ∀ path, whole.get? path = Option.merge Hits.add (first.get? path) (second.get? path)
  size_eq : ∀ path hits more, first.get? path = some hits → second.get? path = some more →
    hits.size = more.size

/-- Every file of the first map has counters in the second, as many and none of them smaller. -/
def Grows (first whole : CoverageMap) : Prop :=
  ∀ path hits, first.get? path = some hits → ∃ more, whole.get? path = some more ∧
    hits.size = more.size ∧
    ∀ (slot : Nat) (h : slot < hits.size) (h' : slot < more.size), hits[slot] ≤ more[slot]

theorem IsSum.grows {first second whole : CoverageMap} (h : IsSum first second whole) :
    Grows first whole := by
  intro path hits hfirst
  have hwhole := h.get?_eq path
  rw [hfirst] at hwhole
  cases hsecond : second.get? path with
  | none =>
    rw [hsecond] at hwhole
    exact ⟨hits, hwhole, rfl, fun slot _ _ => Nat.le_refl _⟩
  | some more =>
    rw [hsecond] at hwhole
    have hsize := h.size_eq path hits more hfirst hsecond
    refine ⟨Hits.add hits more, hwhole, ?_, ?_⟩
    · simp [Hits.add, hsize]
    · intro slot _ _
      simp [Hits.add]

end CoverageMap

namespace Workspace

/-! ## Visits put together -/

section Counters

variable {visits more : List (AbsPath × Nat)} {path : AbsPath}

theorem counters_append (visits more : List (AbsPath × Nat)) (path : AbsPath) (lines : Nat) :
    counters (visits ++ more) path lines =
      Hits.add (counters visits path lines) (counters more path lines) := by
  apply Array.ext
  · simp [counters, Hits.add]
  · intro slot h₁ h₂
    simp [counters, Hits.add, List.count_append]

theorem counters_append_of_notMem_left (h : path ∉ visits.map Prod.fst) (lines : Nat) :
    counters (visits ++ more) path lines = counters more path lines := by
  rw [counters_append, counters_of_notMem h]
  apply Array.ext
  · simp [counters, Hits.add]
  · intro slot h₁ h₂
    simp [Hits.add]

theorem counters_append_of_notMem_right (h : path ∉ more.map Prod.fst) (lines : Nat) :
    counters (visits ++ more) path lines = counters visits path lines := by
  rw [counters_append, counters_of_notMem h]
  apply Array.ext
  · simp [counters, Hits.add]
  · intro slot h₁ h₂
    simp [Hits.add]

end Counters

section Counts

variable {w : Workspace} {visits more : List (AbsPath × Nat)} {map : CoverageMap}

theorem Counts.get?_of_mem (h : w.Counts visits map) {path : AbsPath} {lines : Nat}
    (hlines : w.tree.lineCount path = .ok lines) (hmem : path ∈ visits.map Prod.fst) :
    map.get? path = some (counters visits path lines) := by
  obtain ⟨hsize, hslots⟩ := eq_counters_iff.1 (Eq.refl (counters visits path lines))
  exact (h path _).2 ⟨hmem, by rw [hsize, hlines], hslots⟩

theorem Counts.get?_of_notMem (h : w.Counts visits map) {path : AbsPath}
    (hmem : path ∉ visits.map Prod.fst) : map.get? path = none := by
  cases hget : map.get? path with
  | none => rfl
  | some hits => exact absurd ((h path hits).1 hget).1 hmem

theorem Counts.get?_of_error (h : w.Counts visits map) {path : AbsPath} {cause : IoError}
    (hlines : w.tree.lineCount path = .error cause) : map.get? path = none := by
  cases hget : map.get? path with
  | none => rfl
  | some hits =>
    rw [h.lineCount hget] at hlines
    cases hlines

/-- Maps that count two lists of visits add up to the map that counts both. -/
theorem Counts.isSum {first second whole : CoverageMap} (hfirst : w.Counts visits first)
    (hsecond : w.Counts more second) (hwhole : w.Counts (visits ++ more) whole) :
    first.IsSum second whole where
  get?_eq := by
    intro path
    cases hlines : w.tree.lineCount path with
    | error cause =>
      rw [hfirst.get?_of_error hlines, hsecond.get?_of_error hlines, hwhole.get?_of_error hlines]
      rfl
    | ok lines =>
      by_cases hmem : path ∈ visits.map Prod.fst
      · have hboth : path ∈ (visits ++ more).map Prod.fst := by
          rw [List.map_append, List.mem_append]
          exact .inl hmem
        rw [hfirst.get?_of_mem hlines hmem, hwhole.get?_of_mem hlines hboth]
        by_cases hmore : path ∈ more.map Prod.fst
        · rw [hsecond.get?_of_mem hlines hmore, counters_append]
          rfl
        · rw [hsecond.get?_of_notMem hmore, counters_append_of_notMem_right hmore]
          rfl
      · rw [hfirst.get?_of_notMem hmem]
        by_cases hmore : path ∈ more.map Prod.fst
        · have hboth : path ∈ (visits ++ more).map Prod.fst := by
            rw [List.map_append, List.mem_append]
            exact .inr hmore
          rw [hsecond.get?_of_mem hlines hmore, hwhole.get?_of_mem hlines hboth,
            counters_append_of_notMem_left hmem]
          rfl
        · have hneither : path ∉ (visits ++ more).map Prod.fst := by
            rw [List.map_append, List.mem_append]
            exact not_or.2 ⟨hmem, hmore⟩
          rw [hsecond.get?_of_notMem hmore, hwhole.get?_of_notMem hneither]
          rfl
  size_eq := by
    intro path hits more hhits hmore
    have hsize := hfirst.lineCount hhits
    rw [hsecond.lineCount hmore, Except.ok.injEq] at hsize
    exact hsize.symm

end Counts

/-! ## Traces put together -/

section Append

variable {w : Workspace} {front back : Bytes}

/-- A trace gives the error of its first line that offends, or the counters of all of them. -/
theorem result_aggregate_chunk (w : Workspace) (bytes : Bytes) :
    (w.aggregate [.chunk bytes]).result = match (Bytes.lines bytes).findSome? w.offence? with
      | some error => .error error
      | none => .ok (Pass.run w (Bytes.lines bytes)).files := by
  have hresult := w.result_aggregate_chunks [bytes]
  rw [List.flatten_singleton] at hresult
  exact hresult

theorem result_eq_error_iff {bytes : Bytes} {error : CoverageError} :
    (w.aggregate [.chunk bytes]).result = .error error ↔
      (Bytes.lines bytes).findSome? w.offence? = some error := by
  rw [result_aggregate_chunk]
  cases (Bytes.lines bytes).findSome? w.offence? <;> simp

theorem exists_result_ok_iff {bytes : Bytes} :
    (∃ map, (w.aggregate [.chunk bytes]).result = .ok map) ↔
      (Bytes.lines bytes).findSome? w.offence? = none := by
  rw [result_aggregate_chunk]
  cases (Bytes.lines bytes).findSome? w.offence? <;> simp

theorem counts_of_chunk {bytes : Bytes} {map : CoverageMap}
    (h : (w.aggregate [.chunk bytes]).result = .ok map) :
    w.Counts (w.visits (Bytes.lines bytes)) map := by
  have hcounts := @counts_of_result_ok w [bytes] map h
  rwa [List.flatten_singleton] at hcounts

/-- The first error in either half is the error of the whole. -/
theorem findSome?_offence_append (hfront : front.EndsLine) :
    (Bytes.lines (front ++ back)).findSome? w.offence? =
      ((Bytes.lines front).findSome? w.offence?).or ((Bytes.lines back).findSome? w.offence?) := by
  rw [Bytes.lines_append hfront, List.findSome?_append]

/-- Where both parts of a trace are accepted, the map of the whole is the sum of theirs. -/
theorem isSum_of_result_ok (hfront : front.EndsLine) {first second whole : CoverageMap}
    (hfirst : (w.aggregate [.chunk front]).result = .ok first)
    (hsecond : (w.aggregate [.chunk back]).result = .ok second)
    (hwhole : (w.aggregate [.chunk (front ++ back)]).result = .ok whole) :
    first.IsSum second whole := by
  have hcounts := counts_of_chunk hwhole
  rw [Bytes.lines_append hfront, visits, List.filterMap_append] at hcounts
  exact (counts_of_chunk hfirst).isSum (counts_of_chunk hsecond) hcounts

/-- Behind complete lines, a trace gives the error of its first half, else that of its second half,
else the sum of what the halves give. So an error never goes away when a trace goes on, no file is
lost, and no counter gets smaller. -/
theorem aggregate_append (w : Workspace) (hfront : front.EndsLine) (back : Bytes) :
    (∀ error, (w.aggregate [.chunk front]).result = .error error →
      (w.aggregate [.chunk (front ++ back)]).result = .error error) ∧
    (∀ first error, (w.aggregate [.chunk front]).result = .ok first →
      (w.aggregate [.chunk back]).result = .error error →
      (w.aggregate [.chunk (front ++ back)]).result = .error error) ∧
    (∀ first second, (w.aggregate [.chunk front]).result = .ok first →
      (w.aggregate [.chunk back]).result = .ok second →
      ∃ whole, (w.aggregate [.chunk (front ++ back)]).result = .ok whole ∧
        first.IsSum second whole) ∧
    (∀ whole, (w.aggregate [.chunk (front ++ back)]).result = .ok whole →
      ∃ first, (w.aggregate [.chunk front]).result = .ok first ∧ first.Grows whole) := by
  refine ⟨?_, ?_, ?_, ?_⟩
  · intro error herror
    rw [result_eq_error_iff] at herror ⊢
    rw [findSome?_offence_append hfront, herror, Option.some_or]
  · intro first error hfirst herror
    have hnone := exists_result_ok_iff.1 ⟨first, hfirst⟩
    rw [result_eq_error_iff] at herror ⊢
    rw [findSome?_offence_append hfront, hnone, Option.none_or, herror]
  · intro first second hfirst hsecond
    have hnone := exists_result_ok_iff.1 ⟨first, hfirst⟩
    have hnone' := exists_result_ok_iff.1 ⟨second, hsecond⟩
    obtain ⟨whole, hwhole⟩ := (@exists_result_ok_iff w (front ++ back)).2 (by
      rw [findSome?_offence_append hfront, hnone, hnone', Option.none_or])
    exact ⟨whole, hwhole, isSum_of_result_ok hfront hfirst hsecond hwhole⟩
  · intro whole hwhole
    have hnone := exists_result_ok_iff.1 ⟨whole, hwhole⟩
    rw [findSome?_offence_append hfront, Option.or_eq_none_iff] at hnone
    obtain ⟨first, hfirst⟩ := exists_result_ok_iff.2 hnone.1
    obtain ⟨second, hsecond⟩ := exists_result_ok_iff.2 hnone.2
    exact ⟨first, hfirst, (isSum_of_result_ok hfront hfirst hsecond hwhole).grows⟩

/-- The second half names a file of the first one in another spelling, and one of its own. -/
theorem aggregate_append_spellings :
    let w : Workspace := ⟨⟨⟨[Bytes.slash]⟩, fun _ => .file, fun _ => .ok 2⟩, none⟩
    let front := Bytes.ofString "+BASHCOV> /a.sh/1 BASHCOV: x\n\n"
    let back := Bytes.ofString "+BASHCOV> ./d/../a.sh/1 BASHCOV: \n+BASHCOV> b.sh/2 BASHCOV: y"
    let a : AbsPath := ⟨[Bytes.ofString "a.sh"], by decide⟩
    let b : AbsPath := ⟨[Bytes.ofString "b.sh"], by decide⟩
    let first := (CoverageMap.empty.track a 2).hit a 0
    let second := (first.track b 2).hit b 1
    front.EndsLine ∧ (w.aggregate [.chunk front]).result = .ok first ∧
    (w.aggregate [.chunk back]).result = .ok second ∧
    ∃ whole, (w.aggregate [.chunk (front ++ back)]).result = .ok whole ∧
      first.IsSum second whole := by
  intro w front back a b first second
  have hfront : front.EndsLine := .inr (by decide)
  have hfirst : (w.aggregate [.chunk front]).result = .ok first := by decide +kernel
  have hsecond : (w.aggregate [.chunk back]).result = .ok second := by decide +kernel
  exact ⟨hfront, hfirst, hsecond,
    (w.aggregate_append hfront back).2.2.1 first second hfirst hsecond⟩

end Append

end Workspace

end ShellCoverage
