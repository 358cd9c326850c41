-- SUMMARY: A trace is refused for its first offending line, or each slot counts the visits to it.
import Mathlib.Data.List.Induction
import ShellCoverage.Proofs.Trace.Lines
import ShellCoverage.Proofs.Trace.Verdict

/-!
# What a whole trace gives

The lines of a trace are judged one by one, without regard to each other. If a line offends, the
first one that does is the error of the trace. Otherwise the map has counters for exactly the files
that are visited, and each counter says how often its slot is visited.
-/

namespace ShellCoverage

namespace Workspace

/-! ## Counting visits -/

/-- The map has counters for the files that are visited, one for each line of the file, and each
counter is the number of visits to its slot. -/
def Counts (w : Workspace) (visits : List (AbsPath × Nat)) (map : CoverageMap) : Prop :=
  ∀ path hits, map.get? path = some hits ↔
    path ∈ visits.map Prod.fst ∧ w.tree.lineCount path = .ok hits.size ∧
      ∀ (slot : Nat) (h : slot < hits.size), hits[slot] = visits.count (path, slot)

/-- How often each of the first slots of a file is visited. -/
def counters (visits : List (AbsPath × Nat)) (path : AbsPath) (lines : Nat) : Hits :=
  Array.ofFn fun slot : Fin lines => visits.count (path, slot.val)

section Counters

variable {visits : List (AbsPath × Nat)} {path : AbsPath}

theorem counters_of_notMem (h : path ∉ visits.map Prod.fst) (lines : Nat) :
    counters visits path lines = Array.replicate lines 0 := by
  apply Array.ext
  · simp [counters]
  · intro slot h₁ h₂
    have hcount : visits.count (path, slot) = 0 :=
      List.count_eq_zero.2 fun hmem => h (List.mem_map_of_mem hmem)
    simp [counters, hcount]

theorem modify_counters (slot lines : Nat) :
    (counters visits path lines).modify slot (· + 1) =
      counters (visits ++ [(path, slot)]) path lines := by
  apply Array.ext
  · simp [counters]
  · intro i h₁ h₂
    simp only [counters, Array.getElem_modify, Array.getElem_ofFn, List.count_append,
      List.count_singleton, beq_iff_eq, Prod.mk.injEq, true_and]
    split <;> simp_all

/-- Counters are known by their number and by how often each slot is visited. -/
theorem eq_counters_iff {hits : Hits} {lines : Nat} :
    hits = counters visits path lines ↔ hits.size = lines ∧
      ∀ (slot : Nat) (h : slot < hits.size), hits[slot] = visits.count (path, slot) := by
  constructor
  · intro h
    subst h
    exact ⟨by simp [counters], fun slot _ => by simp [counters]⟩
  · intro h
    obtain ⟨rfl, hslots⟩ := h
    apply Array.ext
    · simp [counters]
    · intro slot h₁ h₂
      rw [hslots slot h₁]
      simp [counters]

end Counters

section Counts

variable {w : Workspace} {visits : List (AbsPath × Nat)} {map : CoverageMap}

theorem counts_empty (w : Workspace) : w.Counts [] .empty := by
  intro path hits
  simp

/-- A file has one counter for each of its lines. -/
theorem Counts.lineCount (h : w.Counts visits map) {path : AbsPath} {hits : Hits}
    (hget : map.get? path = some hits) : w.tree.lineCount path = .ok hits.size :=
  ((h path hits).1 hget).2.1

/-- A file that has no counters is a file that is not visited. -/
theorem Counts.getD_get? (h : w.Counts visits map) {path : AbsPath} {lines : Nat}
    (hlines : w.tree.lineCount path = .ok lines) :
    (map.get? path).getD (Array.replicate lines 0) = counters visits path lines := by
  cases hget : map.get? path with
  | none =>
    have hpath : path ∉ visits.map Prod.fst := by
      intro hmem
      obtain ⟨hsize, hslots⟩ := eq_counters_iff.1 (Eq.refl (counters visits path lines))
      have hcounters := (h path _).2 ⟨hmem, by rw [hsize, hlines], hslots⟩
      rw [hget] at hcounters
      cases hcounters
    exact (counters_of_notMem hpath lines).symm
  | some hits =>
    obtain ⟨-, hsize, hslots⟩ := (h path hits).1 hget
    rw [hlines] at hsize
    cases hsize
    exact eq_counters_iff.2 ⟨rfl, hslots⟩

theorem Counts.count_eq {visits' : List (AbsPath × Nat)} (h : w.Counts visits map)
    (h' : w.Counts visits' map) {path : AbsPath} {lines slot : Nat}
    (hlines : w.tree.lineCount path = .ok lines) (hslot : slot < lines) :
    visits.count (path, slot) = visits'.count (path, slot) := by
  have hcounters : counters visits path lines = counters visits' path lines := by
    rw [← h.getD_get? hlines, h'.getD_get? hlines]
  have hget := congrArg (·[slot]?) hcounters
  simpa [counters, hslot] using hget

/-- A visit adds one to its slot, and gives counters to a file that had none. -/
theorem Counts.visit (h : w.Counts visits map) {path : AbsPath} {slot lines : Nat}
    (hlines : w.tree.lineCount path = .ok lines) {map' : CoverageMap}
    (hmap' : ∀ q, map'.get? q =
      if path = q then some (((map.get? q).getD (Array.replicate lines 0)).modify slot (· + 1))
      else map.get? q) :
    w.Counts (visits ++ [(path, slot)]) map' := by
  intro q hits
  rw [hmap']
  split
  · next heq =>
    subst heq
    rw [h.getD_get? hlines, modify_counters, Option.some.injEq, eq_comm, eq_counters_iff, hlines,
      Except.ok.injEq, eq_comm (a := lines)]
    simp
  · next hne =>
    rw [h q hits]
    simp [hne, List.count_append, Ne.symm hne]

end Counts

/-! ## Judging a trace -/

theorem visits_append_singleton (w : Workspace) (lines : List Bytes) (line : Bytes) :
    w.visits (lines ++ [line]) = w.visits lines ++ (w.verdict line).visit?.toList := by
  rw [visits, List.filterMap_append]
  cases hvisit : (w.verdict line).visit? <;> simp [visits, hvisit]

end Workspace

namespace Pass

theorem get?_ensureCounters (pass : Pass) (path : AbsPath) (lines : Nat) (q : AbsPath) :
    (pass.ensureCounters path lines).files.get? q =
      if path = q then some ((pass.files.get? q).getD (Array.replicate lines 0))
      else pass.files.get? q := by
  unfold ensureCounters
  split
  · next hsome =>
    split
    · next heq =>
      subst heq
      obtain ⟨hits, hhits⟩ := Option.isSome_iff_exists.1 hsome
      rw [hhits, Option.getD_some]
    · rfl
  · next hnone =>
    rw [Bool.not_eq_true, Option.isSome_eq_false_iff, Option.isNone_iff_eq_none] at hnone
    simp only [CoverageMap.get?_track]
    split
    · next heq =>
      subst heq
      rw [hnone, Option.getD_none]
    · rfl

@[simp]
theorem failure_ensureCounters (pass : Pass) (path : AbsPath) (lines : Nat) :
    (pass.ensureCounters path lines).failure = pass.failure := by
  unfold ensureCounters
  split <;> rfl

/-- A pass fails with the error of the line, if the line offends. -/
theorem failure_apply {pass : Pass} (h : pass.failure = none) (line : Bytes) (verdict : Verdict) :
    (pass.apply line verdict).failure = verdict.offence? := by
  cases verdict with
  | visit path slot lines =>
    change (Pass.ensureCounters _ path lines).failure = none
    rw [failure_ensureCounters]
    exact h
  | noise => exact h
  | directory path => exact h
  | unlocated name cause => rfl
  | notAFile path => rfl
  | uncounted path cause => rfl
  | outOfRange path n lines => rfl

/-- A line that does not offend counts as the verdict says. -/
theorem counts_apply {w : Workspace} {pass : Pass} {visits : List (AbsPath × Nat)}
    (h : w.Counts visits pass.files) {line : Bytes} (hline : w.offence? line = none) :
    w.Counts (visits ++ (w.verdict line).visit?.toList)
      (pass.apply line (w.verdict line)).files := by
  cases hverdict : w.verdict line with
  | visit path slot lines =>
    obtain ⟨-, hlines, -⟩ := Workspace.lineCount_of_verdict hverdict
    refine h.visit hlines fun q => ?_
    change (CoverageMap.hit (Pass.ensureCounters _ path lines).files path slot).get? q = _
    rw [CoverageMap.get?_hit, get?_ensureCounters]
    split <;> rfl
  | noise =>
    change w.Counts (visits ++ []) pass.files
    rwa [List.append_nil]
  | directory path =>
    change w.Counts (visits ++ []) pass.files
    rwa [List.append_nil]
  | unlocated name cause => simp [Workspace.offence?, hverdict, Verdict.offence?] at hline
  | notAFile path => simp [Workspace.offence?, hverdict, Verdict.offence?] at hline
  | uncounted path cause => simp [Workspace.offence?, hverdict, Verdict.offence?] at hline
  | outOfRange path n lines => simp [Workspace.offence?, hverdict, Verdict.offence?] at hline

theorem run_append_singleton (w : Workspace) (lines : List Bytes) (line : Bytes) :
    run w (lines ++ [line]) = (run w lines).step w line := by
  rw [run, List.foldl_append]
  rfl

/-- A pass over lines of which none offends has no error, and has counted the visits. -/
theorem counts_run {w : Workspace} {lines : List Bytes}
    (h : ∀ line ∈ lines, w.offence? line = none) :
    (run w lines).failure = none ∧ w.Counts (w.visits lines) (run w lines).files := by
  induction lines using List.reverseRecOn with
  | nil => exact ⟨rfl, w.counts_empty⟩
  | append_singleton lines line ih =>
    obtain ⟨hfailure, hcounts⟩ := ih fun line hline => h line (by simp [hline])
    have hline := h line (by simp)
    have hstep := step_eq_apply hfailure (fun _ _ => hcounts.lineCount) line
    rw [run_append_singleton, hstep, Workspace.visits_append_singleton]
    exact ⟨(failure_apply hfailure line _).trans hline, counts_apply hcounts hline⟩

/-- Behind the first line that offends nothing is done. -/
theorem run_append_cons_of_offence {w : Workspace} {lines : List Bytes}
    (h : ∀ line ∈ lines, w.offence? line = none) {line : Bytes} {error : CoverageError}
    (hline : w.offence? line = some error) (after : List Bytes) :
    (run w (lines ++ [line])).failure = some error ∧
      run w (lines ++ line :: after) = run w (lines ++ [line]) := by
  obtain ⟨hfailure, hcounts⟩ := counts_run h
  have hstep := step_eq_apply hfailure (fun _ _ => hcounts.lineCount) line
  have hoffence : ((run w lines).step w line).failure = some error := by
    rw [hstep, failure_apply hfailure]
    exact hline
  rw [run_append_singleton]
  refine ⟨hoffence, ?_⟩
  rw [run, List.foldl_append, List.foldl_cons]
  exact List.foldl_fixed' (step_of_failure hoffence) after

/-- A pass fails with the error of the first line that offends. -/
theorem failure_run (w : Workspace) (lines : List Bytes) :
    (run w lines).failure = lines.findSome? w.offence? := by
  cases hfound : lines.findSome? w.offence? with
  | none => exact (counts_run (List.findSome?_eq_none_iff.1 hfound)).1
  | some error =>
    obtain ⟨before, line, after, rfl, hline, hbefore⟩ := List.findSome?_eq_some_iff.1 hfound
    obtain ⟨hoffence, hrun⟩ := run_append_cons_of_offence hbefore hline after
    rw [hrun, hoffence]

end Pass

/-! ## The outcome -/

theorem Pass.result_eq_ok_iff {pass : Pass} {failure : Option IoError} {map : CoverageMap} :
    pass.result failure = .ok map ↔ pass.failure = none ∧ failure = none ∧ pass.files = map := by
  unfold result
  split <;> simp_all

/-- What a trace gives, line by line: the error of the first line that offends, or the map that
counts the visits. -/
theorem Workspace.result_aggregate_chunks (w : Workspace) (pieces : List Bytes) :
    (w.aggregate (pieces.map .chunk)).result =
      match (Bytes.lines pieces.flatten).findSome? w.offence? with
      | some error => .error error
      | none => .ok (Pass.run w (Bytes.lines pieces.flatten)).files := by
  unfold aggregate
  rw [Reading.ofDeliveries_chunks]
  change (Pass.run w (Bytes.lines pieces.flatten)).result none = _
  unfold Pass.result
  rw [Pass.failure_run]
  cases (Bytes.lines pieces.flatten).findSome? w.offence? <;> rfl

/-- A map that a trace gives counts the visits. -/
theorem Workspace.counts_of_result_ok {w : Workspace} {pieces : List Bytes} {map : CoverageMap}
    (h : (w.aggregate (pieces.map .chunk)).result = .ok map) :
    w.Counts (w.visits (Bytes.lines pieces.flatten)) map := by
  rw [result_aggregate_chunks] at h
  cases hfound : (Bytes.lines pieces.flatten).findSome? w.offence? with
  | some error =>
    rw [hfound] at h
    cases h
  | none =>
    rw [hfound] at h
    cases h
    exact (Pass.counts_run (List.findSome?_eq_none_iff.1 hfound)).2

/-- A trace is refused with the error of its first offending line. If no line offends, it gives a
map with counters for exactly the files that are visited, as many as the file has lines, each the
number of visits to its slot. -/
theorem Workspace.aggregate_first_offence_or_counts (w : Workspace) (pieces : List Bytes) :
    match (Bytes.lines pieces.flatten).findSome? w.offence? with
    | some error => (w.aggregate (pieces.map .chunk)).result = .error error
    | none => ∃ map, (w.aggregate (pieces.map .chunk)).result = .ok map ∧
        w.Counts (w.visits (Bytes.lines pieces.flatten)) map := by
  have hresult := w.result_aggregate_chunks pieces
  cases hfound : (Bytes.lines pieces.flatten).findSome? w.offence? with
  | some error =>
    rw [hfound] at hresult
    exact hresult
  | none =>
    rw [hfound] at hresult
    exact ⟨_, hresult, w.counts_of_result_ok hresult⟩

end ShellCoverage
