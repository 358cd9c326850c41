-- SUMMARY: The files that a trace puts into a map: each was hit, and none has a line feed in its path.
import ShellCoverage.Proofs.Path.Expansion
import ShellCoverage.Proofs.Record.LookAlike
import ShellCoverage.Proofs.Trace.Balance

/-!
# Traced files

A file gets counters when a record names it, and they stay only if that record counts in one of
them. The name in a record has no line feed, and expansion adds nothing but slashes to the bytes of
the name, the root and the working directory.
-/

namespace ShellCoverage

/-! ## Bytes of a path -/

namespace Path

theorem mem_bytes_of_mem_steps {p : Path} {step : Bytes} {b : UInt8} (hstep : step ∈ p.steps)
    (hb : b ∈ step) : b ∈ p.bytes := by
  have hpiece : step ∈ p.bytes.splitOn Bytes.slash := (List.mem_filter.1 hstep).1
  have hbytes : [Bytes.slash].intercalate (p.bytes.splitOn Bytes.slash) = p.bytes :=
    List.intercalate_splitOn _
  cases hpieces : p.bytes.splitOn Bytes.slash with
  | nil => exact absurd hpieces (List.splitOn_ne_nil _ _)
  | cons first more =>
    rw [hpieces] at hpiece hbytes
    rw [← hbytes, intercalate_singleton_cons, List.mem_append, List.mem_flatMap]
    obtain rfl | hmore := List.mem_cons.1 hpiece
    · exact .inl hb
    · exact .inr ⟨step, hmore, List.mem_cons_of_mem _ hb⟩

/-- Expansion adds no byte but the slash. -/
theorem mem_of_mem_expand {name root : Path} {workingDirectory : Option Path} {p : AbsPath}
    (h : name.expand root workingDirectory = .ok p) {b : UInt8} (hb : b ∈ p.toPath.bytes)
    (hslash : b ≠ Bytes.slash) : b ∈ name.bytes ∨ b ∈ root.bytes ∨
      ∃ directory, workingDirectory = some directory ∧ b ∈ directory.bytes := by
  obtain ⟨steps, hsteps, rfl⟩ := expand_eq_ok_iff.1 h
  have hname : ∃ name ∈ (AbsPath.ofSteps steps).names, b ∈ name := by
    unfold AbsPath.toPath at hb
    split at hb
    · exact absurd (List.mem_singleton.1 hb) hslash
    · obtain ⟨name, hname, hb⟩ := List.mem_flatMap.1 hb
      exact ⟨name, hname, (List.mem_cons.1 hb).resolve_left hslash⟩
  obtain ⟨step, hstep, hb⟩ := hname
  obtain hstep | hstep | ⟨directory, hdirectory, hstep⟩ :=
    mem_of_mem_route? hsteps (AbsPath.mem_steps_of_mem_ofSteps hstep)
  · exact .inl (mem_bytes_of_mem_steps hstep hb)
  · exact .inr (.inl (mem_bytes_of_mem_steps hstep hb))
  · exact .inr (.inr ⟨directory, hdirectory, mem_bytes_of_mem_steps hstep hb⟩)

end Path

/-- No record names a file across lines. -/
theorem Template.lineFeed_notMem_of_classify {t : Template} {line : Bytes} {record : Record}
    (h : t.classify line = some record) : Bytes.lineFeed ∉ record.filename.bytes := by
  rw [classify_eq, Option.bind_eq_some_iff] at h
  obtain ⟨split, hsplit, hrecord⟩ := h
  have hsplits := t.isBest_split? line
  rw [hsplit] at hsplits
  rw [Split.filename_of_record? hrecord]
  exact hsplits.1.lineFeed_notMem

/-- Neither the root nor the working directory has a line feed. -/
def Workspace.OneLine (w : Workspace) : Prop :=
  Bytes.lineFeed ∉ w.tree.root.bytes ∧
    ∀ directory, w.workingDirectory = some directory → Bytes.lineFeed ∉ directory.bytes

/-- If neither the root nor the working directory has a line feed, no traced path has one. -/
theorem Workspace.OneLine.located? {w : Workspace} (hw : w.OneLine) {line : Bytes} {path : AbsPath}
    (h : w.located? line = some path) : Bytes.lineFeed ∉ path.toPath.bytes := by
  unfold Workspace.located? at h
  split at h
  · cases h
  · next record hrecord =>
    intro hmem
    cases hexpand : record.filename.expand w.tree.root w.workingDirectory with
    | error cause =>
      rw [hexpand] at h
      cases h
    | ok p =>
      rw [hexpand] at h
      cases h
      obtain hname | hroot | ⟨directory, hdirectory, hmem⟩ :=
        Path.mem_of_mem_expand hexpand hmem Bytes.lineFeed_ne_slash
      · exact Template.lineFeed_notMem_of_classify hrecord hname
      · exact hw.1 hroot
      · exact hw.2 directory hdirectory hmem

/-! ## Files of a pass -/

/-- Each file has a counter that is not zero, and no line feed in its path. -/
def CoverageMap.Traced (map : CoverageMap) : Prop :=
  ∀ path hits, map.get? path = some hits →
    Bytes.lineFeed ∉ path.toPath.bytes ∧ ∃ count ∈ hits, 0 < count

theorem CoverageMap.traced_empty : CoverageMap.empty.Traced := by
  intro path hits h
  rw [get?_empty] at h
  cases h

namespace Pass

/-- A line that is not refused changes no counters but those of the file that it counts in. -/
theorem get?_apply (pass : Pass) (line : Bytes) {verdict : Verdict}
    (h : verdict.offence? = none) (q : AbsPath) :
    (pass.apply line verdict).files.get? q = pass.files.get? q ∨
      ∃ slot lines, verdict = .visit q slot lines ∧ (pass.apply line verdict).files.get? q =
        some (((pass.files.get? q).getD (Array.replicate lines 0)).modify slot (· + 1)) := by
  cases verdict with
  | noise | directory path => exact .inl rfl
  | visit path slot lines =>
    have hget : (pass.apply line (.visit path slot lines)).files.get? q =
        if path = q then
          some (((pass.files.get? q).getD (Array.replicate lines 0)).modify slot (· + 1))
        else pass.files.get? q := by
      change (CoverageMap.hit (Pass.ensureCounters _ path lines).files path slot).get? q = _
      rw [CoverageMap.get?_hit, get?_ensureCounters]
      split <;> rfl
    rw [hget]
    split
    · next heq => exact .inr ⟨slot, lines, heq ▸ rfl, rfl⟩
    · exact .inl rfl
  | unlocated | notAFile | uncounted | outOfRange => cases h

end Pass

namespace LiveWorkspace

section Run

variable {w : LiveWorkspace} {lines : List Bytes}

/-- A step without an error leaves every file traced. -/
theorem traced_step {pass : Pass} (hpass : pass.files.Traced) (hw : (w.behind pass.calls).OneLine)
    {line : Bytes} (h : (w.step pass line).failure = none) : (w.step pass line).files.Traced := by
  have hfailure := failure_of_failure_step h
  rw [step_eq_apply hfailure] at h ⊢
  have hoffence : (w.verdict pass line).offence? = none := by
    rw [← Pass.failure_apply hfailure line, h]
  intro q hits hget
  obtain hsame | ⟨slot, n, hverdict, hvisit⟩ := pass.get?_apply line hoffence q
  · exact hpass q hits (hsame ▸ hget)
  · have hfile := map_fst_visit?_verdict hoffence
    rw [hverdict] at hfile
    have hlocated := (Option.filter_eq_some_iff.1 hfile.symm).1
    refine ⟨hw.located? hlocated, ?_⟩
    obtain ⟨hslot, hsize⟩ := size_of_verdict hverdict
    have hslot' := CoverageMap.lt_size_getD hslot hsize
    obtain rfl := Option.some.inj (hvisit.symm.trans hget)
    have hcount : slot < (((pass.files.get? q).getD (Array.replicate n 0)).modify slot
        (· + 1)).size := by
      rwa [Array.size_modify]
    refine ⟨_, Array.getElem_mem hcount, ?_⟩
    rw [Array.getElem_modify_self]
    exact Nat.succ_pos _

/-- If no line is refused, all files are traced, whatever the answers of the source tree are. -/
theorem traced_run (hw : ∀ calls, (w.behind calls).OneLine)
    (h : (lines.foldl w.step .start).failure = none) :
    (lines.foldl w.step .start).files.Traced := by
  induction lines using List.reverseRecOn with
  | nil => exact CoverageMap.traced_empty
  | append_singleton lines line ih =>
    rw [List.foldl_append] at h ⊢
    exact traced_step (ih (failure_of_failure_step h)) (hw _) h

end Run

end LiveWorkspace

end ShellCoverage
