-- SUMMARY: The text report of a trace is read back line by line, whatever the trace holds.
import ShellCoverage.Proofs.Text.Reader
import ShellCoverage.Proofs.Text.Utf8
import ShellCoverage.Proofs.Trace.Files
import ShellCoverage.Report

/-!
# The text report is read back

A path may hold all that separates the parts of a line of the report. The counts behind it hold no
colon, so the last colon of a line is the one behind the path; and since no path that comes out of a
trace holds a line feed, the lines are those of the files. Each of them tells of a line that was
executed, so it is not taken for the report of no file.
-/

namespace ShellCoverage

/-! ## Reading a line -/

structure SummaryLine where
  /-- The path, as it is shown. -/
  path : String
  executed : Nat
  lines : Nat
  deriving DecidableEq, Repr

namespace SummaryLine

/-- What stands before and behind the last colon that has a blank behind it. -/
def cut? : List Char → Option (List Char × List Char)
  | [] => none
  | c :: text =>
    match cut? text with
    | some (before, behind) => some (c :: before, behind)
    | none => if c = ':' ∧ text.head? = some ' ' then some ([], text.tail) else none

/-- What stands behind the counts. -/
def ending : List Char :=
  " lines executed".toList

def readCounts? (text : List Char) : Option (Nat × Nat) := do
  let (executed, rest) ← Text.readNumber text
  match rest with
  | '/' :: rest =>
    let (lines, rest) ← Text.readNumber rest
    if rest = ending then some (executed, lines) else none
  | _ => none

def read? (line : List Char) : Option SummaryLine := do
  let (path, behind) ← cut? line
  let (executed, lines) ← readCounts? behind
  return ⟨String.ofList path, executed, lines⟩

/-! ## Lines are read back -/

theorem cut?_eq_none {text : List Char} (h : ':' ∉ text) : cut? text = none := by
  induction text with
  | nil => rfl
  | cons c text ih =>
    rw [List.mem_cons, not_or] at h
    rw [cut?, ih h.2]
    exact if_neg fun hc => h.1 hc.1.symm

/-- The cut is made at the last colon, if what stands behind it has none. -/
theorem cut?_append {behind : List Char} (h : ':' ∉ behind) (before : List Char) :
    cut? (before ++ ':' :: ' ' :: behind) = some (before, behind) := by
  induction before with
  | nil =>
    have hblank : cut? (' ' :: behind) = none := cut?_eq_none (by simpa using h)
    rw [List.nil_append, cut?, hblank]
    rfl
  | cons c before ih => rw [List.cons_append, cut?, ih]

def counts (executed lines : Nat) : List Char :=
  Nat.toDigits 10 executed ++ '/' :: (Nat.toDigits 10 lines ++ ending)

theorem readCounts?_counts (executed lines : Nat) :
    readCounts? (counts executed lines) = some (executed, lines) := by
  have hexecuted := Text.undoes_toDigits executed ('/' :: (Nat.toDigits 10 lines ++ ending))
    (Text.noDigit_cons (by decide) _)
  have hlines := Text.undoes_toDigits lines ending (Text.noDigit_cons (by decide) _)
  simp only [readCounts?, counts, hexecuted, Option.bind_eq_bind, Option.bind_some, hlines, if_true]

/-- Neither a colon nor a line feed stands behind the path of a file. -/
theorem notMem_counts {c : Char} (h : c = ':' ∨ c = '\n') (executed lines : Nat) :
    c ∉ counts executed lines := by
  have hdigits : ∀ n, c ∉ Nat.toDigits 10 n := by
    intro n hmem
    have hdigit := Nat.isDigit_of_mem_toDigits (by decide) (by decide) hmem
    obtain rfl | rfl := h <;> cases hdigit
  have htext : c ∉ '/' :: ending := by
    obtain rfl | rfl := h <;> decide
  simp only [counts, List.mem_append, List.mem_cons, not_or] at htext ⊢
  exact ⟨hdigits executed, htext.1, hdigits lines, htext.2⟩

theorem toList_summaryLine (e : CoverageMap.Entry) : (CoverageMap.summaryLine e).toList =
    e.1.toPath.display.toList ++ ':' :: ' ' :: counts (e.2.countP (0 < ·)) e.2.size := by
  -- stated for any texts, since a text that is written out would be taken apart
  have happend : ∀ path colon executed slash lines ending : String,
      (path ++ colon ++ executed ++ slash ++ lines ++ ending).toList = path.toList ++
        (colon.toList ++ (executed.toList ++ (slash.toList ++ (lines.toList ++ ending.toList)))) := by
    intros
    simp only [String.toList_append, List.append_assoc]
  rw [CoverageMap.summaryLine, happend, Nat.toString_eq_repr, Nat.toString_eq_repr,
    Nat.toList_repr, Nat.toList_repr]
  rfl

/-- A line of the report is read back, whatever colons the path holds. -/
theorem read?_summaryLine (e : CoverageMap.Entry) :
    read? (CoverageMap.summaryLine e).toList =
      some ⟨e.1.toPath.display, e.2.countP (0 < ·), e.2.size⟩ := by
  rw [toList_summaryLine, read?, cut?_append (notMem_counts (.inl rfl) _ _)]
  simp only [Option.bind_eq_bind, Option.bind_some, readCounts?_counts, String.ofList_toList]
  rfl

/-- Only a line feed in a path could break a line of the report. -/
theorem newLine_notMem_summaryLine {e : CoverageMap.Entry}
    (h : Bytes.lineFeed ∉ e.1.toPath.bytes) : '\n' ∉ (CoverageMap.summaryLine e).toList := by
  have hpath : '\n' ∉ e.1.toPath.display.toList := fun hmem => h (Utf8.lineFeed_mem_of_lossy hmem)
  simp [toList_summaryLine, hpath, notMem_counts (.inr rfl)]

end SummaryLine

/-! ## Reports are read back -/

namespace CoverageMap

theorem isEmpty_iff_entries {m : CoverageMap} : m.isEmpty ↔ m.entries = [] := by
  rw [← List.isEmpty_iff, entries, Std.ExtTreeMap.isEmpty_toList]
  rfl

theorem summary_of_not_isEmpty {m : CoverageMap} (h : ¬m.isEmpty) :
    m.summary.toList = ['\n'].intercalate (m.entries.map fun e => (summaryLine e).toList) := by
  rw [summary, if_neg h, String.toList_intercalate, List.map_map]
  rfl

/-- The lines of the report are those of the files, in their order. -/
theorem Traced.splitOn_summary {m : CoverageMap} (h : m.Traced) (hm : ¬m.isEmpty) :
    m.summary.toList.splitOn '\n' = m.entries.map fun e => (summaryLine e).toList := by
  rw [summary_of_not_isEmpty hm]
  refine List.splitOn_intercalate _ ?_ ?_
  · intro line hline
    obtain ⟨⟨path, hits⟩, he, rfl⟩ := List.mem_map.1 hline
    exact SummaryLine.newLine_notMem_summaryLine (h path hits (mem_entries.1 he)).1
  · rwa [Ne, List.map_eq_nil_iff, ← isEmpty_iff_entries]

/-- Each traced file has a line that was executed. -/
theorem Traced.executed_le {m : CoverageMap} (h : m.Traced) {e : Entry} (he : e ∈ m.entries) :
    1 ≤ e.2.countP (0 < ·) ∧ e.2.countP (0 < ·) ≤ e.2.size := by
  obtain ⟨-, count, hcount, hpos⟩ := h e.1 e.2 (mem_entries.1 he)
  exact ⟨Array.countP_pos_iff.2 ⟨count, hcount, by simpa using hpos⟩, Array.countP_le_size⟩

/-- What is reported of no file cannot be read as the line of a file. -/
theorem Traced.summary_eq_iff {m : CoverageMap} (h : m.Traced) :
    m.summary = "No traced files" ↔ m.isEmpty := by
  refine ⟨fun hsummary => ?_, fun hm => if_pos hm⟩
  by_contra hm
  have hlines := h.splitOn_summary hm
  rw [hsummary] at hlines
  obtain ⟨e, -, hline⟩ : ∃ e ∈ m.entries, (summaryLine e).toList = "No traced files".toList := by
    rw [← List.mem_map, ← hlines]
    decide
  have hread : SummaryLine.read? "No traced files".toList = none := by decide
  rw [← hline, SummaryLine.read?_summaryLine] at hread
  cases hread

end CoverageMap

/-- Whatever a trace holds, its text report has one line for each file, in the order of the map, if
neither the root nor the working directory has a line feed. What stands before the last colon of a
line is the path as it is shown, so the path itself if it is text, and behind it are the numbers of
the lines executed, which is never zero, and of all lines. Only the report of no file says so. -/
theorem LiveWorkspace.summary_reads_back {w : LiveWorkspace} {deliveries : List Delivery}
    {map : CoverageMap} (hw : ∀ calls, (w.behind calls).OneLine)
    (h : (w.aggregate deliveries).result = .ok map) :
    (map.summary = "No traced files" ↔ map.isEmpty) ∧
    (¬map.isEmpty → (map.summary.toList.splitOn '\n').map SummaryLine.read? =
      map.entries.map fun e => some ⟨e.1.toPath.display, e.2.countP (0 < ·), e.2.size⟩) ∧
    ∀ e ∈ map.entries, (1 ≤ e.2.countP (0 < ·) ∧ e.2.countP (0 < ·) ≤ e.2.size) ∧
      ∀ s, e.1.toPath.bytes = Bytes.ofString s → e.1.toPath.display = s := by
  obtain ⟨hfailure, rfl, -⟩ := aggregate_of_ok h
  have htraced := traced_run hw hfailure
  refine ⟨htraced.summary_eq_iff, fun hm => ?_, fun e he => ⟨htraced.executed_le he, ?_⟩⟩
  · rw [htraced.splitOn_summary hm, List.map_map]
    exact List.map_congr_left fun e _ => SummaryLine.read?_summaryLine e
  · intro s hs
    rw [Path.display, hs, Utf8.lossy_ofString]

/-- Names that look like the report of no file and like the end of a line, and one that is no
text. -/
theorem LiveWorkspace.summary_reads_back_forged :
    let w : Workspace :=
      { tree :=
          { root := .ofString "/r", pathKind := fun _ => .file, lineCount := fun _ => .ok 3 }
        workingDirectory := none }
    let trace := Bytes.ofString "+BASHCOV> a: 3/3 lines executed/1 BASHCOV: \n" ++
      Bytes.ofString "+BASHCOV> No traced files/3 BASHCOV: \n+BASHCOV> " ++ 255 ::
      Bytes.ofString "/2 BASHCOV: \n+BASHCOV> a: 3/3 lines executed/2 BASHCOV: \n"
    ∃ map, (w.live.aggregate [.chunk trace]).result = .ok map ∧ ¬map.isEmpty ∧
      (∀ calls, (w.live.behind calls).OneLine) ∧ map.summary ≠ "No traced files" ∧
      (map.summary.toList.splitOn '\n').map SummaryLine.read? =
        [some ⟨"/r/No traced files", 1, 3⟩, some ⟨"/r/a: 3/3 lines executed", 2, 3⟩,
          some ⟨"/r/\ufffd", 1, 3⟩] := by
  intro w trace
  let r := Bytes.ofString "r"
  let a : AbsPath := ⟨[r, Bytes.ofString "a: 3", Bytes.ofString "3 lines executed"], by decide⟩
  let no : AbsPath := ⟨[r, Bytes.ofString "No traced files"], by decide⟩
  let broken : AbsPath := ⟨[r, [255]], by decide⟩
  let map := ((((((CoverageMap.empty.track a 3).hit a 0).track no 3).hit no 2).track broken 3).hit
    broken 1).hit a 1
  have hmap : (w.live.aggregate [.chunk trace]).result = .ok map := by
    rw [Workspace.aggregate_live]
    decide +kernel
  have hw : ∀ calls, (w.live.behind calls).OneLine := by
    refine fun calls => ⟨?_, fun directory hdirectory => by cases hdirectory⟩
    change Bytes.lineFeed ∉ (Path.ofString "/r").bytes
    decide
  have hentries : map.entries = [(no, #[0, 0, 1]), (a, #[1, 1, 0]), (broken, #[0, 1, 0])] := by
    decide +kernel
  have hempty : ¬map.isEmpty := by simp [CoverageMap.isEmpty_iff_entries, hentries]
  obtain ⟨hnone, hlines, -⟩ := summary_reads_back hw hmap
  refine ⟨map, hmap, hempty, hw, fun hsummary => hempty (hnone.1 hsummary), ?_⟩
  rw [hlines hempty, hentries]
  decide +kernel

end ShellCoverage
