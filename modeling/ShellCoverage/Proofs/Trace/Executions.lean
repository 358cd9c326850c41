-- SUMMARY: Which commands are counted where they were executed, whatever else is executed.
import ShellCoverage.Proofs.Path.Canonical
import ShellCoverage.Proofs.Record.LookAlike
import ShellCoverage.Proofs.Trace.Counts

/-!
# What is executed is counted

A traced shell prints a record and the text of the command for every command that it executes. If
no text looks like the end of a record, the trace gives exactly one count for each execution, in the
slot of its line. A single text that does is enough to break this.
-/

namespace ShellCoverage

/-- The execution of a command, as a traced shell reports it. -/
structure Execution where
  depth : Nat
  path : AbsPath
  line : Nat
  text : Bytes

namespace Execution

def split (e : Execution) : Split :=
  ⟨e.depth, e.path.toPath.bytes, Decimal.encode e.line⟩

def printed (e : Execution) : Bytes :=
  Sentinel.standard.template.line e.split (e.text ++ [Bytes.lineFeed])

/-- The file and the slot that an execution belongs to. -/
def visit (e : Execution) : AbsPath × Nat :=
  (e.path, e.line - 1)

end Execution

/-- The command can be executed at a line of a file of the source tree. -/
structure Workspace.Runs (w : Workspace) (e : Execution) : Prop where
  depth_pos : 1 ≤ e.depth
  path_lineFeed : Bytes.lineFeed ∉ e.path.toPath.bytes
  text_lineFeed : Bytes.lineFeed ∉ e.text
  pathKind : w.tree.pathKind e.path = .file
  line_pos : 1 ≤ e.line
  line_le : ∃ lines < UInt64.size, w.tree.lineCount e.path = .ok lines ∧ e.line ≤ lines

/-! ## Lines -/

theorem AbsPath.bytes_toPath_ne_nil (p : AbsPath) : p.toPath.bytes ≠ [] := by
  intro hnil
  have habsolute := p.isAbsolute_toPath
  rw [Path.isAbsolute, hnil] at habsolute
  cases habsolute

theorem Sentinel.lineFeed_notMem_front_standard (depth : Nat) :
    Bytes.lineFeed ∉ Sentinel.standard.template.front depth := by
  have hmarker : Bytes.lineFeed ∉ Sentinel.standard.template.marker := by decide
  have hrest : Bytes.lineFeed ∉ Sentinel.standard.template.rest := by decide
  simp [Template.front, hmarker, hrest]

/-- What the shell prints for executions is one line for each. -/
theorem Workspace.Runs.lines_flatMap_printed {w : Workspace} {es : List Execution}
    (h : ∀ e ∈ es, w.Runs e) :
    Bytes.lines (es.flatMap Execution.printed) = es.map Execution.printed := by
  rw [List.flatMap_def]
  apply Bytes.lines_flatten
  intro line hline
  obtain ⟨e, he, rfl⟩ := List.mem_map.1 hline
  refine ⟨Sentinel.standard.template.line e.split e.text, ?_, ?_⟩
  · simp [Template.line, Execution.split, Sentinel.lineFeed_notMem_front_standard,
      (h e he).path_lineFeed, (h e he).text_lineFeed, Template.plain_standard.lineFeed_notMem,
      (Decimal.isNumber_encode e.line).lineFeed_notMem]
  · simp [Execution.printed, Template.line]

/-! ## Verdicts -/

section Printed

variable {w : Workspace} {e : Execution}

/-- An execution is counted where it belongs if its text does not look like a record. -/
theorem Workspace.Runs.verdict_printed (h : w.Runs e)
    (htext : ¬ LooksAlike Sentinel.standard.template.closing e.text) :
    ∃ lines, w.verdict e.printed = .visit e.path (e.line - 1) lines := by
  obtain ⟨lines, hbound, hlines, hline⟩ := h.line_le
  have hclassify : Sentinel.standard.classify e.printed =
      some ⟨e.depth, e.path.toPath, e.line⟩ := by
    refine Eq.trans ?_ (Split.record?_encode (hline.trans_lt hbound))
    exact Template.plain_standard.classify_line_of_not_looksAlike h.depth_pos
      e.path.bytes_toPath_ne_nil h.path_lineFeed (Decimal.isNumber_encode e.line) h.text_lineFeed
      (by simp) htext
  have hrange : max e.line 1 = e.line := Nat.max_eq_left h.line_pos
  refine ⟨lines, ?_⟩
  simp only [Workspace.verdict, hclassify, Workspace.judge, AbsPath.expand_toPath, h.pathKind,
    hlines, hrange]
  exact if_neg (by omega)

/-- Behind a text that looks like a record, a line counts in a slot that depends on the text
alone, if it counts at all. -/
theorem Workspace.exists_slot_of_looksAlike {text : Bytes} (htext : Bytes.lineFeed ∉ text)
    (hlook : LooksAlike Sentinel.standard.template.closing text) :
    ∃ slot, ∀ (w : Workspace) (e : Execution), w.Runs e → e.text = text →
      ∀ path slot', (w.verdict e.printed).visit? = some (path, slot') → slot' = slot := by
  obtain ⟨before, digits, hlast⟩ := hlook.exists_last htext
  refine ⟨max (Decimal.value digits) 1 - 1, fun w e h he path slot hvisit => ?_⟩
  have hclassify : ∃ filename, Sentinel.standard.classify e.printed =
      Split.record? ⟨e.depth, filename, digits⟩ := by
    refine ⟨e.split.filename ++ Bytes.slash :: e.split.digits ++
      Sentinel.standard.template.closing ++ before, ?_⟩
    rw [Execution.printed, he]
    exact Template.plain_standard.classify_line_of_isLastLookAlike h.depth_pos h.path_lineFeed
      (Decimal.isNumber_encode e.line) htext (by simp) hlast
  obtain ⟨filename, hclassify⟩ := hclassify
  unfold Split.record? at hclassify
  split at hclassify
  · simp only [Workspace.verdict, hclassify] at hvisit
    exact Workspace.slot_of_visit?_judge hvisit
  · simp only [Workspace.verdict, hclassify] at hvisit
    cases hvisit

end Printed

/-! ## Counts -/

/-- Executions of commands whose texts do not look like records are counted where they belong. -/
theorem Workspace.counts_executions {w : Workspace} {es : List Execution} (h : ∀ e ∈ es, w.Runs e)
    (htext : ∀ e ∈ es, ¬ LooksAlike Sentinel.standard.template.closing e.text) :
    ∃ map, (w.aggregate [.chunk (es.flatMap Execution.printed)]).result = .ok map ∧
      w.Counts (es.map Execution.visit) map := by
  have hlines := Runs.lines_flatMap_printed h
  have hoffence : ∀ line ∈ es.map Execution.printed, w.offence? line = none := by
    intro line hline
    obtain ⟨e, he, rfl⟩ := List.mem_map.1 hline
    obtain ⟨lines, hverdict⟩ := (h e he).verdict_printed (htext e he)
    rw [Workspace.offence?, hverdict]
    rfl
  have hvisits : w.visits (es.map Execution.printed) = es.map Execution.visit := by
    rw [Workspace.visits, List.filterMap_map, ← List.filterMap_eq_map]
    apply List.filterMap_congr
    intro e he
    obtain ⟨lines, hverdict⟩ := (h e he).verdict_printed (htext e he)
    simp only [Function.comp_apply, hverdict]
    rfl
  have hresult := w.result_aggregate_chunks [es.flatMap Execution.printed]
  rw [List.flatten_singleton, hlines, List.findSome?_eq_none_iff.2 hoffence] at hresult
  exact ⟨_, hresult, hvisits ▸ (Pass.counts_run hoffence).2⟩

/-- A single execution is not counted where it belongs if its line counts in no slot or another. -/
theorem Workspace.Runs.not_counts {w : Workspace} {e : Execution} (h : w.Runs e)
    (hslot : ∀ path slot, (w.verdict e.printed).visit? = some (path, slot) → slot ≠ e.line - 1)
    {map : CoverageMap}
    (hresult : (w.aggregate [.chunk ([e].flatMap Execution.printed)]).result = .ok map) :
    ¬ w.Counts ([e].map Execution.visit) map := by
  intro hcounts
  obtain ⟨lines, -, hlines, hline⟩ := h.line_le
  have hpos := h.line_pos
  have hvisits : w.Counts (w.visits [e.printed]) map := by
    have hes : ∀ e' ∈ [e], w.Runs e' := by simpa using h
    have hlast := @counts_of_result_ok w [[e].flatMap Execution.printed] map hresult
    rw [List.flatten_singleton, lines_flatMap_printed hes] at hlast
    exact hlast
  have hslot' : e.line - 1 < lines := by omega
  have hcount := hvisits.count_eq hcounts hlines hslot'
  have hmem : (e.path, e.line - 1) ∈ w.visits [e.printed] := by
    rw [← List.count_pos_iff, hcount]
    simp [Execution.visit]
  simp only [visits, List.mem_filterMap, List.mem_singleton, exists_eq_left] at hmem
  exact hslot _ _ hmem rfl

/-- A source tree with one file. -/
def Workspace.lone (path : AbsPath) (lines : Nat) : Workspace where
  tree :=
    { root := ⟨[Bytes.slash]⟩
      pathKind := fun q => if q = path then .file else .other
      lineCount := fun _ => .ok lines }
  workingDirectory := none

/-- Any line of the one file can be executed, at any depth and with any text. -/
theorem Workspace.runs_lone {path : AbsPath} {lines depth line : Nat} {text : Bytes}
    (hpath : Bytes.lineFeed ∉ path.toPath.bytes) (hlines : lines < UInt64.size) (hdepth : 1 ≤ depth)
    (htext : Bytes.lineFeed ∉ text) (hpos : 1 ≤ line) (hle : line ≤ lines) :
    (lone path lines).Runs ⟨depth, path, line, text⟩ where
  depth_pos := hdepth
  path_lineFeed := hpath
  text_lineFeed := htext
  pathKind := if_pos rfl
  line_pos := hpos
  line_le := ⟨lines, hlines, rfl, hle⟩

/-- Whatever else is executed, commands are counted where they were executed exactly if no text of a
command looks like a record. -/
theorem Workspace.counts_executions_iff (texts : Set Bytes) :
    (∀ (w : Workspace) (es : List Execution), (∀ e ∈ es, w.Runs e ∧ e.text ∈ texts) →
      ∃ map, (w.aggregate [.chunk (es.flatMap Execution.printed)]).result = .ok map ∧
        w.Counts (es.map Execution.visit) map) ↔
    ∀ text ∈ texts, Bytes.lineFeed ∉ text →
      ¬ LooksAlike Sentinel.standard.template.closing text := by
  constructor
  · intro hlaw text hmem htext hlook
    obtain ⟨slot, hslot⟩ := exists_slot_of_looksAlike htext hlook
    -- of two lines, at least one has another slot
    obtain ⟨line, hpos, hle, hne⟩ : ∃ line, 1 ≤ line ∧ line ≤ 2 ∧ slot ≠ line - 1 := by
      by_cases hzero : slot = 0
      · exact ⟨2, by omega, by omega, by omega⟩
      · exact ⟨1, by omega, by omega, by omega⟩
    obtain ⟨path, hpath⟩ : ∃ path : AbsPath, Bytes.lineFeed ∉ path.toPath.bytes :=
      ⟨⟨[[0x61]], by decide⟩, by decide⟩
    have hruns : (lone path 2).Runs ⟨1, path, line, text⟩ :=
      runs_lone hpath (by decide) (le_refl 1) htext hpos hle
    obtain ⟨map, hresult, hcounts⟩ := hlaw _ [_] (by simpa using ⟨hruns, hmem⟩)
    refine hruns.not_counts ?_ hresult hcounts
    intro path slot' hvisit
    rw [hslot _ _ hruns rfl path slot' hvisit]
    exact hne
  · intro htexts w es h
    refine counts_executions (fun e he => (h e he).1) fun e he => ?_
    exact htexts e.text (h e he).2 (h e he).1.text_lineFeed

/-- A command that prints what looks like the end of a record. -/
def Execution.echo : Execution where
  depth := 1
  path := ⟨[Bytes.ofString "a.sh"], by decide⟩
  line := 1
  text := Bytes.ofString "echo /b/2 BASHCOV: "

/-- The only line of a file is executed, and the trace is refused for a file that nobody named. -/
theorem Workspace.result_aggregate_echo :
    (lone Execution.echo.path 1).Runs Execution.echo ∧
    ((lone Execution.echo.path 1).aggregate
        [.chunk ([Execution.echo].flatMap Execution.printed)]).result =
      .error (.notAFile (.ofString "/a.sh/1 BASHCOV: echo /b")) := by
  refine ⟨runs_lone ?_ ?_ ?_ ?_ ?_ ?_, ?_⟩ <;> decide +kernel

end ShellCoverage
