-- SUMMARY: A file has as many lines as a reader of the same bytes gets, however they arrive.
import ShellCoverage.Proofs.FileTree.Expanded
import ShellCoverage.Proofs.Trace.Append
import ShellCoverage.Proofs.Trace.Arrival

/-!
# Counted lines and lines that are read

The counters of a file are as many as its line feeds, and one more if something stands behind the
last of them. A reader that takes one line after the other, from chunks cut anywhere, gets as many
lines out of the same bytes. So a record names a line in range exactly if the reader gets that line.
-/

namespace ShellCoverage

namespace Bytes

/-! ## Counting -/

theorem lineCount_cons_lineFeed (bytes : Bytes) :
    lineCount (lineFeed :: bytes) = lineCount bytes + 1 := by
  cases hlast : bytes.getLast? with
  | none => simp [List.getLast?_eq_none_iff.1 hlast, lineCount]
  | some b =>
    simp only [lineCount, List.count_cons_self, List.getLast?_cons, hlast, Option.getD_some]
    omega

theorem lineCount_cons_of_ne {b : UInt8} (hb : b ≠ lineFeed) (bytes : Bytes) :
    lineCount (b :: bytes) = if bytes = [] then 1 else lineCount bytes := by
  cases hlast : bytes.getLast? with
  | none => simp [List.getLast?_eq_none_iff.1 hlast, lineCount, hb]
  | some c =>
    have hne : bytes ≠ [] := by
      rintro rfl
      cases hlast
    simp [lineCount, List.count_cons_of_ne hb, List.getLast?_cons, hlast, hne]

/-- As many lines are counted as there are. -/
theorem length_lines (bytes : Bytes) : (lines bytes).length = lineCount bytes := by
  induction bytes with
  | nil => rfl
  | cons b bytes ih =>
    by_cases hb : b = lineFeed
    · rw [hb, lines_cons_lineFeed, List.length_cons, ih, lineCount_cons_lineFeed]
    · rw [lines_cons_of_ne hb, lineCount_cons_of_ne hb]
      cases hlines : lines bytes with
      | nil => rw [if_pos (lines_eq_nil hlines), List.length_singleton]
      | cons line ls =>
        have hne : bytes ≠ [] := by
          rintro rfl
          cases hlines
        rw [if_neg hne, ← ih, hlines, List.length_cons, List.length_cons]

/-! ## The form of lines -/

/-- Byte strings that are the lines of what they make up. -/
structure AreLines (ls : List Bytes) (bytes : Bytes) : Prop where
  ne_nil : ∀ line ∈ ls, line ≠ []
  /-- A line has no line feed but at its end. -/
  lineFeed_notMem : ∀ line ∈ ls, lineFeed ∉ line.dropLast
  /-- Only the last line may lack a line feed. -/
  getLast?_eq : ∀ line ∈ ls.dropLast, line.getLast? = some lineFeed
  flatten_eq : ls.flatten = bytes

/-- The lines of a byte string are lines, and make it up. -/
theorem areLines_lines (bytes : Bytes) : AreLines (lines bytes) bytes := by
  obtain ⟨tail, htail, hbytes⟩ := exists_tail_completePart bytes
  have hends := endsLine_completePart bytes
  have hlines : lines bytes =
      lines (completePart bytes) ++ if tail = [] then [] else [tail] := by
    rw [← lines_of_notMem htail, ← lines_append hends, hbytes]
  have hline : ∀ line ∈ lines bytes,
      (∃ front, lineFeed ∉ front ∧ line = front ++ [lineFeed]) ∨ (line = tail ∧ tail ≠ []) := by
    intro line hmem
    rw [hlines, List.mem_append] at hmem
    rcases hmem with hmem | hmem
    · exact .inl (hends.exists_front hmem)
    · split at hmem
      · cases hmem
      · next hne => exact .inr ⟨List.mem_singleton.1 hmem, hne⟩
  refine ⟨?_, ?_, ?_, flatten_lines bytes⟩
  · intro line hmem
    obtain ⟨front, -, rfl⟩ | ⟨rfl, hne⟩ := hline line hmem
    · simp
    · exact hne
  · intro line hmem
    obtain ⟨front, hfront, rfl⟩ | ⟨rfl, -⟩ := hline line hmem
    · rwa [List.dropLast_concat]
    · exact fun h => htail ((List.dropLast_sublist _).subset h)
  · intro line hmem
    -- all lines but the last are lines of the complete part
    have hcomplete : line ∈ lines (completePart bytes) := by
      rw [hlines] at hmem
      split at hmem
      · rw [List.append_nil] at hmem
        exact (List.dropLast_sublist _).subset hmem
      · rwa [List.dropLast_concat] at hmem
    obtain ⟨front, -, rfl⟩ := hends.exists_front hcomplete
    exact List.getLast?_concat

theorem lines_of_notMem_dropLast {line : Bytes} (hne : line ≠ []) (h : lineFeed ∉ line.dropLast) :
    lines line = [line] := by
  obtain ⟨front, b, rfl⟩ := List.eq_nil_or_concat' line |>.resolve_left hne
  rw [List.dropLast_concat] at h
  by_cases hb : b = lineFeed
  · rw [hb]
    exact lines_append_lineFeed h []
  · have hline : lineFeed ∉ front ++ [b] := by simp [h, Ne.symm hb]
    rw [lines_of_notMem hline, if_neg hne]

end Bytes

/-! ## Reading line by line -/

/-- The lines that are read one after the other, until there is none or reading fails. -/
def Delivery.readLines (deliveries : List Delivery) : Reading :=
  match _h : readLine deliveries with
  | .error cause => ⟨[], some cause⟩
  | .ok ([], _) => ⟨[], none⟩
  | .ok (b :: line, rest) =>
    let reading := readLines rest
    ⟨(b :: line) :: reading.lines, reading.failure⟩
termination_by (arrived deliveries).length
decreasing_by
  rw [arrived_of_readLine _h]
  simp only [List.length_append, List.length_cons]
  omega

/-- Reading line after line gives the lines that the deliveries make up. -/
theorem Delivery.readLines_eq (deliveries : List Delivery) :
    readLines deliveries = .ofDeliveries deliveries := by
  fun_induction readLines deliveries with
  | case1 deliveries cause h => rw [Reading.ofDeliveries_of_error h]
  | case2 deliveries rest h => rw [Reading.ofDeliveries_of_end h]
  | case3 deliveries b line rest h reading ih =>
    rw [Reading.ofDeliveries_of_line h (List.cons_ne_nil b line), ← ih]

/-! ## Lines in range -/

/-- A record of a file that has `lines` lines is counted, or it names a line behind the last one. -/
theorem Workspace.result_append_record {w : Workspace} {front line : Bytes}
    (hfront : front.EndsLine) {map : CoverageMap}
    (hmap : (w.aggregate [.chunk front]).result = .ok map)
    (hline : Bytes.lineFeed ∉ line.dropLast) {record : Record}
    (hrecord : Sentinel.standard.classify line = some record) {path : AbsPath}
    (hpath : record.filename.expand w.tree.root w.workingDirectory = .ok path)
    (hkind : w.tree.pathKind path = .file) {lines : Nat}
    (hlines : w.tree.lineCount path = .ok lines) (hone : 1 ≤ record.line) :
    ((∃ more, (w.aggregate [.chunk (front ++ line)]).result = .ok more) ↔ record.line ≤ lines) ∧
    ((w.aggregate [.chunk (front ++ line)]).result =
      .error (.lineOutOfRange path.toPath record.line lines) ↔ lines < record.line) := by
  have hne : line ≠ [] := by
    rintro rfl
    have hnil : Sentinel.standard.classify [] = none := by decide +kernel
    rw [hnil] at hrecord
    cases hrecord
  have hoffence : w.offence? line =
      if lines < record.line then some (.lineOutOfRange path.toPath record.line lines)
      else none := by
    have hmax : max record.line 1 = record.line := Nat.max_eq_left hone
    simp only [offence?, verdict, hrecord, judge, hpath, hkind, hlines, hmax]
    split <;> rfl
  have hwhole : (Bytes.lines (front ++ line)).findSome? w.offence? = w.offence? line := by
    rw [findSome?_offence_append hfront, exists_result_ok_iff.1 ⟨map, hmap⟩, Option.none_or,
      Bytes.lines_of_notMem_dropLast hne hline]
    cases h : w.offence? line <;> simp [h]
  rw [exists_result_ok_iff, result_eq_error_iff, hwhole, hoffence]
  by_cases hrange : lines < record.line <;> simp [hrange, Nat.not_le.2, Nat.le_of_not_lt]

section Files

variable {tree : FileTree} {here path : AbsPath} {content : Bytes}

theorem FileTree.kind_of_locate_file (h : tree.locate here path.toPath = .ok (.file content)) :
    tree.kind here path.toPath = .file := by
  simp only [kind, h]

theorem FileTree.lineCount_of_locate_file
    (h : tree.locate here path.toPath = .ok (.file content)) :
    tree.lineCount here path.toPath = .ok content.lineCount := by
  simp only [lineCount, FileTree.content, h]
  rfl

end Files

/-- However bytes arrive, as many lines are read as are counted. They are not empty, no line feed
stands in them but at their end, where only the last may lack it, and they make up the bytes. So
behind complete lines that are aggregated, a record of a file with these bytes is counted exactly if
the file has the line that the record names, and it is out of range exactly if it has not. -/
theorem Delivery.lineCount_arrived {arrivals : List Delivery}
    (h : ∀ cause, .failed cause ∉ arrivals) :
    let content := arrived arrivals
    let read := readLines arrivals
    read = .ofDeliveries arrivals ∧ read.failure = none ∧
    content.lineCount = read.lines.length ∧ Bytes.AreLines read.lines content ∧
    ∀ (tree : FileTree) (here : AbsPath) (root : Path) (front line : Bytes) (map : CoverageMap)
      (record : Record) (path : AbsPath),
      let w := tree.workspace here root
      front.EndsLine → (w.aggregate [.chunk front]).result = .ok map →
      Bytes.lineFeed ∉ line.dropLast → Sentinel.standard.classify line = some record →
      1 ≤ record.line → record.filename.expand root (some here.toPath) = .ok path →
      tree.locate here path.toPath = .ok (.file content) →
      let result := (w.aggregate [.chunk (front ++ line)]).result
      ((∃ more, result = .ok more) ↔ ∃ found, read.lines[record.line - 1]? = some found) ∧
      (result = .error (.lineOutOfRange path.toPath record.line read.lines.length) ↔
        read.lines[record.line - 1]? = none) := by
  intro content read
  have hnone := failure?_eq_none h
  have hread : read = .ofDeliveries arrivals := readLines_eq arrivals
  have hlines : read = ⟨Bytes.lines content, none⟩ := by
    rw [hread, Reading.ofDeliveries_eq, hnone]
  have hcount : content.lineCount = read.lines.length := by
    rw [hlines, Bytes.length_lines]
  refine ⟨hread, ?_, hcount, ?_, ?_⟩
  · rw [hlines]
  · rw [hlines]
    exact Bytes.areLines_lines content
  · intro tree here root front line map record path w hfront hmap hline hrecord hone hpath hfile
      result
    have hrange := Workspace.result_append_record hfront hmap hline hrecord hpath
      (FileTree.kind_of_locate_file hfile) (FileTree.lineCount_of_locate_file hfile) hone
    rw [← Option.isSome_iff_exists, isSome_getElem?, List.getElem?_eq_none_iff]
    rw [hcount] at hrange
    have hlast : ∀ lines, (record.line ≤ lines ↔ record.line - 1 < lines) ∧
        (lines < record.line ↔ lines ≤ record.line - 1) := by omega
    rwa [(hlast _).1, (hlast _).2] at hrange

/-- A file of three lines, of which one is empty and the last does not end, and its lines 3 and 4. -/
theorem Delivery.lineCount_arrived_unterminated :
    let arrivals : List Delivery :=
      [.chunk [97], .interrupted, .chunk [10, 10], .chunk [98]]
    let a := Bytes.ofString "a.sh"
    let tree : FileTree := ⟨.directory [(a, .file [97, 10, 10, 98])]⟩
    let w := tree.workspace .root (.ofString "/")
    let last := Bytes.ofString "+BASHCOV> a.sh/3 BASHCOV: \n"
    let behind := Bytes.ofString "+BASHCOV> a.sh/4 BASHCOV: "
    (∀ cause, .failed cause ∉ arrivals) ∧
    (readLines arrivals).lines.length = 3 ∧
    (∃ map, (w.aggregate [.chunk last]).result = .ok map) ∧
    (w.aggregate [.chunk (last ++ behind)]).result =
      .error (.lineOutOfRange (.ofString "/a.sh") 4 3) := by
  intro arrivals a tree w last behind
  let path : AbsPath := ⟨[a], by decide⟩
  have h : ∀ cause, .failed cause ∉ arrivals := by simp [arrivals]
  obtain ⟨-, -, hcount, -, hrecord⟩ := lineCount_arrived h
  have hthree : (readLines arrivals).lines.length = 3 := hcount.symm.trans (by decide)
  have hlinkFree : tree.root.LinkFree := .directory (by simpa using .file _)
  have hfile : tree.locate .root path.toPath = .ok (.file [97, 10, 10, 98]) :=
    (FileTree.locate_eq_ok_iff rfl hlinkFree (by decide) .root).2
      ⟨by decide, by decide, by decide, .step (.root tree.root) a (by decide) _, rfl, rfl⟩
  have hempty : (w.aggregate [.chunk []]).result = .ok .empty := rfl
  obtain ⟨⟨-, hlast⟩, -⟩ := hrecord tree .root (.ofString "/") [] last .empty
    ⟨1, .ofString "a.sh", 3⟩ path (.inl rfl) hempty (by decide) (by decide +kernel) (by decide)
    (by decide) hfile
  obtain ⟨map, hmap⟩ := hlast (Option.isSome_iff_exists.1 (by simp [hthree]))
  obtain ⟨-, -, hbehind⟩ := hrecord tree .root (.ofString "/") last behind map
    ⟨1, .ofString "a.sh", 4⟩ path (.inr (by decide)) hmap (by decide) (by decide +kernel)
    (by decide) (by decide) hfile
  refine ⟨h, hthree, ⟨map, hmap⟩, ?_⟩
  rw [hthree] at hbehind
  exact hbehind (by simp [hthree])

end ShellCoverage
