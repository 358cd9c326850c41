-- SUMMARY: A trace asks the source tree what each path names, and once for the lines of a file.
import ShellCoverage.Proofs.Trace.Append

/-!
# Questions to the source tree

Each record asks what its path names, and the first record of a file asks for its lines right after
that. Whether a file was asked for is not looked up among the questions but among the counters, so
the two have to agree: as long as no line offends, the files with counters are those that records
have named, in whatever spelling.
-/

namespace ShellCoverage

namespace Workspace

/-! ## Paths that lines name -/

/-- The path that a line names, if it is a record whose path can be located. -/
def located? (w : Workspace) (line : Bytes) : Option AbsPath :=
  match Sentinel.standard.classify line with
  | none => none
  | some record => (record.filename.expand w.tree.root w.workingDirectory).toOption

/-- The file that a line names, if it is a record of one. -/
def file? (w : Workspace) (line : Bytes) : Option AbsPath :=
  (w.located? line).filter (w.tree.pathKind · = .file)

/-- The lines up to the first that offends, and that one. -/
def reached (w : Workspace) : List Bytes → List Bytes
  | [] => []
  | line :: lines => if (w.offence? line).isSome then [line] else line :: w.reached lines

section Lines

variable {w : Workspace} {line : Bytes} {lines : List Bytes}

/-- Lines that do not offend are all reached, and reading goes on behind them. -/
theorem reached_append (h : ∀ line ∈ lines, w.offence? line = none) (more : List Bytes) :
    w.reached (lines ++ more) = lines ++ w.reached more := by
  induction lines with
  | nil => rfl
  | cons line lines ih =>
    rw [List.cons_append, reached, h line (by simp), if_neg (by simp),
      ih fun line hline => h line (by simp [hline]), List.cons_append]

theorem reached_eq_self (h : ∀ line ∈ lines, w.offence? line = none) : w.reached lines = lines := by
  have hlines := reached_append h []
  rwa [List.append_nil, reached, List.append_nil] at hlines

/-- A line that does not offend counts in the file that it names. -/
theorem map_fst_visit?_verdict (h : w.offence? line = none) :
    (w.verdict line).visit?.map Prod.fst = w.file? line := by
  unfold offence? verdict at h
  unfold verdict file? located?
  cases hrecord : Sentinel.standard.classify line with
  | none => rfl
  | some record =>
    simp only [hrecord, judge] at h ⊢
    cases hpath : record.filename.expand w.tree.root w.workingDirectory with
    | error cause => rfl
    | ok path =>
      simp only [hpath] at h ⊢
      cases hkind : w.tree.pathKind path with
      | directory => simp [Except.toOption, Verdict.visit?, Option.filter_some, hkind]
      | other => simp [Except.toOption, Verdict.visit?, Option.filter_some, hkind]
      | file =>
        simp only [hkind] at h ⊢
        cases hlines : w.tree.lineCount path with
        | error cause => simp [hlines, Verdict.offence?] at h
        | ok n =>
          simp only [hlines] at h ⊢
          split at h
          · simp [Verdict.offence?] at h
          · next hrange => simp [hrange, Except.toOption, Verdict.visit?, Option.filter_some, hkind]

theorem map_fst_visits (h : ∀ line ∈ lines, w.offence? line = none) :
    (w.visits lines).map Prod.fst = lines.filterMap w.file? := by
  rw [visits, List.map_filterMap]
  exact List.filterMap_congr fun line hline => map_fst_visit?_verdict (h line hline)

theorem mem_filterMap_file? {path : AbsPath} :
    path ∈ lines.filterMap w.file? ↔
      path ∈ lines.filterMap w.located? ∧ w.tree.pathKind path = .file := by
  simp only [List.mem_filterMap, file?, Option.filter_eq_some_iff, decide_eq_true_eq]
  grind

end Lines

/-! ## Questions -/

/-- What is asked about a path: what it names, and its lines if it is a file and none is known. -/
def question (w : Workspace) (path : AbsPath) (known : Prop) [Decidable known] : List TreeCall :=
  .pathKind path :: if w.tree.pathKind path = .file ∧ ¬known then [.lineCount path] else []

/-- What is asked about paths that are named in turn, behind those of `earlier`. -/
def questions (w : Workspace) (earlier : List AbsPath) : List AbsPath → List TreeCall
  | [] => []
  | path :: paths => w.question path (path ∈ earlier) ++ w.questions (path :: earlier) paths

section Questions

variable {w : Workspace} {path : AbsPath}

theorem question_congr {known known' : Prop} [Decidable known] [Decidable known']
    (h : w.tree.pathKind path = .file → (known ↔ known')) :
    w.question path known = w.question path known' := by
  have hiff : w.tree.pathKind path = .file ∧ ¬known ↔ w.tree.pathKind path = .file ∧ ¬known' :=
    and_congr_right fun hkind => not_congr (h hkind)
  simp only [question, hiff]

theorem questions_append_singleton (w : Workspace) (earlier paths : List AbsPath) (path : AbsPath) :
    w.questions earlier (paths ++ [path]) =
      w.questions earlier paths ++ w.question path (path ∈ paths ∨ path ∈ earlier) := by
  induction paths generalizing earlier with
  | nil =>
    simp only [List.nil_append, questions, List.append_nil]
    exact question_congr fun _ => by simp
  | cons other paths ih =>
    have hknown : w.question path (path ∈ paths ∨ path ∈ other :: earlier) =
        w.question path (path ∈ other :: paths ∨ path ∈ earlier) := by
      refine question_congr fun _ => ?_
      simp only [List.mem_cons]
      tauto
    rw [List.cons_append, questions, questions, ih, List.append_assoc, hknown]

theorem lineCount_mem_questions {earlier paths : List AbsPath} :
    .lineCount path ∈ w.questions earlier paths ↔
      path ∈ paths ∧ path ∉ earlier ∧ w.tree.pathKind path = .file := by
  induction paths generalizing earlier with
  | nil => simp [questions]
  | cons other paths ih =>
    rw [questions, List.mem_append, ih, question]
    by_cases hother : path = other
    · subst hother
      by_cases hkind : w.tree.pathKind path = .file <;> by_cases hmem : path ∈ earlier <;>
        simp [hkind, hmem]
    · split <;> simp [hother]

/-- The lines of a path are asked for once at most. -/
theorem count_lineCount_questions (w : Workspace) (path : AbsPath) (earlier paths : List AbsPath) :
    (w.questions earlier paths).count (.lineCount path) ≤ 1 := by
  induction paths generalizing earlier with
  | nil => simp [questions]
  | cons other paths ih =>
    rw [questions, List.count_append]
    by_cases hother : path = other
    · subst hother
      have hlater : (w.questions (path :: earlier) paths).count (.lineCount path) = 0 := by
        refine List.count_eq_zero.2 fun hmem => ?_
        exact (lineCount_mem_questions.1 hmem).2.1 List.mem_cons_self
      have hnow : (w.question path (path ∈ earlier)).count (.lineCount path) ≤ 1 := by
        unfold question
        split <;> simp
      omega
    · have hnow : (w.question other (other ∈ earlier)).count (.lineCount path) = 0 := by
        unfold question
        split <;> simp [Ne.symm hother]
      have hlater := ih (other :: earlier)
      omega

end Questions

end Workspace

namespace Pass

/-! ## Questions of a pass -/

section Run

variable {w : Workspace} {lines : List Bytes}

theorem calls_ensureCounters (pass : Pass) (path : AbsPath) (lines : Nat) :
    (pass.ensureCounters path lines).calls =
      if (pass.files.get? path).isSome then pass.calls else .lineCount path :: pass.calls := by
  unfold ensureCounters
  split <;> rfl

/-- A line asks about the path that it names. A file with counters is known. -/
theorem calls_apply {pass : Pass} (hsized : pass.Sized w.tree) (line : Bytes) :
    (pass.apply line (w.verdict line)).calls.reverse = pass.calls.reverse ++
      match w.located? line with
      | none => []
      | some path => w.question path (pass.files.get? path).isSome := by
  unfold Workspace.verdict Workspace.located?
  cases hrecord : Sentinel.standard.classify line with
  | none => simp [apply, emit]
  | some record =>
    cases hpath : record.filename.expand w.tree.root w.workingDirectory with
    | error cause => simp [Workspace.judge, hpath, Except.toOption, apply, fail]
    | ok path =>
      cases hkind : w.tree.pathKind path with
      | directory =>
        simp [Workspace.judge, hpath, hkind, Except.toOption, apply, Workspace.question, ask, emit]
      | other =>
        simp [Workspace.judge, hpath, hkind, Except.toOption, apply, Workspace.question, ask, fail]
      | file =>
        cases hlines : w.tree.lineCount path with
        | error cause =>
          have hunknown : pass.files.get? path = none := by
            cases hget : pass.files.get? path with
            | none => rfl
            | some hits =>
              rw [hsized path hits hget] at hlines
              cases hlines
          simp [Workspace.judge, hpath, hkind, hlines, hunknown, Except.toOption, apply,
            Workspace.question, ask, fail]
        | ok n =>
          simp only [Workspace.judge, hpath, hkind, hlines, Except.toOption, Workspace.question]
          split <;> simp only [apply, fail, calls_ensureCounters, ask] <;> split <;> simp_all

/-- As long as no line offends, the files with counters are those that lines name. -/
theorem isSome_get?_run (h : ∀ line ∈ lines, w.offence? line = none) (path : AbsPath) :
    ((run w lines).files.get? path).isSome ↔ path ∈ lines.filterMap w.file? := by
  have hcounts := (counts_run h).2
  rw [← Workspace.map_fst_visits h]
  constructor
  · intro hsome
    obtain ⟨hits, hhits⟩ := Option.isSome_iff_exists.1 hsome
    exact ((hcounts path hits).1 hhits).1
  · intro hmem
    obtain ⟨⟨path, slot⟩, hvisit, rfl⟩ := List.mem_map.1 hmem
    obtain ⟨line, -, hverdict⟩ := List.mem_filterMap.1 hvisit
    cases hline : w.verdict line with
    | visit path' slot' n =>
      rw [hline] at hverdict
      cases hverdict
      rw [hcounts.get?_of_mem (Workspace.lineCount_of_verdict hline).2.1 hmem]
      rfl
    | noise | unlocated | directory | notAFile | uncounted | outOfRange =>
      rw [hline] at hverdict
      cases hverdict

/-- Behind lines that do not offend, a line asks what the paths named so far call for. -/
theorem calls_run_append_singleton (h : ∀ line ∈ lines, w.offence? line = none)
    (hcalls : (run w lines).calls.reverse = w.questions [] (lines.filterMap w.located?))
    (line : Bytes) :
    (run w (lines ++ [line])).calls.reverse =
      w.questions [] ((lines ++ [line]).filterMap w.located?) := by
  obtain ⟨hfailure, hcounts⟩ := counts_run h
  have hsized : (run w lines).Sized w.tree := fun _ _ => hcounts.lineCount
  rw [run_append_singleton, step_eq_apply hfailure hsized, calls_apply hsized, hcalls,
    List.filterMap_append]
  cases hpath : w.located? line with
  | none => simp [hpath]
  | some path =>
    have hline : [line].filterMap w.located? = [path] := by simp [hpath]
    rw [hline, Workspace.questions_append_singleton]
    refine congrArg _ (Workspace.question_congr fun hkind => ?_)
    rw [isSome_get?_run h, Workspace.mem_filterMap_file?]
    simp [hkind]

/-- As long as no line offends, the calls are the questions over all that the lines name. -/
theorem calls_run (h : ∀ line ∈ lines, w.offence? line = none) :
    (run w lines).calls.reverse = w.questions [] (lines.filterMap w.located?) := by
  induction lines using List.reverseRecOn with
  | nil => rfl
  | append_singleton lines line ih =>
    have hlines : ∀ line ∈ lines, w.offence? line = none :=
      fun line hline => h line (by simp [hline])
    exact calls_run_append_singleton hlines (ih hlines) line

/-- A pass asks about the lines that it reaches. -/
theorem calls_run_reached (w : Workspace) (lines : List Bytes) :
    (run w lines).calls.reverse = w.questions [] ((w.reached lines).filterMap w.located?) := by
  cases hfound : lines.findSome? w.offence? with
  | none =>
    have hlines := List.findSome?_eq_none_iff.1 hfound
    rw [Workspace.reached_eq_self hlines, calls_run hlines]
  | some error =>
    obtain ⟨before, line, after, rfl, hline, hbefore⟩ := List.findSome?_eq_some_iff.1 hfound
    have hreached : w.reached (before ++ line :: after) = before ++ [line] := by
      rw [Workspace.reached_append hbefore, Workspace.reached, hline]
      rfl
    rw [hreached, (run_append_cons_of_offence hbefore hline after).2,
      calls_run_append_singleton hbefore (calls_run hbefore)]

end Run

end Pass

/-- A trace asks, for each record up to the first line that offends and with it, what the path of
the record names, and right after that for the lines of a file that no record before has named. So
the lines of a path are asked for once at most and only of a file, and on success they have been
asked for exactly of the files of the map. -/
theorem Workspace.calls_aggregate (w : Workspace) (deliveries : List Delivery) :
    let lines := (Reading.ofDeliveries deliveries).lines
    let outcome := w.aggregate deliveries
    outcome.calls = w.questions [] ((w.reached lines).filterMap w.located?) ∧
    (∀ path, outcome.calls.count (.lineCount path) ≤ 1) ∧
    (∀ path, .lineCount path ∈ outcome.calls → w.tree.pathKind path = .file) ∧
    ∀ map, outcome.result = .ok map → ∀ path,
      .lineCount path ∈ outcome.calls ↔ path ∈ map.entries.map Prod.fst := by
  intro lines outcome
  have hcalls : outcome.calls = w.questions [] ((w.reached lines).filterMap w.located?) :=
    Pass.calls_run_reached w lines
  refine ⟨hcalls, ?_, ?_, ?_⟩
  · intro path
    rw [hcalls]
    exact w.count_lineCount_questions path [] _
  · intro path hmem
    rw [hcalls] at hmem
    exact (lineCount_mem_questions.1 hmem).2.2
  · intro map hmap path
    obtain ⟨hfailure, -, rfl⟩ := Pass.result_eq_ok_iff.1 hmap
    rw [Pass.failure_run, List.findSome?_eq_none_iff] at hfailure
    rw [hcalls, reached_eq_self hfailure, lineCount_mem_questions, CoverageMap.mem_map_fst_entries,
      Pass.isSome_get?_run hfailure, mem_filterMap_file?]
    simp

/-- A file in two spellings, with a directory between them; then nothing behind a path that is
missing. -/
theorem Workspace.calls_aggregate_spellings :
    let d : AbsPath := ⟨[Bytes.ofString "d"], by decide⟩
    let a : AbsPath := ⟨[Bytes.ofString "a.sh"], by decide⟩
    let gone : AbsPath := ⟨[Bytes.ofString "gone"], by decide⟩
    let w : Workspace := ⟨⟨⟨[Bytes.slash]⟩, fun path =>
      if path = d then .directory else if path = a then .file else .other, fun _ => .ok 2⟩, none⟩
    let front := Bytes.ofString
      "x\n+BASHCOV> a.sh/1 BASHCOV: \n+BASHCOV> d/1 BASHCOV: \n+BASHCOV> /d/../a.sh/2 BASHCOV: \n"
    let back := Bytes.ofString "+BASHCOV> gone/1 BASHCOV: \n+BASHCOV> a.sh/1 BASHCOV: "
    let map := ((CoverageMap.empty.track a 2).hit a 0).hit a 1
    let outcome := w.aggregate [.chunk (front ++ back)]
    let outcome' := w.aggregate [.chunk front]
    outcome.calls = [.pathKind a, .lineCount a, .pathKind d, .pathKind a, .pathKind gone] ∧
    .lineCount a ∈ outcome.calls ∧ w.tree.pathKind a = .file ∧
    outcome'.result = .ok map ∧ a ∈ map.entries.map Prod.fst ∧ .lineCount a ∈ outcome'.calls := by
  intro d a gone w front back map outcome outcome'
  have hmap : outcome'.result = .ok map := by decide +kernel
  have ha : a ∈ map.entries.map Prod.fst := by decide +kernel
  obtain ⟨hcalls, -, hfile, -⟩ := w.calls_aggregate [.chunk (front ++ back)]
  have hlist : outcome.calls =
      [.pathKind a, .lineCount a, .pathKind d, .pathKind a, .pathKind gone] :=
    hcalls.trans (by decide +kernel)
  have hasked : .lineCount a ∈ outcome.calls := by simp [hlist]
  exact ⟨hlist, hasked, hfile a hasked, hmap, ha,
    ((w.calls_aggregate [.chunk front]).2.2.2 map hmap a).2 ha⟩

end ShellCoverage
