-- SUMMARY: The totals of a trace account for each of its lines, and no counter outgrows the trace.
import ShellCoverage.Proofs.Sink.LastWriter
import ShellCoverage.Proofs.Trace.Live
import ShellCoverage.Proofs.Trace.Total

/-!
# Balance of a trace

A line is noise, a record that names a directory, or a record that counts in a slot, unless it ends
the trace. What a pass counts and what it reports are kept apart, but each line changes both by the
same: so the totals can be read off the events and off the counters. This does not depend on the
answers of the source tree, which may change while the trace is read.
-/

namespace ShellCoverage

/-! ## Reports on lines -/

namespace Event

/-- How often a message is reported. -/
def times (message : String) (events : List Event) : Nat :=
  events.countP (·.message == message)

/-- The file that is named for the first time, and the number of its lines. -/
def tracked? : Event → Option (AbsPath × Nat)
  | .trackingFile path lines => some (path, lines)
  | _ => none

def isOfLine : Event → Bool
  | .skippingNoise _ | .skippingDirectory _ | .trackingFile .. => true
  | .createdSink | .aggregatingTrace .. | .aggregated _ | .closedSink => false

section Times

variable {events : List Event}

theorem times_cons (message : String) (event : Event) (events : List Event) :
    times message (event :: events) =
      times message events + if event.message = message then 1 else 0 := by
  simp [times, List.countP_cons]

theorem times_append (message : String) (events more : List Event) :
    times message (events ++ more) = times message events + times message more :=
  List.countP_append

theorem times_reverse (message : String) (events : List Event) :
    times message events.reverse = times message events :=
  List.countP_reverse

theorem times_tracking (events : List Event) :
    times "Tracking new file" events = (events.filterMap tracked?).length := by
  rw [List.length_filterMap_eq_countP]
  refine List.countP_congr fun event _ => ?_
  cases event <;> simp [message, tracked?]

/-- Reports on lines have messages of their own. -/
theorem times_of_isOfLine {message : String} (h : ∀ event ∈ events, event.isOfLine)
    (hmessage :
      message ∉ ["Skipping noise", "Skipping directory record", "Tracking new file"]) :
    times message events = 0 := by
  refine List.countP_eq_zero.2 fun event hevent heq => hmessage ?_
  have hline := h event hevent
  rw [← beq_iff_eq.1 heq]
  cases event with
  | skippingNoise | skippingDirectory | trackingFile => simp [Event.message]
  | createdSink | aggregatingTrace | aggregated | closedSink => cases hline

/-- How often a message is reported if totals come behind all else. -/
theorem times_reverse_aggregated (message : String) (totals : Summary) (events : List Event) :
    times message (aggregated totals :: events).reverse =
      times message events + if "Aggregated xtrace output" = message then 1 else 0 := by
  rw [times_reverse, times_cons]
  rfl

end Times

end Event

/-! ## Passes in balance -/

/-- Totals agree with the counters of a map and with what was reported. -/
structure Summary.Balances (totals : Summary) (map : CoverageMap) (events : List Event) : Prop where
  records_eq : totals.records = map.total
  skipped_eq : totals.skippedDirectories = Event.times "Skipping directory record" events
  files_eq : totals.files = map.size
  /-- Each file is reported once, with the number of its counters. -/
  tracked_perm : (events.filterMap Event.tracked?).Perm map.sizes

namespace Summary.Balances

variable {totals : Summary} {map : CoverageMap} {events : List Event}

theorem reverse (h : totals.Balances map events) : totals.Balances map events.reverse where
  records_eq := h.records_eq
  skipped_eq := by rw [Event.times_reverse, h.skipped_eq]
  files_eq := h.files_eq
  tracked_perm := by
    rw [List.filterMap_reverse]
    exact (List.reverse_perm _).trans h.tracked_perm

theorem aggregated (h : totals.Balances map events) (reported : Summary) :
    totals.Balances map (.aggregated reported :: events) where
  records_eq := h.records_eq
  skipped_eq := by simpa [Event.times_cons, Event.message] using h.skipped_eq
  files_eq := h.files_eq
  tracked_perm := h.tracked_perm

theorem times_tracking (h : totals.Balances map events) :
    Event.times "Tracking new file" events = totals.files := by
  rw [Event.times_tracking, h.tracked_perm.length_eq, CoverageMap.length_sizes, h.files_eq]

end Summary.Balances

/-- Totals, counters and reports agree, and account for all lines but `pending`. -/
structure Pass.Balanced (pass : Pass) (pending : Nat) : Prop
    extends pass.summary.Balances pass.files pass.events where
  lines_eq : pass.lines = pass.records + pass.skippedDirectories +
    Event.times "Skipping noise" pass.events + pending
  isOfLine : ∀ event ∈ pass.events, event.isOfLine

/-- A slot of a file is one of its counters, whether or not the file has counters already. -/
theorem CoverageMap.lt_size_getD {map : CoverageMap} {path : AbsPath} {slot lines : Nat}
    (hslot : slot < lines) (hsize : ∀ hits, map.get? path = some hits → hits.size = lines) :
    slot < ((map.get? path).getD (Array.replicate lines 0)).size := by
  cases hhits : map.get? path with
  | none => simpa using hslot
  | some hits => simpa [hsize hits hhits] using hslot

namespace Pass

/-- The lines that are read and not accounted for: one, if it failed. -/
def pending (pass : Pass) : Nat :=
  if pass.failure.isSome then 1 else 0

section Balanced

variable {pass : Pass} {pending : Nat}

theorem balanced_start : start.Balanced 0 where
  records_eq := rfl
  skipped_eq := rfl
  files_eq := rfl
  tracked_perm := by simp [start, CoverageMap.sizes]
  lines_eq := rfl
  isOfLine := by simp [start]

/-- Calls and a failure do not count. -/
theorem Balanced.frame (h : pass.Balanced pending) (calls : List TreeCall)
    (failure : Option CoverageError) :
    { pass with calls := calls, failure := failure }.Balanced pending where
  records_eq := h.records_eq
  skipped_eq := h.skipped_eq
  files_eq := h.files_eq
  tracked_perm := h.tracked_perm
  lines_eq := h.lines_eq
  isOfLine := h.isOfLine

theorem Balanced.ask (h : pass.Balanced pending) (call : TreeCall) :
    (pass.ask call).Balanced pending :=
  h.frame (call :: pass.calls) pass.failure

theorem Balanced.fail (h : pass.Balanced pending) (error : CoverageError) :
    (pass.fail error).Balanced pending :=
  h.frame pass.calls (some error)

/-- A line that has just been read is still to be accounted for. -/
theorem Balanced.line (h : pass.Balanced pending) :
    { pass with lines := pass.lines + 1 }.Balanced (pending + 1) where
  records_eq := h.records_eq
  skipped_eq := h.skipped_eq
  files_eq := h.files_eq
  tracked_perm := h.tracked_perm
  lines_eq := congrArg (· + 1) h.lines_eq
  isOfLine := h.isOfLine

/-- Noise accounts for its line. -/
theorem Balanced.noise (h : pass.Balanced (pending + 1)) (line : Bytes) :
    (pass.emit (.skippingNoise line)).Balanced pending where
  records_eq := h.records_eq
  skipped_eq := by simpa [emit, summary, Event.times_cons, Event.message] using h.skipped_eq
  files_eq := h.files_eq
  tracked_perm := h.tracked_perm
  lines_eq := by
    have hlines := h.lines_eq
    simp only [emit, Event.times_cons, Event.message, if_true]
    omega
  isOfLine := List.forall_mem_cons.2 ⟨rfl, h.isOfLine⟩

theorem Balanced.directory (h : pass.Balanced (pending + 1)) (path : AbsPath) :
    { pass.emit (.skippingDirectory path) with
      skippedDirectories := pass.skippedDirectories + 1 }.Balanced pending where
  records_eq := h.records_eq
  skipped_eq := by simpa [emit, summary, Event.times_cons, Event.message] using h.skipped_eq
  files_eq := h.files_eq
  tracked_perm := h.tracked_perm
  lines_eq := by
    have hlines := h.lines_eq
    simp only [emit, Event.times_cons, Event.message, String.reduceEq, if_false]
    omega
  isOfLine := List.forall_mem_cons.2 ⟨rfl, h.isOfLine⟩

/-- New counters stand at zero, so they account for no record. -/
theorem Balanced.ensureCounters (h : pass.Balanced pending) (path : AbsPath) (lines : Nat) :
    (pass.ensureCounters path lines).Balanced pending := by
  unfold Pass.ensureCounters
  split
  · exact h
  · next hnone =>
    rw [Bool.not_eq_true, Option.isSome_eq_false_iff, Option.isNone_iff_eq_none] at hnone
    exact {
      records_eq := h.records_eq.trans (CoverageMap.total_track hnone lines).symm
      skipped_eq := by
        simpa [emit, Pass.ask, summary, Event.times_cons, Event.message] using h.skipped_eq
      files_eq := rfl
      tracked_perm :=
        (h.tracked_perm.cons (path, lines)).trans (CoverageMap.perm_sizes_track hnone lines).symm
      lines_eq := by simpa [emit, Pass.ask, Event.times_cons, Event.message] using h.lines_eq
      isOfLine := List.forall_mem_cons.2 ⟨rfl, h.isOfLine⟩ }

/-- A hit accounts for its line, as one record and one count. -/
theorem Balanced.hit (h : pass.Balanced (pending + 1)) {path : AbsPath} {hits : Hits}
    (hget : pass.files.get? path = some hits) {slot : Nat} (hslot : slot < hits.size) :
    { pass with files := pass.files.hit path slot, records := pass.records + 1 }.Balanced
      pending where
  records_eq := by
    rw [CoverageMap.total_hit hget hslot, ← h.records_eq]
    rfl
  skipped_eq := h.skipped_eq
  files_eq := rfl
  tracked_perm := h.tracked_perm.trans (CoverageMap.perm_sizes_hit hget slot).symm
  lines_eq := by
    have hlines := h.lines_eq
    simp only
    omega
  isOfLine := h.isOfLine

/-- A line that does not fail is accounted for. -/
theorem Balanced.apply (h : pass.Balanced 0) (hfailure : pass.failure = none) (line : Bytes)
    {verdict : Verdict}
    (hsize : ∀ path slot lines, verdict = .visit path slot lines →
      slot < lines ∧ ∀ hits, pass.files.get? path = some hits → hits.size = lines) :
    (pass.apply line verdict).Balanced (pass.apply line verdict).pending := by
  rw [Pass.pending, failure_apply hfailure]
  cases verdict with
  | noise => exact h.line.noise line
  | unlocated name cause => exact h.line.fail _
  | directory path => exact (h.line.ask (.pathKind path)).directory path
  | notAFile path => exact (h.line.ask (.pathKind path)).fail _
  | uncounted path cause => exact ((h.line.ask (.pathKind path)).ask (.lineCount path)).fail _
  | outOfRange path n lines =>
    exact ((h.line.ask (.pathKind path)).ensureCounters path lines).fail _
  | visit path slot lines =>
    obtain ⟨hslot, hlines⟩ := hsize path slot lines rfl
    have hensured := (h.line.ask (.pathKind path)).ensureCounters path lines
    -- the file has counters now, whether or not it had them before
    have hget := get?_ensureCounters
      (({ pass with lines := pass.lines + 1 } : Pass).ask (.pathKind path)) path lines path
    rw [if_pos rfl] at hget
    refine hensured.hit hget ?_
    exact CoverageMap.lt_size_getD hslot hlines

/-- No number that a pass counts up has reached the bound. -/
def Below (pass : Pass) (bound : Nat) : Prop :=
  pass.lines < bound ∧ pass.records < bound ∧ pass.skippedDirectories < bound ∧
    ∀ path hits, pass.files.get? path = some hits → ∀ count ∈ hits, count < bound

/-- No counter exceeds the number of records. -/
theorem Balanced.le_records (h : pass.Balanced pending) {path : AbsPath} {hits : Hits}
    (hget : pass.files.get? path = some hits) {count : Nat} (hcount : count ∈ hits) :
    count ≤ pass.records :=
  (CoverageMap.le_total hget hcount).trans_eq h.records_eq.symm

theorem Balanced.records_le (h : pass.Balanced pending) : pass.records ≤ pass.lines := by
  have hlines := h.lines_eq
  omega

theorem Balanced.below (h : pass.Balanced pending) {bound : Nat} (hbound : pass.lines < bound) :
    pass.Below bound := by
  have hlines := h.lines_eq
  refine ⟨hbound, by omega, by omega, fun path hits hget count hcount => ?_⟩
  have hrecords := h.le_records hget hcount
  omega

end Balanced

/-! ## Files in the order of their first records -/

/-- The files that were reported as new, in order. -/
def tracked (pass : Pass) : List AbsPath :=
  (pass.events.reverse.filterMap Event.tracked?).map Prod.fst

section Tracked

variable {pass : Pass}

theorem Balanced.mem_tracked {pending : Nat} (h : pass.Balanced pending) {path : AbsPath} :
    path ∈ pass.tracked ↔ (pass.files.get? path).isSome := by
  rw [tracked, List.filterMap_reverse, List.map_reverse, List.mem_reverse,
    (h.tracked_perm.map Prod.fst).mem_iff, CoverageMap.mem_map_fst_sizes]

theorem tracked_ensureCounters (pass : Pass) (path : AbsPath) (lines : Nat) :
    (pass.ensureCounters path lines).tracked =
      pass.tracked ++ if (pass.files.get? path).isSome then [] else [path] := by
  unfold ensureCounters
  split
  · rw [List.append_nil]
  · simp [tracked, emit, ask, Event.tracked?]

/-- A line that does not fail adds the file that it counts in, if that has no counters. -/
theorem tracked_apply (pass : Pass) (line : Bytes) {verdict : Verdict}
    (h : verdict.offence? = none) :
    (pass.apply line verdict).tracked = pass.tracked ++
      match verdict.visit?.map Prod.fst with
      | none => []
      | some path => if (pass.files.get? path).isSome then [] else [path] := by
  cases verdict with
  | noise => simp [apply, tracked, emit, Event.tracked?, Verdict.visit?]
  | directory path => simp [apply, tracked, emit, ask, Event.tracked?, Verdict.visit?]
  | visit path slot lines =>
    exact tracked_ensureCounters
      (({ pass with lines := pass.lines + 1 } : Pass).ask (.pathKind path)) path lines
  | unlocated | notAFile | uncounted | outOfRange => cases h

theorem lines_apply (pass : Pass) (line : Bytes) (verdict : Verdict) :
    (pass.apply line verdict).lines = pass.lines + 1 := by
  cases verdict with
  | visit path slot lines | outOfRange path slot lines =>
    change (Pass.ensureCounters _ path lines).lines = _
    unfold ensureCounters
    split <;> rfl
  | noise | unlocated | directory | notAFile | uncounted => rfl

end Tracked

end Pass

/-! ## Runs -/

namespace LiveWorkspace

section Run

variable {w : LiveWorkspace} {lines : List Bytes}

/-- A step keeps the balance; the line of an error alone stays open. -/
theorem balanced_step {pass : Pass} (h : pass.Balanced pass.pending) (w : LiveWorkspace)
    (line : Bytes) : (w.step pass line).Balanced (w.step pass line).pending := by
  cases hfailure : pass.failure with
  | some error => rwa [step_of_failure (by rw [hfailure]; rfl)]
  | none =>
    rw [Pass.pending, hfailure] at h
    rw [step_eq_apply hfailure]
    exact h.apply hfailure line fun _ _ _ => size_of_verdict

/-- A run keeps the balance from its first line on. -/
theorem balanced_run (w : LiveWorkspace) (lines : List Bytes) :
    (lines.foldl w.step .start).Balanced (lines.foldl w.step .start).pending := by
  induction lines using List.reverseRecOn with
  | nil => exact Pass.balanced_start
  | append_singleton lines line ih =>
    rw [List.foldl_append]
    exact balanced_step ih w line

/-- A pass counts the lines that it is given, up to one that fails. -/
theorem lines_run (w : LiveWorkspace) (lines : List Bytes) :
    (lines.foldl w.step .start).lines ≤ lines.length ∧
      ((lines.foldl w.step .start).failure = none →
        (lines.foldl w.step .start).lines = lines.length) := by
  induction lines using List.reverseRecOn with
  | nil => exact ⟨Nat.le_refl 0, fun _ => rfl⟩
  | append_singleton lines line ih =>
    rw [List.foldl_append, List.foldl_cons, List.foldl_nil, List.length_append,
      List.length_singleton]
    cases hfailure : (lines.foldl w.step .start).failure with
    | some error =>
      rw [step_of_failure (by rw [hfailure]; rfl), hfailure]
      exact ⟨by omega, fun h => by cases h⟩
    | none =>
      rw [step_eq_apply hfailure, Pass.lines_apply, ih.2 hfailure]
      exact ⟨Nat.le_refl _, fun _ => rfl⟩

/-- Files are reported as new in the order in which records first name them. -/
theorem tracked_run (h : (lines.foldl w.step .start).failure = none) :
    (lines.foldl w.step .start).tracked = (w.named .start lines).eraseDups := by
  induction lines using List.reverseRecOn with
  | nil => rfl
  | append_singleton lines line ih =>
    have hbalanced := balanced_run w lines
    rw [List.foldl_append] at h ⊢
    have hfailure := failure_of_failure_step h
    have hnamed := ih hfailure
    have hoffence : (w.verdict (lines.foldl w.step .start) line).offence? = none := by
      rw [← Pass.failure_apply hfailure line, ← step_eq_apply hfailure]
      exact h
    change (w.step _ line).tracked = _
    rw [step_eq_apply hfailure, Pass.tracked_apply _ _ hoffence, map_fst_visit?_verdict hoffence,
      named_append_singleton, List.eraseDups_append, hnamed]
    congr 1
    cases hfile : (w.behind (lines.foldl w.step .start).calls).file? line with
    | none => rfl
    | some path =>
      have hmem : ((lines.foldl w.step .start).files.get? path).isSome ↔
          path ∈ w.named .start lines := by
        rw [← hbalanced.mem_tracked, hnamed, List.mem_eraseDups]
      by_cases hnew : path ∈ w.named .start lines <;>
        simp [hmem, hnew, List.removeAll, List.eraseDups_cons]

end Run

end LiveWorkspace

/-! ## Totals of a trace -/

namespace LiveWorkspace

section Totals

variable {w : LiveWorkspace} {deliveries : List Delivery}

/-- A trace that is aggregated is read to its end, and its totals are the last event. -/
theorem aggregate_of_ok {map : CoverageMap} (h : (w.aggregate deliveries).result = .ok map) :
    let pass := (Bytes.lines (Delivery.arrived deliveries)).foldl w.step .start
    pass.failure = none ∧ pass.files = map ∧
      (w.aggregate deliveries).events = (.aggregated pass.summary :: pass.events).reverse := by
  rw [aggregate_eq] at h ⊢
  obtain ⟨hfailure, hend, hmap⟩ := Pass.result_eq_ok_iff.1 h
  have hreading : Reading.ofDeliveries deliveries =
      ⟨Bytes.lines (Delivery.arrived deliveries), none⟩ := by
    rw [Reading.ofDeliveries_eq] at hend ⊢
    cases hcause : Delivery.failure? deliveries with
    | none => rfl
    | some cause =>
      rw [hcause] at hend
      cases hend
  rw [hreading] at hfailure hmap ⊢
  refine ⟨hfailure, hmap, ?_⟩
  simp only [Pass.finish, Pass.result, hfailure]

/-- A trace that is refused reports on lines only. -/
theorem isOfLine_of_error {error : CoverageError}
    (h : (w.aggregate deliveries).result = .error error) :
    ∀ event ∈ (w.aggregate deliveries).events, event.isOfLine := by
  intro event hevent
  rw [aggregate_eq] at h hevent
  simp only [Pass.finish] at h hevent
  rw [h] at hevent
  exact (balanced_run w _).isOfLine event (List.mem_reverse.1 hevent)

theorem times_closed_aggregate (w : LiveWorkspace) (deliveries : List Delivery) :
    Event.times "Closed xtrace sink" (w.aggregate deliveries).events = 0 := by
  cases hresult : (w.aggregate deliveries).result with
  | error error => exact Event.times_of_isOfLine (isOfLine_of_error hresult) (by simp)
  | ok map =>
    rw [(aggregate_of_ok hresult).2.2, Event.times_reverse_aggregated, if_neg (by simp)]
    exact Event.times_of_isOfLine (balanced_run w _).isOfLine (by simp)

end Totals

/-- The totals of a trace that is aggregated come once and last. They account for each of its lines
and agree with the counters and with what was reported of the lines, so no counter is greater than
the number of bytes: on no line does a trace of less than `2 ^ 64` bytes count further than that. A
trace that is refused has no totals. Closing a sink is reported once and last in either case. -/
theorem aggregate_balances (w : LiveWorkspace) (deliveries : List Delivery) :
    let trace := Delivery.arrived deliveries
    let outcome := w.aggregate deliveries
    let closed := w.aggregateSink ⟨deliveries⟩
    (∀ map, outcome.result = .ok map → ∃ before totals,
      outcome.events = before ++ [.aggregated totals] ∧
      Event.times "Aggregated xtrace output" outcome.events = 1 ∧
      totals.Balances map outcome.events ∧
      totals.lines = (Bytes.lines trace).length ∧
      totals.lines = totals.records + totals.skippedDirectories +
        Event.times "Skipping noise" outcome.events ∧
      totals.files = Event.times "Tracking new file" outcome.events ∧
      (outcome.events.filterMap Event.tracked?).map Prod.fst =
        (w.named .start (Bytes.lines trace)).eraseDups ∧
      (∀ path hits, map.get? path = some hits → ∀ count ∈ hits, count ≤ totals.records) ∧
      totals.records ≤ totals.lines ∧ totals.lines ≤ trace.length) ∧
    (trace.length < 2 ^ 64 → ∀ front, front <+: (Reading.ofDeliveries deliveries).lines →
      (front.foldl w.step .start).Below (2 ^ 64)) ∧
    (∀ error, outcome.result = .error error →
      Event.times "Aggregated xtrace output" outcome.events = 0) ∧
    closed.result = outcome.result ∧ closed.events = outcome.events ++ [.closedSink] ∧
      Event.times "Closed xtrace sink" closed.events = 1 := by
  intro trace outcome closed
  refine ⟨?_, ?_, ?_, rfl, rfl, ?_⟩
  · intro map hmap
    obtain ⟨hfailure, rfl, hevents⟩ := aggregate_of_ok hmap
    let pass := (Bytes.lines trace).foldl w.step .start
    have hbalanced : pass.Balanced pass.pending := balanced_run w (Bytes.lines trace)
    have hlines := (lines_run w (Bytes.lines trace)).2 hfailure
    have haccount := hbalanced.lines_eq
    rw [Pass.pending, hfailure] at haccount
    have hreport := (hbalanced.aggregated pass.summary).reverse
    rw [← hevents] at hreport
    refine ⟨_, _, hevents.trans List.reverse_cons, ?_, hreport, hlines, ?_,
      hreport.times_tracking.symm, ?_, fun path hits => hbalanced.le_records,
      hbalanced.records_le, ?_⟩
    · rw [hevents, Event.times_reverse_aggregated, if_pos rfl,
        Event.times_of_isOfLine hbalanced.isOfLine (by simp)]
    · rw [hevents, Event.times_reverse_aggregated, if_neg (by simp)]
      exact haccount
    · rw [hevents, List.filterMap_reverse, List.filterMap_cons_none rfl, ← List.filterMap_reverse]
      exact tracked_run hfailure
    · exact hlines.trans_le (Bytes.length_lines_le trace)
  · intro hlength front hfront
    have hcounted := (lines_run w front).1.trans hfront.length_le
    have hlines := Reading.length_lines_le deliveries
    exact (balanced_run w front).below ((hcounted.trans hlines).trans_lt hlength)
  · intro error herror
    exact Event.times_of_isOfLine (isOfLine_of_error herror) (by simp)
  · change Event.times _ (outcome.events ++ [.closedSink]) = 1
    rw [Event.times_append, times_closed_aggregate]
    rfl

/-- Noise, a directory, and two files of which one comes back in another spelling. The number of
lines grows with the calls. The same trace has no totals if reading fails behind it. -/
theorem aggregate_balances_growing :
    let d : AbsPath := ⟨[Bytes.ofString "d"], by decide⟩
    let a : AbsPath := ⟨[Bytes.ofString "a.sh"], by decide⟩
    let b : AbsPath := ⟨[Bytes.ofString "b.sh"], by decide⟩
    let w : LiveWorkspace := ⟨fun calls => ⟨⟨[Bytes.slash]⟩, fun path =>
      if path = d then .directory else .file, fun _ => .ok calls.length⟩, none⟩
    let trace := Bytes.ofString "x\n+BASHCOV> d/1 BASHCOV: \n+BASHCOV> b.sh/2 BASHCOV: \n" ++
      Bytes.ofString "+BASHCOV> a.sh/1 BASHCOV: \n+BASHCOV> /./b.sh/0 BASHCOV: "
    let map := ((((CoverageMap.empty.track b 2).hit b 1).track a 4).hit a 0).hit b 0
    let outcome := w.aggregate [.chunk trace]
    let broken := w.aggregate [.chunk trace, .failed .isDirectory]
    outcome.result = .ok map ∧
    (∃ before totals, outcome.events = before ++ [.aggregated totals] ∧
      totals.lines = 5 ∧ totals.records = 3 ∧ totals.files = 2) ∧
    (Delivery.arrived [.chunk trace]).length < 2 ^ 64 ∧
    ((Bytes.lines trace).foldl w.step .start).Below (2 ^ 64) ∧
    broken.result = .error (.sink .isDirectory) ∧
    Event.times "Aggregated xtrace output" broken.events = 0 := by
  intro d a b w trace map outcome broken
  have hmap : outcome.result = .ok map := by
    rw [show outcome = _ from w.aggregate_eq _]
    decide +kernel
  have hbroken : broken.result = .error (.sink .isDirectory) := by
    rw [show broken = _ from w.aggregate_eq _]
    decide +kernel
  have hlength : (Delivery.arrived [.chunk trace]).length < 2 ^ 64 := by decide +kernel
  have hread : (Reading.ofDeliveries [.chunk trace]).lines = Bytes.lines trace :=
    congrArg Reading.lines (Reading.ofDeliveries_chunk trace)
  obtain ⟨hok, hbelow, -⟩ := w.aggregate_balances [.chunk trace]
  obtain ⟨before, totals, hevents, -, hbalances, hlines, -⟩ := hok map hmap
  obtain ⟨-, -, herror, -⟩ := w.aggregate_balances [.chunk trace, .failed .isDirectory]
  refine ⟨hmap, ⟨before, totals, hevents, ?_, ?_, ?_⟩, hlength,
    hread ▸ hbelow hlength _ List.prefix_rfl, hbroken, herror _ hbroken⟩
  · exact hlines.trans (by decide +kernel)
  · exact hbalances.records_eq.trans (by decide +kernel)
  · exact hbalances.files_eq.trans (by decide +kernel)

end LiveWorkspace

end ShellCoverage
