-- SUMMARY: What a trace gives does not depend on how its bytes arrive.
import ShellCoverage.Proofs.Trace.Lines
import ShellCoverage.Proofs.Trace.Summary

/-!
# Arrival of a trace

Reading and counting take turns: a line is put together from chunks cut anywhere, it is dealt with,
and only then the next one is read. What comes out is what the bytes give in one piece. If reading
fails, it is what the complete lines give, except that a success becomes the failure to read.
-/

namespace ShellCoverage

/-! ## Reading one line -/

namespace Delivery

variable {deliveries rest : List Delivery} {line : Bytes} {cause : IoError}

theorem lineFeed_notMem_of_dropWhile {bytes : Bytes}
    (h : bytes.dropWhile (· ≠ Bytes.lineFeed) = []) : Bytes.lineFeed ∉ bytes := by
  intro hmem
  have := List.dropWhile_eq_nil_iff.1 h Bytes.lineFeed hmem
  simp at this

/-- Reading a line fails if the trace fails before the line ends. -/
theorem failure?_of_readLine (h : readLine deliveries = .error cause) :
    failure? deliveries = some cause ∧ Bytes.lineFeed ∉ arrived deliveries := by
  induction deliveries with
  | nil => cases h
  | cons delivery deliveries ih =>
    cases delivery with
    | interrupted => exact ih h
    | failed cause =>
      cases h
      exact ⟨rfl, List.not_mem_nil⟩
    | chunk bytes =>
      rw [readLine] at h
      split at h
      · cases h
      · next hdrop =>
        cases hline : readLine deliveries with
        | ok result =>
          rw [hline] at h
          cases h
        | error cause' =>
          rw [hline] at h
          cases h
          obtain ⟨hfailure, harrived⟩ := ih hline
          refine ⟨hfailure, ?_⟩
          simp [arrived, harrived, lineFeed_notMem_of_dropWhile hdrop]

/-- A line that is read ends with its only line feed, or at the end of the trace. -/
theorem line_of_readLine (h : readLine deliveries = .ok (line, rest)) :
    failure? rest = failure? deliveries ∧
      ((∃ front, Bytes.lineFeed ∉ front ∧ line = front ++ [Bytes.lineFeed]) ∨
        (Bytes.lineFeed ∉ line ∧ failure? deliveries = none ∧ arrived rest = [])) := by
  induction deliveries generalizing line rest with
  | nil =>
    cases h
    exact ⟨rfl, .inr ⟨List.not_mem_nil, rfl, rfl⟩⟩
  | cons delivery deliveries ih =>
    cases delivery with
    | interrupted => exact ih h
    | failed cause => cases h
    | chunk bytes =>
      rw [readLine] at h
      split at h
      · next b after hdrop =>
        cases h
        have hb := List.head?_dropWhile_not (fun b : UInt8 => decide (b ≠ Bytes.lineFeed)) bytes
        rw [hdrop] at hb
        refine ⟨rfl, .inl ⟨bytes.takeWhile (· ≠ Bytes.lineFeed), ?_, ?_⟩⟩
        · intro hmem
          simpa using List.mem_takeWhile_imp hmem
        · simpa using hb
      · next hdrop =>
        cases hline : readLine deliveries with
        | error cause =>
          rw [hline] at h
          cases h
        | ok result =>
          rw [hline] at h
          cases h
          have hbytes := lineFeed_notMem_of_dropWhile hdrop
          obtain ⟨hfailure, ⟨front, hfront, heq⟩ | ⟨hnone, hend, harrived⟩⟩ := ih hline
          · refine ⟨hfailure, .inl ⟨bytes ++ front, by simp [hbytes, hfront], ?_⟩⟩
            rw [heq, List.append_assoc]
          · exact ⟨hfailure, .inr ⟨by simp [hbytes, hnone], hend, harrived⟩⟩

end Delivery

/-! ## Reading all lines -/

section OfDeliveries

variable {deliveries rest : List Delivery} {line : Bytes}

/-- A failure before the first line feed leaves no line. -/
theorem Reading.ofDeliveries_of_error {cause : IoError}
    (h : Delivery.readLine deliveries = .error cause) :
    ofDeliveries deliveries = ⟨[], some cause⟩ := by
  obtain ⟨hfailure, harrived⟩ := Delivery.failure?_of_readLine h
  have hpart := @Bytes.completePart_append_of_notMem [] _ (.inl rfl) harrived
  rw [List.nil_append] at hpart
  rw [ofDeliveries_eq, hfailure]
  dsimp only
  rw [hpart]
  rfl

theorem Reading.ofDeliveries_of_end (h : Delivery.readLine deliveries = .ok ([], rest)) :
    ofDeliveries deliveries = ⟨[], none⟩ := by
  obtain ⟨-, ⟨front, -, hline⟩ | ⟨-, hend, harrived⟩⟩ := Delivery.line_of_readLine h
  · simp at hline
  · rw [ofDeliveries_eq, hend, Delivery.arrived_of_readLine h, harrived]
    rfl

/-- Taking one line off the front leaves the reading of what is behind it. -/
theorem Reading.ofDeliveries_of_line (h : Delivery.readLine deliveries = .ok (line, rest))
    (hne : line ≠ []) : ofDeliveries deliveries =
      ⟨line :: (ofDeliveries rest).lines, (ofDeliveries rest).failure⟩ := by
  have harrived := Delivery.arrived_of_readLine h
  obtain ⟨hfailure, ⟨front, hfront, rfl⟩ | ⟨hline, hend, hrest⟩⟩ := Delivery.line_of_readLine h
  · have hends := Bytes.endsLine_append_lineFeed front
    rw [ofDeliveries_eq, ofDeliveries_eq, hfailure, harrived, Bytes.completePart_append hends,
      List.append_assoc, List.append_assoc, List.singleton_append, List.singleton_append,
      Bytes.lines_append_lineFeed hfront, Bytes.lines_append_lineFeed hfront]
    cases Delivery.failure? deliveries <;> rfl
  · rw [ofDeliveries_eq, ofDeliveries_eq, hfailure, hend, harrived, hrest, List.append_nil,
      Bytes.lines_of_notMem hline, if_neg hne]
    rfl

end OfDeliveries

namespace Pass

/-- A failure to read does not count behind an error. -/
theorem finish_of_failure {pass : Pass} (h : pass.failure.isSome)
    (failure failure' : Option IoError) : pass.finish failure = pass.finish failure' := by
  obtain ⟨error, herror⟩ := Option.isSome_iff_exists.1 h
  simp only [finish, result, herror]

end Pass

namespace LiveWorkspace

variable {w : LiveWorkspace}

/-- Nothing is read behind an error, and nothing is asked. -/
theorem step_of_failure {pass : Pass} (h : pass.failure.isSome) (line : Bytes) :
    w.step pass line = pass := by
  obtain ⟨error, herror⟩ := Option.isSome_iff_exists.1 h
  simp only [step, Pass.step, herror]

/-- Reading and dealing with lines in turn does the same as reading all of them first. -/
theorem finish_read (w : LiveWorkspace) (pass : Pass) (deliveries : List Delivery) :
    (w.read pass deliveries).1.finish (w.read pass deliveries).2 =
      ((Reading.ofDeliveries deliveries).lines.foldl w.step pass).finish
        (Reading.ofDeliveries deliveries).failure := by
  fun_induction read w pass deliveries with
  | case1 pass deliveries cause h =>
    rw [Reading.ofDeliveries_of_error h]
    rfl
  | case2 pass deliveries rest h =>
    rw [Reading.ofDeliveries_of_end h]
    rfl
  | case3 pass deliveries b line rest h last hlast =>
    rw [Reading.ofDeliveries_of_line h (List.cons_ne_nil b line), List.foldl_cons,
      List.foldl_fixed' (step_of_failure hlast)]
    exact Pass.finish_of_failure hlast _ _
  | case4 pass deliveries b line rest h last hlast ih =>
    rw [ih, Reading.ofDeliveries_of_line h (List.cons_ne_nil b line)]
    rfl

/-- Reading line by line gives what reading all lines first gives. -/
theorem aggregate_eq (w : LiveWorkspace) (deliveries : List Delivery) :
    w.aggregate deliveries =
      ((Reading.ofDeliveries deliveries).lines.foldl w.step .start).finish
        (Reading.ofDeliveries deliveries).failure :=
  finish_read w .start deliveries

end LiveWorkspace

/-- Against a source tree that does not change, it makes no difference whether all lines are read
first. -/
theorem Workspace.aggregate_live (w : Workspace) (deliveries : List Delivery) :
    w.live.aggregate deliveries = w.aggregate deliveries :=
  w.live.aggregate_eq deliveries

/-! ## Chunks, interruptions and failures -/

namespace Delivery

variable {arrivals : List Delivery}

theorem failure?_eq_none (h : ∀ cause, .failed cause ∉ arrivals) : failure? arrivals = none := by
  induction arrivals with
  | nil => rfl
  | cons delivery arrivals ih =>
    have harrivals : failure? arrivals = none := by
      refine ih fun cause hmem => ?_
      exact h cause (List.mem_cons_of_mem _ hmem)
    cases delivery with
    | chunk bytes => exact harrivals
    | interrupted => exact harrivals
    | failed cause => exact absurd List.mem_cons_self (h cause)

theorem failure?_append (h : failure? arrivals = none) (after : List Delivery) :
    failure? (arrivals ++ after) = failure? after := by
  induction arrivals with
  | nil => rfl
  | cons delivery arrivals ih =>
    cases delivery with
    | chunk bytes => exact ih h
    | interrupted => exact ih h
    | failed cause => cases h

/-- Deliveries without a failure hide nothing of what comes after them. -/
theorem arrived_append (h : failure? arrivals = none) (after : List Delivery) :
    arrived (arrivals ++ after) = arrived arrivals ++ arrived after := by
  induction arrivals with
  | nil => rfl
  | cons delivery arrivals ih =>
    cases delivery with
    | chunk bytes => simp [arrived, ih h]
    | interrupted => exact ih h
    | failed cause => cases h

end Delivery

namespace Pass

/-- A failure to read takes the place of a success, and the totals are not reported. -/
theorem Unreported.finish_some {pass : Pass} (h : pass.Unreported) (cause : IoError) :
    (pass.finish (some cause)).result =
        .error (match (pass.finish none).result with
          | .error error => error
          | .ok _ => .sink cause) ∧
      (pass.finish (some cause)).calls = (pass.finish none).calls ∧
      (pass.finish (some cause)).events =
        (pass.finish none).events.filter (·.summary?.isNone) := by
  have hevents : pass.events.filter (·.summary?.isNone) = pass.events := by
    rw [List.filter_eq_self]
    intro event hevent
    rw [h event hevent]
    rfl
  cases hfailure : pass.failure with
  | none => simp [finish, result, hfailure, hevents]
  | some error => simp [finish, result, hfailure, hevents]

end Pass

/-- Chunks and interruptions give what their bytes give in one piece, with the same calls and
events. A failure behind them gives what the complete lines give, where a success becomes that
failure and no totals are reported; what follows it does not matter. -/
theorem LiveWorkspace.aggregate_arrivals (w : LiveWorkspace) {arrivals : List Delivery}
    (h : ∀ cause, .failed cause ∉ arrivals) :
    w.aggregate arrivals = w.aggregate [.chunk (Delivery.arrived arrivals)] ∧
    ∃ part, Bytes.IsCompletePart (Delivery.arrived arrivals) part ∧ ∀ cause after,
      let whole := w.aggregate [.chunk part]
      let broken := w.aggregate (arrivals ++ .failed cause :: after)
      broken.result = .error (match whole.result with
        | .error error => error
        | .ok _ => .sink cause) ∧
      broken.calls = whole.calls ∧
      broken.events = whole.events.filter (·.summary?.isNone) := by
  have hnone := Delivery.failure?_eq_none h
  constructor
  · rw [aggregate_eq, aggregate_eq, Reading.ofDeliveries_chunk, Reading.ofDeliveries_eq, hnone]
  · refine ⟨_, Bytes.isCompletePart_completePart _, ?_⟩
    intro cause after whole broken
    have hbroken : Reading.ofDeliveries (arrivals ++ .failed cause :: after) =
        ⟨Bytes.lines (Bytes.completePart (Delivery.arrived arrivals)), some cause⟩ := by
      rw [Reading.ofDeliveries_eq, Delivery.failure?_append hnone, Delivery.arrived_append hnone]
      simp [Delivery.failure?, Delivery.arrived]
    have hunreported := Pass.unreported_start.foldl_step w
      (Bytes.lines (Bytes.completePart (Delivery.arrived arrivals)))
    simp only [broken, whole, aggregate_eq, hbroken, Reading.ofDeliveries_chunk]
    exact hunreported.finish_some cause

/-- The second line is out of range, but a failure inside of it comes first. The file has as many
lines as there were calls before it was counted. -/
theorem LiveWorkspace.aggregate_arrivals_broken :
    let w : LiveWorkspace :=
      ⟨fun calls => ⟨⟨[Bytes.slash]⟩, fun _ => .file, fun _ => .ok calls.length⟩, none⟩
    let arrivals : List Delivery := [.chunk (Bytes.ofString "+BASHCOV> /a.sh/1 BASHCOV: x\n+BASH"),
      .interrupted, .chunk (Bytes.ofString "COV> /a.sh/2 BASHCOV: ")]
    (∀ cause, .failed cause ∉ arrivals) ∧
    w.aggregate arrivals = w.aggregate [.chunk (Delivery.arrived arrivals)] ∧
    (w.aggregate arrivals).result = .error (.lineOutOfRange (.ofString "/a.sh") 2 1) ∧
    (w.aggregate (arrivals ++ [.failed .isDirectory, .interrupted])).result =
      .error (.sink .isDirectory) := by
  intro w arrivals
  have h : ∀ cause, .failed cause ∉ arrivals := by simp [arrivals]
  refine ⟨h, (w.aggregate_arrivals h).1, ?_, ?_⟩
  · rw [LiveWorkspace.aggregate_eq]
    decide +kernel
  · rw [LiveWorkspace.aggregate_eq]
    decide +kernel

end ShellCoverage
