-- SUMMARY: Totals are reported once, at the end of a trace that is aggregated, and never before.
import ShellCoverage.LineByLine

/-!
# Reports of totals

No line makes a pass report totals. They are the last event of a trace that is aggregated, and a
trace that is refused has none.
-/

namespace ShellCoverage

def Event.summary? : Event → Option Summary
  | .aggregated summary => some summary
  | _ => none

@[simp]
theorem Event.summary?_aggregated (summary : Summary) :
    (aggregated summary).summary? = some summary := rfl

def Outcome.summaries (outcome : Outcome) : List Summary :=
  outcome.events.filterMap Event.summary?

namespace Pass

/-- No totals have been reported so far. -/
def Unreported (pass : Pass) : Prop :=
  ∀ event ∈ pass.events, event.summary? = none

section Unreported

variable {pass : Pass}

theorem unreported_start : start.Unreported := by
  intro event hevent
  cases hevent

theorem Unreported.emit (h : pass.Unreported) {event : Event} (hevent : event.summary? = none) :
    (pass.emit event).Unreported := by
  intro other hother
  rcases List.mem_cons.1 hother with rfl | hother
  · exact hevent
  · exact h other hother

theorem Unreported.count (h : pass.Unreported) (path : AbsPath) (line lines : Nat) :
    (pass.count path line lines).Unreported := by
  unfold Pass.count
  split <;> exact h

theorem Unreported.countIn (h : pass.Unreported) (tree : SourceTree) (path : AbsPath)
    (line : Nat) : (pass.countIn tree path line).Unreported := by
  unfold Pass.countIn
  split
  · exact h.count path line _
  · dsimp only
    split
    · exact h
    · next lines _ =>
      refine Unreported.count ?_ path line lines
      exact h.emit rfl

theorem Unreported.record (h : pass.Unreported) (w : Workspace) (record : Record) :
    (pass.record w record).Unreported := by
  unfold Pass.record
  split
  · exact h
  · next path _ =>
    dsimp only
    split
    · exact h.emit rfl
    · refine Unreported.countIn ?_ w.tree path record.line
      exact h
    · exact h

theorem Unreported.step (h : pass.Unreported) (w : Workspace) (line : Bytes) :
    (pass.step w line).Unreported := by
  unfold Pass.step
  split
  · exact h
  · dsimp only
    split
    · exact h.emit rfl
    · refine Unreported.record ?_ w _
      exact h

theorem Unreported.foldl_step (h : pass.Unreported) (w : LiveWorkspace) (lines : List Bytes) :
    (lines.foldl w.step pass).Unreported := by
  induction lines generalizing pass with
  | nil => exact h
  | cons line lines ih => exact ih (h.step _ line)

/-- A trace that is aggregated ends with its totals, and a trace that is refused has none. -/
theorem Unreported.summaries_finish (h : pass.Unreported) (failure : Option IoError) :
    (pass.finish failure).summaries = match pass.result failure with
      | .ok _ => [pass.summary]
      | .error _ => [] := by
  have hevents : pass.events.reverse.filterMap Event.summary? = [] := by
    rw [List.filterMap_eq_nil_iff]
    intro event hevent
    exact h event (List.mem_reverse.1 hevent)
  unfold Outcome.summaries finish
  cases pass.result failure with
  | error error => exact hevents
  | ok map =>
    dsimp only
    rw [List.reverse_cons, List.filterMap_append, hevents]
    rfl

end Unreported

end Pass

end ShellCoverage
