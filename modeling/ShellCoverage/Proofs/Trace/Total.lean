-- SUMMARY: The sum of all counters of a map, and what tracking a file and a hit do to it.
import Mathlib.Algebra.GroupWithZero.Nat
import Mathlib.Algebra.Order.BigOperators.Group.List
import Mathlib.Algebra.Order.Group.Nat
import ShellCoverage.CoverageMap

/-!
# Sums of counters

Tracking a file adds counters that are all zero, and a hit adds one to one of them. Either changes
the entry of one file and leaves the others as they are, so a sum over the entries is that of the one
file and of a rest that stays.
-/

namespace ShellCoverage

theorem Hits.sum_modify {hits : Hits} {slot : Nat} (h : slot < hits.size) :
    (hits.modify slot (· + 1)).sum = hits.sum + 1 := by
  have hlist : ∀ (l : List Nat) (i : Nat), i < l.length →
      (l.modify i (· + 1)).sum = l.sum + 1 := by
    intro l
    induction l with
    | nil => simp
    | cons n l ih =>
      intro i hi
      cases i with
      | zero =>
        simp only [List.modify_zero_cons, List.sum_cons]
        omega
      | succ i =>
        simp only [List.modify_succ_cons, List.sum_cons, ih i (by simpa using hi)]
        omega
  rw [← Array.sum_toList, ← Array.sum_toList, Array.toList_modify]
  exact hlist hits.toList slot (by simpa using h)

namespace CoverageMap

def total (m : CoverageMap) : Nat :=
  (m.entries.map (·.2.sum)).sum

/-- The files, each with the number of its counters. -/
def sizes (m : CoverageMap) : List (AbsPath × Nat) :=
  m.entries.map fun e => (e.1, e.2.size)

section Entries

variable {m n : CoverageMap} {path : AbsPath} {hits : Hits}

theorem nodup_entries (m : CoverageMap) : m.entries.Nodup :=
  m.pairwise_entries.imp fun hlt heq => AbsPath.ne_of_lt hlt (congrArg Prod.fst heq)

/-- The entries of a map that has other counters for one file at most. -/
theorem perm_entries (hget : n.get? path = some hits)
    (hother : ∀ q, path ≠ q → n.get? q = m.get? q) :
    n.entries.Perm ((path, hits) :: m.entries.filter (·.1 ≠ path)) := by
  have hnodup : ((path, hits) :: m.entries.filter (·.1 ≠ path)).Nodup :=
    List.nodup_cons.2 ⟨by simp, m.nodup_entries.filter _⟩
  refine (List.perm_ext_iff_of_nodup n.nodup_entries hnodup).2 fun ⟨q, other⟩ => ?_
  rw [mem_entries, List.mem_cons, List.mem_filter, mem_entries]
  by_cases hq : path = q
  · subst hq
    simp [hget, eq_comm]
  · simp [hother q hq, Ne.symm hq]

theorem filter_entries_of_get?_eq_none (h : m.get? path = none) :
    m.entries.filter (·.1 ≠ path) = m.entries := by
  refine List.filter_eq_self.2 fun ⟨q, other⟩ hmem => ?_
  have hget := mem_entries.1 hmem
  have hne : q ≠ path := by
    rintro rfl
    rw [h] at hget
    cases hget
  simpa using hne

theorem perm_entries_track (h : m.get? path = none) (lines : Nat) :
    (m.track path lines).entries.Perm ((path, Array.replicate lines 0) :: m.entries) := by
  have hperm : (m.track path lines).entries.Perm
      ((path, Array.replicate lines 0) :: m.entries.filter (·.1 ≠ path)) :=
    perm_entries (by simp [get?_track]) fun q hq => by rw [get?_track, if_neg hq]
  rwa [filter_entries_of_get?_eq_none h] at hperm

/-- A hit replaces one entry and leaves all others. -/
theorem perm_entries_hit (h : m.get? path = some hits) (slot : Nat) :
    (m.hit path slot).entries.Perm
      ((path, hits.modify slot (· + 1)) :: m.entries.filter (·.1 ≠ path)) :=
  perm_entries (by simp [get?_hit, h]) fun q hq => by rw [get?_hit, if_neg hq]

theorem perm_entries_self (h : m.get? path = some hits) :
    m.entries.Perm ((path, hits) :: m.entries.filter (·.1 ≠ path)) :=
  perm_entries h fun _ _ => rfl

@[simp]
theorem entries_empty : empty.entries = [] := by
  rw [List.eq_nil_iff_forall_not_mem]
  rintro ⟨path, hits⟩ hmem
  simp [mem_entries] at hmem

/-! ## Sums -/

theorem total_track (h : m.get? path = none) (lines : Nat) :
    (m.track path lines).total = m.total := by
  unfold total
  rw [((perm_entries_track h lines).map _).sum_nat]
  simp

theorem total_hit (h : m.get? path = some hits) {slot : Nat} (hslot : slot < hits.size) :
    (m.hit path slot).total = m.total + 1 := by
  unfold total
  rw [((perm_entries_hit h slot).map _).sum_nat, ((perm_entries_self h).map _).sum_nat,
    List.map_cons, List.map_cons, List.sum_cons, List.sum_cons, Hits.sum_modify hslot,
    Nat.add_right_comm]

/-- No counter is greater than the sum of all. -/
theorem le_total (h : m.get? path = some hits) {count : Nat} (hcount : count ∈ hits) :
    count ≤ m.total := by
  calc count ≤ hits.toList.sum := List.le_sum_of_mem (by simpa using hcount)
    _ = hits.sum := Array.sum_toList
    _ ≤ m.total := List.le_sum_of_mem (List.mem_map_of_mem (mem_entries.2 h))

/-! ## Sizes -/

theorem perm_sizes_track (h : m.get? path = none) (lines : Nat) :
    (m.track path lines).sizes.Perm ((path, lines) :: m.sizes) := by
  have hperm := (perm_entries_track h lines).map fun e => (e.1, e.2.size)
  rwa [List.map_cons, Array.size_replicate] at hperm

theorem perm_sizes_hit (h : m.get? path = some hits) (slot : Nat) :
    (m.hit path slot).sizes.Perm m.sizes := by
  have hhit := (perm_entries_hit h slot).map fun e => (e.1, e.2.size)
  have hself := (perm_entries_self h).map fun e => (e.1, e.2.size)
  rw [List.map_cons, Array.size_modify] at hhit
  exact hhit.trans hself.symm

theorem length_sizes (m : CoverageMap) : m.sizes.length = m.size := by
  rw [sizes, List.length_map, length_entries]

theorem mem_map_fst_sizes : path ∈ m.sizes.map Prod.fst ↔ (m.get? path).isSome := by
  rw [sizes, List.map_map, ← mem_map_fst_entries]
  rfl

end Entries

end CoverageMap

end ShellCoverage
