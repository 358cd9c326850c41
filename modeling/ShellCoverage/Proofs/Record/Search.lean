-- SUMMARY: What a search from the greatest candidate down finds, and the ways to read off a front.
import Mathlib.Data.Prod.Lex
import ShellCoverage.Bytes

/-!
# Searches from the greatest candidate down

A record is found by trying the greatest number of markers first, then the longest file name, then
the longest number. Each of these searches finds a best candidate, or shows that there is none. The
lists that are searched hold every way to read off a front, each once, in falling order.
-/

namespace ShellCoverage

section Best

variable {α ρ ι : Type}

/-- Nothing, if there is no candidate; otherwise a candidate that none outranks. -/
def IsBest [LE ρ] (candidate : α → Prop) (rank : α → ρ) : Option α → Prop
  | none => ∀ a, ¬ candidate a
  | some a => candidate a ∧ ∀ b, candidate b → rank b ≤ rank a

/-- Where there is a candidate, there is a best one that it does not outrank. -/
theorem IsBest.exists_of_candidate [LE ρ] {candidate : α → Prop} {rank : α → ρ} {best : Option α}
    {a : α} (h : IsBest candidate rank best) (ha : candidate a) :
    ∃ b, best = some b ∧ candidate b ∧ rank a ≤ rank b := by
  cases best with
  | none => exact absurd ha (h a)
  | some b => exact ⟨b, rfl, h.1, h.2 a ha⟩

/-- What is best in a fine ranking is best in a coarser one. -/
theorem IsBest.coarsen {σ : Type} [LE ρ] [LE σ] {candidate : α → Prop} {rank : α → ρ}
    {coarse : α → σ} {best : Option α} (h : IsBest candidate rank best)
    (hrank : ∀ a b, rank a ≤ rank b → coarse a ≤ coarse b) : IsBest candidate coarse best := by
  cases best with
  | none => exact h
  | some a => exact ⟨h.1, fun b hb => hrank b a (h.2 b hb)⟩

/-- The best candidate is carried over by a map that keeps the order of the ranks, and that drops a
candidate only together with all that it outranks. -/
theorem IsBest.bind {β σ : Type} [LE ρ] [LE σ] {p : α → Prop} {q : β → Prop} {rank : α → ρ}
    {rank' : β → σ} {best : Option α} {f : α → Option β} (h : IsBest p rank best)
    (hq : ∀ b, q b ↔ ∃ a, p a ∧ f a = some b)
    (hrank : ∀ a a' b b', p a → p a' → f a = some b → f a' = some b' → rank a ≤ rank a' →
      rank' b ≤ rank' b')
    (hdrop : ∀ a a', rank a ≤ rank a' → f a' = none → f a = none) :
    IsBest q rank' (best.bind f) := by
  cases best with
  | none =>
    intro b hb
    obtain ⟨a, ha, -⟩ := (hq b).1 hb
    exact h a ha
  | some a =>
    change IsBest q rank' (f a)
    cases hfa : f a with
    | none =>
      intro b hb
      obtain ⟨c, hc, hfc⟩ := (hq b).1 hb
      rw [hdrop c a (h.2 c hc) hfa] at hfc
      cases hfc
    | some b =>
      refine ⟨(hq b).2 ⟨a, h.1, hfa⟩, fun d hd => ?_⟩
      obtain ⟨c, hc, hfc⟩ := (hq d).1 hd
      exact hrank c a d b hc h.1 hfc hfa (h.2 c hc)

/-- A search through places in falling order, each searched for its best candidate, finds a best
candidate overall. The place counts before the rank. -/
theorem isBest_findSome? [LE ρ] {candidate : α → Prop} {place : α → Nat} {rank : α → ρ}
    {key : ι → Nat} {places : List ι} {search : ι → Option α}
    (hplaces : places.Pairwise fun i j => key j < key i)
    (hmem : ∀ a, candidate a → ∃ i ∈ places, key i = place a)
    (hsearch : ∀ i ∈ places, IsBest (fun a => candidate a ∧ place a = key i) rank (search i)) :
    IsBest candidate (fun a => toLex (place a, rank a)) (places.findSome? search) := by
  cases hfound : places.findSome? search with
  | none =>
    intro a ha
    obtain ⟨i, hi, hkey⟩ := hmem a ha
    have hnone := hsearch i hi
    rw [List.findSome?_eq_none_iff.1 hfound i hi] at hnone
    exact hnone a ⟨ha, hkey.symm⟩
  | some a =>
    obtain ⟨before, i, after, rfl, hi, hbefore⟩ := List.findSome?_eq_some_iff.1 hfound
    have hbest := hsearch i (by simp)
    rw [hi] at hbest
    refine ⟨hbest.1.1, fun b hb => ?_⟩
    obtain ⟨j, hj, hkey⟩ := hmem b hb
    rw [Prod.Lex.toLex_le_toLex]
    -- a place that was searched before that of `a` holds no candidate
    rcases List.mem_append.1 hj with hj | hj
    · have hnone := hsearch j (by simp [hj])
      rw [hbefore j hj] at hnone
      exact absurd ⟨hb, hkey.symm⟩ (hnone b)
    · rcases List.mem_cons.1 hj with rfl | hj
      · exact .inr ⟨by rw [← hkey, hbest.1.2], hbest.2 b ⟨hb, hkey.symm⟩⟩
      · have hlt := (List.pairwise_cons.1 (List.pairwise_append.1 hplaces).2.1).1 j hj
        exact .inl (by rw [← hkey, hbest.1.2]; exact hlt)

end Best

namespace Bytes

/-! ## Ways to read off a front -/

/-- Ways to read off a front, the longest first, none longer than `limit`. -/
private def Falling (limit : Nat) (ways : List (Nat × Bytes)) : Prop :=
  ways.Pairwise (fun v w => w.1 < v.1) ∧ ∀ way ∈ ways, way.1 ≤ limit

private theorem Falling.cons {limit : Nat} {ways : List (Nat × Bytes)} (h : Falling limit ways)
    (rest : Bytes) : Falling (limit + 1) ((limit + 1, rest) :: ways) := by
  refine ⟨List.pairwise_cons.2 ⟨fun way hway => Nat.lt_succ_of_le (h.2 way hway), h.1⟩, ?_⟩
  intro way hway
  rcases List.mem_cons.1 hway with rfl | hway
  · exact Nat.le_refl _
  · exact Nat.le_succ_of_le (h.2 way hway)

private theorem pairwise_runsFrom (p : UInt8 → Bool) (bytes : Bytes) {count : Nat}
    {found : List (Nat × Bytes)} (h : Falling count found) :
    (runsFrom p count found bytes).Pairwise fun v w => w.1 < v.1 := by
  induction bytes generalizing count found with
  | nil => exact h.1
  | cons b bytes ih =>
    rw [runsFrom]
    split
    · exact ih (h.cons bytes)
    · exact h.1

private theorem mem_runsFrom (p : UInt8 → Bool) (bytes : Bytes) (count : Nat)
    (found : List (Nat × Bytes)) (n : Nat) (rest : Bytes) :
    (n, rest) ∈ runsFrom p count found bytes ↔
      (n, rest) ∈ found ∨
        ∃ front ≠ [], (∀ b ∈ front, p b) ∧ bytes = front ++ rest ∧ n = count + front.length := by
  induction bytes generalizing count found with
  | nil =>
    refine (or_iff_left ?_).symm
    rintro ⟨front, hne, -, heq, -⟩
    exact hne (List.append_eq_nil_iff.1 heq.symm).1
  | cons b bytes ih =>
    rw [runsFrom]
    split
    case isTrue hb =>
      rw [ih, List.mem_cons, or_assoc, or_left_comm, or_congr_right]
      constructor
      · rintro (heq | ⟨front, -, hfront, rfl, rfl⟩)
        · obtain ⟨rfl, rfl⟩ := Prod.mk.injEq .. ▸ heq
          exact ⟨[b], by simp, by simpa using hb, rfl, rfl⟩
        · refine ⟨b :: front, by simp, by simpa [hb] using hfront, rfl, ?_⟩
          rw [List.length_cons]
          omega
      · rintro ⟨front, hne, hfront, heq, rfl⟩
        obtain ⟨c, front, rfl⟩ := List.exists_cons_of_ne_nil hne
        obtain ⟨rfl, rfl⟩ := List.cons_eq_cons.1 heq
        cases front with
        | nil => exact .inl rfl
        | cons c front =>
          refine .inr ⟨c :: front, by simp, fun x hx => hfront x (by simp [hx]), rfl, ?_⟩
          simp only [List.length_cons]
          omega
    case isFalse hb =>
      refine (or_iff_left ?_).symm
      rintro ⟨front, hne, hfront, heq, -⟩
      obtain ⟨c, front, rfl⟩ := List.exists_cons_of_ne_nil hne
      obtain ⟨rfl, -⟩ := List.cons_eq_cons.1 heq
      exact hb (hfront b (by simp))

theorem pairwise_runs (p : UInt8 → Bool) (bytes : Bytes) :
    (runs p bytes).Pairwise fun v w => w.1 < v.1 :=
  pairwise_runsFrom p bytes ⟨List.Pairwise.nil, by simp⟩

theorem mem_runs {p : UInt8 → Bool} {bytes rest : Bytes} {n : Nat} :
    (n, rest) ∈ runs p bytes ↔
      ∃ front ≠ [], (∀ b ∈ front, p b) ∧ bytes = front ++ rest ∧ n = front.length := by
  simp [runs, mem_runsFrom]

private theorem pairwise_repetitionsFrom (unit : Bytes) (hne : unit ≠ []) (bytes : Bytes)
    {count : Nat} {found : List (Nat × Bytes)} (h : Falling count found) :
    (repetitionsFrom unit hne count found bytes).Pairwise fun v w => w.1 < v.1 := by
  fun_induction repetitionsFrom unit hne count found bytes with
  | case1 => exact h.1
  | case2 count found bytes rest hrest ih => exact ih (h.cons rest)

private theorem mem_repetitionsFrom (unit : Bytes) (hne : unit ≠ []) (bytes : Bytes) (count : Nat)
    (found : List (Nat × Bytes)) (n : Nat) (rest : Bytes) :
    (n, rest) ∈ repetitionsFrom unit hne count found bytes ↔
      (n, rest) ∈ found ∨
        ∃ k ≥ 1, bytes = (List.replicate k unit).flatten ++ rest ∧ n = count + k := by
  fun_induction repetitionsFrom unit hne count found bytes with
  | case1 count found bytes hnone =>
    refine (or_iff_left ?_).symm
    rintro ⟨k, hk, rfl, -⟩
    obtain ⟨k, rfl⟩ := Nat.exists_eq_add_of_le' hk
    rw [List.replicate_succ, List.flatten_cons, List.append_assoc, dropFront?_append] at hnone
    cases hnone
  | case2 count found bytes after hafter ih =>
    obtain rfl := dropFront?_eq_some_iff.1 hafter
    rw [ih, List.mem_cons, or_assoc, or_left_comm, or_congr_right]
    constructor
    · rintro (heq | ⟨k, hk, rfl, rfl⟩)
      · obtain ⟨rfl, rfl⟩ := Prod.mk.injEq .. ▸ heq
        exact ⟨1, Nat.le_refl 1, by simp, rfl⟩
      · exact ⟨k + 1, by omega, by simp [List.replicate_succ], by omega⟩
    · rintro ⟨k, hk, heq, rfl⟩
      obtain ⟨k, rfl⟩ := Nat.exists_eq_add_of_le' hk
      rw [List.replicate_succ, List.flatten_cons, List.append_assoc] at heq
      obtain rfl := List.append_cancel_left heq
      cases k with
      | zero => exact .inl rfl
      | succ k => exact .inr ⟨k + 1, by omega, rfl, by omega⟩

theorem pairwise_repetitions (unit : Bytes) (hne : unit ≠ []) (bytes : Bytes) :
    (repetitions unit hne bytes).Pairwise fun v w => w.1 < v.1 :=
  pairwise_repetitionsFrom unit hne bytes ⟨List.Pairwise.nil, by simp⟩

theorem mem_repetitions {unit : Bytes} {hne : unit ≠ []} {bytes rest : Bytes} {n : Nat} :
    (n, rest) ∈ repetitions unit hne bytes ↔
      1 ≤ n ∧ bytes = (List.replicate n unit).flatten ++ rest := by
  simp [repetitions, mem_repetitionsFrom]

end Bytes

end ShellCoverage
