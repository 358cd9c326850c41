-- SUMMARY: The lines of a trace do not depend on how its bytes are delivered.
import Mathlib.Data.List.DropRight
import ShellCoverage.GrowingTrace
import ShellCoverage.LineByLine

/-!
# Lines of a delivered trace

A trace is cut while it arrives; `Bytes.lines` cuts it as a whole. Both give the same lines. If
reading fails, the lines are those of the complete part, which ends with the last line feed.
-/

namespace ShellCoverage

namespace Bytes

theorem lines_cons_lineFeed (bytes : Bytes) :
    lines (lineFeed :: bytes) = [lineFeed] :: lines bytes := by
  change consLine lineFeed (lines bytes) = _
  exact if_pos rfl

theorem lines_cons_of_ne {b : UInt8} (hb : b ≠ lineFeed) (bytes : Bytes) :
    lines (b :: bytes) = match lines bytes with
      | [] => [[b]]
      | line :: lines => (b :: line) :: lines := by
  change consLine b (lines bytes) = _
  exact if_neg hb

/-- The first line feed ends the first line. -/
theorem lines_append_lineFeed {line : Bytes} (h : lineFeed ∉ line) (bytes : Bytes) :
    lines (line ++ lineFeed :: bytes) = (line ++ [lineFeed]) :: lines bytes := by
  induction line with
  | nil => exact lines_cons_lineFeed bytes
  | cons b line ih =>
    rw [List.mem_cons, not_or] at h
    rw [List.cons_append, lines_cons_of_ne (Ne.symm h.1), ih h.2]
    rfl

theorem lines_of_notMem {line : Bytes} (h : lineFeed ∉ line) :
    lines line = if line = [] then [] else [line] := by
  induction line with
  | nil => rfl
  | cons b line ih =>
    rw [List.mem_cons, not_or] at h
    rw [lines_cons_of_ne (Ne.symm h.1), ih h.2]
    by_cases hnil : line = [] <;> simp [hnil]

/-- Lines that are each ended by their only line feed are the lines of what they make up. -/
theorem lines_flatten {ls : List Bytes} (h : ∀ line ∈ ls, ∃ front, lineFeed ∉ front ∧
    line = front ++ [lineFeed]) : lines ls.flatten = ls := by
  induction ls with
  | nil => rfl
  | cons line ls ih =>
    obtain ⟨front, hfront, rfl⟩ := h line (by simp)
    rw [List.flatten_cons, List.append_assoc, List.singleton_append, lines_append_lineFeed hfront,
      ih fun line hline => h line (by simp [hline])]

theorem lines_eq_nil {bytes : Bytes} (h : lines bytes = []) : bytes = [] := by
  cases bytes with
  | nil => rfl
  | cons b bytes =>
    change consLine b (lines bytes) = [] at h
    unfold consLine at h
    split at h
    · cases h
    · split at h <;> cases h

/-- Nothing is lost between the lines. -/
theorem flatten_lines (bytes : Bytes) : (lines bytes).flatten = bytes := by
  induction bytes with
  | nil => rfl
  | cons b bytes ih =>
    by_cases hb : b = lineFeed
    · rw [hb, lines_cons_lineFeed, List.flatten_cons, ih, List.singleton_append]
    · rw [lines_cons_of_ne hb]
      cases hlines : lines bytes with
      | nil =>
        rw [lines_eq_nil hlines]
        rfl
      | cons line ls =>
        rw [hlines] at ih
        rw [List.flatten_cons, List.cons_append, ← List.flatten_cons, ih]

/-- A line has a byte of its own. -/
theorem length_lines_le (bytes : Bytes) : (lines bytes).length ≤ bytes.length := by
  induction bytes with
  | nil => exact Nat.le_refl 0
  | cons b bytes ih =>
    by_cases hb : b = lineFeed
    · rw [hb, lines_cons_lineFeed]
      exact Nat.succ_le_succ ih
    · rw [lines_cons_of_ne hb]
      cases hlines : lines bytes with
      | nil => simp
      | cons line ls =>
        rw [hlines] at ih
        exact Nat.le_succ_of_le ih

/-! ## Complete lines -/

/-- The bytes are made of complete lines. -/
def EndsLine (bytes : Bytes) : Prop :=
  bytes = [] ∨ bytes.getLast? = some lineFeed

theorem endsLine_append_lineFeed (bytes : Bytes) : EndsLine (bytes ++ [lineFeed]) :=
  .inr List.getLast?_concat

theorem EndsLine.append {front back : Bytes} (hfront : EndsLine front) (hback : EndsLine back) :
    EndsLine (front ++ back) := by
  rcases hback with rfl | hback
  · rwa [List.append_nil]
  · exact .inr (by rw [List.getLast?_append, hback, Option.some_or])

theorem EndsLine.tail {b : UInt8} {bytes : Bytes} (h : EndsLine (b :: bytes)) : EndsLine bytes := by
  cases bytes with
  | nil => exact .inl rfl
  | cons c bytes => exact .inr (h.resolve_left (by simp))

/-- Behind complete lines the lines begin anew. -/
theorem lines_append {front : Bytes} (h : EndsLine front) (back : Bytes) :
    lines (front ++ back) = lines front ++ lines back := by
  induction front with
  | nil => rfl
  | cons b front ih =>
    rw [List.cons_append]
    by_cases hb : b = lineFeed
    · rw [hb, lines_cons_lineFeed, lines_cons_lineFeed, ih h.tail, List.cons_append]
    · rw [lines_cons_of_ne hb, lines_cons_of_ne hb, ih h.tail]
      cases hlines : lines front with
      | nil =>
        -- a line that has begun has to end
        rw [lines_eq_nil hlines] at h
        simp [EndsLine, hb] at h
      | cons line ls => rfl

/-- Each line of complete lines ends with its only line feed. -/
theorem EndsLine.exists_front {bytes line : Bytes} (h : EndsLine bytes)
    (hline : line ∈ lines bytes) :
    ∃ front, lineFeed ∉ front ∧ line = front ++ [lineFeed] := by
  induction bytes generalizing line with
  | nil => cases hline
  | cons b bytes ih =>
    by_cases hb : b = lineFeed
    · rw [hb, lines_cons_lineFeed] at hline
      obtain rfl | hline := List.mem_cons.1 hline
      · exact ⟨[], List.not_mem_nil, rfl⟩
      · exact ih h.tail hline
    · rw [lines_cons_of_ne hb] at hline
      cases hlines : lines bytes with
      | nil =>
        rw [lines_eq_nil hlines] at h
        simp [EndsLine, hb] at h
      | cons first rest =>
        rw [hlines] at hline ih
        obtain rfl | hline := List.mem_cons.1 hline
        · obtain ⟨front, hfront, rfl⟩ := ih h.tail List.mem_cons_self
          exact ⟨b :: front, by simp [hfront, Ne.symm hb], rfl⟩
        · exact ih h.tail (List.mem_cons_of_mem _ hline)

/-- The bytes up to the last line feed. -/
def completePart (bytes : Bytes) : Bytes :=
  bytes.rdropWhile (· ≠ lineFeed)

theorem completePart_append_of_notMem {part tail : Bytes} (hpart : EndsLine part)
    (htail : lineFeed ∉ tail) : completePart (part ++ tail) = part := by
  induction tail using List.reverseRecOn with
  | nil =>
    rw [List.append_nil]
    refine List.rdropWhile_eq_self_iff.2 fun hne => ?_
    have hlast := hpart.resolve_left hne
    rw [List.getLast?_eq_some_getLast hne, Option.some.injEq] at hlast
    simp [hlast]
  | append_singleton tail b ih =>
    rw [List.mem_append, not_or, List.mem_singleton] at htail
    rw [← List.append_assoc, completePart, List.rdropWhile_concat, if_pos]
    · exact ih htail.1
    · simpa using Ne.symm htail.2

theorem endsLine_completePart (bytes : Bytes) : EndsLine (completePart bytes) := by
  by_cases hnil : completePart bytes = []
  · exact .inl hnil
  · have hlast := List.rdropWhile_last_not _ _ hnil
    refine .inr ?_
    rw [List.getLast?_eq_some_getLast hnil]
    simpa [completePart] using hlast

theorem exists_tail_completePart (bytes : Bytes) :
    ∃ tail, lineFeed ∉ tail ∧ completePart bytes ++ tail = bytes := by
  refine ⟨bytes.rtakeWhile (· ≠ lineFeed), ?_, List.rdropWhile_append_rtakeWhile⟩
  intro hmem
  simpa using List.mem_rtakeWhile_imp hmem

/-- Complete lines in front stay complete. -/
theorem completePart_append {front : Bytes} (h : EndsLine front) (back : Bytes) :
    completePart (front ++ back) = front ++ completePart back := by
  obtain ⟨tail, htail, hback⟩ := exists_tail_completePart back
  calc completePart (front ++ back)
      = completePart (front ++ completePart back ++ tail) := by rw [List.append_assoc, hback]
    _ = front ++ completePart back :=
        completePart_append_of_notMem (h.append (endsLine_completePart back)) htail

/-- The longest part at the front of the bytes that is made of complete lines. -/
structure IsCompletePart (bytes part : Bytes) : Prop where
  front : part <+: bytes
  endsLine : EndsLine part
  longest : ∀ other, other <+: bytes → EndsLine other → other.length ≤ part.length

/-- What is cut off at the last line feed is the longest part of complete lines. -/
theorem isCompletePart_completePart (bytes : Bytes) :
    IsCompletePart bytes (completePart bytes) where
  front := List.rdropWhile_prefix _ _
  endsLine := endsLine_completePart bytes
  longest := by
    intro other hfront hends
    obtain ⟨rest, rfl⟩ := hfront
    rw [completePart_append hends, List.length_append]
    omega

end Bytes

namespace LineBuffer

/-- What is in the buffer and what follows are cut as if they had come together. -/
theorem finish_foldl_push (bytes : Bytes) {buffer : LineBuffer}
    (h : Bytes.lineFeed ∉ buffer.partialLine) :
    (bytes.foldl push buffer).finish =
      buffer.lines ++ Bytes.lines (buffer.partialLine.reverse ++ bytes) := by
  induction bytes generalizing buffer with
  | nil =>
    have hreverse : Bytes.lineFeed ∉ buffer.partialLine.reverse := by simpa using h
    rw [List.foldl_nil, List.append_nil, Bytes.lines_of_notMem hreverse, finish, lines]
    by_cases hnil : buffer.partialLine = [] <;> simp [hnil]
  | cons b bytes ih =>
    rw [List.foldl_cons, push]
    split
    · next hb =>
      rw [ih (by simp), hb, Bytes.lines_append_lineFeed (by simpa using h)]
      simp [lines]
    · next hb =>
      have hpartial : Bytes.lineFeed ∉ b :: buffer.partialLine := by
        simp [h, Ne.symm hb]
      rw [ih hpartial]
      simp [lines]

/-- The complete lines in the buffer are those of the complete part. -/
theorem lines_foldl_push (bytes : Bytes) {buffer : LineBuffer}
    (h : Bytes.lineFeed ∉ buffer.partialLine) :
    (bytes.foldl push buffer).lines =
      buffer.lines ++ Bytes.lines (Bytes.completePart (buffer.partialLine.reverse ++ bytes)) := by
  induction bytes generalizing buffer with
  | nil =>
    have hpart := @Bytes.completePart_append_of_notMem [] buffer.partialLine.reverse (.inl rfl)
      (by simpa using h)
    rw [List.nil_append] at hpart
    rw [List.foldl_nil, List.append_nil, hpart]
    exact (List.append_nil _).symm
  | cons b bytes ih =>
    rw [List.foldl_cons, push]
    split
    · next hb =>
      have hline := Bytes.endsLine_append_lineFeed buffer.partialLine.reverse
      have hpart := Bytes.completePart_append hline bytes
      rw [List.append_assoc, List.singleton_append, List.append_assoc, List.singleton_append]
        at hpart
      rw [ih (by simp), hb, hpart, Bytes.lines_append_lineFeed (by simpa using h)]
      simp [lines]
    · next hb =>
      have hpartial : Bytes.lineFeed ∉ b :: buffer.partialLine := by
        simp [h, Ne.symm hb]
      rw [ih hpartial]
      simp [lines]

/-- Only the bytes before a failure count, however they were cut, and the line that has begun counts
only without one. -/
theorem read_eq (deliveries : List Delivery) (buffer : LineBuffer) :
    buffer.read deliveries =
      match Delivery.failure? deliveries with
      | none => ⟨((Delivery.arrived deliveries).foldl push buffer).finish, none⟩
      | some cause => ⟨((Delivery.arrived deliveries).foldl push buffer).lines, some cause⟩ := by
  induction deliveries generalizing buffer with
  | nil => rfl
  | cons delivery deliveries ih =>
    cases delivery with
    | chunk bytes =>
      rw [read, ih, Delivery.arrived, Delivery.failure?]
      simp only [List.foldl_append]
    | interrupted => exact ih buffer
    | failed cause => rfl

end LineBuffer

/-- The lines of a trace are those of the bytes that arrive, or of their complete part if reading
fails. -/
theorem Reading.ofDeliveries_eq (deliveries : List Delivery) :
    Reading.ofDeliveries deliveries =
      match Delivery.failure? deliveries with
      | none => ⟨Bytes.lines (Delivery.arrived deliveries), none⟩
      | some cause =>
        ⟨Bytes.lines (Bytes.completePart (Delivery.arrived deliveries)), some cause⟩ := by
  have hempty : Bytes.lineFeed ∉ LineBuffer.empty.partialLine := by simp [LineBuffer.empty]
  rw [ofDeliveries, LineBuffer.read_eq, LineBuffer.finish_foldl_push _ hempty,
    LineBuffer.lines_foldl_push _ hempty]
  rfl

theorem Reading.length_lines_le (deliveries : List Delivery) :
    (Reading.ofDeliveries deliveries).lines.length ≤ (Delivery.arrived deliveries).length := by
  rw [ofDeliveries_eq]
  cases Delivery.failure? deliveries with
  | none => exact Bytes.length_lines_le _
  | some cause =>
    exact (Bytes.length_lines_le _).trans (List.rdropWhile_prefix _ _).length_le

/-- A trace that arrives in pieces has the lines of the pieces put together. -/
theorem Reading.ofDeliveries_chunks (pieces : List Bytes) :
    Reading.ofDeliveries (pieces.map .chunk) = ⟨Bytes.lines pieces.flatten, none⟩ := by
  have hempty : Bytes.lineFeed ∉ LineBuffer.empty.partialLine := by simp [LineBuffer.empty]
  rw [ofDeliveries, LineBuffer.read_chunks, LineBuffer.finish_foldl_push _ hempty]
  rfl

theorem Reading.ofDeliveries_chunk (bytes : Bytes) :
    ofDeliveries [.chunk bytes] = ⟨Bytes.lines bytes, none⟩ := by
  simpa using ofDeliveries_chunks [bytes]

theorem Workspace.aggregate_chunk (w : Workspace) (bytes : Bytes) :
    w.aggregate [.chunk bytes] = (Pass.run w (Bytes.lines bytes)).finish none := by
  rw [aggregate, Reading.ofDeliveries_chunk]

end ShellCoverage
