-- SUMMARY: A number is read back from the digits that it is written with.
import Mathlib.Data.List.Basic
import ShellCoverage.Decimal

/-!
# Writing and reading decimal numbers

What is written for a number is a run of digits that is not empty, and its value is that number.
-/

namespace ShellCoverage.Decimal

/-- A number in decimal is a run of digits that is not empty. -/
def IsNumber (digits : Bytes) : Prop :=
  digits ≠ [] ∧ ∀ d ∈ digits, isDigit d

theorem IsNumber.slash_notMem {digits : Bytes} (h : IsNumber digits) : Bytes.slash ∉ digits :=
  fun hmem => absurd (h.2 _ hmem) (by decide)

theorem IsNumber.lineFeed_notMem {digits : Bytes} (h : IsNumber digits) :
    Bytes.lineFeed ∉ digits :=
  fun hmem => absurd (h.2 _ hmem) (by decide)

private theorem toNat_of_isDigit {c : Char} (h : c.isDigit) : 48 ≤ c.toNat ∧ c.toNat ≤ 57 := by
  simp only [Char.isDigit, Bool.and_eq_true, decide_eq_true_eq, ge_iff_le, UInt32.le_iff_toNat_le]
    at h
  exact h

private theorem toNat_toUInt8_of_isDigit {c : Char} (h : c.isDigit) :
    c.toNat.toUInt8.toNat = c.toNat := by
  have := toNat_of_isDigit h
  exact Nat.mod_eq_of_lt (by omega)

/-- The digits of a number are read back as that number. -/
theorem value_encode (n : Nat) : value (encode n) = n := by
  have hstep : ∀ c ∈ Nat.toDigits 10 n, ∀ m,
      10 * m + (c.toNat.toUInt8.toNat - 0x30) = 10 * m + (c.toNat - '0'.toNat) := by
    intro c hc m
    rw [toNat_toUInt8_of_isDigit (Nat.isDigit_of_mem_toDigits (by decide) (by decide) hc)]
    rfl
  calc value (encode n)
      = (Nat.toDigits 10 n).foldl (fun m c => 10 * m + (c.toNat.toUInt8.toNat - 0x30)) 0 := by
        rw [value, encode, List.foldl_map]
    _ = Nat.ofDigitChars 10 (Nat.toDigits 10 n) 0 :=
        List.foldl_ext _ _ _ fun m c hc => hstep c hc m
    _ = n := Nat.ofDigitChars_ten_toDigits

theorem isNumber_encode (n : Nat) : IsNumber (encode n) := by
  refine ⟨by simp [encode, Nat.toDigits_ne_nil], fun d hd => ?_⟩
  obtain ⟨c, hc, rfl⟩ := List.mem_map.1 hd
  have hdigit := Nat.isDigit_of_mem_toDigits (by decide) (by decide) hc
  have hrange := toNat_of_isDigit hdigit
  simp only [isDigit, Bool.and_eq_true, decide_eq_true_eq, UInt8.le_iff_toNat_le,
    toNat_toUInt8_of_isDigit hdigit]
  exact hrange

end ShellCoverage.Decimal
