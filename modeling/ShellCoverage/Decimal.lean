-- SUMMARY: Decimal numbers as ASCII digits, read with leading zeros and written without.
import ShellCoverage.Bytes

/-!
# Decimal numbers

A line number stands in a trace as a run of ASCII digits. Reading allows leading zeros; writing
produces none.
-/

namespace ShellCoverage.Decimal

def isDigit (b : UInt8) : Bool :=
  0x30 ≤ b && b ≤ 0x39

/-- The number that a run of digits stands for, most significant digit first. -/
def value (digits : Bytes) : Nat :=
  digits.foldl (fun n d => 10 * n + (d.toNat - 0x30)) 0

/-- The number that a run of digits stands for behind the number `n`, if it is below `limit`. Digits
are read only as long as the number is. -/
def valueBelowFrom? (limit n : Nat) : Bytes → Option Nat
  | [] => if n < limit then some n else none
  | d :: digits =>
    if n < limit then valueBelowFrom? limit (10 * n + (d.toNat - 0x30)) digits else none

/-- The number that a run of digits stands for, if it is below `limit`. -/
def valueBelow? (limit : Nat) (digits : Bytes) : Option Nat :=
  valueBelowFrom? limit 0 digits

theorem le_foldl_digits (digits : Bytes) (n : Nat) :
    n ≤ digits.foldl (fun n d => 10 * n + (d.toNat - 0x30)) n := by
  induction digits generalizing n with
  | nil => exact Nat.le_refl n
  | cons d digits ih =>
    have : n ≤ 10 * n + (d.toNat - 0x30) := by omega
    exact Nat.le_trans this (ih _)

/-- Giving up early gives up exactly the numbers that reach the limit, since reading on makes no
number smaller. -/
theorem valueBelowFrom?_eq (limit n : Nat) (digits : Bytes) :
    valueBelowFrom? limit n digits =
      let value := digits.foldl (fun n d => 10 * n + (d.toNat - 0x30)) n
      if value < limit then some value else none := by
  induction digits generalizing n with
  | nil => rfl
  | cons d digits ih =>
    rw [valueBelowFrom?]
    split
    case isTrue => exact ih _
    case isFalse h =>
      have := le_foldl_digits (d :: digits) n
      exact (if_neg (by omega)).symm

/-- A number below the limit is read to its end, whatever zeros it begins with. -/
theorem valueBelow?_eq (limit : Nat) (digits : Bytes) :
    valueBelow? limit digits = if value digits < limit then some (value digits) else none :=
  valueBelowFrom?_eq limit 0 digits

/-- The digits of a number, without leading zeros. -/
def encode (n : Nat) : Bytes :=
  (Nat.toDigits 10 n).map fun c => c.toNat.toUInt8

example : value (encode 1230) = 1230 := by decide
example : value [0x30, 0x30, 0x37] = 7 := by decide
example : encode 0 = [0x30] := by decide

end ShellCoverage.Decimal
