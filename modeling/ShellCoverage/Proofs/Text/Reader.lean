-- SUMMARY: Readers that take something off the front of a text, and what they take back.
import Mathlib.Data.List.Basic

/-!
# Readers

A reader takes something off the front of a text, and gives back what is behind it. Nothing marks
the end of a number but what follows it, so what was written is taken back in front of some texts
only. That property passes on to a run of items, if it holds for each of them.
-/

namespace ShellCoverage.Text

/-- Takes something off the front of a text, if it can. -/
abbrev Reader (α : Type) := List Char → Option (α × List Char)

/-- What is written for a value is read back in front of the texts of a class. -/
def Reader.Undoes {α : Type} (read : Reader α) (write : α → List Char)
    (before : List Char → Prop) : Prop :=
  ∀ value rest, before rest → read (write value ++ rest) = some (value, rest)

/-! ## Numbers -/

/-- The text does not begin with a digit. -/
def NoDigit (text : List Char) : Prop :=
  ∀ c ∈ text.head?, ¬c.isDigit

theorem noDigit_cons {c : Char} (h : ¬c.isDigit) (text : List Char) : NoDigit (c :: text) := by
  simpa [NoDigit] using h

/-- Reads a number in decimal, without leading zeros. -/
def readNumber : Reader Nat := fun text =>
  let digits := text.takeWhile Char.isDigit
  if digits = [] ∨ (digits.head? = some '0' ∧ digits ≠ ['0']) then none
  else some (Nat.ofDigitChars 10 digits 0, text.dropWhile Char.isDigit)

theorem takeWhile_append_noDigit {digits rest : List Char} (h : ∀ c ∈ digits, c.isDigit)
    (hrest : NoDigit rest) : (digits ++ rest).takeWhile Char.isDigit = digits ∧
      (digits ++ rest).dropWhile Char.isDigit = rest := by
  rw [List.takeWhile_append_of_pos h, List.dropWhile_append_of_pos h]
  cases rest with
  | nil => simp
  | cons c rest =>
    have hc : ¬c.isDigit := hrest c rfl
    simp [hc]

/-- Only zero is written with a zero in front. -/
theorem eq_zero_of_head?_toDigits {n : Nat} (h : (Nat.toDigits 10 n).head? = some '0') : n = 0 := by
  induction n using Nat.base_induction 10 (by decide) with
  | single n hn =>
    have hdigit : ∀ n < 10, Nat.digitChar n = '0' → n = 0 := by decide
    rw [Nat.toDigits_of_lt_base hn] at h
    exact hdigit n hn (Option.some.inj h)
  | digit n k hk hn ih =>
    rw [← Nat.toDigits_append_toDigits (by decide) hn hk,
      List.head?_append_of_ne_nil _ Nat.toDigits_ne_nil] at h
    exact absurd (ih h) (Nat.pos_iff_ne_zero.1 hn)

/-- A number is read back wherever no digit follows it. -/
theorem undoes_toDigits : Reader.Undoes readNumber (Nat.toDigits 10) NoDigit := by
  intro n rest hrest
  obtain ⟨htake, hdrop⟩ := takeWhile_append_noDigit
    (fun c => Nat.isDigit_of_mem_toDigits (b := 10) (n := n) (by decide) (by decide)) hrest
  have hzero : ¬((Nat.toDigits 10 n).head? = some '0' ∧ Nat.toDigits 10 n ≠ ['0']) := by
    rintro ⟨hhead, hne⟩
    rw [eq_zero_of_head?_toDigits hhead] at hne
    exact hne rfl
  simp only [readNumber, htake, hdrop, Nat.toDigits_ne_nil, false_or, if_neg hzero,
    Nat.ofDigitChars_ten_toDigits]

/-! ## Runs of items -/

/-- Reads items up to a closing. Each item has to take up some of the text. -/
def readUntil {α : Type} (close : List Char → Option (List Char)) (item : Reader α)
    (text : List Char) : Option (List α × List Char) :=
  match close text with
  | some rest => some ([], rest)
  | none =>
    match item text with
    | none => none
    | some (value, rest) =>
      if _h : rest.length < text.length then
        (readUntil close item rest).map fun (values, rest) => (value :: values, rest)
      else none
termination_by text.length

section ReadUntil

variable {α : Type} {close : List Char → Option (List Char)} {item : Reader α}

/-- Items are read back up to the closing if each of them is, and none is taken for the closing. -/
theorem readUntil_flatMap {write : α → List Char} {before : List Char → Prop}
    {closing : List Char} (hundoes : item.Undoes write before)
    (hwrite : ∀ value rest, write value ≠ [] ∧ close (write value ++ rest) = none ∧
      before (write value ++ rest))
    (hclosing : ∀ rest, close (closing ++ rest) = some rest ∧ before (closing ++ rest))
    (values : List α) (rest : List Char) :
    readUntil close item (values.flatMap write ++ (closing ++ rest)) = some (values, rest) := by
  induction values with
  | nil =>
    rw [readUntil]
    simp only [List.flatMap_nil, List.nil_append, (hclosing rest).1]
  | cons value values ih =>
    have hbefore : before (values.flatMap write ++ (closing ++ rest)) := by
      cases values with
      | nil => exact (hclosing rest).2
      | cons next values =>
        rw [List.flatMap_cons, List.append_assoc]
        exact (hwrite next _).2.2
    obtain ⟨hne, hopen, -⟩ := hwrite value (values.flatMap write ++ (closing ++ rest))
    have hlength := List.length_pos_iff.2 hne
    rw [List.flatMap_cons, List.append_assoc, readUntil]
    simp only [hopen, hundoes value _ hbefore]
    rw [dif_pos (by simp only [List.length_append]; omega), ih]
    rfl

end ReadUntil

end ShellCoverage.Text
