-- SUMMARY: Byte strings: the form of every trace, line, file name and file content.

/-!
# Byte strings

A trace, a line of it, a file name and the content of a file are byte strings. None of them has to
be valid text, so nothing here decodes anything.
-/

namespace ShellCoverage

abbrev Bytes := List UInt8

namespace Bytes

def lineFeed : UInt8 := 0x0a

def slash : UInt8 := 0x2f

@[simp]
theorem lineFeed_ne_slash : lineFeed ≠ slash := by decide

/-- The byte that no name of a file may hold. -/
def nul : UInt8 := 0x00

/-- The UTF-8 form of a text. -/
def ofString (s : String) : Bytes :=
  s.toList.flatMap String.utf8EncodeChar

theorem ofString_append (s t : String) : ofString (s ++ t) = ofString s ++ ofString t := by
  simp [ofString]

/-! ## Reading off the front -/

/-- What follows `front` in a byte string that begins with it. -/
def dropFront? : (front bytes : Bytes) → Option Bytes
  | [], bytes => some bytes
  | _ :: _, [] => none
  | f :: front, b :: bytes => if f = b then dropFront? front bytes else none

theorem dropFront?_eq_some_iff {front bytes rest : Bytes} :
    dropFront? front bytes = some rest ↔ bytes = front ++ rest := by
  fun_induction dropFront? front bytes with
  | case1 bytes => simp
  | case2 f front => simp
  | case3 f front bytes ih => simpa using ih
  | case4 f front b bytes hne => simp [Ne.symm hne]

theorem dropFront?_append (front rest : Bytes) : dropFront? front (front ++ rest) = some rest :=
  dropFront?_eq_some_iff.2 rfl

/-- Every way to read bytes of the class `p` off the front, after `count` of them: how many were
read and what remains, the longest first and `found` last. -/
def runsFrom (p : UInt8 → Bool) (count : Nat) (found : List (Nat × Bytes)) :
    Bytes → List (Nat × Bytes)
  | [] => found
  | b :: bytes => if p b then runsFrom p (count + 1) ((count + 1, bytes) :: found) bytes else found

/-- Every way to read one or more bytes of the class `p` off the front: how many were read and what
remains, the longest first. -/
def runs (p : UInt8 → Bool) (bytes : Bytes) : List (Nat × Bytes) :=
  runsFrom p 0 [] bytes

/-- Every way to read copies of `unit` off the front, after `count` of them: how many were read and
what remains, the greatest number first and `found` last. -/
def repetitionsFrom (unit : Bytes) (unit_ne_nil : unit ≠ []) (count : Nat)
    (found : List (Nat × Bytes)) (bytes : Bytes) : List (Nat × Bytes) :=
  match _h : dropFront? unit bytes with
  | none => found
  | some rest => repetitionsFrom unit unit_ne_nil (count + 1) ((count + 1, rest) :: found) rest
termination_by bytes.length
decreasing_by
  have := List.length_pos_iff.2 unit_ne_nil
  simp [dropFront?_eq_some_iff.1 _h]
  omega

/-- Every way to read one or more copies of `unit` off the front: how many were read and what
remains, the greatest number first. -/
def repetitions (unit : Bytes) (unit_ne_nil : unit ≠ []) (bytes : Bytes) : List (Nat × Bytes) :=
  repetitionsFrom unit unit_ne_nil 0 [] bytes

end Bytes

end ShellCoverage
