-- SUMMARY: UTF-8 decoding that keeps what is broken, and the text shown for it.
import ShellCoverage.Bytes

/-!
# UTF-8

A byte string is decoded into pieces: code points, and between them the parts that belong to none.
A broken part is as long as the start of some encoded code point that it repeats, and one byte long
if its first byte starts no code point. The byte that ends a broken part is read again as the start
of the next piece.
-/

namespace ShellCoverage.Utf8

inductive Piece where
  /-- An encoded code point. -/
  | char (c : Char)
  /-- Bytes that belong to no code point. -/
  | broken (bytes : Bytes)
  deriving DecidableEq, Repr

/-- A code point whose encoding has begun. -/
structure Begun where
  /-- The bytes read so far. -/
  bytes : Bytes
  /-- The bits of the code point that those bytes hold. -/
  bits : Nat
  /-- The least next byte. -/
  low : UInt8
  /-- The greatest next byte. -/
  high : UInt8
  /-- How many bytes follow the next one. -/
  further : Nat
  deriving DecidableEq, Repr

/-- The pieces decoded so far, the newest first, and the code point that has begun. -/
structure State where
  done : List Piece
  begun : Option Begun
  deriving DecidableEq, Repr

/-- Reads a byte where a piece begins. The range of the second byte shuts out overlong forms,
surrogates and numbers above `0x10ffff`. -/
def State.begin (done : List Piece) (b : UInt8) : State :=
  let start (mask : UInt8) (low high : UInt8) (further : Nat) : State :=
    ⟨done, some ⟨[b], (b &&& mask).toNat, low, high, further⟩⟩
  if b < 0x80 then ⟨.char (Char.ofNat b.toNat) :: done, none⟩
  else if b < 0xc2 then ⟨.broken [b] :: done, none⟩
  else if b < 0xe0 then start 0x1f 0x80 0xbf 0
  else if b = 0xe0 then start 0x0f 0xa0 0xbf 1
  else if b = 0xed then start 0x0f 0x80 0x9f 1
  else if b < 0xf0 then start 0x0f 0x80 0xbf 1
  else if b = 0xf0 then start 0x07 0x90 0xbf 2
  else if b < 0xf4 then start 0x07 0x80 0xbf 2
  else if b = 0xf4 then start 0x07 0x80 0x8f 2
  else ⟨.broken [b] :: done, none⟩

def State.step (s : State) (b : UInt8) : State :=
  match s.begun with
  | none => .begin s.done b
  | some g =>
    if g.low ≤ b ∧ b ≤ g.high then
      let bits := 64 * g.bits + (b &&& 0x3f).toNat
      match g.further with
      | 0 => ⟨.char (Char.ofNat bits) :: s.done, none⟩
      | further + 1 => ⟨s.done, some ⟨g.bytes ++ [b], bits, 0x80, 0xbf, further⟩⟩
    else .begin (.broken g.bytes :: s.done) b

/-- The pieces, in order; a code point that has only begun is broken. -/
def State.finish (s : State) : List Piece :=
  match s.begun with
  | none => s.done.reverse
  | some g => (.broken g.bytes :: s.done).reverse

def pieces (bytes : Bytes) : List Piece :=
  (bytes.foldl State.step ⟨[], none⟩).finish

/-- The character shown for a piece: a broken part is one replacement character. -/
def Piece.shown : Piece → Char
  | .char c => c
  | .broken _ => '\ufffd'

/-- The character of a piece that is not broken. -/
def Piece.char? : Piece → Option Char
  | .char c => some c
  | .broken _ => none

/-- The text shown for a byte string. -/
def lossy (bytes : Bytes) : String :=
  String.ofList ((pieces bytes).map Piece.shown)

/-- The text that a byte string encodes, if none of it is broken. -/
def decode? (bytes : Bytes) : Option String :=
  ((pieces bytes).mapM Piece.char?).map String.ofList

example : pieces [0x61, 0xe2, 0x82, 0x62, 0xf0, 0x9f, 0x98] =
    [.char 'a', .broken [0xe2, 0x82], .char 'b', .broken [0xf0, 0x9f, 0x98]] := by decide
example : pieces [0xed, 0xa0, 0x80] = [.broken [0xed], .broken [0xa0], .broken [0x80]] := by decide

end ShellCoverage.Utf8
