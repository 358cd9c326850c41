-- SUMMARY: A byte string decodes to a text exactly if it is the encoding of the text.
import Mathlib.Data.List.Basic
import ShellCoverage.Text.Utf8

/-!
# Decoding and encoding

Decoding cuts a byte string into pieces and loses no byte: a piece that is a code point has the
bytes that encode it, and a broken piece has its own. A byte string that encodes a text is cut into
the code points of the text. So the byte strings that have a text are those that encode one.
-/

namespace ShellCoverage

/-- Items all have a value exactly if these are the values. -/
theorem mapM_eq_some_iff {α β : Type} {f : α → Option β} {items : List α} {values : List β} :
    items.mapM f = some values ↔ items.map f = values.map some := by
  induction items generalizing values with
  | nil => cases values <;> simp
  | cons item items ih =>
    cases values <;> simp [Option.bind_eq_some_iff, ih]

/-- An item has no value exactly if the items do not all have one. -/
theorem mapM_eq_none_iff {α β : Type} {f : α → Option β} {items : List α} :
    items.mapM f = none ↔ ∃ item ∈ items, f item = none := by
  induction items with
  | nil => simp
  | cons item items ih =>
    simp only [List.mapM_cons, List.exists_mem_cons_iff, ← ih]
    cases f item <;> cases items.mapM f <;> simp

namespace Utf8

/-! ## Code points and bytes

The bytes of a code point hold its bits in groups of six, the first byte what is left. -/

section Encode

theorem toNat_and_0x3f (b : UInt8) : (b &&& 0x3f).toNat = b.toNat % 64 := by
  rw [UInt8.toNat_and]
  exact Nat.and_two_pow_sub_one_eq_mod b.toNat 6

theorem toNat_ofNat {v : Nat} (h : v.isValidChar) : (Char.ofNat v).val.toNat = v := by
  rw [Char.ofNat, dif_pos h]
  rfl

theorem ofNat_eq {n : Nat} {b : UInt8} (h : n = b.toNat) : UInt8.ofNat n = b := by
  rw [h, UInt8.ofNat_toNat]

/-- A byte that goes on with a code point. -/
abbrev Continues (b : UInt8) : Prop :=
  0x80 ≤ b.toNat ∧ b.toNat < 0xc0

variable {w x y z : UInt8}

theorem utf8EncodeChar_one (hw : w.toNat < 0x80) :
    String.utf8EncodeChar (Char.ofNat w.toNat) = [w] := by
  have hv : (Char.ofNat w.toNat).val.toNat = w.toNat := toNat_ofNat (.inl (by omega))
  simp only [String.utf8EncodeChar, hv]
  rw [if_pos (by omega), UInt8.ofNat_toNat]

theorem utf8EncodeChar_two (hw : 0xc2 ≤ w.toNat ∧ w.toNat < 0xe0) (hx : Continues x) :
    String.utf8EncodeChar (Char.ofNat (64 * (w.toNat % 32) + x.toNat % 64)) = [w, x] := by
  have hv := @toNat_ofNat (64 * (w.toNat % 32) + x.toNat % 64) (.inl (by omega))
  simp only [String.utf8EncodeChar, hv]
  rw [if_neg (by omega), if_pos (by omega), @ofNat_eq _ w (by omega), @ofNat_eq _ x (by omega)]

/-- The second byte shuts out what two bytes encode, and the surrogates. -/
theorem utf8EncodeChar_three (hw : 0xe0 ≤ w.toNat ∧ w.toNat < 0xf0) (hx : Continues x)
    (hlow : w.toNat = 0xe0 → 0xa0 ≤ x.toNat) (hhigh : w.toNat = 0xed → x.toNat < 0xa0)
    (hy : Continues y) :
    String.utf8EncodeChar
      (Char.ofNat (64 * (64 * (w.toNat % 16) + x.toNat % 64) + y.toNat % 64)) = [w, x, y] := by
  have hvalid : (64 * (64 * (w.toNat % 16) + x.toNat % 64) + y.toNat % 64).isValidChar := by
    unfold Nat.isValidChar
    omega
  have hv := toNat_ofNat hvalid
  simp only [String.utf8EncodeChar, hv]
  rw [if_neg (by omega), if_neg (by omega), if_pos (by omega), @ofNat_eq _ w (by omega),
    @ofNat_eq _ x (by omega), @ofNat_eq _ y (by omega)]

/-- The second byte shuts out what three bytes encode, and what is no code point. -/
theorem utf8EncodeChar_four (hw : 0xf0 ≤ w.toNat ∧ w.toNat < 0xf5) (hx : Continues x)
    (hlow : w.toNat = 0xf0 → 0x90 ≤ x.toNat) (hhigh : w.toNat = 0xf4 → x.toNat < 0x90)
    (hy : Continues y) (hz : Continues z) :
    String.utf8EncodeChar (Char.ofNat
      (64 * (64 * (64 * (w.toNat % 8) + x.toNat % 64) + y.toNat % 64) + z.toNat % 64)) =
        [w, x, y, z] := by
  have hvalid : (64 * (64 * (64 * (w.toNat % 8) + x.toNat % 64) + y.toNat % 64) +
      z.toNat % 64).isValidChar := by
    unfold Nat.isValidChar
    omega
  have hv := toNat_ofNat hvalid
  simp only [String.utf8EncodeChar, hv]
  rw [if_neg (by omega), if_neg (by omega), if_neg (by omega), @ofNat_eq _ w (by omega),
    @ofNat_eq _ x (by omega), @ofNat_eq _ y (by omega), @ofNat_eq _ z (by omega)]

end Encode

/-! ## The first byte -/

section Begin

variable (done : List Piece) {w : UInt8}

theorem begin_one (hw : w.toNat < 0x80) :
    State.begin done w = ⟨.char (Char.ofNat w.toNat) :: done, none⟩ :=
  if_pos hw

theorem begin_two (hw : 0xc2 ≤ w.toNat ∧ w.toNat < 0xe0) :
    State.begin done w = ⟨done, some ⟨[w], w.toNat % 32, 0x80, 0xbf, 0⟩⟩ := by
  have hmask : (w &&& 0x1f).toNat = w.toNat % 32 := by
    rw [UInt8.toNat_and]
    exact Nat.and_two_pow_sub_one_eq_mod w.toNat 5
  simp only [State.begin, UInt8.lt_iff_toNat_lt, UInt8.reduceToNat, hmask]
  rw [if_neg (by omega), if_neg (by omega), if_pos (by omega)]

theorem begin_three (hw : 0xe0 ≤ w.toNat ∧ w.toNat < 0xf0) : ∃ low high,
    State.begin done w = ⟨done, some ⟨[w], w.toNat % 16, low, high, 1⟩⟩ ∧
    ∀ b : UInt8, low ≤ b ∧ b ≤ high ↔ Continues b ∧
      (w.toNat = 0xe0 → 0xa0 ≤ b.toNat) ∧ (w.toNat = 0xed → b.toNat < 0xa0) := by
  have hmask : (w &&& 0x0f).toNat = w.toNat % 16 := by
    rw [UInt8.toNat_and]
    exact Nat.and_two_pow_sub_one_eq_mod w.toNat 4
  simp only [State.begin, UInt8.lt_iff_toNat_lt, UInt8.le_iff_toNat_le, ← UInt8.toNat_inj,
    UInt8.reduceToNat, hmask]
  rw [if_neg (by omega), if_neg (by omega), if_neg (by omega)]
  by_cases he0 : w.toNat = 0xe0
  · rw [if_pos he0]
    exact ⟨_, _, rfl, fun b => by simp only [UInt8.reduceToNat]; omega⟩
  · rw [if_neg he0]
    by_cases hed : w.toNat = 0xed
    · rw [if_pos hed]
      exact ⟨_, _, rfl, fun b => by simp only [UInt8.reduceToNat]; omega⟩
    · rw [if_neg hed, if_pos hw.2]
      exact ⟨_, _, rfl, fun b => by simp only [UInt8.reduceToNat]; omega⟩

theorem begin_four (hw : 0xf0 ≤ w.toNat ∧ w.toNat < 0xf5) : ∃ low high,
    State.begin done w = ⟨done, some ⟨[w], w.toNat % 8, low, high, 2⟩⟩ ∧
    ∀ b : UInt8, low ≤ b ∧ b ≤ high ↔ Continues b ∧
      (w.toNat = 0xf0 → 0x90 ≤ b.toNat) ∧ (w.toNat = 0xf4 → b.toNat < 0x90) := by
  have hmask : (w &&& 0x07).toNat = w.toNat % 8 := by
    rw [UInt8.toNat_and]
    exact Nat.and_two_pow_sub_one_eq_mod w.toNat 3
  simp only [State.begin, UInt8.lt_iff_toNat_lt, UInt8.le_iff_toNat_le, ← UInt8.toNat_inj,
    UInt8.reduceToNat, hmask]
  rw [if_neg (by omega), if_neg (by omega), if_neg (by omega), if_neg (by omega),
    if_neg (by omega), if_neg (by omega)]
  by_cases hf0 : w.toNat = 0xf0
  · rw [if_pos hf0]
    exact ⟨_, _, rfl, fun b => by simp only [UInt8.reduceToNat]; omega⟩
  · rw [if_neg hf0]
    by_cases hf4 : w.toNat = 0xf4
    · rw [if_neg (by omega), if_pos hf4]
      exact ⟨_, _, rfl, fun b => by simp only [UInt8.reduceToNat]; omega⟩
    · rw [if_pos (by omega)]
      exact ⟨_, _, rfl, fun b => by simp only [UInt8.reduceToNat]; omega⟩

/-- No code point begins with a byte from `0x80` up to `0xc1`, or from `0xf5` on. -/
theorem begin_broken (hw : (0x80 ≤ w.toNat ∧ w.toNat < 0xc2) ∨ 0xf5 ≤ w.toNat) :
    State.begin done w = ⟨.broken [w] :: done, none⟩ := by
  simp only [State.begin, UInt8.lt_iff_toNat_lt, ← UInt8.toNat_inj, UInt8.reduceToNat]
  rw [if_neg (by omega)]
  obtain hlow | hhigh := hw
  · rw [if_pos hlow.2]
  · rw [if_neg (by omega), if_neg (by omega), if_neg (by omega), if_neg (by omega),
      if_neg (by omega), if_neg (by omega), if_neg (by omega), if_neg (by omega)]

end Begin

/-! ## The bytes that follow -/

section Step

variable {done : List Piece} {bytes : Bytes} {bits : Nat} {low high b : UInt8}

theorem step_none (done : List Piece) (b : UInt8) :
    State.step ⟨done, none⟩ b = .begin done b := rfl

theorem step_last (hb : low ≤ b ∧ b ≤ high) :
    State.step ⟨done, some ⟨bytes, bits, low, high, 0⟩⟩ b =
      ⟨.char (Char.ofNat (64 * bits + b.toNat % 64)) :: done, none⟩ := by
  simp only [State.step, if_pos hb, toNat_and_0x3f]

theorem step_more (hb : low ≤ b ∧ b ≤ high) (further : Nat) :
    State.step ⟨done, some ⟨bytes, bits, low, high, further + 1⟩⟩ b =
      ⟨done, some ⟨bytes ++ [b], 64 * bits + b.toNat % 64, 0x80, 0xbf, further⟩⟩ := by
  simp only [State.step, if_pos hb, toNat_and_0x3f]

/-- A byte that does not go on breaks off what has begun, and begins anew. -/
theorem step_broken (hb : ¬(low ≤ b ∧ b ≤ high)) (further : Nat) :
    State.step ⟨done, some ⟨bytes, bits, low, high, further⟩⟩ b =
      .begin (.broken bytes :: done) b := by
  simp only [State.step, if_neg hb]

theorem continues_iff : 0x80 ≤ b ∧ b ≤ 0xbf ↔ Continues b := by
  simp only [UInt8.le_iff_toNat_le, UInt8.reduceToNat]
  omega

end Step

/-! ## Decoding what is encoded -/

section Fold

variable (done : List Piece) {w x y z : UInt8}

theorem foldl_step_one (hw : w.toNat < 0x80) :
    [w].foldl State.step ⟨done, none⟩ = ⟨.char (Char.ofNat w.toNat) :: done, none⟩ :=
  begin_one done hw

theorem foldl_step_two (hw : 0xc2 ≤ w.toNat ∧ w.toNat < 0xe0) (hx : Continues x) :
    [w, x].foldl State.step ⟨done, none⟩ =
      ⟨.char (Char.ofNat (64 * (w.toNat % 32) + x.toNat % 64)) :: done, none⟩ := by
  simp only [List.foldl_cons, List.foldl_nil]
  rw [step_none, begin_two done hw, step_last (continues_iff.2 hx)]

theorem foldl_step_three (hw : 0xe0 ≤ w.toNat ∧ w.toNat < 0xf0) (hx : Continues x)
    (hlow : w.toNat = 0xe0 → 0xa0 ≤ x.toNat) (hhigh : w.toNat = 0xed → x.toNat < 0xa0)
    (hy : Continues y) :
    [w, x, y].foldl State.step ⟨done, none⟩ =
      ⟨.char (Char.ofNat (64 * (64 * (w.toNat % 16) + x.toNat % 64) + y.toNat % 64)) :: done,
        none⟩ := by
  obtain ⟨low, high, hbegin, hrange⟩ := begin_three done hw
  simp only [List.foldl_cons, List.foldl_nil]
  rw [step_none, hbegin, step_more ((hrange x).2 ⟨hx, hlow, hhigh⟩),
    step_last (continues_iff.2 hy)]

theorem foldl_step_four (hw : 0xf0 ≤ w.toNat ∧ w.toNat < 0xf5) (hx : Continues x)
    (hlow : w.toNat = 0xf0 → 0x90 ≤ x.toNat) (hhigh : w.toNat = 0xf4 → x.toNat < 0x90)
    (hy : Continues y) (hz : Continues z) :
    [w, x, y, z].foldl State.step ⟨done, none⟩ =
      ⟨.char (Char.ofNat (64 * (64 * (64 * (w.toNat % 8) + x.toNat % 64) + y.toNat % 64) +
        z.toNat % 64)) :: done, none⟩ := by
  obtain ⟨low, high, hbegin, hrange⟩ := begin_four done hw
  simp only [List.foldl_cons, List.foldl_nil]
  rw [step_none, hbegin, step_more ((hrange x).2 ⟨hx, hlow, hhigh⟩),
    step_more (continues_iff.2 hy), step_last (continues_iff.2 hz)]

end Fold

theorem exists_toNat_eq {n : Nat} (h : n < 256) : ∃ b : UInt8, b.toNat = n :=
  ⟨UInt8.ofNat n, UInt8.toNat_ofNat_of_lt' h⟩

/-- Every code point has one to four bytes: a first byte, and bytes that go on with it. -/
theorem exists_bytes (c : Char) :
    (∃ w : UInt8, w.toNat < 0x80 ∧ c = Char.ofNat w.toNat) ∨
    (∃ w x : UInt8, (0xc2 ≤ w.toNat ∧ w.toNat < 0xe0) ∧ Continues x ∧
      c = Char.ofNat (64 * (w.toNat % 32) + x.toNat % 64)) ∨
    (∃ w x y : UInt8, (0xe0 ≤ w.toNat ∧ w.toNat < 0xf0) ∧ Continues x ∧
      (w.toNat = 0xe0 → 0xa0 ≤ x.toNat) ∧ (w.toNat = 0xed → x.toNat < 0xa0) ∧ Continues y ∧
      c = Char.ofNat (64 * (64 * (w.toNat % 16) + x.toNat % 64) + y.toNat % 64)) ∨
    ∃ w x y z : UInt8, (0xf0 ≤ w.toNat ∧ w.toNat < 0xf5) ∧ Continues x ∧
      (w.toNat = 0xf0 → 0x90 ≤ x.toNat) ∧ (w.toNat = 0xf4 → x.toNat < 0x90) ∧ Continues y ∧
      Continues z ∧ c = Char.ofNat
        (64 * (64 * (64 * (w.toNat % 8) + x.toNat % 64) + y.toNat % 64) + z.toNat % 64) := by
  have hvalid : c.val.toNat.isValidChar := c.valid
  have hc : c = Char.ofNat c.val.toNat := (Char.ofNat_toNat c).symm
  unfold Nat.isValidChar at hvalid
  generalize c.val.toNat = v at *
  have hsize : v < 0x80 ∨ (0x80 ≤ v ∧ v < 0x800) ∨ (0x800 ≤ v ∧ v < 0x10000) ∨ 0x10000 ≤ v := by
    omega
  obtain hone | htwo | hthree | hfour := hsize
  · obtain ⟨w, hw⟩ := @exists_toNat_eq v (by omega)
    exact .inl ⟨w, by omega, hw ▸ hc⟩
  · obtain ⟨w, hw⟩ := @exists_toNat_eq (v / 64 + 0xc0) (by omega)
    obtain ⟨x, hx⟩ := @exists_toNat_eq (v % 64 + 0x80) (by omega)
    have hv : v = 64 * (w.toNat % 32) + x.toNat % 64 := by omega
    exact .inr (.inl ⟨w, x, by omega, by omega, hv ▸ hc⟩)
  · obtain ⟨w, hw⟩ := @exists_toNat_eq (v / 4096 + 0xe0) (by omega)
    obtain ⟨x, hx⟩ := @exists_toNat_eq (v / 64 % 64 + 0x80) (by omega)
    obtain ⟨y, hy⟩ := @exists_toNat_eq (v % 64 + 0x80) (by omega)
    have hv : v = 64 * (64 * (w.toNat % 16) + x.toNat % 64) + y.toNat % 64 := by omega
    exact .inr (.inr (.inl ⟨w, x, y, by omega, by omega, by omega, by omega, by omega, hv ▸ hc⟩))
  · obtain ⟨w, hw⟩ := @exists_toNat_eq (v / 262144 + 0xf0) (by omega)
    obtain ⟨x, hx⟩ := @exists_toNat_eq (v / 4096 % 64 + 0x80) (by omega)
    obtain ⟨y, hy⟩ := @exists_toNat_eq (v / 64 % 64 + 0x80) (by omega)
    obtain ⟨z, hz⟩ := @exists_toNat_eq (v % 64 + 0x80) (by omega)
    have hv : v = 64 * (64 * (64 * (w.toNat % 8) + x.toNat % 64) + y.toNat % 64) +
      z.toNat % 64 := by omega
    exact .inr (.inr (.inr
      ⟨w, x, y, z, by omega, by omega, by omega, by omega, by omega, by omega, hv ▸ hc⟩))

/-- The bytes of a code point are one piece. -/
theorem foldl_step_utf8EncodeChar (c : Char) (done : List Piece) :
    (String.utf8EncodeChar c).foldl State.step ⟨done, none⟩ = ⟨.char c :: done, none⟩ := by
  obtain ⟨w, hw, rfl⟩ | ⟨w, x, hw, hx, rfl⟩ | ⟨w, x, y, hw, hx, hlow, hhigh, hy, rfl⟩ |
    ⟨w, x, y, z, hw, hx, hlow, hhigh, hy, hz, rfl⟩ := exists_bytes c
  · rw [utf8EncodeChar_one hw, foldl_step_one done hw]
  · rw [utf8EncodeChar_two hw hx, foldl_step_two done hw hx]
  · rw [utf8EncodeChar_three hw hx hlow hhigh hy, foldl_step_three done hw hx hlow hhigh hy]
  · rw [utf8EncodeChar_four hw hx hlow hhigh hy hz, foldl_step_four done hw hx hlow hhigh hy hz]

/-- The encoding of characters is decoded to these characters. -/
theorem pieces_flatMap_utf8EncodeChar (chars : List Char) :
    pieces (chars.flatMap String.utf8EncodeChar) = chars.map .char := by
  have hfold (done : List Piece) :
      (chars.flatMap String.utf8EncodeChar).foldl State.step ⟨done, none⟩ =
        ⟨(chars.map Piece.char).reverse ++ done, none⟩ := by
    induction chars generalizing done with
    | nil => rfl
    | cons c chars ih =>
      rw [List.flatMap_cons, List.foldl_append, foldl_step_utf8EncodeChar, ih]
      simp
  rw [pieces, hfold]
  simp [State.finish]

/-! ## Encoding what is decoded -/

def Piece.bytes : Piece → Bytes
  | .char c => String.utf8EncodeChar c
  | .broken bytes => bytes

/-- However a code point goes on that has begun with these bytes and bits, its bytes are those that
encode it. -/
def GoesOn (bytes : Bytes) (bits : Nat) (low high : UInt8) : (further : Nat) → Prop
  | 0 => ∀ b, low ≤ b ∧ b ≤ high →
    String.utf8EncodeChar (Char.ofNat (64 * bits + b.toNat % 64)) = bytes ++ [b]
  | further + 1 => ∀ b, low ≤ b ∧ b ≤ high →
    GoesOn (bytes ++ [b]) (64 * bits + b.toNat % 64) 0x80 0xbf further

namespace State

/-- The bytes read so far. -/
def bytes (s : State) : Bytes :=
  s.done.reverse.flatMap Piece.bytes ++ (s.begun.map Begun.bytes).getD []

/-- A code point that has begun goes on with the bytes that encode it. -/
def Sound (s : State) : Prop :=
  ∀ g ∈ s.begun, GoesOn g.bytes g.bits g.low g.high g.further

theorem sound_none (done : List Piece) : Sound ⟨done, none⟩ := by
  intro g hg
  cases hg

theorem sound_some {done : List Piece} {g : Begun} :
    Sound ⟨done, some g⟩ ↔ GoesOn g.bytes g.bits g.low g.high g.further := by
  simp [Sound]

theorem bytes_cons (done : List Piece) (piece : Piece) :
    bytes ⟨piece :: done, none⟩ = bytes ⟨done, none⟩ ++ piece.bytes := by
  simp [bytes]

theorem bytes_some (done : List Piece) (g : Begun) :
    bytes ⟨done, some g⟩ = bytes ⟨done, none⟩ ++ g.bytes := by
  simp [bytes]

/-- A first byte is read, and what has begun with it can only go on as an encoding. -/
theorem begin_bytes (done : List Piece) (w : UInt8) :
    (begin done w).bytes = bytes ⟨done, none⟩ ++ [w] ∧ (begin done w).Sound := by
  have hclass : w.toNat < 0x80 ∨ (0xc2 ≤ w.toNat ∧ w.toNat < 0xe0) ∨
      (0xe0 ≤ w.toNat ∧ w.toNat < 0xf0) ∨ (0xf0 ≤ w.toNat ∧ w.toNat < 0xf5) ∨
      (0x80 ≤ w.toNat ∧ w.toNat < 0xc2) ∨ 0xf5 ≤ w.toNat := by
    omega
  obtain hone | htwo | hthree | hfour | hbroken := hclass
  · rw [begin_one done hone, bytes_cons, Piece.bytes, utf8EncodeChar_one hone]
    exact ⟨rfl, sound_none _⟩
  · rw [begin_two done htwo, bytes_some, sound_some]
    exact ⟨rfl, fun x hx => utf8EncodeChar_two htwo (continues_iff.1 hx)⟩
  · obtain ⟨low, high, hbegin, hrange⟩ := begin_three done hthree
    rw [hbegin, bytes_some, sound_some]
    refine ⟨rfl, fun x hx y hy => ?_⟩
    obtain ⟨hx, hlow, hhigh⟩ := (hrange x).1 hx
    exact utf8EncodeChar_three hthree hx hlow hhigh (continues_iff.1 hy)
  · obtain ⟨low, high, hbegin, hrange⟩ := begin_four done hfour
    rw [hbegin, bytes_some, sound_some]
    refine ⟨rfl, fun x hx y hy z hz => ?_⟩
    obtain ⟨hx, hlow, hhigh⟩ := (hrange x).1 hx
    exact utf8EncodeChar_four hfour hx hlow hhigh (continues_iff.1 hy) (continues_iff.1 hz)
  · rw [begin_broken done hbroken, bytes_cons, Piece.bytes]
    exact ⟨rfl, sound_none _⟩

/-- Reading a byte keeps it, and keeps the state sound. -/
theorem step_bytes {s : State} (h : s.Sound) (b : UInt8) :
    (s.step b).bytes = s.bytes ++ [b] ∧ (s.step b).Sound := by
  obtain ⟨done, _ | ⟨bytes, bits, low, high, further⟩⟩ := s
  · exact begin_bytes done b
  · rw [sound_some] at h
    by_cases hb : low ≤ b ∧ b ≤ high
    · cases further with
      | zero =>
        rw [step_last hb, bytes_cons, bytes_some, Piece.bytes, h b hb, List.append_assoc]
        exact ⟨rfl, sound_none _⟩
      | succ further =>
        rw [step_more hb, bytes_some, bytes_some, List.append_assoc]
        exact ⟨rfl, sound_some.2 (h b hb)⟩
    · rw [step_broken hb, bytes_some]
      have hbegin := begin_bytes (.broken bytes :: done) b
      rwa [bytes_cons] at hbegin

theorem bytes_foldl_step (input : Bytes) {s : State} (h : s.Sound) :
    (input.foldl step s).bytes = s.bytes ++ input := by
  induction input generalizing s with
  | nil => simp
  | cons b input ih =>
    obtain ⟨hbytes, hsound⟩ := step_bytes h b
    rw [List.foldl_cons, ih hsound, hbytes, List.append_assoc]
    rfl

/-- The pieces hold all bytes that were read. -/
theorem flatMap_bytes_finish (s : State) : s.finish.flatMap Piece.bytes = s.bytes := by
  obtain ⟨done, _ | g⟩ := s <;> simp [finish, bytes, Piece.bytes]

end State

/-- Decoding loses no byte. -/
theorem flatMap_bytes_pieces (bytes : Bytes) : (pieces bytes).flatMap Piece.bytes = bytes := by
  rw [pieces, State.flatMap_bytes_finish, State.bytes_foldl_step _ (State.sound_none [])]
  rfl

/-- Pieces that are all code points are the code points of a text. -/
theorem map_char?_eq_iff {parts : List Piece} {chars : List Char} :
    parts.map Piece.char? = chars.map some ↔ parts = chars.map .char := by
  induction parts generalizing chars with
  | nil => simp
  | cons piece parts ih =>
    cases chars with
    | nil => simp
    | cons c chars => cases piece <;> simp [Piece.char?, ih]

/-- A byte string decodes to the text that it encodes, and to no other. -/
theorem decode?_eq_some_iff {bytes : Bytes} {s : String} :
    decode? bytes = some s ↔ bytes = Bytes.ofString s := by
  simp only [decode?, Option.map_eq_some_iff, mapM_eq_some_iff, map_char?_eq_iff]
  constructor
  · rintro ⟨chars, hpieces, rfl⟩
    rw [← flatMap_bytes_pieces bytes, hpieces, Bytes.ofString, String.toList_ofList,
      List.flatMap_map]
    rfl
  · rintro rfl
    exact ⟨s.toList, pieces_flatMap_utf8EncodeChar _, String.ofList_toList⟩

/-! ## The text shown -/

/-- Of a text all is shown. -/
theorem lossy_ofString (s : String) : lossy (Bytes.ofString s) = s := by
  have hshown : Piece.shown ∘ Piece.char = id := rfl
  rw [lossy, Bytes.ofString, pieces_flatMap_utf8EncodeChar, List.map_map, hshown, List.map_id,
    String.ofList_toList]

/-- No line feed is shown but those that are there. -/
theorem lineFeed_mem_of_lossy {bytes : Bytes} (h : '\n' ∈ (lossy bytes).toList) :
    Bytes.lineFeed ∈ bytes := by
  rw [lossy, String.toList_ofList] at h
  obtain ⟨piece, hpiece, hshown⟩ := List.mem_map.1 h
  rw [← flatMap_bytes_pieces bytes, List.mem_flatMap]
  refine ⟨piece, hpiece, ?_⟩
  cases piece with
  | char c =>
    obtain rfl : c = '\n' := hshown
    decide
  | broken part =>
    have hreplaced : '\ufffd' = '\n' := hshown
    exact absurd hreplaced (by decide)

end Utf8

/-! ## Byte strings that are text -/

/-- The byte string is the encoding of a text. -/
def Bytes.IsText (bytes : Bytes) : Prop :=
  ∃ s, bytes = ofString s

/-- A byte string is text exactly if it can be decoded. -/
theorem Bytes.isText_iff {bytes : Bytes} : bytes.IsText ↔ (Utf8.decode? bytes).isSome := by
  simp only [IsText, Option.isSome_iff_exists, Utf8.decode?_eq_some_iff]

end ShellCoverage
