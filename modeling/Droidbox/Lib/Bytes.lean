import Mathlib.Algebra.Order.Ring.Int
import Mathlib.Data.List.Basic

/-!
# Little-endian words in byte streams

The wire formats are packed structures of little-endian words. This module owns the two
directions: `le16` / `le32` / `le64` spell a word as bytes, `word16` / `word32` read one back
from a position of a stream by the shift-and-or masks C programs use.

* **`word32_le32`**, **`word16_le16`**: reading back what was spelled gives the word.
* **`word32_toNat`**: the mask is the positional value of its four bytes.
* **`word32_append_left`**, **`word32_append_right`**: a word read inside one piece of a
  concatenation is read from that piece alone.
-/

namespace LittleEndian

/-! ## Spelling and reading -/

/-- Byte `i` of a stream; positions past the end read as zero. -/
def byteAt (s : List UInt8) (i : Nat) : UInt8 := s.getD i 0

def word16 (s : List UInt8) (i : Nat) : UInt16 :=
  (byteAt s (i + 1)).toUInt16 <<< 8 ||| (byteAt s i).toUInt16

def word32 (s : List UInt8) (i : Nat) : UInt32 :=
  (byteAt s (i + 3)).toUInt32 <<< 24 ||| (byteAt s (i + 2)).toUInt32 <<< 16
    ||| (byteAt s (i + 1)).toUInt32 <<< 8 ||| (byteAt s i).toUInt32

def le16 (w : UInt16) : List UInt8 := [w.toUInt8, (w >>> 8).toUInt8]

def le32 (w : UInt32) : List UInt8 :=
  [w.toUInt8, (w >>> 8).toUInt8, (w >>> 16).toUInt8, (w >>> 24).toUInt8]

def le64 (w : UInt64) : List UInt8 :=
  [w.toUInt8, (w >>> 8).toUInt8, (w >>> 16).toUInt8, (w >>> 24).toUInt8,
    (w >>> 32).toUInt8, (w >>> 40).toUInt8, (w >>> 48).toUInt8, (w >>> 56).toUInt8]

@[simp] theorem le16_length (w : UInt16) : (le16 w).length = 2 := rfl

@[simp] theorem le32_length (w : UInt32) : (le32 w).length = 4 := rfl

@[simp] theorem le64_length (w : UInt64) : (le64 w).length = 8 := rfl

/-! ## Bytes of concatenations -/

@[simp] theorem byteAt_cons_zero (b : UInt8) (s : List UInt8) : byteAt (b :: s) 0 = b := rfl

@[simp] theorem byteAt_cons_succ (b : UInt8) (s : List UInt8) (i : Nat) :
    byteAt (b :: s) (i + 1) = byteAt s i := rfl

theorem byteAt_append_left {s t : List UInt8} {i : Nat} (h : i < s.length) :
    byteAt (s ++ t) i = byteAt s i := by
  simp [byteAt, List.getElem?_append_left h]

theorem byteAt_append_right (s t : List UInt8) (i : Nat) :
    byteAt (s ++ t) (s.length + i) = byteAt t i := by
  simp [byteAt, List.getElem?_append_right (Nat.le_add_right s.length i)]

theorem byteAt_take {s : List UInt8} {i k : Nat} (h : i < k) :
    byteAt (s.take k) i = byteAt s i := by
  simp [byteAt, List.getElem?_take_of_lt h]

theorem byteAt_drop (s : List UInt8) (i k : Nat) : byteAt (s.drop i) k = byteAt s (i + k) := by
  simp [byteAt]

/-- The bytes of a stream from a position on, read one by one. -/
theorem map_byteAt_range (s : List UInt8) (k : Nat) :
    (List.range' k (s.length - k)).map (byteAt s) = s.drop k := by
  apply List.ext_getElem
  · rw [List.length_map, List.length_range', List.length_drop]
  · intro i hi hi'
    rw [List.length_drop] at hi'
    rw [List.getElem_map, List.getElem_range', Nat.one_mul, List.getElem_drop, byteAt,
      List.getD_eq_getElem?_getD, List.getElem?_eq_getElem (by omega), Option.getD_some]

theorem byteAt_replicate {n i : Nat} (b : UInt8) (h : i < n) :
    byteAt (List.replicate n b) i = b := by
  rw [byteAt, List.getD_eq_getElem?_getD, List.getElem?_replicate, if_pos h, Option.getD_some]

theorem word16_append_left {s t : List UInt8} {i : Nat} (h : i + 1 < s.length) :
    word16 (s ++ t) i = word16 s i := by
  simp only [word16, byteAt_append_left h, byteAt_append_left (show i < s.length by omega)]

theorem word32_append_left {s t : List UInt8} {i : Nat} (h : i + 3 < s.length) :
    word32 (s ++ t) i = word32 s i := by
  simp only [word32, byteAt_append_left h, byteAt_append_left (show i < s.length by omega),
    byteAt_append_left (show i + 1 < s.length by omega),
    byteAt_append_left (show i + 2 < s.length by omega)]

theorem word32_append_right (s t : List UInt8) (i : Nat) :
    word32 (s ++ t) (s.length + i) = word32 t i := by
  simp only [word32, Nat.add_assoc, byteAt_append_right]

/-! ## Streams that agree -/

theorem word16_congr {s t : List UInt8} {i : Nat}
    (h : ∀ k < 2, byteAt s (i + k) = byteAt t (i + k)) : word16 s i = word16 t i := by
  simp only [word16, show byteAt s i = byteAt t i from h 0 (by decide), h 1 (by decide)]

theorem word32_congr {s t : List UInt8} {i : Nat}
    (h : ∀ k < 4, byteAt s (i + k) = byteAt t (i + k)) : word32 s i = word32 t i := by
  simp only [word32, show byteAt s i = byteAt t i from h 0 (by decide), h 1 (by decide),
    h 2 (by decide), h 3 (by decide)]

/-- Streams of one length that agree up to a position have the same beginning. -/
theorem take_congr {s t : List UInt8} {k : Nat} (hlength : s.length = t.length)
    (h : ∀ i < k, byteAt s i = byteAt t i) : s.take k = t.take k := by
  apply List.ext_getElem
  · rw [List.length_take, List.length_take, hlength]
  · intro i hi hi'
    rw [List.length_take] at hi hi'
    have hbyte := h i (by omega)
    rw [byteAt, byteAt, List.getD_eq_getElem?_getD, List.getD_eq_getElem?_getD,
      List.getElem?_eq_getElem (by omega), List.getElem?_eq_getElem (by omega)] at hbyte
    rw [List.getElem_take, List.getElem_take]
    exact hbyte

/-! ## Reading back -/

/-- The 16-bit mask is the positional value of its two bytes. -/
theorem word16_toNat (s : List UInt8) (i : Nat) :
    (word16 s i).toNat = 256 * (byteAt s (i + 1)).toNat + (byteAt s i).toNat := by
  have h0 := (byteAt s i).toNat_lt
  have h1 := (byteAt s (i + 1)).toNat_lt
  simp only [word16, UInt16.toNat_or, UInt16.toNat_shiftLeft, UInt8.toNat_toUInt16]
  have hs : (byteAt s (i + 1)).toNat <<< ((8 : UInt16).toNat % 16) % 2 ^ 16
      = 2 ^ 8 * (byteAt s (i + 1)).toNat := by
    rw [show (8 : UInt16).toNat % 16 = 8 from rfl, Nat.shiftLeft_eq]; omega
  rw [hs, ← Nat.two_pow_add_eq_or_of_lt (by omega)]

/-- A word that was read is spelled by the bytes it was read from. -/
theorem le16_word16 (s : List UInt8) (i : Nat) :
    le16 (word16 s i) = [byteAt s i, byteAt s (i + 1)] := by
  have hword := word16_toNat s i
  have h0 := (byteAt s i).toNat_lt
  have h1 := (byteAt s (i + 1)).toNat_lt
  have hlow : (word16 s i).toUInt8 = byteAt s i := by
    apply UInt8.toNat_inj.mp
    rw [UInt16.toNat_toUInt8]
    omega
  have hhigh : (word16 s i >>> 8).toUInt8 = byteAt s (i + 1) := by
    apply UInt8.toNat_inj.mp
    rw [UInt16.toNat_toUInt8, UInt16.toNat_shiftRight, Nat.shiftRight_eq_div_pow,
      show (8 : UInt16).toNat % 16 = 8 from rfl]
    omega
  rw [le16, hlow, hhigh]

/-- The 32-bit mask is the positional value of its four bytes: the shifted bytes occupy
disjoint bit ranges, so each `|||` is an addition. -/
theorem word32_toNat (s : List UInt8) (i : Nat) :
    (word32 s i).toNat = 16777216 * (byteAt s (i + 3)).toNat + 65536 * (byteAt s (i + 2)).toNat
      + 256 * (byteAt s (i + 1)).toNat + (byteAt s i).toNat := by
  have h0 := (byteAt s i).toNat_lt
  have h1 := (byteAt s (i + 1)).toNat_lt
  have h2 := (byteAt s (i + 2)).toNat_lt
  have h3 := (byteAt s (i + 3)).toNat_lt
  simp only [word32, UInt32.toNat_or, UInt32.toNat_shiftLeft, UInt8.toNat_toUInt32]
  generalize (byteAt s i).toNat = b0 at *
  generalize (byteAt s (i + 1)).toNat = b1 at *
  generalize (byteAt s (i + 2)).toNat = b2 at *
  generalize (byteAt s (i + 3)).toNat = b3 at *
  have hs3 : b3 <<< ((24 : UInt32).toNat % 32) % 2 ^ 32 = 2 ^ 24 * b3 := by
    rw [show (24 : UInt32).toNat % 32 = 24 from rfl, Nat.shiftLeft_eq]; omega
  have hs2 : b2 <<< ((16 : UInt32).toNat % 32) % 2 ^ 32 = 2 ^ 16 * b2 := by
    rw [show (16 : UInt32).toNat % 32 = 16 from rfl, Nat.shiftLeft_eq]; omega
  have hs1 : b1 <<< ((8 : UInt32).toNat % 32) % 2 ^ 32 = 2 ^ 8 * b1 := by
    rw [show (8 : UInt32).toNat % 32 = 8 from rfl, Nat.shiftLeft_eq]; omega
  -- each `|||` in turn, from the highest byte down: the operands have no common bit
  rw [hs3, hs2, hs1, ← Nat.two_pow_add_eq_or_of_lt (by omega)]
  rw [show 2 ^ 24 * b3 + 2 ^ 16 * b2 = 2 ^ 16 * (256 * b3 + b2) from by omega,
    ← Nat.two_pow_add_eq_or_of_lt (by omega)]
  rw [show 2 ^ 16 * (256 * b3 + b2) + 2 ^ 8 * b1 = 2 ^ 8 * (65536 * b3 + 256 * b2 + b1) from by
      omega]
  exact (Nat.two_pow_add_eq_or_of_lt h0 _).symm.trans (by omega)

/-- A word is zero when its bytes are. -/
theorem word32_eq_zero_iff (s : List UInt8) (i : Nat) :
    word32 s i = 0 ↔ ∀ k < 4, byteAt s (i + k) = 0 := by
  have hzero : ∀ b : UInt8, b = 0 ↔ b.toNat = 0 := fun b => UInt8.toNat_inj.symm
  rw [← UInt32.toNat_inj, word32_toNat]
  show _ = 0 ↔ _
  constructor
  · intro h k hk
    rw [hzero]
    obtain rfl | rfl | rfl | rfl : k = 0 ∨ k = 1 ∨ k = 2 ∨ k = 3 := by omega
    · rw [Nat.add_zero]
      omega
    all_goals omega
  · intro h
    have h0 := h 0 (by omega)
    rw [Nat.add_zero] at h0
    rw [h0, h 1 (by omega), h 2 (by omega), h 3 (by omega)]
    rfl

theorem word16_le16 (w : UInt16) (t : List UInt8) : word16 (le16 w ++ t) 0 = w := by
  apply UInt16.toNat_inj.mp
  have hw := w.toNat_lt
  rw [word16_toNat]
  simp [le16, Nat.shiftRight_eq_div_pow]
  omega

theorem word32_le32 (w : UInt32) (t : List UInt8) : word32 (le32 w ++ t) 0 = w := by
  apply UInt32.toNat_inj.mp
  have hw := w.toNat_lt
  rw [word32_toNat]
  simp [le32, Nat.shiftRight_eq_div_pow]
  omega

/-- The words of a spelled list of words, read in front of anything. -/
theorem word32_flatMap_le32 {ps : List UInt32} {k : Nat} (t : List UInt8) (hk : k < ps.length) :
    word32 (ps.flatMap le32 ++ t) (4 * k) = ps[k] := by
  induction ps generalizing k with
  | nil => cases hk
  | cons p ps ih =>
    rw [List.flatMap_cons, List.append_assoc]
    cases k with
    | zero => exact word32_le32 p _
    | succ k =>
      rw [show 4 * (k + 1) = (le32 p).length + 4 * k from by rw [le32_length]; omega,
        word32_append_right]
      exact ih (Nat.lt_of_succ_lt_succ hk)

/-! ## Signed words -/

/-- The signed value of the 32 bits of an `int`. -/
def asInt (w : UInt32) : Int := w.toBitVec.toInt

/-- The upper half of the words are the negative values. -/
theorem asInt_eq (w : UInt32) :
    asInt w = if w.toNat < 2147483648 then (w.toNat : Int) else w.toNat - 4294967296 := by
  unfold asInt
  rw [BitVec.toInt_eq_toNat_cond, UInt32.toNat_toBitVec]
  split
  · rw [if_pos (by omega)]
  · rw [if_neg (by omega)]
    rfl

theorem asInt_of_lt {w : UInt32} (h : w.toNat < 2147483648) : asInt w = w.toNat := by
  rw [asInt_eq, if_pos h]

theorem asInt_eq_iff {w : UInt32} {n : Nat} (h : n < 2147483648) : asInt w = n ↔ w.toNat = n := by
  have hlt := w.toNat_lt
  rw [asInt_eq]
  split
  · exact Int.ofNat_inj
  · omega

end LittleEndian
