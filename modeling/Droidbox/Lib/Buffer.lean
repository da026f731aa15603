import Droidbox.Lib.Bytes

/-!
# Fixed-size byte buffers

`Buffer n` is a C array of `n` bytes: its content always has length `n`, and the only way to
change it is `Buffer.write`, which asks for a proof that the bytes written fit. A copy that
would leave the array therefore cannot be built, and a program that may attempt one has to say
what it does instead.

`overlay s init` is `init` with its first bytes replaced by `s`. It is the content of a buffer
that starts as `init` and is filled from the front:

* **`Buffer.write_overlay`**: writing `src` right after an overlaid prefix `s` overlays
  `s ++ src`. Accumulating pieces one behind the other is concatenation.
* **`take_overlay`**, **`word16_overlay`**, **`word32_overlay`**: what is read inside the
  prefix is read from `s`; **`byteAt_overlay_right`**: what is read behind it from `init`.
-/

namespace LittleEndian

/-! ## Overlays -/

/-- `init` with its first bytes replaced by `s` (longer than `init` when `s` is). -/
def overlay (s init : List UInt8) : List UInt8 := s ++ init.drop s.length

theorem overlay_length {s init : List UInt8} (h : s.length ≤ init.length) :
    (overlay s init).length = init.length := by
  simp [overlay]
  omega

theorem take_overlay {s init : List UInt8} {k : Nat} (h : k ≤ s.length) :
    (overlay s init).take k = s.take k := by
  rw [overlay, List.take_append_of_le_length h]

theorem drop_overlay {s init : List UInt8} {k : Nat} (h : s.length ≤ k) :
    (overlay s init).drop k = init.drop k := by
  obtain ⟨j, rfl⟩ := Nat.exists_eq_add_of_le h
  rw [overlay, List.drop_append, List.drop_drop]
  simp

/-- What lies over bytes does not change them exactly when it repeats them. -/
theorem overlay_eq_self_iff {s init : List UInt8} :
    overlay s init = init ↔ s = init.take s.length := by
  have hsplit := List.take_append_drop s.length init
  rw [overlay]
  constructor
  · intro h
    exact List.append_cancel_right (h.trans hsplit.symm)
  · intro h
    rw [← h] at hsplit
    exact hsplit

theorem byteAt_overlay_left {s init : List UInt8} {i : Nat} (h : i < s.length) :
    byteAt (overlay s init) i = byteAt s i :=
  byteAt_append_left h

theorem byteAt_overlay_right {s init : List UInt8} {i : Nat} (h : s.length ≤ i) :
    byteAt (overlay s init) i = byteAt init i := by
  obtain ⟨k, rfl⟩ := Nat.exists_eq_add_of_le h
  rw [overlay, byteAt_append_right, byteAt_drop]

theorem word16_overlay {s init : List UInt8} {i : Nat} (h : i + 1 < s.length) :
    word16 (overlay s init) i = word16 s i :=
  word16_append_left h

theorem word32_overlay {s init : List UInt8} {i : Nat} (h : i + 3 < s.length) :
    word32 (overlay s init) i = word32 s i :=
  word32_append_left h

end LittleEndian

open LittleEndian

/-! ## Buffers -/

/-- An array of exactly `n` bytes. -/
structure Buffer (n : Nat) where
  bytes : List UInt8
  length_eq : bytes.length = n

namespace Buffer

variable {n : Nat}

@[ext] theorem ext {b c : Buffer n} (h : b.bytes = c.bytes) : b = c := by
  cases b; cases c; cases h; rfl

/-- `n` zero bytes. -/
def zero (n : Nat) : Buffer n := ⟨List.replicate n 0, List.length_replicate⟩

/-- Copy `src` to index `off`. The bound is part of the call. -/
def write (b : Buffer n) (off : Nat) (src : List UInt8) (h : off + src.length ≤ n) : Buffer n where
  bytes := b.bytes.take off ++ overlay src (b.bytes.drop off)
  length_eq := by
    have hb := b.length_eq
    rw [List.length_append, overlay_length (by simp; omega)]
    simp; omega

/-- **Accumulation is concatenation.** Writing right behind an overlaid prefix extends the
prefix by what is written. -/
theorem write_overlay {b : Buffer n} {s init : List UInt8} (hb : b.bytes = overlay s init)
    (src : List UInt8) (h : s.length + src.length ≤ n) :
    (b.write s.length src h).bytes = overlay (s ++ src) init := by
  simp only [write, hb]
  rw [take_overlay (Nat.le_refl _), List.take_length, drop_overlay (Nat.le_refl _)]
  simp only [overlay, List.drop_drop, List.length_append, List.append_assoc]

/-- What a buffer holds after a copy: the bytes copied where they were copied to. -/
theorem byteAt_write (b : Buffer n) {off : Nat} {src : List UInt8} (h : off + src.length ≤ n)
    (i : Nat) :
    byteAt (b.write off src h).bytes i
      = if off ≤ i ∧ i < off + src.length then byteAt src (i - off) else byteAt b.bytes i := by
  have hfront : (b.bytes.take off).length = off := by
    rw [List.length_take, b.length_eq]
    omega
  rw [write]
  by_cases hoff : off ≤ i
  · obtain ⟨k, rfl⟩ := Nat.exists_eq_add_of_le hoff
    have hbehind := byteAt_append_right (b.bytes.take off) (overlay src (b.bytes.drop off)) k
    rw [hfront] at hbehind
    rw [hbehind, Nat.add_sub_cancel_left]
    by_cases hk : k < src.length
    · rw [if_pos (by omega), byteAt_overlay_left hk]
    · rw [if_neg (by omega), byteAt_overlay_right (Nat.le_of_not_lt hk), byteAt_drop]
  · rw [if_neg (by omega), byteAt_append_left (by omega), byteAt_take (by omega)]

/-- Filling the front of a buffer overlays its content. -/
@[simp] theorem write_zero_bytes (b : Buffer n) (src : List UInt8) (h : 0 + src.length ≤ n) :
    (b.write 0 src h).bytes = overlay src b.bytes := by
  simp [write]

end Buffer
