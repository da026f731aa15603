import Droidbox.Adb.Crc
import Droidbox.Lib.Walk

/-!
# Droidbox — the search for a polynomial

`crc16_2` and `crc32_2` of `lib/adb/adb.c` try the polynomials one after the other and compare the
CRC of a buffer with `0x232`. The first one prints all that fit, the second one stops at the first.

* **`crc16_2_finds`**: the polynomials printed are those whose generator divides the difference of
  the buffer and the value looked for, in ascending order.
* **`crc32_2_finds`**: of those the least one.
-/

open Polynomial BitPolynomial ShiftRegister

namespace Droidbox.Adb

open Scripted Walk

/-! ## The functions -/

/-- The variables of the loop, with what it printed. -/
structure Search (w : Nat) where
  poly : BitVec w
  crc : BitVec w
  printed : List (BitVec w)

/-- Nothing is in `crc` before the first polynomial. -/
def Search.start {w : Nat} (crc : BitVec w) : Search w := ⟨0, crc, []⟩

/-- `crc16_2`, from one polynomial to the next. -/
def crc16_2Round (buf : List UInt8) (len : UInt32) (s : Search 16) :
    Round (Search 16) (UInt32 × List (BitVec 16)) :=
  if s.poly < 0xFFFF#16 then
    let crc := crcLoop s.poly buf len
    let printed := if crc ^^^ 0xFFFF#16 = 0x232#16
      then s.printed ++ [crc, crc ^^^ 0xFFFF#16, s.poly] else s.printed
    .again ⟨s.poly + 1, crc, printed⟩
  else
    .leave (UInt32.ofBitVec ((s.crc ^^^ 0xFFFF#16).setWidth 32), s.printed)

/-- `crc32_2`, from one polynomial to the next. -/
def crc32_2Round (buf : List UInt8) (len : UInt32) (s : Search 32) :
    Round (Search 32) (UInt32 × List (BitVec 32)) :=
  if s.poly < 0xFFFFFFFF#32 then
    let crc := crcLoop s.poly buf len
    if crc ^^^ 0xFFFFFFFF#32 = 0x232#32 then
      .leave (UInt32.ofBitVec (crc ^^^ 0xFFFFFFFF#32), s.printed ++ [s.poly])
    else
      .again ⟨s.poly + 1, crc, s.printed⟩
  else
    .leave (UInt32.ofBitVec (s.crc ^^^ 0xFFFFFFFF#32), s.printed)

/-! ## What fits -/

/-- The generator of the polynomial divides what is between the buffer and `crc`. -/
def Explains {w : Nat} (buf : List UInt8) (crc poly : BitVec w) : Prop :=
  generator poly ∣ X ^ w * message (bitStream buf) - residue crc

theorem crcLoop_eq_iff {w : Nat} (hw : 8 ≤ w) {len : UInt32} (buf : Buffer len.toNat)
    (crc poly : BitVec w) : crcLoop poly buf.bytes len = crc ↔ Explains buf.bytes crc poly := by
  rw [crcLoop_eq_register poly hw]
  exact register_eq_iff_dvd poly (by omega) _ _

/-- The first `n` polynomials. -/
def tried (w n : Nat) : List (BitVec w) := (List.range n).map (BitVec.ofNat w)

section
variable {w n : Nat}

theorem tried_succ : tried w (n + 1) = tried w n ++ [BitVec.ofNat w n] := by
  rw [tried, tried, List.range_succ, List.map_append, List.map_singleton]

theorem mem_tried (hn : n ≤ 2 ^ w) {p : BitVec w} : p ∈ tried w n ↔ p.toNat < n := by
  rw [tried, List.mem_map]
  constructor
  · rintro ⟨k, hk, rfl⟩
    have hlt := List.mem_range.mp hk
    rwa [BitVec.toNat_ofNat, Nat.mod_eq_of_lt (Nat.lt_of_lt_of_le hlt hn)]
  · intro hp
    exact ⟨p.toNat, List.mem_range.mpr hp, by rw [BitVec.ofNat_toNat, BitVec.setWidth_eq]⟩

theorem tried_pairwise (hn : n ≤ 2 ^ w) : (tried w n).Pairwise (· < ·) := by
  rw [tried, List.pairwise_map]
  refine List.pairwise_lt_range.imp_of_mem fun ha hb hlt => ?_
  have ha' := Nat.lt_of_lt_of_le (List.mem_range.mp ha) hn
  have hb' := Nat.lt_of_lt_of_le (List.mem_range.mp hb) hn
  rwa [BitVec.lt_def, BitVec.toNat_ofNat, BitVec.toNat_ofNat, Nat.mod_eq_of_lt ha',
    Nat.mod_eq_of_lt hb']

end

/-! ## 16 bits -/

section
variable {buf : List UInt8} {len : UInt32}

/-- Those of the first `n` polynomials that give the CRC looked for. -/
def fitting16 (buf : List UInt8) (len : UInt32) (n : Nat) : List (BitVec 16) :=
  (tried 16 n).filter fun p => crcLoop p buf len = 0xFDCD#16

theorem fitting16_succ {n : Nat} : fitting16 buf len (n + 1) = fitting16 buf len n
    ++ if crcLoop (BitVec.ofNat 16 n) buf len = 0xFDCD#16 then [BitVec.ofNat 16 n] else [] := by
  rw [fitting16, fitting16, tried_succ, List.filter_append]
  split
  case isTrue hcrc => simp [hcrc]
  case isFalse hcrc => simp [hcrc]

theorem mem_fitting16 {buf : Buffer len.toNat} {n : Nat} (hn : n ≤ 2 ^ 16) {p : BitVec 16} :
    p ∈ fitting16 buf.bytes len n ↔ p.toNat < n ∧ Explains buf.bytes 0xFDCD#16 p := by
  rw [fitting16, List.mem_filter, mem_tried hn, decide_eq_true_iff, crcLoop_eq_iff (by decide)]

/-- What is printed of a polynomial that fits. -/
def printed16 (p : BitVec 16) : List (BitVec 16) := [0xFDCD#16, 0x232#16, p]

theorem crc16_2Round_again {s : Search 16} (h : s.poly < 0xFFFF#16) :
    crc16_2Round buf len s = .again ⟨s.poly + 1, crcLoop s.poly buf len,
      if crcLoop s.poly buf len = 0xFDCD#16 then s.printed ++ printed16 s.poly else s.printed⟩ := by
  have hfits : crcLoop s.poly buf len ^^^ 0xFFFF#16 = 0x232#16
      ↔ crcLoop s.poly buf len = 0xFDCD#16 := by
    rw [show 0x232#16 = 0xFDCD#16 ^^^ 0xFFFF#16 from rfl, BitVec.xor_left_inj]
  unfold crc16_2Round
  rw [if_pos h]
  simp only [hfits]
  by_cases hcrc : crcLoop s.poly buf len = 0xFDCD#16
  · rw [if_pos hcrc, if_pos hcrc, hcrc]
    rfl
  · rw [if_neg hcrc, if_neg hcrc]

theorem crc16_2Round_leave {s : Search 16} (h : ¬ s.poly < 0xFFFF#16) :
    crc16_2Round buf len s
      = .leave (UInt32.ofBitVec ((s.crc ^^^ 0xFFFF#16).setWidth 32), s.printed) := by
  unfold crc16_2Round
  exact if_neg h

/-- After `k` rounds the first `k` polynomials were tried. Induction on `k`. -/
theorem crc16_2_reaches (crc : BitVec 16) {k : Nat} (hk : k ≤ 0xFFFF) :
    ∃ last, Reaches (crc16_2Round buf len) (.start crc)
        ⟨BitVec.ofNat 16 k, last, (fitting16 buf len k).flatMap printed16⟩
      ∧ (0 < k → last = crcLoop (BitVec.ofNat 16 (k - 1)) buf len) := by
  induction k with
  | zero => exact ⟨crc, .refl _ _, fun h => absurd h (Nat.lt_irrefl 0)⟩
  | succ k ih =>
    obtain ⟨last, hreach, -⟩ := ih (by omega)
    have hlt : BitVec.ofNat 16 k < 0xFFFF#16 := by
      rw [BitVec.lt_def, BitVec.toNat_ofNat, Nat.mod_eq_of_lt (by omega)]
      exact hk
    have hround := hreach.tail (crc16_2Round_again hlt)
    refine ⟨crcLoop (BitVec.ofNat 16 k) buf len, ?_, fun _ => rfl⟩
    rw [fitting16_succ, List.flatMap_append, BitVec.ofNat_add]
    by_cases hcrc : crcLoop (BitVec.ofNat 16 k) buf len = 0xFDCD#16
    · rw [if_pos hcrc] at hround
      rw [if_pos hcrc, List.flatMap_singleton]
      exact hround
    · rw [if_neg hcrc] at hround
      rw [if_neg hcrc, List.flatMap_nil, List.append_nil]
      exact hround

end

/-- **What `crc16_2` prints** are the polynomials that explain the buffer, each once and in
ascending order. What it returns is the CRC of the last one tried. -/
theorem crc16_2_finds (len : UInt32) (buf : Buffer len.toNat) (crc : BitVec 16) :
    ∃ polys : List (BitVec 16), polys.Pairwise (· < ·)
      ∧ (∀ p, p ∈ polys ↔ p < 0xFFFF#16 ∧ Explains buf.bytes 0xFDCD#16 p)
      ∧ ∀ r, Returns (crc16_2Round buf.bytes len) (.start crc) r
          ↔ r = (UInt32.ofBitVec ((crcLoop 0xFFFE#16 buf.bytes len ^^^ 0xFFFF#16).setWidth 32),
              polys.flatMap printed16) := by
  obtain ⟨last, hreach, hlast⟩ :=
    crc16_2_reaches crc (Nat.le_refl 0xFFFF)
  refine ⟨fitting16 buf.bytes len 0xFFFF, (tried_pairwise (by decide)).filter _,
    fun p => mem_fitting16 (by decide), fun r => ?_⟩
  have hlast : last = crcLoop 0xFFFE#16 buf.bytes len := hlast (by decide)
  have hend : ¬ BitVec.ofNat 16 0xFFFF < 0xFFFF#16 := by decide
  rw [hreach.returns_iff, returns_leave_iff (crc16_2Round_leave hend), hlast]

/-! ## 32 bits -/

section
variable {buf : List UInt8} {len : UInt32}

theorem fits32_iff {crc : BitVec 32} : crc ^^^ 0xFFFFFFFF#32 = 0x232#32 ↔ crc = 0xFFFFFDCD#32 := by
  rw [show 0x232#32 = 0xFFFFFDCD#32 ^^^ 0xFFFFFFFF#32 from rfl, BitVec.xor_left_inj]

/-- A polynomial that does not fit. -/
theorem crc32_2Round_again {s : Search 32} (h : s.poly < 0xFFFFFFFF#32)
    (hcrc : crcLoop s.poly buf len ≠ 0xFFFFFDCD#32) :
    crc32_2Round buf len s = .again ⟨s.poly + 1, crcLoop s.poly buf len, s.printed⟩ := by
  unfold crc32_2Round
  rw [if_pos h]
  exact if_neg fun hfits => hcrc (fits32_iff.mp hfits)

/-- One that does. -/
theorem crc32_2Round_found {s : Search 32} (h : s.poly < 0xFFFFFFFF#32)
    (hcrc : crcLoop s.poly buf len = 0xFFFFFDCD#32) :
    crc32_2Round buf len s = .leave (0x232, s.printed ++ [s.poly]) := by
  unfold crc32_2Round
  rw [if_pos h, hcrc]
  exact if_pos rfl

theorem crc32_2Round_leave {s : Search 32} (h : ¬ s.poly < 0xFFFFFFFF#32) :
    crc32_2Round buf len s
      = .leave (UInt32.ofBitVec (s.crc ^^^ 0xFFFFFFFF#32), s.printed) := by
  unfold crc32_2Round
  exact if_neg h

/-- After `k` rounds none of the first `k` polynomials has fit. Induction on `k`. -/
theorem crc32_2_reaches (crc : BitVec 32) {k : Nat} (hk : k ≤ 0xFFFFFFFF)
    (hnone : ∀ p : BitVec 32, p.toNat < k → crcLoop p buf len ≠ 0xFFFFFDCD#32) :
    ∃ last, Reaches (crc32_2Round buf len) (.start crc) ⟨BitVec.ofNat 32 k, last, []⟩
      ∧ (0 < k → last = crcLoop (BitVec.ofNat 32 (k - 1)) buf len) := by
  induction k with
  | zero => exact ⟨crc, .refl _ _, fun h => absurd h (Nat.lt_irrefl 0)⟩
  | succ k ih =>
    obtain ⟨last, hreach, -⟩ := ih (by omega) fun p hp => hnone p (by omega)
    have hnat : (BitVec.ofNat 32 k).toNat = k := by
      rw [BitVec.toNat_ofNat, Nat.mod_eq_of_lt (by omega)]
    have hlt : BitVec.ofNat 32 k < 0xFFFFFFFF#32 := by
      rw [BitVec.lt_def, hnat]
      exact hk
    refine ⟨crcLoop (BitVec.ofNat 32 k) buf len, ?_, fun _ => rfl⟩
    rw [BitVec.ofNat_add]
    exact hreach.tail (crc32_2Round_again hlt (hnone _ (hnat.trans_lt (Nat.lt_succ_self k))))

end

section
variable {len : UInt32} {buf : Buffer len.toNat}

theorem crc32_2_found (crc : BitVec 32) {p : BitVec 32} (hp : p < 0xFFFFFFFF#32)
    (hexplains : Explains buf.bytes 0xFFFFFDCD#32 p)
    (hleast : ∀ q, q < p → ¬ Explains buf.bytes 0xFFFFFDCD#32 q) :
    Returns (crc32_2Round buf.bytes len) (.start crc) (0x232, [p]) := by
  have hlt : p.toNat < 0xFFFFFFFF := by rwa [BitVec.lt_def, BitVec.toNat_ofNat] at hp
  obtain ⟨last, hreach, -⟩ := crc32_2_reaches crc hlt.le
    fun q hq h => hleast q (BitVec.lt_def.mpr hq) ((crcLoop_eq_iff (by decide) buf _ q).mp h)
  rw [BitVec.ofNat_toNat, BitVec.setWidth_eq] at hreach
  have hcrc := (crcLoop_eq_iff (by decide) buf _ p).mpr hexplains
  have hround : crc32_2Round buf.bytes len ⟨p, last, []⟩ = .leave (0x232, [p]) :=
    crc32_2Round_found (s := ⟨p, last, []⟩) hp hcrc
  rw [hreach.returns_iff, returns_leave_iff hround]

theorem crc32_2_exhausted (crc : BitVec 32)
    (hnone : ∀ p, p < 0xFFFFFFFF#32 → ¬ Explains buf.bytes 0xFFFFFDCD#32 p) :
    Returns (crc32_2Round buf.bytes len) (.start crc)
      (UInt32.ofBitVec (crcLoop 0xFFFFFFFE#32 buf.bytes len ^^^ 0xFFFFFFFF#32), []) := by
  obtain ⟨last, hreach, hlast⟩ := crc32_2_reaches crc (Nat.le_refl 0xFFFFFFFF)
    fun q hq h => hnone q (BitVec.lt_def.mpr hq) ((crcLoop_eq_iff (by decide) buf _ q).mp h)
  have hlast : last = crcLoop 0xFFFFFFFE#32 buf.bytes len := hlast (by decide)
  have hend : ¬ BitVec.ofNat 32 0xFFFFFFFF < 0xFFFFFFFF#32 := by decide
  rw [hreach.returns_iff, returns_leave_iff (crc32_2Round_leave hend), hlast]

/-- There is a first one that explains the buffer, or there is none. -/
theorem explains_cases (buf : List UInt8) (crc : BitVec 32) :
    (∃ p, p < 0xFFFFFFFF#32 ∧ Explains buf crc p ∧ ∀ q, q < p → ¬ Explains buf crc q)
      ∨ ∀ p, p < 0xFFFFFFFF#32 → ¬ Explains buf crc p := by
  classical
  refine or_iff_not_imp_right.mpr fun h => ?_
  obtain ⟨p, hp⟩ := not_forall.mp h
  obtain ⟨hlt, hexplains⟩ := Classical.not_imp.mp hp
  have hfirst : ∃ n, ∃ q : BitVec 32, q.toNat = n ∧ Explains buf crc q :=
    ⟨_, p, rfl, not_not.mp hexplains⟩
  obtain ⟨q, hq, hq'⟩ := Nat.find_spec hfirst
  have hle : q.toNat ≤ p.toNat := hq.trans_le (Nat.find_min' hfirst ⟨p, rfl, not_not.mp hexplains⟩)
  refine ⟨q, Nat.lt_of_le_of_lt hle hlt, hq', fun t ht h => ?_⟩
  exact Nat.find_min hfirst (Nat.lt_of_lt_of_eq ht hq) ⟨t, rfl, h⟩

end

/-- **What `crc32_2` prints** is the least polynomial that explains the buffer. -/
theorem crc32_2_finds (len : UInt32) (buf : Buffer len.toNat) (crc : BitVec 32)
    (r : UInt32 × List (BitVec 32)) :
    Returns (crc32_2Round buf.bytes len) (.start crc) r
      ↔ (∃ p, p < 0xFFFFFFFF#32 ∧ Explains buf.bytes 0xFFFFFDCD#32 p
          ∧ (∀ q, q < p → ¬ Explains buf.bytes 0xFFFFFDCD#32 q) ∧ r = (0x232, [p]))
        ∨ (∀ p, p < 0xFFFFFFFF#32 → ¬ Explains buf.bytes 0xFFFFFDCD#32 p)
          ∧ r = (UInt32.ofBitVec (crcLoop 0xFFFFFFFE#32 buf.bytes len ^^^ 0xFFFFFFFF#32), []) := by
  constructor
  · intro h
    rcases explains_cases buf.bytes 0xFFFFFDCD#32 with ⟨p, hp, hexplains, hleast⟩ | hnone
    · exact .inl ⟨p, hp, hexplains, hleast, h.unique (crc32_2_found crc hp hexplains hleast)⟩
    · exact .inr ⟨hnone, h.unique (crc32_2_exhausted crc hnone)⟩
  · intro h
    rcases h with ⟨p, hp, hexplains, hleast, rfl⟩ | ⟨hnone, rfl⟩
    · exact crc32_2_found crc hp hexplains hleast
    · exact crc32_2_exhausted crc hnone

end Droidbox.Adb
