import Droidbox.Adb.Message
import Droidbox.Lib.Buffer
import Droidbox.Lib.ShiftRegister

/-!
# Droidbox — the two CRCs

`crc16` and `crc32` of `lib/adb/adb.c` take in a byte per round: its eight shifts are made on the
low byte of the register alone, and the rest of the register is moved down beside it. Both use the
16-bit polynomial `0x93FC`.

* **`crcByte_eq_feed`**: a round is that of the bit-serial register, least significant bit first.
* **`crc16_is_crc`**: `crc16` is a CRC of 16 bits, and detects bursts of 16 bits.
* **`crc32_ne_iff`**: `crc32` tells apart what `crc16` does, so bursts that are multiples of the
  generator of 17 bits are not detected.
-/

open Polynomial BitPolynomial ShiftRegister

namespace Droidbox.Adb

/-! ## The functions -/

section
variable {w : Nat} (polynomial : BitVec w)

/-- `val & 1 ? (val >> 1) ^ polynomial : val >> 1` -/
def crcCheckBit (val : BitVec w) : BitVec w :=
  if val &&& 1#w ≠ 0#w then (val >>> 1) ^^^ polynomial else val >>> 1

/-- `CRC_CHECK_BITS(val, polynomial)` -/
def crcCheckBits (val : BitVec w) : BitVec w := (crcCheckBit polynomial)^[8] val

/-- The body of the loop. -/
def crcByte (crc : BitVec w) (b : UInt8) : BitVec w :=
  let val := (crc ^^^ b.toBitVec.setWidth w) &&& 0xFF#w
  let val := crcCheckBits polynomial val
  val ^^^ crc >>> 8

/-- `while (len--)`: the loop over the first `len` bytes. -/
def crcLoop (buf : List UInt8) (len : UInt32) : BitVec w :=
  (buf.take len.toNat).foldl (crcByte polynomial) 0#w

end

def crc16 (buf : List UInt8) (len : UInt32) : UInt16 :=
  UInt16.ofBitVec (crcLoop 0x93FC#16 buf len) ^^^ 0xFFFF

def crc32 (buf : List UInt8) (len : UInt32) : UInt32 :=
  UInt32.ofBitVec (crcLoop 0x93FC#32 buf len) ^^^ 0xFFFFFFFF

/-- The bits of a buffer, the least significant one of each byte first. -/
def bitStream (buf : List UInt8) : List Bool := buf.flatMap fun b => bits 8 b.toBitVec

/-! ## One byte -/

section
variable {w : Nat} (polynomial : BitVec w)

theorem crcCheckBit_eq_shift (hw : 0 < w) (val : BitVec w) :
    crcCheckBit polynomial val = shift polynomial val := by
  have hlow : val &&& 1#w = one (val.getLsbD 0) := BitVec.and_one_eq_setWidth_ofBool_getLsbD
  unfold crcCheckBit shift
  rw [hlow]
  exact if_congr (one_ne_zero_iff hw _) rfl rfl

/-- **A byte is taken in** as its bits are, one after the other. -/
theorem crcByte_eq_feed (hw : 8 ≤ w) (crc : BitVec w) (b : UInt8) :
    crcByte polynomial crc b = (bits 8 b.toBitVec).foldl (feed polynomial) crc := by
  have hbits : bits 8 b.toBitVec = bits 8 (b.toBitVec.setWidth w) := by
    unfold bits
    apply List.map_congr_left
    intro i hi
    have hlt := List.mem_range.mp hi
    rw [BitVec.getLsbD_setWidth]
    simp [show i < w by omega]
  have hclear : b.toBitVec.setWidth w >>> 8 = 0#w := by
    apply BitVec.eq_of_getLsbD_eq
    intro i _
    rw [BitVec.getLsbD_ushiftRight, BitVec.getLsbD_setWidth, BitVec.getLsbD_of_ge _ _ (by omega)]
    simp
  have hcheck : crcCheckBits polynomial = (shift polynomial)^[8] := by
    funext val
    rw [crcCheckBits, show crcCheckBit polynomial = shift polynomial from
      funext (crcCheckBit_eq_shift polynomial (by omega))]
  rw [hbits, foldl_feed_eq polynomial (by omega) 8 crc _ hclear, iterate_shift_split,
    BitVec.ushiftRight_xor_distrib, hclear, BitVec.xor_zero]
  unfold crcByte
  rw [hcheck]
  rfl

/-- **The loop** is the bit-serial register. -/
theorem crcLoop_eq_register (hw : 8 ≤ w) {len : UInt32} (buf : Buffer len.toNat) :
    crcLoop polynomial buf.bytes len = register polynomial (bitStream buf.bytes) := by
  have hstep : crcByte polynomial
      = fun crc b => (bits 8 b.toBitVec).foldl (feed polynomial) crc := by
    funext crc b
    exact crcByte_eq_feed polynomial hw crc b
  rw [crcLoop, List.take_of_length_le (Nat.le_of_eq buf.length_eq), register, bitStream,
    List.foldl_flatMap, hstep]
  rfl

end

/-! ## Streams of bits -/

theorem bitStream_cons (b : UInt8) (buf : List UInt8) :
    bitStream (b :: buf) = bits 8 b.toBitVec ++ bitStream buf := List.flatMap_cons

theorem bitStream_length (buf : List UInt8) : (bitStream buf).length = 8 * buf.length := by
  induction buf with
  | nil => rfl
  | cons b buf ih =>
    rw [bitStream_cons, List.length_append, bits_length, ih, List.length_cons]
    omega

theorem bitStream_injective {a b : List UInt8} (hlen : a.length = b.length)
    (h : bitStream a = bitStream b) : a = b := by
  induction a generalizing b with
  | nil => exact (List.length_eq_zero_iff.mp hlen.symm).symm
  | cons x a ih =>
    cases b with
    | nil => cases hlen
    | cons y b =>
      rw [bitStream_cons, bitStream_cons] at h
      obtain ⟨hbyte, hrest⟩ := List.append_inj h (by rw [bits_length, bits_length])
      have hxy : x = y := by
        apply UInt8.toBitVec_inj.mp
        exact residue_injective (congrArg message hbyte)
      rw [hxy, ih (Nat.succ.inj hlen) hrest]

/-! ## 16 bits -/

theorem crc16_eq_register {len : UInt32} (buf : Buffer len.toNat) :
    crc16 buf.bytes len = ~~~ UInt16.ofBitVec (register 0x93FC#16 (bitStream buf.bytes)) := by
  rw [crc16, crcLoop_eq_register _ (by decide)]
  apply UInt16.toBitVec_inj.mp
  exact BitVec.xor_allOnes

/-- **`crc16` is a CRC**: the complement of the bit-serial register, which tells apart buffers of
one length whose differing bits lie within 16 consecutive ones. -/
theorem crc16_is_crc (len : UInt32) :
    (∀ buf : Buffer len.toNat,
      crc16 buf.bytes len = ~~~ UInt16.ofBitVec (register 0x93FC#16 (bitStream buf.bytes)))
    ∧ ∀ a b : Buffer len.toNat, a ≠ b → Burst 16 (bitStream a.bytes) (bitStream b.bytes) →
      crc16 a.bytes len ≠ crc16 b.bytes len := by
  refine ⟨crc16_eq_register, fun a b hne hburst => ?_⟩
  have hlen : a.bytes.length = b.bytes.length := a.length_eq.trans b.length_eq.symm
  have hstream : bitStream a.bytes ≠ bitStream b.bytes :=
    fun h => hne (Buffer.ext (bitStream_injective hlen h))
  rw [crc16_eq_register, crc16_eq_register]
  intro h
  have hregister := congrArg UInt16.toBitVec (UInt16.not_inj.mp h)
  exact register_ne_of_burst 0x93FC#16 (by decide) (by decide) (Nat.le_refl 16)
    (by rw [bitStream_length, bitStream_length, hlen]) hstream hburst hregister

/-- Two bits on either side of the border of a byte. -/
theorem crc16_of_burst :
    crc16 [0x12, 0x34, 0x56, 0x78] 4
        = ~~~ UInt16.ofBitVec (register 0x93FC#16 (bitStream [0x12, 0x34, 0x56, 0x78]))
      ∧ crc16 [0x12, 0xB4, 0x57, 0x78] 4 ≠ crc16 [0x12, 0x34, 0x56, 0x78] 4 := by
  obtain ⟨hregister, hdetects⟩ := crc16_is_crc 4
  refine ⟨hregister ⟨[0x12, 0x34, 0x56, 0x78], rfl⟩, hdetects ⟨[0x12, 0xB4, 0x57, 0x78], rfl⟩
    ⟨[0x12, 0x34, 0x56, 0x78], rfl⟩ ?_ ?_⟩
  · intro heq
    cases congrArg Buffer.bytes heq
  · refine ⟨8, fun i hi => ?_⟩
    rcases Nat.lt_or_ge i 32 with hlt | hge
    · have hwithin : ∀ i < 32, (bitStream [0x12, 0xB4, 0x57, 0x78])[i]?
          ≠ (bitStream [0x12, 0x34, 0x56, 0x78])[i]? → 8 ≤ i ∧ i < 8 + 16 := by decide
      exact hwithin i hlt hi
    · have hlong : ∀ bs : List UInt8, bs.length = 4 → (bitStream bs)[i]? = none := fun bs hbs =>
        List.getElem?_eq_none (by rw [bitStream_length, hbs]; exact hge)
      exact absurd ((hlong _ rfl).trans (hlong _ rfl).symm) hi

/-! ## 32 bits -/

/-- The polynomial of 16 bits in a register of 32. -/
theorem generator_wide : generator 0x93FC#32 = X ^ 16 * generator 0x93FC#16 := by
  have hbits : bits 32 0x93FC#32 = bits 16 0x93FC#16 ++ List.replicate 16 false := by decide
  rw [generator, generator, residue, residue, hbits, message_append, message_replicate,
    List.length_replicate]
  ring

theorem crc32_eq_iff {len : UInt32} (a b : Buffer len.toNat) :
    crc32 a.bytes len = crc32 b.bytes len
      ↔ generator 0x93FC#16 ∣ message (bitStream a.bytes) - message (bitStream b.bytes) := by
  have hcomplement : ∀ x y : BitVec 32,
      UInt32.ofBitVec x ^^^ 0xFFFFFFFF = UInt32.ofBitVec y ^^^ 0xFFFFFFFF ↔ x = y := by
    intro x y
    rw [UInt32.xor_left_inj, UInt32.ofBitVec.injEq]
  have hcoprime : IsCoprime (generator 0x93FC#16) (X ^ 16) :=
    (isCoprime_generator 0x93FC#16 (by decide) (by decide)).pow_right
  have hX : (X : (ZMod 2)[X]) ^ 16 ≠ 0 := pow_ne_zero _ X_ne_zero
  rw [crc32, crc32, hcomplement, crcLoop_eq_register _ (by decide),
    crcLoop_eq_register _ (by decide), register_eq_iff _ (by decide), generator_wide,
    show 32 = 16 + 16 from rfl, pow_add, mul_assoc, mul_dvd_mul_iff_left hX]
  exact ⟨hcoprime.dvd_of_dvd_mul_left, fun h => h.mul_left _⟩

/-- **What `crc32` tells apart**: buffers whose difference is no multiple of the generator of
`crc16`. -/
theorem crc32_ne_iff (len : UInt32) (a b : Buffer len.toNat) :
    crc32 a.bytes len ≠ crc32 b.bytes len
      ↔ ¬ generator 0x93FC#16 ∣ message (bitStream a.bytes) - message (bitStream b.bytes) :=
  not_congr (crc32_eq_iff a b)

/-- Three bytes whose first 17 bits are those of the generator. -/
def sampleGenerator : Buffer 3 := ⟨[0xF9, 0x27, 0x01], rfl⟩

/-- They have the `crc32` of zeros. -/
theorem crc32_misses_burst :
    ¬ ∀ (len : UInt32) (a b : Buffer len.toNat), a ≠ b →
      Burst 32 (bitStream a.bytes) (bitStream b.bytes) →
      crc32 a.bytes len ≠ crc32 b.bytes len := by
  intro h
  refine h 3 sampleGenerator (.zero 3) ?_ (.of_length_le ?_ ?_) (by decide +kernel)
  · intro heq
    cases congrArg Buffer.bytes heq
  · rw [bitStream_length]
    decide
  · rw [bitStream_length]
    decide

end Droidbox.Adb
