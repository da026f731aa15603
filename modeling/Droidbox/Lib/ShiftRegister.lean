import Droidbox.Lib.BitPolynomial

/-!
# Reflected shift registers

A register of `w` bits that takes in a sequence bit by bit at its low end and moves towards it, with
the feedback `poly` whenever a bit falls out. It divides the polynomial of the sequence by that of
the feedback: the lowest bit of the register is the coefficient of the highest power.

* **`shift_xor`**: a shift is linear in exclusive or.
* **`iterate_shift_split`**: so the low bits may be shifted apart from the others.
* **`foldl_feed_eq`**: taking in some bits is loading them all and shifting as often.
* **`register_eq_iff`**: two sequences leave the same in the register exactly when the generator
  divides their difference, shifted by the width.
* **`register_eq_iff_dvd`**: what a sequence leaves in the register, by division.
* **`register_ne_of_burst`**: a burst no longer than the register is detected.
-/

open Polynomial BitPolynomial

namespace ShiftRegister

variable {w : Nat} (poly : BitVec w)

/-! ## The register -/

def shift (r : BitVec w) : BitVec w :=
  if r.getLsbD 0 then (r >>> 1) ^^^ poly else r >>> 1

/-- One bit at the low end. -/
def one (b : Bool) : BitVec w := (BitVec.ofBool b).setWidth w

/-- Take in one bit. -/
def feed (r : BitVec w) (b : Bool) : BitVec w := shift poly (r ^^^ one b)

/-- Take in a sequence, from zero. -/
def register (bs : List Bool) : BitVec w := bs.foldl (feed poly) 0

/-- The `k` lowest bits, the lowest one first. -/
def bits (k : Nat) (r : BitVec w) : List Bool := (List.range k).map r.getLsbD

/-! ## Shifts -/

theorem shift_xor (a b : BitVec w) : shift poly (a ^^^ b) = shift poly a ^^^ shift poly b := by
  unfold shift
  rw [BitVec.getLsbD_xor, BitVec.ushiftRight_xor_distrib]
  cases a.getLsbD 0 <;> cases b.getLsbD 0
  · rfl
  · exact BitVec.xor_assoc _ _ _
  · show (a >>> 1 ^^^ b >>> 1) ^^^ poly = (a >>> 1 ^^^ poly) ^^^ b >>> 1
    ac_rfl
  · show a >>> 1 ^^^ b >>> 1 = (a >>> 1 ^^^ poly) ^^^ (b >>> 1 ^^^ poly)
    rw [BitVec.xor_assoc, ← BitVec.xor_assoc poly, BitVec.xor_comm poly, BitVec.xor_assoc (b >>> 1),
      BitVec.xor_self, BitVec.xor_zero]

theorem iterate_shift_xor (k : Nat) (a b : BitVec w) :
    (shift poly)^[k] (a ^^^ b) = (shift poly)^[k] a ^^^ (shift poly)^[k] b := by
  induction k generalizing a b with
  | zero => rfl
  | succ k ih => rw [Function.iterate_succ_apply, shift_xor, ih]; rfl

/-- Bits that are clear fall out without feedback. -/
theorem iterate_shift_of_clear (k : Nat) (r : BitVec w) (h : ∀ i < k, r.getLsbD i = false) :
    (shift poly)^[k] r = r >>> k := by
  induction k with
  | zero => rfl
  | succ k ih =>
    have hclear : (r >>> k).getLsbD 0 = false := by
      rw [BitVec.getLsbD_ushiftRight, Nat.add_zero]
      exact h k (Nat.lt_succ_self k)
    rw [Function.iterate_succ_apply', ih fun i hi => h i (Nat.lt_succ_of_lt hi), shift, hclear,
      if_neg Bool.false_ne_true, ← BitVec.shiftRight_add]

/-- The low bits and the others shift on their own. -/
theorem iterate_shift_split (k : Nat) (r : BitVec w) :
    (shift poly)^[k] r
      = (shift poly)^[k] (r &&& BitVec.ofNat w (2 ^ k - 1)) ^^^ r >>> k := by
  have hsplit : r = (r &&& BitVec.ofNat w (2 ^ k - 1)) ^^^ r >>> k <<< k := by
    apply BitVec.eq_of_getLsbD_eq
    intro i hi
    rw [BitVec.getLsbD_xor, BitVec.getLsbD_and, BitVec.getLsbD_ofNat, BitVec.getLsbD_shiftLeft,
      BitVec.getLsbD_ushiftRight, Nat.testBit_two_pow_sub_one]
    by_cases hlow : i < k
    · simp [hi, hlow]
    · simp [hi, hlow, Nat.add_sub_cancel' (Nat.le_of_not_lt hlow)]
  have hclear : (shift poly)^[k] (r >>> k <<< k) = r >>> k := by
    rw [iterate_shift_of_clear]
    · apply BitVec.eq_of_getLsbD_eq
      intro i hi
      rw [BitVec.getLsbD_ushiftRight, BitVec.getLsbD_shiftLeft, BitVec.getLsbD_ushiftRight,
        BitVec.getLsbD_ushiftRight, Nat.add_sub_cancel_left]
      by_cases htop : k + i < w
      · simp [htop]
      · rw [BitVec.getLsbD_of_ge _ _ (Nat.le_of_not_lt htop), Bool.and_false]
    · intro i hi
      rw [BitVec.getLsbD_shiftLeft]
      simp [hi]
  calc (shift poly)^[k] r
      = (shift poly)^[k] ((r &&& BitVec.ofNat w (2 ^ k - 1)) ^^^ r >>> k <<< k) := by
        rw [← hsplit]
    _ = _ := by rw [iterate_shift_xor, hclear]

/-! ## Bits one by one -/

theorem bits_succ (k : Nat) (r : BitVec w) :
    bits (k + 1) r = r.getLsbD 0 :: bits k (r >>> 1) := by
  unfold bits
  rw [List.range_succ_eq_map, List.map_cons, List.map_map]
  congr 2
  funext i
  rw [Function.comp_apply, BitVec.getLsbD_ushiftRight, Nat.add_comm]

theorem bits_concat (k : Nat) (r : BitVec w) : bits (k + 1) r = bits k r ++ [r.getLsbD k] := by
  unfold bits
  rw [List.range_succ, List.map_append, List.map_singleton]

@[simp] theorem bits_length (k : Nat) (r : BitVec w) : (bits k r).length = k := by
  rw [bits, List.length_map, List.length_range]

theorem one_shift (b : Bool) : (one b : BitVec w) >>> 1 = 0#w := by
  apply BitVec.eq_of_getLsbD_eq
  intro i _
  rw [BitVec.getLsbD_ushiftRight, one, BitVec.getLsbD_setWidth, BitVec.getLsbD_of_ge _ _ (by omega)]
  simp

theorem one_getLsbD_zero (hw : 0 < w) (b : Bool) : (one b : BitVec w).getLsbD 0 = b := by
  rw [one, BitVec.getLsbD_setWidth, BitVec.getLsbD_ofBool]
  simp [hw]

theorem one_ne_zero_iff (hw : 0 < w) (b : Bool) : (one b : BitVec w) ≠ 0#w ↔ b = true := by
  cases b with
  | false => simp [one]
  | true =>
    refine ⟨fun _ => rfl, fun _ hzero => ?_⟩
    have hlow := one_getLsbD_zero hw true
    rw [hzero, BitVec.getLsbD_zero] at hlow
    cases hlow

/-- **Loading all bits at once.** Induction on the number of bits. -/
theorem foldl_feed_eq (hw : 0 < w) (k : Nat) (r v : BitVec w) (h : v >>> k = 0) :
    (bits k v).foldl (feed poly) r = (shift poly)^[k] (r ^^^ v) := by
  induction k generalizing r v with
  | zero =>
    rw [BitVec.ushiftRight_zero] at h
    rw [h]
    exact BitVec.xor_zero.symm
  | succ k ih =>
    have hfeed : feed poly r (v.getLsbD 0) ^^^ v >>> 1 = shift poly (r ^^^ v) := by
      -- the bits of `v` behind the first one move without feedback
      have hclear : (one (v.getLsbD 0) ^^^ v).getLsbD 0 = false := by
        rw [BitVec.getLsbD_xor, one_getLsbD_zero hw, Bool.xor_self]
      have hrest : shift poly (one (v.getLsbD 0) ^^^ v) = v >>> 1 := by
        rw [shift, hclear, if_neg Bool.false_ne_true, BitVec.ushiftRight_xor_distrib, one_shift,
          BitVec.zero_xor]
      calc feed poly r (v.getLsbD 0) ^^^ v >>> 1
          = shift poly ((r ^^^ one (v.getLsbD 0)) ^^^ (one (v.getLsbD 0) ^^^ v)) := by
            rw [shift_xor, hrest]
            rfl
        _ = shift poly (r ^^^ v) := by
            rw [BitVec.xor_assoc, ← BitVec.xor_assoc (one _), BitVec.xor_self, BitVec.zero_xor]
    rw [bits_succ, List.foldl_cons, ih _ _ ?_, hfeed]
    · rfl
    · rw [← BitVec.shiftRight_add, Nat.add_comm]
      exact h

/-! ## Division -/

/-- The polynomial of a register. -/
noncomputable def residue (r : BitVec w) : (ZMod 2)[X] := message (bits w r)

/-- The polynomial of the feedback, with the power that falls out. -/
noncomputable def generator : (ZMod 2)[X] := X ^ w + residue poly

theorem degree_residue_lt (r : BitVec w) : (residue r).degree < w := by
  have hlt := degree_message_lt (bits w r)
  rwa [bits_length] at hlt

theorem residue_injective {a b : BitVec w} (h : residue a = residue b) : a = b := by
  have hbits := message_injective (by rw [bits_length, bits_length]) h
  apply BitVec.eq_of_getLsbD_eq
  intro i hi
  exact List.map_inj_left.mp hbits i (List.mem_range.mpr hi)

theorem message_bits_xor (k : Nat) (a b : BitVec w) :
    message (bits k (a ^^^ b)) = message (bits k a) + message (bits k b) := by
  induction k with
  | zero => exact (add_zero _).symm
  | succ k ih =>
    rw [bits_concat, bits_concat, bits_concat, message_concat, message_concat, message_concat, ih,
      BitVec.getLsbD_xor, bit_xor, C_add]
    ring

theorem residue_xor (a b : BitVec w) : residue (a ^^^ b) = residue a + residue b :=
  message_bits_xor w a b

theorem message_bits_zero (k : Nat) : message (bits k (0#w)) = 0 := by
  have hbits : bits k (0#w) = List.replicate k false := by
    unfold bits
    rw [List.eq_replicate_iff]
    refine ⟨by rw [List.length_map, List.length_range], ?_⟩
    intro b hb
    obtain ⟨i, -, rfl⟩ := List.mem_map.mp hb
    exact BitVec.getLsbD_zero
  rw [hbits, message_replicate]

theorem residue_one (hw : 0 < w) (b : Bool) :
    residue (one b : BitVec w) * X = C (bit b) * X ^ w := by
  cases w with
  | zero => cases hw
  | succ n =>
    rw [residue, bits_succ, one_getLsbD_zero hw, one_shift, message, message_bits_zero, bits_length,
      add_zero, pow_succ, mul_assoc]

theorem residue_ushiftRight (hw : 0 < w) (r : BitVec w) :
    residue (r >>> 1) = residue r * X + C (bit (r.getLsbD 0)) * X ^ w := by
  have htwo : (2 : (ZMod 2)[X]) = 0 := CharTwo.two_eq_zero
  cases w with
  | zero => cases hw
  | succ n =>
    have htop : (r >>> 1).getLsbD n = false := by
      rw [BitVec.getLsbD_ushiftRight, BitVec.getLsbD_of_ge _ _ (by omega)]
    have hshifted : residue (r >>> 1) = message (bits n (r >>> 1)) * X := by
      rw [residue, bits_concat, htop, message_concat, bit, if_neg Bool.false_ne_true, C_0, add_zero]
    have hwhole : residue r = C (bit (r.getLsbD 0)) * X ^ n + message (bits n (r >>> 1)) := by
      rw [residue, bits_succ, message, bits_length]
    rw [hshifted, hwhole]
    linear_combination (-(C (bit (r.getLsbD 0)) * X ^ (n + 1))) * htwo

/-- **A shift multiplies by `X`** and reduces by the generator. -/
theorem residue_shift (hw : 0 < w) (r : BitVec w) :
    residue (shift poly r) = residue r * X + C (bit (r.getLsbD 0)) * generator poly := by
  have hmove := residue_ushiftRight hw r
  unfold shift generator
  cases hbit : r.getLsbD 0 with
  | false =>
    rw [hbit] at hmove
    rw [if_neg Bool.false_ne_true, hmove, bit, if_neg Bool.false_ne_true, C_0, zero_mul, zero_mul]
  | true =>
    rw [hbit] at hmove
    rw [if_pos rfl, residue_xor, hmove, bit, if_pos rfl, C_1]
    ring

theorem generator_dvd_feed (hw : 0 < w) (r : BitVec w) (b : Bool) :
    generator poly ∣ residue (feed poly r b) - (residue r * X + C (bit b) * X ^ w) := by
  rw [feed, residue_shift poly hw, residue_xor, add_mul, residue_one hw]
  exact ⟨C (bit ((r ^^^ one b).getLsbD 0)), by ring⟩

/-- What is left in the register, up to multiples of the generator. Induction on the sequence. -/
theorem generator_dvd_foldl (hw : 0 < w) (r : BitVec w) (bs : List Bool) :
    generator poly ∣ residue (bs.foldl (feed poly) r)
      - (residue r * X ^ bs.length + X ^ w * message bs) := by
  induction bs generalizing r with
  | nil =>
    rw [List.foldl_nil, List.length_nil, message]
    exact ⟨0, by ring⟩
  | cons b bs ih =>
    obtain ⟨c, hc⟩ := ih (feed poly r b)
    obtain ⟨d, hd⟩ := generator_dvd_feed poly hw r b
    rw [List.foldl_cons, List.length_cons, message]
    refine ⟨c + d * X ^ bs.length, ?_⟩
    linear_combination hc + X ^ bs.length * hd

theorem generator_dvd_register (hw : 0 < w) (bs : List Bool) :
    generator poly ∣ residue (register poly bs) - X ^ w * message bs := by
  have hdvd := generator_dvd_foldl poly hw 0 bs
  rwa [show residue (0 : BitVec w) = 0 from message_bits_zero w, zero_mul, zero_add] at hdvd

theorem degree_generator : (generator poly).degree = w := by
  rw [generator, degree_add_eq_left_of_degree_lt]
  · exact degree_X_pow w
  · rw [degree_X_pow]
    exact degree_residue_lt poly

/-- **What a register tells apart.** -/
theorem register_eq_iff (hw : 0 < w) (as bs : List Bool) :
    register poly as = register poly bs
      ↔ generator poly ∣ X ^ w * (message as - message bs) := by
  obtain ⟨c, hc⟩ := generator_dvd_register poly hw as
  obtain ⟨d, hd⟩ := generator_dvd_register poly hw bs
  constructor
  · intro h
    rw [h] at hc
    exact ⟨d - c, by linear_combination hd - hc⟩
  · rintro ⟨e, he⟩
    -- both are below the degree of the generator
    have hdvd : generator poly ∣ residue (register poly as) - residue (register poly bs) :=
      ⟨c - d + e, by linear_combination hc - hd + he⟩
    apply residue_injective
    apply sub_eq_zero.mp
    apply eq_zero_of_dvd_of_degree_lt hdvd
    rw [degree_generator]
    exact lt_of_le_of_lt (degree_sub_le _ _) (max_lt (degree_residue_lt _) (degree_residue_lt _))

/-- **What is in a register**, by division. -/
theorem register_eq_iff_dvd (hw : 0 < w) (bs : List Bool) (r : BitVec w) :
    register poly bs = r ↔ generator poly ∣ X ^ w * message bs - residue r := by
  obtain ⟨c, hc⟩ := generator_dvd_register poly hw bs
  constructor
  · intro h
    rw [h] at hc
    exact ⟨-c, by linear_combination -hc⟩
  · rintro ⟨e, he⟩
    have hdvd : generator poly ∣ residue (register poly bs) - residue r :=
      ⟨c + e, by linear_combination hc + he⟩
    apply residue_injective
    apply sub_eq_zero.mp
    apply eq_zero_of_dvd_of_degree_lt hdvd
    rw [degree_generator]
    exact lt_of_le_of_lt (degree_sub_le _ _) (max_lt (degree_residue_lt _) (degree_residue_lt _))

/-! ## Bursts -/

/-- With its highest bit in the feedback, the generator has no factor `X`. -/
theorem isCoprime_generator (hw : 0 < w) (hmsb : poly.getLsbD (w - 1) = true) :
    IsCoprime (generator poly) X := by
  have hX : Irreducible (X : (ZMod 2)[X]) := irreducible_X
  apply IsCoprime.symm
  rw [hX.coprime_iff_not_dvd, X_dvd_iff]
  cases w with
  | zero => cases hw
  | succ n =>
    rw [Nat.add_sub_cancel] at hmsb
    rw [generator, residue, bits_concat, message_concat, hmsb]
    simp [bit]

/-- **A burst no longer than the register** changes what is left in it. -/
theorem register_ne_of_burst (hw : 0 < w) (hmsb : poly.getLsbD (w - 1) = true) {m : Nat}
    (hm : m ≤ w) {as bs : List Bool} (hlen : as.length = bs.length) (hne : as ≠ bs)
    (hburst : Burst m as bs) : register poly as ≠ register poly bs := by
  intro h
  obtain ⟨e, d, hd, hdegree⟩ := message_sub_of_burst hlen hburst
  have hdvd := (register_eq_iff poly hw as bs).mp h
  have hcoprime := isCoprime_generator poly hw hmsb
  rw [hd] at hdvd
  have hsmall : generator poly ∣ d :=
    (hcoprime.pow_right.dvd_of_dvd_mul_left (hcoprime.pow_right.dvd_of_dvd_mul_left hdvd))
  have hzero : d = 0 := by
    apply eq_zero_of_dvd_of_degree_lt hsmall
    rw [degree_generator]
    exact lt_of_lt_of_le hdegree (by exact_mod_cast hm)
  rw [hzero, mul_zero] at hd
  exact hne (message_injective hlen (sub_eq_zero.mp hd))

end ShiftRegister
