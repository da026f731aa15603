import Mathlib

/-!
# Bits as polynomials

A sequence of bits is a polynomial over the field of two elements, with the first bit at the highest
power. Sequences of one length are added bit by bit, and their difference only depends on where they
differ.

* **`message_append`**: a sequence in front of another is shifted by its length.
* **`message_injective`**: sequences of one length are determined by their polynomials.
* **`message_sub_of_burst`**: where sequences only differ within `m` consecutive bits, their
  difference is a power of `X` times a polynomial of degree below `m`.
-/

open Polynomial

namespace BitPolynomial

/-! ## Bits -/

def bit (b : Bool) : ZMod 2 := if b then 1 else 0

theorem bit_xor (a b : Bool) : bit (a ^^ b) = bit a + bit b := by
  revert a b
  decide

theorem bit_injective : Function.Injective bit := by
  intro a b
  revert a b
  decide

/-! ## Sequences -/

/-- The polynomial of a sequence of bits. -/
noncomputable def message : List Bool → (ZMod 2)[X]
  | [] => 0
  | b :: bs => C (bit b) * X ^ bs.length + message bs

theorem message_append (as bs : List Bool) :
    message (as ++ bs) = message as * X ^ bs.length + message bs := by
  induction as with
  | nil => rw [List.nil_append, message, zero_mul, zero_add]
  | cons a as ih =>
    rw [List.cons_append, message, message, ih, List.length_append, pow_add]
    ring

theorem message_singleton (b : Bool) : message [b] = C (bit b) := by
  rw [message, message, List.length_nil, pow_zero, mul_one, add_zero]

theorem message_concat (bs : List Bool) (b : Bool) :
    message (bs ++ [b]) = message bs * X + C (bit b) := by
  rw [message_append, message_singleton, List.length_singleton, pow_one]

theorem message_replicate (k : Nat) : message (List.replicate k false) = 0 := by
  induction k with
  | zero => rfl
  | succ k ih =>
    rw [List.replicate_succ, message, ih, bit, if_neg Bool.false_ne_true, C_0, zero_mul, zero_add]

theorem degree_message_lt (bs : List Bool) : (message bs).degree < bs.length := by
  induction bs with
  | nil => exact degree_zero.trans_lt (WithBot.bot_lt_coe 0)
  | cons b bs ih =>
    have hlt : ((bs.length : Nat) : WithBot Nat) < ((b :: bs).length : Nat) := by
      rw [List.length_cons]
      exact_mod_cast Nat.lt_succ_self _
    refine lt_of_le_of_lt (degree_add_le _ _) (max_lt ?_ (ih.trans hlt))
    exact lt_of_le_of_lt (degree_C_mul_X_pow_le _ _) hlt

/-- **Sequences of one length** have polynomials of their own. Induction on both sequences. -/
theorem message_injective {as bs : List Bool} (hlen : as.length = bs.length)
    (h : message as = message bs) : as = bs := by
  induction as generalizing bs with
  | nil => exact (List.length_eq_zero_iff.mp hlen.symm).symm
  | cons a as ih =>
    cases bs with
    | nil => cases hlen
    | cons b bs =>
      have hlen' : as.length = bs.length := Nat.succ.inj hlen
      -- the first bits are the coefficients of the highest power
      have htop : ∀ (c : Bool) (cs : List Bool),
          (message (c :: cs)).coeff cs.length = bit c := by
        intro c cs
        rw [message, coeff_add, coeff_C_mul_X_pow, if_pos rfl,
          coeff_eq_zero_of_degree_lt (degree_message_lt cs), add_zero]
      have hab : a = b := by
        apply bit_injective
        rw [← htop a as, ← htop b bs, h, hlen']
      rw [message, message, hab, hlen'] at h
      rw [hab, ih hlen' (add_left_cancel h)]

/-! ## Sequences that differ in few places -/

/-- The bits in which the sequences differ lie within `m` consecutive ones. -/
def Burst (m : Nat) (as bs : List Bool) : Prop :=
  ∃ k, ∀ i, as[i]? ≠ bs[i]? → k ≤ i ∧ i < k + m

theorem Burst.of_length_le {m : Nat} {as bs : List Bool} (ha : as.length ≤ m)
    (hb : bs.length ≤ m) : Burst m as bs := by
  refine ⟨0, fun i hi => ⟨Nat.zero_le i, ?_⟩⟩
  by_contra hlong
  rw [List.getElem?_eq_none (by omega), List.getElem?_eq_none (by omega)] at hi
  exact hi rfl

theorem Burst.take_eq {m k : Nat} {as bs : List Bool}
    (h : ∀ i, as[i]? ≠ bs[i]? → k ≤ i ∧ i < k + m) : as.take k = bs.take k := by
  apply List.ext_getElem?
  intro i
  rcases Nat.lt_or_ge i k with hi | hi
  · rw [List.getElem?_take_of_lt hi, List.getElem?_take_of_lt hi]
    by_contra hne
    exact absurd (h i hne).1 (Nat.not_le.mpr hi)
  · rw [List.getElem?_take_eq_none hi, List.getElem?_take_eq_none hi]

theorem Burst.drop_eq {m k : Nat} {as bs : List Bool}
    (h : ∀ i, as[i]? ≠ bs[i]? → k ≤ i ∧ i < k + m) : as.drop (k + m) = bs.drop (k + m) := by
  apply List.ext_getElem?
  intro i
  rw [List.getElem?_drop, List.getElem?_drop]
  by_contra hne
  exact absurd (h _ hne).2 (Nat.not_lt.mpr (Nat.le_add_right _ _))

/-- **A burst** is a polynomial of small degree, shifted by what comes behind it. -/
theorem message_sub_of_burst {m : Nat} {as bs : List Bool} (hlen : as.length = bs.length)
    (h : Burst m as bs) :
    ∃ (e : Nat) (d : (ZMod 2)[X]), message as - message bs = X ^ e * d ∧ d.degree < m := by
  obtain ⟨k, hk⟩ := h
  have hsplit : ∀ cs : List Bool,
      message cs = message (cs.take k) * X ^ (cs.drop k).length
        + message ((cs.drop k).take m) * X ^ (cs.drop (k + m)).length
        + message (cs.drop (k + m)) := by
    intro cs
    rw [add_assoc, ← List.drop_drop, ← message_append, List.take_append_drop, ← message_append,
      List.take_append_drop]
  refine ⟨(as.drop (k + m)).length, message ((as.drop k).take m) - message ((bs.drop k).take m),
    ?_, ?_⟩
  · rw [hsplit as, hsplit bs, Burst.take_eq hk, Burst.drop_eq hk, List.length_drop, hlen,
      ← List.length_drop]
    ring
  · have hle : ∀ cs : List Bool, (message ((cs.drop k).take m)).degree < m := by
      intro cs
      refine lt_of_lt_of_le (degree_message_lt _) ?_
      exact_mod_cast List.length_take_le _ _
    exact lt_of_le_of_lt (degree_sub_le _ _) (max_lt (hle as) (hle bs))

end BitPolynomial
