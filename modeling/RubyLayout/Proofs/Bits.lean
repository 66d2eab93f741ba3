import Mathlib
import RubyLayout.Value.Word

/-!
# Bit tests on machine words

The tag and flag tests of the library are masks applied to a word. A mask of the low `k` bits
reads the word's number modulo `2^k` (`toNat_and_lowMask`, `and_lowMask_eq_iff`), so such tests
become congruences that `omega` decides. Clearing them rounds the number down to a multiple of
`2^k` (`toNat_and_not_lowMask`), and setting bits below `2^k` in a word whose low `k` bits are
clear adds them (`toNat_or_of_lt`). Clearing a single bit `2^j` leaves nothing exactly for
`0` and for `2^j` itself (`and_not_twoPow_eq_zero_iff`): this is the test that tells `false`
and `nil` from every other word.

Header words hold flag bits and small fields side by side. When the bits of one flag miss a
mask, setting them leaves what the mask reads (`or_and_of_and_eq_zero`), and a number below
`2^w` written into a field of `w` bits reads back (`field_roundtrip`).
-/

set_option autoImplicit false
set_option relaxedAutoImplicit false

namespace RubyLayout.Bits

/-- Masking the low `k` bits keeps the word's number modulo `2^k`. -/
theorem toNat_and_lowMask (v m : UInt64) {k : Nat} (hm : m.toNat = 2 ^ k - 1) :
    (v &&& m).toNat = v.toNat % 2 ^ k := by
  rw [UInt64.toNat_and, hm, Nat.and_two_pow_sub_one_eq_mod]

/-- Clearing the low `k` bits rounds the word's number down to a multiple of `2^k`. -/
theorem toNat_and_not_lowMask (v m : UInt64) {k : Nat} (hk : k ≤ 64) (hm : m.toNat = 2 ^ k - 1) :
    (v &&& ~~~m).toNat = v.toNat - v.toNat % 2 ^ k := by
  have hsplit : (v &&& m) + (v &&& ~~~m) = v := by
    apply UInt64.toBitVec_inj.mp
    rw [UInt64.toBitVec_add, UInt64.toBitVec_and, UInt64.toBitVec_and, UInt64.toBitVec_not,
      BitVec.add_eq_or_of_and_eq_zero]
    · rw [← BitVec.and_or_distrib_left, BitVec.or_not_self, BitVec.and_allOnes]
    · rw [BitVec.and_assoc, BitVec.and_comm m.toBitVec, BitVec.and_assoc,
        BitVec.and_comm (~~~_), BitVec.and_not_self]
      simp
  have hn := congrArg UInt64.toNat hsplit
  rw [UInt64.toNat_add, toNat_and_lowMask v m hm] at hn
  have hlt := (v &&& ~~~m).toNat_lt
  have hvlt := v.toNat_lt
  have hpow : 2 ^ k ≤ 2 ^ 64 := Nat.pow_le_pow_right (by decide) hk
  have hmod := Nat.mod_le v.toNat (2 ^ k)
  omega

/-- Setting bits below `2^k` in a word whose low `k` bits are clear adds them. -/
theorem toNat_or_of_lt (a c : UInt64) {k : Nat} (ha : a.toNat % 2 ^ k = 0)
    (hc : c.toNat < 2 ^ k) : (a ||| c).toNat = a.toNat + c.toNat := by
  have hdiv : a.toNat = (a.toNat / 2 ^ k) <<< k := by
    rw [Nat.shiftLeft_eq]
    exact (Nat.div_mul_cancel (Nat.dvd_of_mod_eq_zero ha)).symm
  rw [UInt64.toNat_or, hdiv, ← Nat.shiftLeft_add_eq_or_of_lt hc]

/-- A test of the low `k` bits against a pattern is a congruence modulo `2^k`. -/
theorem and_lowMask_eq_iff {v m c : UInt64} {k : Nat} (hm : m.toNat = 2 ^ k - 1) :
    v &&& m = c ↔ v.toNat % 2 ^ k = c.toNat := by
  rw [← UInt64.toNat_inj, toNat_and_lowMask v m hm]

/-- A word whose number is `2^j` is the bit vector with bit `j` alone. -/
theorem toBitVec_eq_twoPow {N : UInt64} {j : Nat} (hj : j < 64) (hN : N.toNat = 2 ^ j) :
    N.toBitVec = BitVec.twoPow 64 j := by
  apply BitVec.eq_of_toNat_eq
  rw [BitVec.toNat_twoPow, Nat.mod_eq_of_lt (Nat.pow_lt_pow_right (by decide) hj)]
  exact hN

/-- Clearing the single bit `N = 2^j` leaves nothing exactly for `0` and for `N`. -/
theorem and_not_twoPow_eq_zero_iff (v : UInt64) {N : UInt64} {j : Nat} (hj : j < 64)
    (hN : N.toNat = 2 ^ j) : v &&& ~~~N = 0 ↔ v = 0 ∨ v = N := by
  have hNb := toBitVec_eq_twoPow hj hN
  constructor
  · intro h
    have hbit : ∀ i, i ≠ j → v.toBitVec.getLsbD i = false := by
      intro i hi
      have hi' := congrArg (fun x : UInt64 ↦ x.toBitVec.getLsbD i) h
      simp only [UInt64.toBitVec_and, UInt64.toBitVec_not, hNb, BitVec.getLsbD_and,
        BitVec.getLsbD_not, BitVec.getLsbD_twoPow, UInt64.toBitVec_zero,
        BitVec.getLsbD_zero] at hi'
      by_cases hlt : i < 64
      · simpa [hlt, Ne.symm hi] using hi'
      · exact BitVec.getLsbD_of_ge _ _ (by omega)
    by_cases hv : v.toBitVec.getLsbD j
    · right
      apply UInt64.toBitVec_inj.mp
      rw [hNb]
      apply BitVec.eq_of_getLsbD_eq
      intro i hi
      by_cases hij : i = j
      · subst hij
        simp [hv, hi]
      · simp [hbit i hij, BitVec.getLsbD_twoPow, Ne.symm hij]
    · left
      apply UInt64.toBitVec_inj.mp
      apply BitVec.eq_of_getLsbD_eq
      intro i _
      by_cases hij : i = j
      · subst hij
        simpa using hv
      · simp [hbit i hij]
  · rintro (rfl | rfl)
    · simp
    · apply UInt64.toBitVec_inj.mp
      simp

/-- A word test with `!=` is the decision of the inequality. -/
theorem bne_eq_decide (a b : UInt64) : (a != b) = decide (a ≠ b) := by
  rw [Bool.eq_iff_iff, bne_iff_ne, decide_eq_true_iff]

/-- An equality test of words is an equality of their numbers. -/
theorem beq_iff_toNat (v c : UInt64) : (v == c) = true ↔ v.toNat = c.toNat := by
  rw [beq_iff_eq, UInt64.toNat_inj]

/-! ### Flag bits and fields -/

/-- Masking distributes over a union of bits. -/
theorem or_and (a b m : UInt64) : (a ||| b) &&& m = (a &&& m) ||| (b &&& m) := by
  apply UInt64.toNat_inj.mp
  rw [UInt64.toNat_and, UInt64.toNat_or, UInt64.toNat_or, UInt64.toNat_and, UInt64.toNat_and,
    Nat.and_or_distrib_right]

/-- Bits kept by a mask that misses `k` miss `k` too. -/
theorem and_and_eq_zero (x : UInt64) {M k : UInt64} (h : M &&& k = 0) : x &&& M &&& k = 0 := by
  rw [UInt64.and_assoc, h, UInt64.and_zero]

/-- Bits added outside a mask leave what the mask reads. -/
theorem or_and_of_and_eq_zero (w : UInt64) {x m : UInt64} (h : x &&& m = 0) :
    (w ||| x) &&& m = w &&& m := by
  rw [or_and, h, UInt64.or_zero]

/-- Bits inside a mask miss all bits outside it. -/
theorem and_eq_zero_of_within {c k T : UInt64} (hc : c &&& T = c) (hk : k &&& T = 0) :
    c &&& k = 0 := by
  rw [← hc, UInt64.and_assoc, UInt64.and_comm T, hk, UInt64.and_zero]

theorem or_ne_zero_of_right (a : UInt64) {b : UInt64} (h : b ≠ 0) : a ||| b ≠ 0 := by
  intro hab
  apply h
  apply UInt64.toNat_inj.mp
  have hn := congrArg UInt64.toNat hab
  rw [UInt64.toNat_or, UInt64.toNat_zero, Nat.or_eq_zero_iff] at hn
  rw [hn.2, UInt64.toNat_zero]

/-- A number below `2^w` written into a field of `w` bits at shift `s` reads back. -/
theorem field_roundtrip {M s : UInt64} {w : Nat} (hM : M.toNat = (2 ^ w - 1) * 2 ^ s.toNat)
    (hw : 0 < w) (hs : s.toNat + w ≤ 64) {x : UInt64} (hx : x.toNat < 2 ^ w) :
    (x <<< s &&& M) >>> s = x := by
  have hs64 : s.toNat < 64 := by omega
  have hfit : x.toNat * 2 ^ s.toNat < 2 ^ 64 := by
    calc x.toNat * 2 ^ s.toNat < 2 ^ w * 2 ^ s.toNat :=
          Nat.mul_lt_mul_of_pos_right hx (Nat.two_pow_pos _)
      _ = 2 ^ (w + s.toNat) := (Nat.pow_add 2 w s.toNat).symm
      _ ≤ 2 ^ 64 := Nat.pow_le_pow_right (by decide) (by omega)
  apply UInt64.toNat_inj.mp
  rw [UInt64.toNat_shiftRight, UInt64.toNat_and, UInt64.toNat_shiftLeft, hM,
    Nat.mod_eq_of_lt hs64, Nat.shiftLeft_eq, Nat.mod_eq_of_lt hfit,
    ← Nat.shiftLeft_eq, ← Nat.shiftLeft_eq, ← Nat.shiftLeft_and_distrib,
    Nat.and_two_pow_sub_one_eq_mod, Nat.mod_eq_of_lt hx, Nat.shiftLeft_shiftRight]

end RubyLayout.Bits
