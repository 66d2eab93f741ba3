import RubyLayout.Heap.Basic
import RubyLayout.Proofs.Objects

/-!
# Choosing a slot size

The pools of a collector layout have the slot sizes `base * 2^i` for `i` below the pool count,
and `slotSize` tries them from the smallest, with shifts that give zero past the width of a
word; `maxSlotSize` computes the largest as one shift by `count - 1`. The two agree when the
layout is well sized: a positive base, at least one pool, and a largest pool that fits in a
word. Then no shift overflows, the sizes tried are exactly the pool sizes, and a request of
`n` bytes gets the least pool size that holds it when `n` is at most `maxSlotSize`, and the
slot-size error naming `maxSlotSize` otherwise. With no pool at all every request fails.

Main statement: `slotSize_picks_smallest_pool`.
-/

set_option autoImplicit false
set_option relaxedAutoImplicit false

namespace RubyLayout

namespace GcLayout

/-- Pool sizes that need no overflowing shift: a positive base, at least one pool, and a largest
pool `base * 2^(count - 1)` that fits in a word. -/
def WellSized (g : GcLayout) : Prop :=
  0 < g.baseSlotSize ∧ 0 < g.sizePoolCount ∧
    g.baseSlotSize.toNat * 2 ^ (g.sizePoolCount.toNat - 1) < 2 ^ 64

instance (g : GcLayout) : Decidable g.WellSized :=
  inferInstanceAs (Decidable (_ ∧ _ ∧ _))

/-- The pool sizes that hold `n` bytes. -/
def poolsHolding (g : GcLayout) (n : Nat) : Set Nat :=
  {s | ∃ i < g.sizePoolCount.toNat, s = g.baseSlotSize.toNat * 2 ^ i ∧ n ≤ s}

namespace WellSized

variable {g : GcLayout} (hg : g.WellSized)
include hg

/-- A positive base leaves room for at most 64 pools. -/
theorem count_le : g.sizePoolCount.toNat ≤ 64 := by
  obtain ⟨hbase, -, hfit⟩ := hg
  have hone : 1 ≤ g.baseSlotSize.toNat := UInt64.lt_iff_toNat_lt.mp hbase
  have hpow : 2 ^ (g.sizePoolCount.toNat - 1) < 2 ^ 64 :=
    Nat.lt_of_le_of_lt (Nat.le_mul_of_pos_left _ hone) hfit
  have := (Nat.pow_lt_pow_iff_right (by decide : 1 < 2)).mp hpow
  omega

/-- There is at least one pool. -/
theorem count_pos : 0 < g.sizePoolCount.toNat := UInt64.lt_iff_toNat_lt.mp hg.2.1

omit hg in
/-- Every pool size is at most the largest. -/
theorem pool_le_last {i : Nat} (hi : i < g.sizePoolCount.toNat) :
    g.baseSlotSize.toNat * 2 ^ i ≤ g.baseSlotSize.toNat * 2 ^ (g.sizePoolCount.toNat - 1) :=
  Nat.mul_le_mul_left _ (Nat.pow_le_pow_right (by decide) (by omega))

/-- Shifting the base by `i` below the count loses no bit. -/
theorem toNat_shl_base {i : Nat} (hi : i < g.sizePoolCount.toNat) :
    (g.baseSlotSize <<< i.toUInt64).toNat = g.baseSlotSize.toNat * 2 ^ i := by
  have hi64 : i < 64 := Nat.lt_of_lt_of_le hi hg.count_le
  have hfits : g.baseSlotSize.toNat * 2 ^ i < 2 ^ 64 :=
    Nat.lt_of_le_of_lt (pool_le_last hi) hg.2.2
  have hshift : i.toUInt64.toNat % 64 = i := by
    rw [Nat.toUInt64_eq, UInt64.toNat_ofNat', Nat.mod_eq_of_lt (by omega : i < 2 ^ 64),
      Nat.mod_eq_of_lt hi64]
  rw [UInt64.toNat_shiftLeft, hshift, Nat.shiftLeft_eq, Nat.mod_eq_of_lt hfits]

/-- The pool `i` below the count has the size `base * 2^i`. -/
theorem toNat_pool {i : Nat} (hi : i < g.sizePoolCount.toNat) :
    (Word.shl g.baseSlotSize i.toUInt64).toNat = g.baseSlotSize.toNat * 2 ^ i := by
  have hi64 : i.toUInt64 < 64 := by
    have := hg.count_le
    rw [UInt64.lt_iff_toNat_lt, Nat.toUInt64_eq, UInt64.toNat_ofNat']
    exact Nat.lt_of_le_of_lt (Nat.mod_le _ _) (by simp only [UInt64.reduceToNat]; omega)
  rw [Word.shl_of_lt hi64, hg.toNat_shl_base hi]

/-- The largest slot is the last pool size. -/
theorem toNat_maxSlotSize :
    g.maxSlotSize.toNat = g.baseSlotSize.toNat * 2 ^ (g.sizePoolCount.toNat - 1) := by
  have hcount : 1 ≤ g.sizePoolCount := hg.2.1
  have hlast : (g.sizePoolCount - 1).toNat = g.sizePoolCount.toNat - 1 := by
    rw [UInt64.toNat_sub_of_le _ _ hcount, UInt64.toNat_one]
  have hlt : g.sizePoolCount.toNat - 1 < g.sizePoolCount.toNat := by
    have := hg.count_pos
    omega
  have h64 : g.sizePoolCount.toNat - 1 < 64 := Nat.lt_of_lt_of_le hlt hg.count_le
  unfold maxSlotSize
  dsimp only
  rw [hlast, if_pos h64, hg.toNat_shl_base hlt]

end WellSized

end GcLayout

namespace Heap

open GcLayout

/-- On a well-sized layout a request gets the first pool size that holds it, or, when no pool
holds it, the slot-size error. -/
theorem slotSize_spec {g : GcLayout} (hg : g.WellSized) (n : Nat) :
    (∃ i < g.sizePoolCount.toNat, n ≤ g.baseSlotSize.toNat * 2 ^ i ∧
        (∀ j < i, g.baseSlotSize.toNat * 2 ^ j < n) ∧
        slotSize g n = .ok (g.baseSlotSize.toNat * 2 ^ i)) ∨
      ((∀ i < g.sizePoolCount.toNat, g.baseSlotSize.toNat * 2 ^ i < n) ∧
        slotSize g n = .error (.slotTooLarge n g.maxSlotSize)) := by
  have hpools : min g.sizePoolCount.toNat 65 = g.sizePoolCount.toNat :=
    Nat.min_eq_left (Nat.le_trans hg.count_le (by decide))
  unfold slotSize
  dsimp only
  rw [hpools]
  cases hf : (List.range g.sizePoolCount.toNat).find?
      (fun i => decide (n ≤ (Word.shl g.baseSlotSize i.toUInt64).toNat)) with
  | none =>
    refine .inr ⟨fun i hi => ?_, rfl⟩
    have hnot := List.find?_eq_none.mp hf i (List.mem_range.mpr hi)
    rw [hg.toNat_pool hi] at hnot
    simpa using hnot
  | some i =>
    obtain ⟨hfit, k, hk, hki, hbefore⟩ := List.find?_eq_some_iff_getElem.mp hf
    simp only [List.length_range, List.getElem_range] at hk hki hbefore
    subst hki
    rw [hg.toNat_pool hk] at hfit
    refine .inl ⟨k, hk, by simpa using hfit, fun j hj => ?_, by dsimp only; rw [hg.toNat_pool hk]⟩
    have hnot := hbefore j hj
    rw [hg.toNat_pool (Nat.lt_trans hj hk)] at hnot
    simpa using hnot

/-- A request no larger than the largest slot gets the least pool size that holds it. -/
theorem slotSize_of_le_maxSlotSize {g : GcLayout} (hg : g.WellSized) {n : Nat}
    (hn : n ≤ g.maxSlotSize.toNat) :
    ∃ s, slotSize g n = .ok s ∧ IsLeast (g.poolsHolding n) s := by
  rcases slotSize_spec hg n with ⟨i, hi, hfit, hbefore, hslot⟩ | ⟨hnone, -⟩
  · refine ⟨_, hslot, ⟨i, hi, rfl, hfit⟩, ?_⟩
    rintro s ⟨j, hj, rfl, hjfit⟩
    by_cases hji : j < i
    · exact absurd hjfit (Nat.not_le.mpr (hbefore j hji))
    · exact Nat.mul_le_mul_left _ (Nat.pow_le_pow_right (by decide) (Nat.le_of_not_lt hji))
  · have hlast := hnone (g.sizePoolCount.toNat - 1) (by have := hg.count_pos; omega)
    rw [← hg.toNat_maxSlotSize] at hlast
    omega

/-- A request larger than the largest slot fails with the slot-size error. -/
theorem slotSize_of_maxSlotSize_lt {g : GcLayout} (hg : g.WellSized) {n : Nat}
    (hn : g.maxSlotSize.toNat < n) :
    slotSize g n = .error (.slotTooLarge n g.maxSlotSize) := by
  rcases slotSize_spec hg n with ⟨i, hi, hfit, -, -⟩ | ⟨-, hslot⟩
  · have hle := WellSized.pool_le_last hi
    rw [← hg.toNat_maxSlotSize] at hle
    omega
  · exact hslot

/-- With no pool there is no slot at all. -/
theorem slotSize_of_count_zero {g : GcLayout} (hg : g.sizePoolCount = 0) (n : Nat) :
    slotSize g n = .error (.slotTooLarge n g.maxSlotSize) := by
  unfold slotSize
  simp [hg]

/-- A request gets the smallest pool that holds it. On a well-sized layout the largest slot is
`base * 2^(count - 1)`; a request no larger gets the least pool size `base * 2^i`, `i` below the
count, that holds it, and a larger one the slot-size error. With no pool every request fails. -/
theorem slotSize_picks_smallest_pool (g : GcLayout) (n : Nat) :
    (g.sizePoolCount = 0 → slotSize g n = .error (.slotTooLarge n g.maxSlotSize)) ∧
      (g.WellSized →
        g.maxSlotSize.toNat = g.baseSlotSize.toNat * 2 ^ (g.sizePoolCount.toNat - 1) ∧
        (n ≤ g.maxSlotSize.toNat → ∃ s, slotSize g n = .ok s ∧ IsLeast (g.poolsHolding n) s) ∧
        (g.maxSlotSize.toNat < n → slotSize g n = .error (.slotTooLarge n g.maxSlotSize))) :=
  ⟨fun hg => slotSize_of_count_zero hg n,
    fun hg => ⟨hg.toNat_maxSlotSize, slotSize_of_le_maxSlotSize hg, slotSize_of_maxSlotSize_lt hg⟩⟩

/-- Five pools of 40 bytes and up: 100 bytes get a slot of the least pool size holding them. -/
theorem slotSize_picks_smallest_pool_of_five_pools :
    GcLayout.WellSized ⟨40, 5⟩ ∧ 100 ≤ (GcLayout.maxSlotSize ⟨40, 5⟩).toNat ∧
      ∃ s, slotSize ⟨40, 5⟩ 100 = .ok s ∧ IsLeast (GcLayout.poolsHolding ⟨40, 5⟩ 100) s :=
  have hg : GcLayout.WellSized ⟨40, 5⟩ := by decide
  have hn : 100 ≤ (GcLayout.maxSlotSize ⟨40, 5⟩).toNat := by decide
  ⟨hg, hn, ((slotSize_picks_smallest_pool ⟨40, 5⟩ 100).2 hg).2.1 hn⟩

end Heap

end RubyLayout
