import RubyLayout.Proofs.Integers

/-!
# The fixnum codec

A fixnum tags an integer `i` as the word `2 i + 1`. The word is made by shifting the 64-bit
two's complement of `i` left by one, which drops its top bit, and read back by an arithmetic
right shift of the word taken as a signed number. So the codec keeps exactly the low 63 bits:
reading back the fixnum of any integer gives that integer sign-extended from its low 63 bits
(`Word.signed_shiftLeft_ofInt_or_one`), which is the integer itself exactly on the fixnum window
`[-2^62, 2^62 - 1]`, half the range of a machine integer (`bmod_eq_self_iff_fixable`).

In the other direction every odd word is the fixnum of the integer it reads back as
(`Heap.fixnumOf_shiftRight_signed`), so tagging is a bijection from the window onto the words
with the fixnum bit (`Heap.fixnumOf_bijOn`).

Main statement: `fixnum_codec`, for the plain accessors of every release used directly.
-/

set_option autoImplicit false
set_option relaxedAutoImplicit false

namespace RubyLayout

namespace Word

/-- Shifting the word of `i` left by one and setting the low bit keeps the low 63 bits of `i`:
read as a signed number it is `2 j + 1`, with `j` the integer `i` sign-extended from those
bits. -/
theorem signed_shiftLeft_ofInt_or_one (i : Int) :
    signed ((ofInt i <<< 1) ||| 1) = 2 * Int.bmod i (2 ^ 63) + 1 := by
  have hx := toNat_ofInt_emod i
  rw [signed_eq_bmod, toNat_shiftLeft_one_or_one]
  unfold Int.bmod
  dsimp only
  split <;> split <;> omega

/-- Shifting a signed word right by one drops its low bit and halves the rest. -/
theorem shiftRight_signed_eq (w : UInt64) :
    Int.shiftRight (signed w) 1 = (signed w - signed w % 2) / 2 :=
  (Int.shiftRight_eq_div_pow (signed w) 1).trans (by omega)

end Word

/-- An integer is its own sign extension from 63 bits exactly when it fits a fixnum. -/
theorem bmod_eq_self_iff_fixable (i : Int) :
    Int.bmod i (2 ^ 63) = i ↔ Accessors.fixable i = true := by
  have hmin : fixnumMin = -2 ^ 62 := rfl
  have hmax : fixnumMax = 2 ^ 62 - 1 := rfl
  rw [Accessors.fixable_iff, hmin, hmax]
  unfold Int.bmod
  dsimp only
  split <;> omega

namespace Heap

variable (r : Release)

/-- The fixnum of any integer, read as a signed word, is twice the integer's sign extension from
63 bits, plus one. -/
theorem signed_fixnumOf_bmod (i : Int) :
    Word.signed (fixnumOf r.facts i) = 2 * Int.bmod i (2 ^ 63) + 1 := by
  rw [fixnumOf_eq, Word.signed_shiftLeft_ofInt_or_one]

/-- Reading back the fixnum of any integer gives its sign extension from 63 bits. -/
theorem shiftRight_fixnumOf_bmod (i : Int) :
    Int.shiftRight (Word.signed (fixnumOf r.facts i)) 1 = Int.bmod i (2 ^ 63) := by
  rw [signed_fixnumOf_bmod]
  exact (Int.shiftRight_eq_div_pow _ 1).trans (by omega)

/-- Past the window the codec wraps: the fixnum of `2^62` reads back as `-2^62`. -/
example : Int.shiftRight (Word.signed (fixnumOf Release.v34.facts (2 ^ 62))) 1 = -2 ^ 62 := by
  decide

/-- A word with the fixnum bit reads back as an integer of the window. -/
theorem fixable_shiftRight_signed {v : Value} (hv : r.facts.isFixnum v = true) :
    Accessors.fixable (Int.shiftRight (Word.signed v) 1) = true := by
  obtain ⟨n, u, hs, -⟩ := Release.specials_eq r
  have hodd := (Facts.isFixnum_iff hs v).mp hv
  have hmin : fixnumMin = -2 ^ 62 := rfl
  have hmax : fixnumMax = 2 ^ 62 - 1 := rfl
  have hlt := v.toNat_lt
  rw [Accessors.fixable_iff, Word.shiftRight_signed_eq, Word.signed_eq_bmod, hmin, hmax]
  unfold Int.bmod
  dsimp only
  split <;> omega

/-- A word with the fixnum bit is the fixnum of the integer it reads back as. -/
theorem fixnumOf_shiftRight_signed {v : Value} (hv : r.facts.isFixnum v = true) :
    fixnumOf r.facts (Int.shiftRight (Word.signed v) 1) = v := by
  obtain ⟨n, u, hs, -⟩ := Release.specials_eq r
  have hodd := (Facts.isFixnum_iff hs v).mp hv
  have hlt := v.toNat_lt
  set j := Int.shiftRight (Word.signed v) 1 with hj
  have hx := Word.toNat_ofInt_emod j
  rw [Word.shiftRight_signed_eq, Word.signed_eq_bmod] at hj
  apply UInt64.toNat_inj.mp
  rw [fixnumOf_eq, Word.toNat_shiftLeft_one_or_one]
  unfold Int.bmod at hj
  dsimp only at hj
  split at hj <;> omega

/-- Tagging is a bijection from the fixnum window onto the words with the fixnum bit. -/
theorem fixnumOf_bijOn :
    Set.BijOn (fixnumOf r.facts) {i | Accessors.fixable i = true}
      {v | r.facts.isFixnum v = true} := by
  refine ⟨fun i _ ↦ isFixnum_fixnumOf r i, ?_, ?_⟩
  · intro i hi j hj hij
    have hi' := (Accessors.fixable_iff (i := i)).mp hi
    have hj' := (Accessors.fixable_iff (i := j)).mp hj
    rw [← shiftRight_fixnumOf r hi'.1 hi'.2, ← shiftRight_fixnumOf r hj'.1 hj'.2, hij]
  · intro v hv
    exact ⟨_, fixable_shiftRight_signed r hv, fixnumOf_shiftRight_signed r hv⟩

end Heap

/-! ### The codec through the unchecked plain accessors -/

namespace Api

variable (r : Release) (m : Memory)

/-- The plain accessors of `r` used directly, as an extension built without assertions sees
them. -/
abbrev uncheckedPlain : Api := Api.ofRelease r false .unchecked

theorem longToFix_uncheckedPlain (i : Int) :
    (uncheckedPlain r).longToFix i = .ok (Heap.fixnumOf r.facts i) := rfl

theorem fixToLong_uncheckedPlain (v : Value) :
    (uncheckedPlain r).fixToLong m v = .ok (Int.shiftRight (Word.signed v) 1) := rfl

end Api

/-- The fixnum codec of every release, through the plain accessors used directly.

* The window is half the machine range: `[longMin >> 1, longMax >> 1] = [-2^62, 2^62 - 1]`, and
  an integer is fixable exactly when it lies in it.
* Every integer's fixnum has the fixnum bit and is the heap's own fixnum of it, and reads back
  as the integer sign-extended from its low 63 bits, which is the integer exactly when it is
  fixable.
* Every word with the fixnum bit reads back as a fixable integer whose fixnum is the word, so
  tagging is a bijection from the window onto those words.
* The unsigned reading of a word is the two's complement word of its signed reading.
* An unsigned integer is fixable exactly when it is at most the largest fixnum. -/
theorem fixnum_codec (r : Release) (m : Memory) :
    (Int.shiftRight longMax 1 = fixnumMax ∧ Int.shiftRight longMin 1 = fixnumMin ∧
      fixnumMax = 2 ^ 62 - 1 ∧ fixnumMin = -2 ^ 62 ∧
      ∀ i, Accessors.fixable i = true ↔ fixnumMin ≤ i ∧ i ≤ fixnumMax) ∧
    (∀ i, (Api.uncheckedPlain r).longToFix i = .ok (Heap.fixnumOf r.facts i) ∧
      r.facts.isFixnum (Heap.fixnumOf r.facts i) = true ∧
      (Api.uncheckedPlain r).fixToLong m (Heap.fixnumOf r.facts i) = .ok (Int.bmod i (2 ^ 63)) ∧
      (Int.bmod i (2 ^ 63) = i ↔ Accessors.fixable i = true)) ∧
    (∀ v, r.facts.isFixnum v = true → ∃ i, (Api.uncheckedPlain r).fixToLong m v = .ok i ∧
      Accessors.fixable i = true ∧ (Api.uncheckedPlain r).longToFix i = .ok v) ∧
    Set.BijOn (Heap.fixnumOf r.facts) {i | Accessors.fixable i = true}
      {v | r.facts.isFixnum v = true} ∧
    (∀ v, (Api.uncheckedPlain r).fixToULong m v =
      Word.ofInt <$> (Api.uncheckedPlain r).fixToLong m v) ∧
    (∀ u, Accessors.posFixable u = true ↔ (u.toNat : Int) ≤ fixnumMax) := by
  refine ⟨⟨by decide, by decide, rfl, rfl, fun i ↦ Accessors.fixable_iff⟩, ?_, ?_,
    Heap.fixnumOf_bijOn r, fun v ↦ rfl, fun u ↦ decide_eq_true_iff⟩
  · intro i
    refine ⟨Api.longToFix_uncheckedPlain r i, Heap.isFixnum_fixnumOf r i, ?_,
      bmod_eq_self_iff_fixable i⟩
    rw [Api.fixToLong_uncheckedPlain, Heap.shiftRight_fixnumOf_bmod]
  · intro v hv
    refine ⟨_, Api.fixToLong_uncheckedPlain r m v, Heap.fixable_shiftRight_signed r hv, ?_⟩
    rw [Api.longToFix_uncheckedPlain, Heap.fixnumOf_shiftRight_signed r hv]

end RubyLayout
