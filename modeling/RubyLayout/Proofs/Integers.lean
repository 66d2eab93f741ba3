import RubyLayout.Proofs.Arrays

/-!
# Integers across the fixnum window

An integer becomes a value in one of two ways. Inside the fixnum window it is a fixnum, the word
of `2 i + 1`; outside it the heap builds a bignum object, with the sign in the header flags and
the integer in the heap's table of bignums. Reading a value back goes the other way: a fixnum by
an arithmetic shift, a bignum by asking the heap, which checks the range of the result.

Main statement: `integer_promotion_round_trips`. On a sound heap of any release, with room for
the bignums it allocates, a signed machine integer becomes a fixnum exactly when it fits the
window and a bignum of its sign otherwise, and reads back as itself, or as its two's complement
when read unsigned. An unsigned one becomes a fixnum exactly when it fits, and reads back as
itself unsigned, and signed when it is at most the largest signed integer, with a range error
otherwise. An integer of any size becomes a fixnum exactly in the window and otherwise a bignum
holding it, whose sign the accessors read and which the heap reads back in range and refuses out
of it.

The fixnum side is arithmetic on words: in the window, the word of `i` read as a signed number is
`2 i + 1` (`Heap.signed_fixnumOf`), so the shift gives `i` back. On the bignum side, `bignum`
succeeds at the aligned bump pointer of a sound heap with room and leaves a `BignumObject`
(`Heap.exec_bignum_of_room`). The accessors read that object as a bignum with the sign of its
integer (`BignumObject.reads`), and the heap reads the integer back through its range checks
(`BignumObject.num2Long_eq`, `BignumObject.num2ULong_eq`).
-/

set_option autoImplicit false
set_option relaxedAutoImplicit false

namespace RubyLayout

open Memory

/-! ### Words as integers -/

namespace Word

/-- The signed reading of a word is its number brought into `[-2^63, 2^63)` modulo `2^64`. -/
theorem signed_eq_bmod (w : UInt64) : signed w = Int.bmod w.toNat (2 ^ 64) := by
  unfold signed
  rw [← Int64.toInt_toBitVec, UInt64.toBitVec_toInt64, BitVec.toInt_eq_toNat_bmod]
  rfl

theorem toNat_ofInt_emod (i : Int) : ((ofInt i).toNat : Int) = i % 2 ^ 64 := by
  have hpow : Int.pow 2 64 = 2 ^ 64 := rfl
  unfold ofInt
  rw [hpow, Nat.toUInt64_eq, UInt64.toNat_ofNat']
  have h0 : 0 ≤ i % 2 ^ 64 := Int.emod_nonneg _ (by decide)
  have h1 : i % 2 ^ 64 < 2 ^ 64 := Int.emod_lt_of_pos _ (by decide)
  omega

/-- An unsigned word is the word of its own number. -/
theorem ofInt_toNat (u : UInt64) : ofInt u.toNat = u := by
  apply UInt64.toNat_inj.mp
  have hu := u.toNat_lt
  have hw := toNat_ofInt_emod u.toNat
  omega

/-- Shifting a word left and setting the low bit gives the odd number above its low 63 bits
doubled. -/
theorem toNat_shiftLeft_one_or_one (x : UInt64) :
    ((x <<< 1) ||| 1).toNat = 2 * (x.toNat % 2 ^ 63) + 1 := by
  have h1 : (1 : UInt64).toNat % 64 = 1 := rfl
  have hshift : (x <<< 1).toNat = (x.toNat % 2 ^ 63) <<< 1 := by
    rw [UInt64.toNat_shiftLeft, h1, Nat.shiftLeft_eq, Nat.shiftLeft_eq]
    omega
  rw [UInt64.toNat_or, hshift, UInt64.toNat_one, ← Nat.shiftLeft_add_eq_or_of_lt (by decide),
    Nat.shiftLeft_eq]
  omega

end Word

/-! ### Fixnums -/

theorem Release.fixnumFlag_eq (r : Release) : r.facts.specials.fixnumFlag = 1 := by
  cases r <;> rfl

/-- Every release keeps one header layout: flags first, class second, a five-bit type code. -/
theorem Release.header_eq (r : Release) : r.facts.header =
    { flagsOffset := 0, klassOffset := 8, typeMask := 0x1f, freeze := 0x800, ushift := 12,
      bignumSign := 0x2000 } := by
  cases r <;> rfl

namespace Heap

variable (r : Release)

theorem fixnumOf_eq (i : Int) : fixnumOf r.facts i = (Word.ofInt i <<< 1) ||| 1 := by
  rw [fixnumOf, Release.fixnumFlag_eq]

/-- In the fixnum window, the word of `i` read as a signed number is `2 i + 1`. -/
theorem signed_fixnumOf {i : Int} (hlo : fixnumMin ≤ i) (hhi : i ≤ fixnumMax) :
    Word.signed (fixnumOf r.facts i) = 2 * i + 1 := by
  have hmin : fixnumMin = -2 ^ 62 := rfl
  have hmax : fixnumMax = 2 ^ 62 - 1 := rfl
  have hx := Word.toNat_ofInt_emod i
  rw [fixnumOf_eq, Word.signed_eq_bmod, Word.toNat_shiftLeft_one_or_one]
  unfold Int.bmod
  dsimp only
  split <;> omega

theorem isFixnum_fixnumOf (i : Int) : r.facts.isFixnum (fixnumOf r.facts i) = true := by
  obtain ⟨n, u, hs, -⟩ := Release.specials_eq r
  rw [Facts.isFixnum_iff hs, fixnumOf_eq, Word.toNat_shiftLeft_one_or_one]
  omega

/-- A fixnum of the window shifts back to its integer. -/
theorem shiftRight_fixnumOf {i : Int} (hlo : fixnumMin ≤ i) (hhi : i ≤ fixnumMax) :
    Int.shiftRight (Word.signed (fixnumOf r.facts i)) 1 = i := by
  rw [signed_fixnumOf r hlo hhi]
  exact (Int.shiftRight_eq_div_pow (2 * i + 1) 1).trans (by omega)

end Heap

namespace Accessors

variable (r : Release) (debug : Bool) {i : Int}

theorem fixable_iff : fixable i = true ↔ fixnumMin ≤ i ∧ i ≤ fixnumMax := by
  rw [fixable, decide_eq_true_iff]

theorem longToFix_of_fixable (hfix : fixable i = true) :
    (Accessors.mk r debug).longToFix i = .ok (Heap.fixnumOf r.facts i) := by
  simp only [longToFix, assert, hfix, Bool.not_true, Bool.and_false]
  rfl

theorem fixToLong_fixnumOf (hfix : fixable i = true) :
    (Accessors.mk r debug).fixToLong (Heap.fixnumOf r.facts i) = .ok i := by
  obtain ⟨hlo, hhi⟩ := (fixable_iff (i := i)).mp hfix
  simp only [fixToLong, assert, layout, Heap.isFixnum_fixnumOf, Bool.not_true, Bool.and_false,
    Heap.shiftRight_fixnumOf r hlo hhi]
  rfl

theorem fixToULong_fixnumOf (hfix : fixable i = true) :
    (Accessors.mk r debug).fixToULong (Heap.fixnumOf r.facts i) = .ok (Word.ofInt i) := by
  obtain ⟨hlo, hhi⟩ := (fixable_iff (i := i)).mp hfix
  simp only [fixToULong, assert, layout, Heap.isFixnum_fixnumOf, Bool.not_true, Bool.and_false,
    Heap.shiftRight_fixnumOf r hlo hhi]
  rfl

end Accessors

/-! ### Bignums -/

/-- The header word of the bignum of `x`: its type, the sign bit when `x` is not negative, and the
frozen bit. -/
def bignumHeader (f : Facts) (x : Int) : UInt64 :=
  TypeCode.bignum.code.toUInt64 ||| ((if x ≥ 0 then f.header.bignumSign else 0) ||| f.header.freeze)

/-- A bignum object of `x` at `v`: an aligned slot of the arena headed by the bignum header of `x`,
which the heap's table of bignums maps to `x`. -/
def BignumObject (f : Facts) (h : Heap) (v : Value) (x : Int) : Prop :=
  ∃ off, v = h.memory.base + off.toUInt64 ∧ off % 8 = 0 ∧ off + 40 ≤ h.memory.size ∧
    HoldsBytes h.memory off (Memory.wordBytes (bignumHeader f x)) ∧ h.bigValue v = some x

namespace Heap

variable {r : Release} {h : Heap}

/-- The number of digits of a nonzero magnitude, by its binary logarithm. -/
theorem length_magnitudeWords {n : Nat} (h0 : n ≠ 0) :
    (magnitudeWords n).length = (Nat.log2 n + 64) / 64 := by
  simp [magnitudeWords, h0]

theorem length_magnitudeWords_pos {n : Nat} (h0 : n ≠ 0) : 0 < (magnitudeWords n).length := by
  rw [length_magnitudeWords h0]
  omega

/-- A nonzero magnitude below `2^64` is one digit. -/
theorem length_magnitudeWords_of_lt {n : Nat} (h0 : n ≠ 0) (hn : n < 2 ^ 64) :
    (magnitudeWords n).length = 1 := by
  have hlog := (Nat.log2_lt h0).mpr hn
  rw [length_magnitudeWords h0]
  omega

/-- A bignum of a nonzero integer on a sound heap with room for its slot and its digits succeeds
at the aligned bump pointer, leaves a bignum object of the integer there, and keeps the heap
sound. -/
theorem exec_bignum_of_room (hs : Sound h r) {x : Int} (hx : x ≠ 0)
    (hroom : h.nextAligned + 40 + 8 * (magnitudeWords x.natAbs).length ≤ h.memory.size) :
    ∃ h', exec h (bignum x) = (.ok (h.memory.base + h.nextAligned.toUInt64), h') ∧ Sound h' r ∧
      BignumObject r.facts h' (h.memory.base + h.nextAligned.toUInt64) x := by
  have hlen := length_magnitudeWords_pos (n := x.natAbs) (by omega)
  have hslot : slotSize r.facts.gc (4 * (8 : UInt64).toNat) = .ok 40 := by cases r <;> rfl
  have hlim := hs.size_le
  unfold bignum
  rw [exec_bind_of_ok exec_getFacts]
  dsimp only
  rw [hs.facts_eq, Release.wordSize_eq]
  obtain ⟨h1, hobj⟩ := exec_object_ok hs hslot (by omega)
  obtain ⟨slot, hal, hslot', -, -, -, -, hbig⟩ := exec_object_spec hs hobj
  rw [hslot] at hslot'
  cases hslot'
  have hs1 : Sound h1 r := hs.of_sameArena hal.arena
  have hb1 : h1.memory.base = h.memory.base := hal.arena.base_eq
  have hsize := hal.arena.size_eq
  have haligned : h1.nextAligned = h.nextAligned + 40 :=
    (hs1.nextAligned_of_mod (by rw [hal.next_eq]; have := hs.nextAligned_mod; omega)).trans
      hal.next_eq
  rw [exec_bind_of_ok hobj]
  have h8 : (8 : UInt64).toNat = 8 := rfl
  rw [exec_bind, exec_raw, haligned, h8, if_neg (by omega), if_neg (by omega)]
  dsimp only
  rw [hb1]
  have h16 : (2 * 8 : UInt64).toNat = 16 := rfl
  have h24 : (3 * 8 : UInt64).toNat = 24 := rfl
  have hs2 := hs1.withNext (h.nextAligned + 40 + (magnitudeWords x.natAbs).length * 8)
  rw [exec_bind_of_ok (hs2.exec_writeBytes_off hb1 _ (by simp; omega))]
  have hs3 := hs2.withBytes (h.nextAligned + 40) (wordsBytes (magnitudeWords x.natAbs))
  rw [exec_bind_of_ok (hs3.exec_writeWord_at (by simp [hb1]) h.nextAligned (2 * 8)
    (by simp only [h16]; simp; omega))]
  have hs4 := hs3.withBytes (h.nextAligned + (2 * 8 : UInt64).toNat)
    (Memory.wordBytes (magnitudeWords x.natAbs).length.toUInt64)
  rw [exec_bind_of_ok (hs4.exec_writeWord_at (by simp [hb1]) h.nextAligned (3 * 8)
    (by simp only [h24]; simp; omega))]
  have hs5 := hs4.withBytes (h.nextAligned + (3 * 8 : UInt64).toNat)
    (Memory.wordBytes (h.memory.base + (h.nextAligned + 40).toUInt64))
  rw [exec_bind_of_ok (exec_modify _), exec_pure]
  refine ⟨_, rfl, ?_, ?_⟩
  · exact hs5.withBignums _
  refine ⟨h.nextAligned, by simp [hb1], hs.nextAligned_mod, ?_, ?_, ?_⟩
  · dsimp only
    simp only [size_withBytes]
    omega
  · dsimp only
    refine holdsBytes_withBytes_of_disjoint ?_ (Or.inl (by simp only [wordBytes_size, h24]; omega))
    refine holdsBytes_withBytes_of_disjoint ?_ (Or.inl (by simp only [wordBytes_size, h16]; omega))
    refine holdsBytes_withBytes_of_disjoint ?_ (Or.inl (by simp only [wordBytes_size]; omega))
    exact hal.header
  · unfold bigValue
    dsimp only
    simp only [List.find?_cons, beq_self_eq_true]
    rfl

/-- A bignum of a nonzero integer of at most 64 bits takes its slot and one word of digits. -/
theorem exec_bignum_of_word_room (hs : Sound h r) {x : Int} (hx : x ≠ 0) (hx64 : x.natAbs < 2 ^ 64)
    (hroom : h.nextAligned + 48 ≤ h.memory.size) :
    ∃ h', exec h (bignum x) = (.ok (h.memory.base + h.nextAligned.toUInt64), h') ∧ Sound h' r ∧
      BignumObject r.facts h' (h.memory.base + h.nextAligned.toUInt64) x :=
  exec_bignum_of_room hs hx (by rw [length_magnitudeWords_of_lt (by omega) hx64]; omega)

end Heap

/-! ### Reading bignums -/

open Heap

/-- Runs a host call on a heap: its outcome and the heap it leaves. -/
def HostM.exec {α : Type} (h : Heap) (x : HostM α) : Except AccessError α × Heap := x.run.run h

@[simp] theorem HostM.exec_ofAccess {α : Type} (h : Heap) (x : Access α) :
    HostM.exec h (HostM.ofAccess x) = (x, h) := rfl

/-- A heap operation as a host call: its failures become accessor failures. -/
theorem HostM.exec_ofHeap {α : Type} (h : Heap) (x : HeapM α) :
    HostM.exec h (HostM.ofHeap x) = ((Heap.exec h x).1.mapError .heap, (Heap.exec h x).2) := by
  unfold HostM.exec HostM.ofHeap Heap.exec
  rw [ExceptT.run_mk, StateT.run_bind]
  have e : ExceptT.run x h = StateT.run (ExceptT.run x) h := rfl
  rw [e]
  rcases StateT.run (ExceptT.run x) h with ⟨_ | a, h1⟩ <;> rfl

namespace BignumObject

variable {r : Release} {h : Heap} {v : Value} {x : Int}

theorem typeCode_eq (r : Release) (x : Int) :
    (⟨(bignumHeader r.facts x &&& r.facts.header.typeMask).toUInt32⟩ : TypeCode) = .bignum := by
  rw [bignumHeader, Release.header_eq]
  split <;> rfl

theorem sign_eq (r : Release) (x : Int) :
    (bignumHeader r.facts x &&& r.facts.header.bignumSign != 0) = decide (0 ≤ x) := by
  rw [bignumHeader, Release.header_eq]
  by_cases hx : x ≥ 0
  · rw [if_pos hx, decide_eq_true hx]
    rfl
  · rw [if_neg hx, decide_eq_false hx]
    rfl

theorem sign_eq_zero (r : Release) (x : Int) :
    (bignumHeader r.facts x &&& r.facts.header.bignumSign == 0) = decide (x < 0) := by
  have hpos := congrArg (!·) (sign_eq r x)
  simp only [bne, Bool.not_not] at hpos
  rw [hpos, ← decide_not]
  exact decide_eq_decide.mpr Int.not_le

/-- A bignum object is a heap reference, without the fixnum tag, whose flags every build reads
as its header word. -/
theorem flags_eq (hobj : BignumObject r.facts h v x) (hs : Sound h r) (debug : Bool) :
    r.facts.isSpecialConst v = false ∧ r.facts.isFixnum v = false ∧
      (Accessors.mk r debug).flags h.memory v = .ok (bignumHeader r.facts x) := by
  obtain ⟨off, rfl, hoff, hfit, hheader, -⟩ := hobj
  obtain ⟨hsc, hflags⟩ := Accessors.flags_of_holdsBytes r debug hs.base hs.mapped_le hheader hoff
  obtain ⟨n, u, hsp, -⟩ := Release.specials_eq r
  have hlim := hs.size_le
  have hal := hs.base.aligned
  unfold pageSize at hal
  refine ⟨hsc, ?_, hflags⟩
  rw [← Bool.not_eq_true, Facts.isFixnum_iff hsp, hs.base.toNat_add_off (by omega)]
  omega

/-- What the accessors of a release read from a bignum object, through either tier: it is not a
fixnum, it has the type of a bignum, and its sign is the sign of its integer. -/
theorem reads (api : Api) (hobj : BignumObject api.release.facts h v x)
    (hs : Sound h api.release) :
    api.layout.isFixnum v = false ∧ api.raw.rbType h.memory v = .ok .bignum ∧
      api.bignumPositiveP h.memory v = .ok (decide (0 ≤ x)) ∧
      api.bignumNegativeP h.memory v = .ok (decide (x < 0)) := by
  obtain ⟨hsc, hfix, hflags⟩ := flags_eq hobj hs api.debug
  change api.raw.flags h.memory v = _ at hflags
  have hreq := Api.requireType_eq_ok api hsc hflags (typeCode_eq api.release x)
  have hassert := Accessors.assertType_eq_ok (a := api.raw) hsc hflags (typeCode_eq api.release x)
  refine ⟨hfix, ?_, ?_, ?_⟩
  · rw [Accessors.rbType_eq (a := api.raw) hsc hflags]
    exact congrArg Except.ok (typeCode_eq api.release x)
  · unfold Api.bignumPositiveP Accessors.bignumPositiveP
    rw [Api.tier_eq_raw _ (hreq _), hassert, Accessors.ok_bind, hflags, Accessors.ok_bind]
    exact congrArg Except.ok (sign_eq api.release x)
  · unfold Api.bignumNegativeP Accessors.bignumNegativeP
    rw [Api.tier_eq_raw _ (hreq _), hassert, Accessors.ok_bind, hflags, Accessors.ok_bind]
    exact congrArg Except.ok (sign_eq_zero api.release x)

theorem bigValue_eq (hobj : BignumObject r.facts h v x) : h.bigValue v = some x := by
  obtain ⟨off, -, -, -, -, hbig⟩ := hobj
  exact hbig

theorem readWord_eq (hobj : BignumObject r.facts h v x) (hs : Sound h r) :
    h.memory.readWord (v + r.facts.header.flagsOffset) = .ok (bignumHeader r.facts x) := by
  obtain ⟨off, rfl, hoff, hfit, hheader, -⟩ := hobj
  have hlim := hs.size_le
  rw [Release.flagsOffset_eq, UInt64.add_zero]
  exact readWord_of_holdsBytes hheader (hs.base.toNat_add_off (by omega))

/-- The heap finds no float in a bignum object: it is no flonum, and its header is not that of a
float. -/
theorem exec_floatValue (hobj : BignumObject r.facts h v x) (hs : Sound h r) :
    exec h (floatValue v) = (.ok none, h) := by
  have hflo : ¬(r.facts.flonum = true ∧ v &&& r.facts.specials.flonumMask =
      r.facts.specials.flonumFlag) := by
    rintro ⟨hfl, hmask⟩
    obtain ⟨n, u, hsp, -⟩ := Release.specials_eq r
    have hflonum : r.facts.isFlonum v = true := by
      rw [Facts.isFlonum, hfl, hmask, Bool.true_and, beq_self_eq_true]
    obtain ⟨off, rfl, hoff, hfit, -, -⟩ := hobj
    have hlim := hs.size_le
    have hal := hs.base.aligned
    unfold pageSize at hal
    rw [Facts.isFlonum_iff hsp hfl, hs.base.toNat_add_off (by omega)] at hflonum
    omega
  have hnot : (bignumHeader r.facts x &&& r.facts.header.typeMask).toUInt32 ≠ TypeCode.float.code := by
    have hcode := congrArg TypeCode.code (typeCode_eq r x)
    dsimp only at hcode
    rw [hcode]
    decide
  unfold floatValue
  rw [exec_bind, exec_get]
  dsimp only
  rw [hs.facts_eq, if_neg hflo]
  split
  · rfl
  · rw [readWord_eq hobj hs]
    dsimp only
    rw [if_neg hnot]
    rfl

/-- The heap reads a bignum object as its integer when that fits a signed machine word, and
refuses it with a range error otherwise. -/
theorem num2Long_eq (hobj : BignumObject r.facts h v x) (hs : Sound h r) :
    exec h (num2Long v) = (if longMin ≤ x ∧ x ≤ longMax then .ok x
      else .error (.range v "bignum too big to convert into 'long'"), h) := by
  have hfix := (flags_eq hobj hs false).2.1
  have hbig := bigValue_eq hobj
  unfold num2Long
  rw [exec_bind, exec_get]
  dsimp only
  rw [hs.facts_eq, Heap.isFixnum, ← Facts.isFixnum, hfix, if_neg Bool.false_ne_true,
    exec_bind, exec_floatValue hobj hs]
  dsimp only
  rw [hbig]
  dsimp only
  by_cases hin : longMin ≤ x ∧ x ≤ longMax
  · rw [if_neg (by omega), if_pos hin]
    rfl
  · rw [if_pos (by omega), if_neg hin]
    rfl

/-- The heap reads a bignum object as an unsigned machine word when its integer lies between the
smallest signed and the largest unsigned machine integer: the integer itself when it is not
negative, its two's complement when it is; it refuses it with a range error otherwise. -/
theorem num2ULong_eq (hobj : BignumObject r.facts h v x) (hs : Sound h r) :
    exec h (num2ULong v) = (if longMin ≤ x ∧ x < 2 ^ 64 then .ok (Word.ofInt x)
      else .error (.range v "bignum out of range of unsigned long"), h) := by
  have hfix := (flags_eq hobj hs false).2.1
  have hbig := bigValue_eq hobj
  have hpow : Int.pow 2 64 = 2 ^ 64 := rfl
  have hmin : longMin = -2 ^ 63 := rfl
  unfold num2ULong
  rw [exec_bind, exec_get]
  dsimp only
  rw [hs.facts_eq, Heap.isFixnum, ← Facts.isFixnum, hfix, if_neg Bool.false_ne_true, hbig]
  dsimp only
  rw [hpow]
  by_cases hnat : 0 ≤ x ∧ x < 2 ^ 64
  · rw [if_pos hnat, if_pos (by omega)]
    rfl
  · by_cases hneg : x < 0 ∧ longMin ≤ x
    · rw [if_neg hnat, if_pos hneg, if_pos (by omega)]
      rfl
    · rw [if_neg hnat, if_neg hneg, if_neg (by omega)]
      rfl

/-- The host reads a bignum object through the heap, whose range errors it passes on. -/
theorem num2Long_host (api : Api) (hobj : BignumObject api.release.facts h v x)
    (hs : Sound h api.release) :
    HostM.exec h (api.num2Long v) = (if longMin ≤ x ∧ x ≤ longMax then .ok x
      else .error (.heap (.range v "bignum too big to convert into 'long'")), h) := by
  unfold Api.num2Long
  rw [Api.layout, (flags_eq hobj hs false).2.1, if_neg Bool.false_ne_true, HostM.exec_ofHeap,
    num2Long_eq hobj hs]
  dsimp only
  split <;> rfl

theorem num2ULong_host (api : Api) (hobj : BignumObject api.release.facts h v x)
    (hs : Sound h api.release) :
    HostM.exec h (api.num2ULong v) = (if longMin ≤ x ∧ x < 2 ^ 64 then .ok (Word.ofInt x)
      else .error (.heap (.range v "bignum out of range of unsigned long")), h) := by
  unfold Api.num2ULong
  rw [Api.layout, (flags_eq hobj hs false).2.1, if_neg Bool.false_ne_true, HostM.exec_ofHeap,
    num2ULong_eq hobj hs]
  dsimp only
  split <;> rfl

end BignumObject

/-! ### Fixnums through the host -/

namespace Api

variable (api : Api) (h : Heap) {i : Int}

theorem long2Num_of_fixable (hfix : Accessors.fixable i = true) :
    HostM.exec h (api.long2Num i) = (.ok (Heap.fixnumOf api.release.facts i), h) := by
  unfold long2Num
  rw [if_pos hfix, HostM.exec_ofAccess, raw, Accessors.longToFix_of_fixable _ _ hfix]

theorem num2Long_fixnumOf (hfix : Accessors.fixable i = true) :
    HostM.exec h (api.num2Long (Heap.fixnumOf api.release.facts i)) = (.ok i, h) := by
  unfold num2Long
  rw [layout, Heap.isFixnum_fixnumOf, if_pos rfl, HostM.exec_ofAccess, raw,
    Accessors.fixToLong_fixnumOf _ _ hfix]

theorem num2ULong_fixnumOf (hfix : Accessors.fixable i = true) :
    HostM.exec h (api.num2ULong (Heap.fixnumOf api.release.facts i)) = (.ok (Word.ofInt i), h) := by
  unfold num2ULong
  rw [layout, Heap.isFixnum_fixnumOf, if_pos rfl, HostM.exec_ofAccess, raw,
    Accessors.fixToULong_fixnumOf _ _ hfix]

end Api

/-! ### Round trips -/

section RoundTrips

variable (api : Api) (h : Heap) (hs : h.Sound api.release)
include hs

/-- A signed machine integer becomes a fixnum exactly when it fits the window, leaving the heap
alone, and a bignum of its sign otherwise; either reads back as itself, and unsigned as its two's
complement. -/
theorem long2Num_round_trip {i : Int} (hlo : longMin ≤ i) (hhi : i ≤ longMax)
    (hroom : Accessors.fixable i = false → h.nextAligned + 48 ≤ h.memory.size) :
    ∃ v h1, HostM.exec h (api.long2Num i) = (.ok v, h1) ∧
      api.layout.isFixnum v = Accessors.fixable i ∧
      (Accessors.fixable i = true → h1 = h) ∧
      (Accessors.fixable i = false → api.raw.rbType h1.memory v = .ok .bignum ∧
        api.bignumNegativeP h1.memory v = .ok (decide (i < 0))) ∧
      HostM.exec h1 (api.num2Long v) = (.ok i, h1) ∧
      HostM.exec h1 (api.num2ULong v) = (.ok (Word.ofInt i), h1) := by
  have hmin : longMin = -2 ^ 63 := rfl
  have hmax : longMax = 2 ^ 63 - 1 := rfl
  cases hfix : Accessors.fixable i
  · have hout : ¬(fixnumMin ≤ i ∧ i ≤ fixnumMax) := by
      rw [← Accessors.fixable_iff, hfix]
      exact Bool.false_ne_true
    have hwin : fixnumMin = -2 ^ 62 ∧ fixnumMax = 2 ^ 62 - 1 := ⟨rfl, rfl⟩
    obtain ⟨h1, hx, hs1, hobj⟩ := exec_bignum_of_word_room hs (x := i) (by omega) (by omega)
      (hroom hfix)
    obtain ⟨hisfix, htype, -, hneg⟩ := BignumObject.reads api hobj hs1
    refine ⟨_, h1, ?_, hisfix, fun h ↦ absurd h Bool.false_ne_true, fun _ ↦ ⟨htype, hneg⟩, ?_, ?_⟩
    · unfold Api.long2Num Heap.int2Big
      rw [if_neg (by rw [hfix]; exact Bool.false_ne_true), HostM.exec_ofHeap, hx]
      rfl
    · rw [BignumObject.num2Long_host api hobj hs1, if_pos ⟨hlo, hhi⟩]
    · rw [BignumObject.num2ULong_host api hobj hs1, if_pos ⟨hlo, by omega⟩]
  · exact ⟨_, h, Api.long2Num_of_fixable api h hfix, Heap.isFixnum_fixnumOf _ i, fun _ ↦ rfl,
      fun h ↦ absurd h (by decide), Api.num2Long_fixnumOf api h hfix,
      Api.num2ULong_fixnumOf api h hfix⟩

/-- An unsigned machine integer becomes a fixnum exactly when it fits, leaving the heap alone, and
a bignum otherwise; either reads back as itself unsigned, and signed when it is at most the
largest signed integer, with a range error from the heap otherwise. -/
theorem ulong2Num_round_trip (u : UInt64)
    (hroom : Accessors.posFixable u = false → h.nextAligned + 48 ≤ h.memory.size) :
    ∃ v h1, HostM.exec h (api.ulong2Num u) = (.ok v, h1) ∧
      api.layout.isFixnum v = Accessors.posFixable u ∧
      (Accessors.posFixable u = true → h1 = h) ∧
      HostM.exec h1 (api.num2ULong v) = (.ok u, h1) ∧
      HostM.exec h1 (api.num2Long v) = (if (u.toNat : Int) ≤ longMax then .ok (u.toNat : Int)
        else .error (.heap (.range v "bignum too big to convert into 'long'")), h1) := by
  have hu := u.toNat_lt
  have hmin : longMin = -2 ^ 63 := rfl
  have hmax : longMax = 2 ^ 63 - 1 := rfl
  have hfixmax : fixnumMax = 2 ^ 62 - 1 := rfl
  cases hfix : Accessors.posFixable u
  · have hout : ¬((u.toNat : Int) ≤ fixnumMax) := of_decide_eq_false hfix
    obtain ⟨h1, hx, hs1, hobj⟩ := exec_bignum_of_word_room hs (x := u.toNat) (by omega)
      (by omega) (hroom hfix)
    obtain ⟨hisfix, -, -, -⟩ := BignumObject.reads api hobj hs1
    refine ⟨_, h1, ?_, hisfix, fun h ↦ absurd h Bool.false_ne_true, ?_, ?_⟩
    · unfold Api.ulong2Num Heap.uint2Big
      rw [if_neg (by rw [hfix]; exact Bool.false_ne_true), HostM.exec_ofHeap, hx]
      rfl
    · rw [BignumObject.num2ULong_host api hobj hs1, if_pos (by omega), Word.ofInt_toNat]
    · rw [BignumObject.num2Long_host api hobj hs1]
      by_cases hle : (u.toNat : Int) ≤ longMax
      · rw [if_pos ⟨by omega, hle⟩, if_pos hle]
      · rw [if_neg (by omega), if_neg hle]
  · have hin : (u.toNat : Int) ≤ fixnumMax := of_decide_eq_true hfix
    have hfixable : Accessors.fixable u.toNat = true :=
      Accessors.fixable_iff.mpr ⟨by have : fixnumMin = -2 ^ 62 := rfl; omega, hin⟩
    refine ⟨_, h, ?_, Heap.isFixnum_fixnumOf _ (u.toNat : Int), fun _ ↦ rfl, ?_, ?_⟩
    · unfold Api.ulong2Num
      rw [if_pos hfix, HostM.exec_ofAccess, Api.raw,
        Accessors.longToFix_of_fixable _ _ hfixable]
    · rw [Api.num2ULong_fixnumOf api h hfixable, Word.ofInt_toNat]
    · rw [Api.num2Long_fixnumOf api h hfixable, if_pos (by omega)]

/-- An integer of any size becomes a fixnum exactly in the window, leaving the heap alone, and
otherwise a bignum of its sign holding it, which the heap reads back in range and refuses out of
it. -/
theorem integer_round_trip (x : Int)
    (hroom : ¬(fixnumMin ≤ x ∧ x ≤ fixnumMax) →
      h.nextAligned + 40 + 8 * (magnitudeWords x.natAbs).length ≤ h.memory.size) :
    ∃ v h1, exec h (Heap.integer x) = (.ok v, h1) ∧
      api.layout.isFixnum v = decide (fixnumMin ≤ x ∧ x ≤ fixnumMax) ∧
      (fixnumMin ≤ x ∧ x ≤ fixnumMax → h1 = h) ∧
      (¬(fixnumMin ≤ x ∧ x ≤ fixnumMax) →
        api.raw.rbType h1.memory v = .ok .bignum ∧ h1.bigValue v = some x ∧
        api.bignumPositiveP h1.memory v = .ok (decide (0 ≤ x)) ∧
        exec h1 (Heap.num2Long v) = (if longMin ≤ x ∧ x ≤ longMax then .ok x
          else .error (.range v "bignum too big to convert into 'long'"), h1) ∧
        exec h1 (Heap.num2ULong v) = (if longMin ≤ x ∧ x < 2 ^ 64 then .ok (Word.ofInt x)
          else .error (.range v "bignum out of range of unsigned long"), h1)) := by
  by_cases hwin : fixnumMin ≤ x ∧ x ≤ fixnumMax
  · refine ⟨Heap.fixnumOf api.release.facts x, h, ?_, ?_, fun _ ↦ rfl,
      fun hout ↦ absurd hwin hout⟩
    · unfold Heap.integer
      rw [if_pos hwin, exec_bind, exec_getFacts, hs.facts_eq]
      rfl
    · rw [decide_eq_true hwin]
      exact Heap.isFixnum_fixnumOf _ x
  · have hwin' : fixnumMin = -2 ^ 62 ∧ fixnumMax = 2 ^ 62 - 1 := ⟨rfl, rfl⟩
    obtain ⟨h1, hx, hs1, hobj⟩ := exec_bignum_of_room hs (x := x) (by omega) (hroom hwin)
    obtain ⟨hisfix, htype, hpos, -⟩ := BignumObject.reads api hobj hs1
    refine ⟨_, h1, ?_, ?_, fun hin ↦ absurd hin hwin, fun _ ↦ ⟨htype, BignumObject.bigValue_eq hobj, hpos,
      BignumObject.num2Long_eq hobj hs1, BignumObject.num2ULong_eq hobj hs1⟩⟩
    · unfold Heap.integer
      rw [if_neg hwin]
      exact hx
    · rw [hisfix, decide_eq_false hwin]

end RoundTrips

/-- Integers round-trip through the heap as host, on a sound heap of any release with room for
the bignums it builds. A signed machine integer becomes a fixnum exactly when it is fixable, and
otherwise a bignum of its sign; it reads back as itself, and unsigned as its two's complement. An
unsigned one becomes a fixnum exactly when it fits, and reads back as itself unsigned, and signed
when it is at most the largest signed integer, with a range error otherwise. An integer of any
size becomes a fixnum exactly in the window, and otherwise a bignum holding it, of its sign, which
the heap reads back as a signed integer exactly in the signed range, as an unsigned word from the
smallest signed to the largest unsigned integer, and refuses with a range error otherwise. -/
theorem integer_promotion_round_trips (api : Api) (h : Heap) (hs : h.Sound api.release) :
    (∀ i, longMin ≤ i → i ≤ longMax →
      (Accessors.fixable i = false → h.nextAligned + 48 ≤ h.memory.size) →
      ∃ v h1, HostM.exec h (api.long2Num i) = (.ok v, h1) ∧
        api.layout.isFixnum v = Accessors.fixable i ∧
        (Accessors.fixable i = true → h1 = h) ∧
        (Accessors.fixable i = false → api.raw.rbType h1.memory v = .ok .bignum ∧
          api.bignumNegativeP h1.memory v = .ok (decide (i < 0))) ∧
        HostM.exec h1 (api.num2Long v) = (.ok i, h1) ∧
        HostM.exec h1 (api.num2ULong v) = (.ok (Word.ofInt i), h1)) ∧
    (∀ u : UInt64, (Accessors.posFixable u = false → h.nextAligned + 48 ≤ h.memory.size) →
      ∃ v h1, HostM.exec h (api.ulong2Num u) = (.ok v, h1) ∧
        api.layout.isFixnum v = Accessors.posFixable u ∧
        (Accessors.posFixable u = true → h1 = h) ∧
        HostM.exec h1 (api.num2ULong v) = (.ok u, h1) ∧
        HostM.exec h1 (api.num2Long v) = (if (u.toNat : Int) ≤ longMax then .ok (u.toNat : Int)
          else .error (.heap (.range v "bignum too big to convert into 'long'")), h1)) ∧
    (∀ x : Int, (¬(fixnumMin ≤ x ∧ x ≤ fixnumMax) →
        h.nextAligned + 40 + 8 * (magnitudeWords x.natAbs).length ≤ h.memory.size) →
      ∃ v h1, exec h (Heap.integer x) = (.ok v, h1) ∧
        api.layout.isFixnum v = decide (fixnumMin ≤ x ∧ x ≤ fixnumMax) ∧
        (fixnumMin ≤ x ∧ x ≤ fixnumMax → h1 = h) ∧
        (¬(fixnumMin ≤ x ∧ x ≤ fixnumMax) →
          api.raw.rbType h1.memory v = .ok .bignum ∧ h1.bigValue v = some x ∧
          api.bignumPositiveP h1.memory v = .ok (decide (0 ≤ x)) ∧
          exec h1 (Heap.num2Long v) = (if longMin ≤ x ∧ x ≤ longMax then .ok x
            else .error (.range v "bignum too big to convert into 'long'"), h1) ∧
          exec h1 (Heap.num2ULong v) = (if longMin ≤ x ∧ x < 2 ^ 64 then .ok (Word.ofInt x)
            else .error (.range v "bignum out of range of unsigned long"), h1))) :=
  ⟨fun _ hlo hhi hroom ↦ long2Num_round_trip api h hs hlo hhi hroom,
    fun u hroom ↦ ulong2Num_round_trip api h hs u hroom,
    fun x hroom ↦ integer_round_trip api h hs x hroom⟩

/-- On an empty arena of 4096 bytes with the 3.3 layout, the first integer past the fixnum window
becomes a bignum through the checked accessors and reads back as itself. -/
theorem integer_promotion_round_trips_past_window :
    ∃ v h1, HostM.exec (Heap.mk Release.v33.facts ⟨arenaBase, 4096, .empty⟩ 0 [] default [])
        ((Api.ofRelease .v33 false .checked).long2Num (2 ^ 62)) = (.ok v, h1) ∧
      (Api.ofRelease .v33 false .checked).layout.isFixnum v = false ∧
      HostM.exec h1 ((Api.ofRelease .v33 false .checked).num2Long v) = (.ok (2 ^ 62), h1) := by
  obtain ⟨hlong, -, -⟩ := integer_promotion_round_trips (Api.ofRelease .v33 false .checked)
    (Heap.mk Release.v33.facts ⟨arenaBase, 4096, .empty⟩ 0 [] default []) ⟨rfl, arenaBase_valid, by decide⟩
  obtain ⟨v, h1, hx, hfix, -, -, hnum, -⟩ :=
    hlong (2 ^ 62) (by decide) (by decide) (fun _ ↦ by decide)
  exact ⟨v, h1, hx, hfix.trans (by decide), hnum⟩

end RubyLayout
