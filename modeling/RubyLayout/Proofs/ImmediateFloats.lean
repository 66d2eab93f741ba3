import RubyLayout.Heap.Build
import RubyLayout.Proofs.Objects

/-!
# Immediate floats

A float keeps its binary64 pattern inside the word when the pattern lies in the window of
`InWindow`: positive zero, or bits 62 to 60 reading `011` or `100`, `0x3000000000000000`
excepted. Such a pattern is fixed by its sign `c`, its lowest exponent bit `s` and its low 60
bits `l`, since bits 62 and 61 are then `s` complemented, twice (`patternOf`). The encoder
rotates the pattern left by three and puts the tag `10` in place of the two bits that the
rotation brought down from bits 62 and 61; the word is `s`, then `l`, then the sign, then the
tag (`wordOf`). The decoder restores bits 62 and 61 from the top bit of the word and rotates
back. The one pattern left out would give the word `0x8000000000000002`, which stands for
positive zero.

`encode_eq_some` and `encode_decode` are the two round trips over these fields, and
`isSome_encode_iff` says that the encoder accepts exactly the window. A float the window leaves
out becomes a heap object of type float holding its pattern (`Heap.exec_heapFloat_of_room`,
`FloatObject`).

Main statement: `immediate_floats_round_trip`. Encoding and decoding are inverse bijections
between the window and the words tagged `10`. On every release the heap builds a float of every
pattern, of one outside the window where a base slot fits, and every float it builds is a flonum
exactly when its pattern is in the window, has the float type for every build, and reads back as
its pattern.
-/

set_option autoImplicit false
set_option relaxedAutoImplicit false

namespace RubyLayout

namespace Flonum

open Bits

/-! ### The window and its words -/

/-- The binary64 patterns with an immediate form: positive zero, and the patterns whose bits 62
to 60 read `011` or `100`, except `0x3000000000000000`. -/
def InWindow (bits : UInt64) : Prop :=
  bits = 0 ∨ (((bits >>> 60) &&& 7 = 3 ∨ (bits >>> 60) &&& 7 = 4) ∧ bits ≠ 0x3000000000000000)

instance (bits : UInt64) : Decidable (InWindow bits) :=
  inferInstanceAs (Decidable (bits = 0 ∨ _))

/-- The number of a pattern with bits 62 to 60 of `011` or `100`, by its sign `c`, its lowest
exponent bit `s` and its low 60 bits `l`. -/
def patternOf (c s l : Nat) : Nat := c * 2 ^ 63 + (2 - s) * 2 ^ 61 + s * 2 ^ 60 + l

/-- The immediate word of that pattern: `s` on top, then `l`, the sign, and the tag `10`. -/
def wordOf (c s l : Nat) : Nat := s * 2 ^ 63 + 8 * l + 4 * c + 2

theorem toNat_exponentBits (bits : UInt64) :
    ((bits >>> 60) &&& 7).toNat = bits.toNat / 2 ^ 60 % 8 := by
  rw [toNat_and_lowMask _ 7 (k := 3) rfl, UInt64.toNat_shiftRight, Nat.shiftRight_eq_div_pow]
  rfl

/-- The patterns whose bits 62 to 60 read `011` or `100` are those of `patternOf`. -/
theorem exponentBits_iff (bits : UInt64) :
    ((bits >>> 60) &&& 7 = 3 ∨ (bits >>> 60) &&& 7 = 4) ↔
      ∃ c s l, c < 2 ∧ s < 2 ∧ l < 2 ^ 60 ∧ bits.toNat = patternOf c s l := by
  have hb := bits.toNat_lt
  rw [← UInt64.toNat_inj, ← UInt64.toNat_inj, toNat_exponentBits]
  change bits.toNat / 2 ^ 60 % 8 = 3 ∨ bits.toNat / 2 ^ 60 % 8 = 4 ↔ _
  unfold patternOf
  constructor
  · intro h
    exact ⟨bits.toNat / 2 ^ 63, bits.toNat / 2 ^ 60 % 2, bits.toNat % 2 ^ 60,
      by omega, by omega, by omega, by omega⟩
  · rintro ⟨c, s, l, hc, hs, hl, he⟩
    rw [he]
    omega

/-- The words tagged `10` are those of `wordOf`. -/
theorem tag_iff (w : UInt64) :
    w &&& 3 = 2 ↔ ∃ c s l, c < 2 ∧ s < 2 ∧ l < 2 ^ 60 ∧ w.toNat = wordOf c s l := by
  rw [and_lowMask_eq_iff (k := 2) rfl]
  change w.toNat % 4 = 2 ↔ _
  have hw := w.toNat_lt
  unfold wordOf
  constructor
  · intro h
    exact ⟨w.toNat / 4 % 2, w.toNat / 2 ^ 63, w.toNat / 8 % 2 ^ 60,
      by omega, by omega, by omega, by omega⟩
  · rintro ⟨c, s, l, hc, hs, hl, he⟩
    rw [he]
    omega

/-- The pattern left out of the window and the word of positive zero are the same fields. -/
theorem patternOf_eq_iff_wordOf_eq {c s l : Nat} (hc : c < 2) (hs : s < 2) (hl : l < 2 ^ 60) :
    patternOf c s l = 0x3000000000000000 ↔ wordOf c s l = zeroWord.toNat := by
  change _ ↔ _ = 0x8000000000000002
  unfold patternOf wordOf
  omega

/-! ### Rotations and tags as arithmetic -/

theorem toNat_rotl_three (x : UInt64) :
    (rotl x 3).toNat = x.toNat % 2 ^ 61 * 8 + x.toNat / 2 ^ 61 := by
  have hx := x.toNat_lt
  have hl : (x <<< 3).toNat = x.toNat * 8 % 2 ^ 64 := by
    rw [UInt64.toNat_shiftLeft, Nat.shiftLeft_eq]
    rfl
  have hr : (x >>> 61).toNat = x.toNat / 2 ^ 61 := by
    rw [UInt64.toNat_shiftRight, Nat.shiftRight_eq_div_pow]
    rfl
  unfold rotl
  rw [show (64 - 3 : UInt64) = 61 from rfl,
    toNat_or_of_lt _ _ (k := 3) (by rw [hl]; omega) (by rw [hr]; omega), hl, hr]
  omega

theorem toNat_rotr_three (t : UInt64) :
    (rotr t 3).toNat = t.toNat / 8 + t.toNat % 8 * 2 ^ 61 := by
  have ht := t.toNat_lt
  have hl : (t <<< 61).toNat = t.toNat * 2 ^ 61 % 2 ^ 64 := by
    rw [UInt64.toNat_shiftLeft, Nat.shiftLeft_eq]
    rfl
  have hr : (t >>> 3).toNat = t.toNat / 8 := by
    rw [UInt64.toNat_shiftRight, Nat.shiftRight_eq_div_pow]
    rfl
  unfold rotr
  rw [show (64 - 3 : UInt64) = 61 from rfl, UInt64.or_comm,
    toNat_or_of_lt _ _ (k := 61) (by rw [hl]; omega) (by rw [hr]; omega), hl, hr]
  omega

/-- Clearing bit 0 and setting bit 1 clears both low bits and sets bit 1. -/
theorem and_not_one_or_two (a : UInt64) : (a &&& ~~~1) ||| 2 = (a &&& ~~~3) ||| 2 := by
  apply UInt64.toBitVec_inj.mp
  apply BitVec.eq_of_getLsbD_eq
  intro i hi
  simp only [UInt64.toBitVec_or, UInt64.toBitVec_and, UInt64.toBitVec_not, BitVec.getLsbD_or,
    BitVec.getLsbD_and, BitVec.getLsbD_not, UInt64.toBitVec_ofNat, BitVec.getLsbD_ofNat]
  rcases i with _ | _ | i <;> simp [Nat.testBit_succ]

/-- The encoder's word of a pattern of the window is `wordOf` its fields. -/
theorem toNat_immediate {bits : UInt64} {c s l : Nat} (hc : c < 2) (hs : s < 2)
    (hl : l < 2 ^ 60) (he : bits.toNat = patternOf c s l) :
    ((rotl bits 3 &&& ~~~1) ||| 2).toNat = wordOf c s l := by
  have hlow : bits.toNat % 2 ^ 61 = s * 2 ^ 60 + l := by
    rw [he]
    unfold patternOf
    omega
  have hhigh : bits.toNat / 2 ^ 61 = 4 * c + 2 - s := by
    rw [he]
    unfold patternOf
    omega
  have hcleared : (rotl bits 3 &&& ~~~3).toNat = (s * 2 ^ 60 + l) * 8 + 4 * c := by
    rw [toNat_and_not_lowMask _ 3 (k := 2) (by decide) rfl, toNat_rotl_three, hlow, hhigh]
    omega
  rw [and_not_one_or_two, toNat_or_of_lt _ _ (k := 2) (by rw [hcleared]; omega) (by decide),
    hcleared]
  unfold wordOf
  change _ + 2 = _
  omega

/-- The decoder's pattern of `wordOf` some fields is `patternOf` them, except for the word of
positive zero. -/
theorem toNat_decode {w : UInt64} {c s l : Nat} (hc : c < 2) (hs : s < 2) (hl : l < 2 ^ 60)
    (he : w.toNat = wordOf c s l) (hz : w ≠ zeroWord) :
    (decode w).toNat = patternOf c s l := by
  have hw4 : w.toNat % 4 = 2 := by
    rw [he]
    unfold wordOf
    omega
  have htop : (w >>> 63).toNat = s := by
    rw [UInt64.toNat_shiftRight, Nat.shiftRight_eq_div_pow, he]
    unfold wordOf
    change _ / 2 ^ 63 = _
    omega
  have hsub : ((2 : UInt64) - w >>> 63).toNat = 2 - s := by
    rw [UInt64.toNat_sub_of_le _ _ (by rw [UInt64.le_iff_toNat_le, htop]; change _ ≤ 2; omega),
      htop]
    rfl
  have ht : (((2 : UInt64) - w >>> 63) ||| (w &&& ~~~3)).toNat = w.toNat - 2 + (2 - s) := by
    rw [UInt64.or_comm, toNat_or_of_lt _ _ (k := 2), toNat_and_not_lowMask _ 3 (k := 2) (by decide) rfl,
      hsub]
    · omega
    · rw [toNat_and_not_lowMask _ 3 (k := 2) (by decide) rfl]
      omega
    · rw [hsub]
      omega
  unfold decode
  rw [if_neg (by simpa using hz)]
  dsimp only
  rw [toNat_rotr_three, ht, he]
  unfold wordOf patternOf
  omega

/-! ### The encoder and the decoder -/

theorem encode_of_window {bits : UInt64}
    (hw : ((bits >>> 60) &&& 7 = 3 ∨ (bits >>> 60) &&& 7 = 4) ∧ bits ≠ 0x3000000000000000) :
    encode bits = some ((rotl bits 3 &&& ~~~1) ||| 2) := by
  have hb := toNat_exponentBits bits
  have htest : ((((bits >>> 60) &&& 7) - 3) &&& ~~~1 == 0) = true := by
    rw [beq_iff_eq, ← UInt64.toNat_inj, toNat_and_not_lowMask _ 1 (k := 1) (by decide) rfl,
      UInt64.toNat_sub, hb]
    rcases hw.1 with h | h <;> rw [← UInt64.toNat_inj, toNat_exponentBits] at h <;>
      rw [h] <;> rfl
  unfold encode
  rw [if_pos (by rw [Bool.and_eq_true, bne_iff_ne]; exact ⟨hw.2, htest⟩)]

/-- The encoder refuses every pattern outside the window: its exponent test
`(b - 3) &&& ~~~1 = 0` holds exactly for `b` of 3 and 4. -/
theorem encode_of_not_inWindow {bits : UInt64} (hw : ¬ InWindow bits) : encode bits = none := by
  have hb := toNat_exponentBits bits
  simp only [InWindow, not_or, not_and, ne_eq, Classical.not_not] at hw
  have htest : ¬(bits != 0x3000000000000000 &&
      ((((bits >>> 60) &&& 7) - 3) &&& ~~~1 == 0)) = true := by
    rw [Bool.and_eq_true, bne_iff_ne, beq_iff_eq, ← UInt64.toNat_inj,
      toNat_and_not_lowMask _ 1 (k := 1) (by decide) rfl, UInt64.toNat_sub, hb]
    rintro ⟨hne, htest⟩
    have h3 : (bits >>> 60) &&& 7 ≠ 3 := fun h ↦ hne (hw.2 (.inl h))
    have h4 : (bits >>> 60) &&& 7 ≠ 4 := fun h ↦ hne (hw.2 (.inr h))
    rw [ne_eq, ← UInt64.toNat_inj, toNat_exponentBits] at h3 h4
    change ¬_ = 3 at h3
    change ¬_ = 4 at h4
    change _ = 0 at htest
    have hlt : bits.toNat / 2 ^ 60 % 8 < 8 := Nat.mod_lt _ (by decide)
    change (2 ^ 64 - 3 + bits.toNat / 2 ^ 60 % 8) % 2 ^ 64 -
      (2 ^ 64 - 3 + bits.toNat / 2 ^ 60 % 8) % 2 ^ 64 % 2 ^ 1 = 0 at htest
    omega
  unfold encode
  rw [if_neg htest, if_neg (by rw [beq_iff_eq]; exact hw.1)]

theorem encode_zero : encode 0 = some zeroWord := rfl

theorem decode_zeroWord : decode zeroWord = 0 := rfl

/-- The encoder accepts exactly the patterns of the window. -/
theorem isSome_encode_iff (bits : UInt64) : (encode bits).isSome = true ↔ InWindow bits := by
  by_cases hw : InWindow bits
  · refine iff_of_true ?_ hw
    rcases hw with rfl | hwin
    · rfl
    · rw [encode_of_window hwin]
      rfl
  · rw [encode_of_not_inWindow hw]
    exact iff_of_false Bool.false_ne_true hw

/-- The encoder's word is tagged `10` and decodes to the pattern. -/
theorem encode_eq_some {bits w : UInt64} (h : encode bits = some w) :
    w &&& 3 = 2 ∧ decode w = bits := by
  by_cases hw : InWindow bits
  · rcases hw with rfl | hwin
    · rw [encode_zero] at h
      cases h
      exact ⟨rfl, decode_zeroWord⟩
    · rw [encode_of_window hwin] at h
      cases h
      obtain ⟨c, s, l, hc, hs, hl, he⟩ := (exponentBits_iff bits).mp hwin.1
      have himm := toNat_immediate hc hs hl he
      have hz : (rotl bits 3 &&& ~~~1) ||| 2 ≠ zeroWord := by
        intro hz
        rw [← UInt64.toNat_inj, himm, ← patternOf_eq_iff_wordOf_eq hc hs hl, ← he] at hz
        exact hwin.2 (UInt64.toNat_inj.mp hz)
      refine ⟨(tag_iff _).mpr ⟨c, s, l, hc, hs, hl, himm⟩, ?_⟩
      apply UInt64.toNat_inj.mp
      rw [toNat_decode hc hs hl himm hz, he]
  · rw [encode_of_not_inWindow hw] at h
    cases h

/-- A word tagged `10` is the encoder's word of its decoded pattern. -/
theorem encode_decode {w : UInt64} (hw : w &&& 3 = 2) : encode (decode w) = some w := by
  by_cases hz : w = zeroWord
  · subst hz
    rfl
  obtain ⟨c, s, l, hc, hs, hl, he⟩ := (tag_iff w).mp hw
  have hx := toNat_decode hc hs hl he hz
  have hwin : ((decode w >>> 60) &&& 7 = 3 ∨ (decode w >>> 60) &&& 7 = 4) ∧
      decode w ≠ 0x3000000000000000 := by
    refine ⟨(exponentBits_iff _).mpr ⟨c, s, l, hc, hs, hl, hx⟩, fun h ↦ hz ?_⟩
    rw [← UInt64.toNat_inj, hx] at h
    rw [← UInt64.toNat_inj, he, ← patternOf_eq_iff_wordOf_eq hc hs hl]
    exact h
  rw [encode_of_window hwin]
  congr 1
  apply UInt64.toNat_inj.mp
  rw [toNat_immediate hc hs hl hx, he]

end Flonum

/-! ### Floats built by the heap -/

open Memory Flonum

/-- The header word of a float object: its type and the frozen flag. -/
def floatHeader (f : Facts) : UInt64 := TypeCode.float.code.toUInt64 ||| f.header.freeze

/-- A float object of the pattern `bits` at `v`: an aligned slot of the arena headed by the float
header, holding the pattern in its third word. -/
def FloatObject (f : Facts) (m : Memory) (v : Value) (bits : UInt64) : Prop :=
  ∃ off, v = m.base + off.toUInt64 ∧ off % 8 = 0 ∧ off + 40 ≤ m.size ∧
    HoldsBytes m off (Memory.wordBytes (floatHeader f)) ∧
    HoldsBytes m (off + 16) (Memory.wordBytes bits)

namespace Heap

variable {r : Release} {h : Heap}

/-- A float object on a sound heap with room for a base slot is built at the aligned bump
pointer. -/
theorem exec_heapFloat_of_room (hs : Sound h r) (hroom : h.nextAligned + 40 ≤ h.memory.size)
    (bits : UInt64) :
    ∃ h', exec h (heapFloat bits) = (.ok (h.memory.base + h.nextAligned.toUInt64), h') ∧
      Sound h' r ∧ FloatObject r.facts h'.memory (h.memory.base + h.nextAligned.toUInt64) bits := by
  have hslot : slotSize r.facts.gc (2 * (8 : UInt64).toNat + 8) = .ok 40 := by cases r <;> rfl
  unfold heapFloat
  rw [exec_bind_of_ok exec_getFacts, hs.facts_eq, Release.wordSize_eq]
  dsimp only
  obtain ⟨h1, hobj⟩ : ∃ h1, exec h (object (2 * (8 : UInt64).toNat + 8) .float
      r.facts.header.freeze) = (.ok (h.memory.base + h.nextAligned.toUInt64), h1) :=
    exec_object_ok hs hslot hroom
  obtain ⟨slot, hal, hslot', -, -, -⟩ := exec_object_spec hs hobj
  rw [hslot] at hslot'
  cases hslot'
  have hs1 : Sound h1 r := hs.of_sameArena hal.arena
  have hfits := hal.fits
  have hsize := hal.arena.size_eq
  have h16 : (2 * 8 : UInt64).toNat = 16 := rfl
  rw [exec_bind_of_ok hobj, exec_bind_of_ok (hs1.exec_writeWord_at hal.arena.base_eq _ _
    (by rw [h16]; omega)), exec_pure]
  refine ⟨_, rfl, hs1.withBytes _ _, h.nextAligned, by rw [base_withBytes, hal.arena.base_eq],
    hs.nextAligned_mod, by simp; omega,
    holdsBytes_withBytes_of_disjoint hal.header
      (Or.inl (by simp only [wordBytes_size, h16]; omega)), ?_⟩
  rw [← h16]
  exact holdsBytes_withBytes_self _ _ _ (by simp; omega)

/-- A float object is built only where a base slot fits. -/
theorem room_of_heapFloat_ok (hs : Sound h r) {bits v : UInt64} {h' : Heap}
    (hx : exec h (heapFloat bits) = (.ok v, h')) : h.nextAligned + 40 ≤ h.memory.size := by
  have hslot : slotSize r.facts.gc (2 * (8 : UInt64).toNat + 8) = .ok 40 := by cases r <;> rfl
  unfold heapFloat at hx
  rw [exec_bind_of_ok exec_getFacts, hs.facts_eq, Release.wordSize_eq] at hx
  obtain ⟨v1, h1, hobj, -⟩ := exec_bind_eq_ok hx
  obtain ⟨slot, hal, hslot', -⟩ := exec_object_spec hs hobj
  rw [hslot] at hslot'
  cases hslot'
  exact hal.off_eq ▸ hal.fits

/-- A pattern of the window is its immediate word, and the heap is left as it was. -/
theorem exec_float_of_encode (hs : Sound h r) {bits w : UInt64} (he : encode bits = some w) :
    exec h (float bits) = (.ok w, h) := by
  unfold float
  rw [exec_bind_of_ok exec_getFacts, hs.facts_eq, Release.facts_flonum, if_pos rfl, he]
  rfl

/-- A pattern outside the window becomes a float object. -/
theorem exec_float_of_none (hs : Sound h r) {bits : UInt64} (he : encode bits = none) :
    exec h (float bits) = exec h (heapFloat bits) := by
  unfold float
  rw [exec_bind_of_ok exec_getFacts, hs.facts_eq, Release.facts_flonum, if_pos rfl, he]

/-- The heap reads an immediate float as its decoded pattern. -/
theorem exec_floatValue_of_tag (hs : Sound h r) {w : UInt64} (hw : w &&& 3 = 2) :
    exec h (floatValue w) = (.ok (some (decode w)), h) := by
  obtain ⟨n, u, hsp, -⟩ := Release.specials_eq r
  have hflo : h.facts.flonum = true ∧ w &&& h.facts.specials.flonumMask =
      h.facts.specials.flonumFlag := by
    rw [hs.facts_eq, hsp]
    exact ⟨Release.facts_flonum r, hw⟩
  unfold floatValue
  rw [exec_bind_of_ok exec_get]
  dsimp only
  rw [if_pos hflo]
  rfl

end Heap

namespace FloatObject

open Heap

variable {r : Release} {m : Memory} {v bits : UInt64}

/-- A float object is no flonum, and every build reads it as a float. -/
theorem reads (hobj : FloatObject r.facts m v bits) (hbase : ArenaBase m.base)
    (hmap : m.mapped ≤ mapLimit) (debug : Bool) :
    r.facts.isFlonum v = false ∧ (Accessors.mk r debug).rbType m v = .ok TypeCode.float ∧
      (Accessors.mk r debug).floatTypeP m v = .ok true := by
  obtain ⟨off, rfl, hoff, hfit, hheader, -⟩ := hobj
  obtain ⟨hsc, hflags⟩ := Accessors.flags_of_holdsBytes r debug hbase hmap hheader hoff
  have htype : (⟨(floatHeader r.facts &&& r.facts.header.typeMask).toUInt32⟩ : TypeCode) =
      TypeCode.float := by
    cases r <;> rfl
  have hbt : (Accessors.mk r debug).builtinType m (m.base + off.toUInt64) =
      .ok TypeCode.float :=
    (Accessors.builtinType_eq (a := ⟨r, debug⟩) hsc hflags).trans (congrArg Except.ok htype)
  refine ⟨?_, ?_, ?_⟩
  · obtain ⟨n, u, hsp, -⟩ := Release.specials_eq r
    have hlim : off ≤ mapLimit := by
      have := m.size_le_mapped
      omega
    have hal := hbase.aligned
    unfold pageSize at hal
    cases hf : r.facts.isFlonum (m.base + off.toUInt64)
    · rfl
    · rw [Facts.isFlonum_iff hsp (Release.facts_flonum r), hbase.toNat_add_off hlim] at hf
      omega
  · exact (Accessors.rbType_eq (a := ⟨r, debug⟩) hsc hflags).trans (congrArg Except.ok htype)
  · unfold Accessors.floatTypeP
    rw [show (Accessors.mk r debug).layout = r.facts from rfl, hsc, hbt]
    rfl

/-- The heap reads a float object as its pattern. -/
theorem exec_floatValue {h : Heap} (hs : Sound h r) (hobj : FloatObject r.facts h.memory v bits) :
    exec h (floatValue v) = (.ok (some bits), h) := by
  have hflo : ¬(h.facts.flonum = true ∧ v &&& h.facts.specials.flonumMask =
      h.facts.specials.flonumFlag) := by
    rintro ⟨-, hmask⟩
    have hno := (reads hobj hs.base hs.mapped_le false).1
    rw [Facts.isFlonum, Release.facts_flonum, Bool.true_and, ← hs.facts_eq, hmask,
      beq_self_eq_true] at hno
    cases hno
  obtain ⟨off, rfl, hoff, hfit, hheader, hbits⟩ := hobj
  have hlim := hs.size_le
  have hin : h.memory.contains (h.memory.base + off.toUInt64) = true := by
    unfold Memory.contains
    rw [hs.base.toNat_add_off (by omega)]
    simp only [Bool.and_eq_true, decide_eq_true_eq]
    omega
  have hflags : h.memory.readWord (h.memory.base + off.toUInt64 + h.facts.header.flagsOffset) =
      .ok (floatHeader r.facts) := by
    rw [hs.facts_eq, Release.flagsOffset_eq, UInt64.add_zero]
    exact readWord_of_holdsBytes hheader (hs.base.toNat_add_off (by omega))
  have hword :
      h.memory.readWord (h.memory.base + off.toUInt64 + 2 * h.facts.wordSize) = .ok bits := by
    rw [hs.facts_eq, Release.wordSize_eq]
    exact readWord_of_holdsBytes hbits (hs.base.toNat_add (by simp; omega))
  have htype : (floatHeader h.facts &&& h.facts.header.typeMask).toUInt32 =
      TypeCode.float.code := by
    rw [hs.facts_eq]
    cases r <;> rfl
  unfold floatValue
  rw [exec_bind_of_ok exec_get]
  dsimp only
  rw [if_neg hflo, if_neg (by rw [hin]; exact not_not_intro rfl), hflags, ← hs.facts_eq]
  dsimp only
  rw [if_pos htype, hword]
  rfl

end FloatObject

/-- A word tagged `10` is a flonum, and every build reads it as a float. -/
theorem Flonum.reads_of_tag (r : Release) (m : Memory) (debug : Bool) {w : UInt64}
    (hw : w &&& 3 = 2) :
    r.facts.isFlonum w = true ∧ (Accessors.mk r debug).rbType m w = .ok TypeCode.float ∧
      (Accessors.mk r debug).floatTypeP m w = .ok true := by
  obtain ⟨n, u, hsp, -⟩ := Release.specials_eq r
  have hw4 : w.toNat % 4 = 2 := (Bits.and_lowMask_eq_iff (k := 2) rfl).mp hw
  have hflo : r.facts.isFlonum w = true :=
    (Facts.isFlonum_iff hsp (Release.facts_flonum r) w).mpr hw4
  have hsc : r.facts.isSpecialConst w = true := by
    have himm : r.facts.isImmediate w = true := (Facts.isImmediate_iff hsp w).mpr (by omega)
    rw [Facts.isSpecialConst, himm, Bool.true_or]
  refine ⟨hflo, Accessors.rbType_of_isKind ⟨r, debug⟩ m (k := .flonum)
    (fun k' hk' ↦ Release.isKind_unique r hk' hflo) hflo rfl, ?_⟩
  unfold Accessors.floatTypeP
  rw [show (Accessors.mk r debug).layout = r.facts from rfl, hsc, hflo]
  rfl

/-- Immediate floats. The encoder accepts exactly the patterns of the window, and its word is
tagged `10` and decodes back to the pattern; every word tagged `10` is the encoder's word of its
decoded pattern. So encoding and decoding are inverse bijections between the window and the
tagged words. On every release and sound heap, the heap builds a float of every pattern of the
window, and of every other pattern when a base slot fits; every float it builds is a flonum
exactly when its pattern is in the window, every build reads it as a float, and the heap reads it
back as the pattern, bit for bit. -/
theorem immediate_floats_round_trip :
    (∀ bits, (encode bits).isSome = true ↔ InWindow bits) ∧
    (∀ bits w, encode bits = some w → w &&& 3 = 2 ∧ decode w = bits) ∧
    (∀ w, w &&& 3 = 2 → encode (decode w) = some w) ∧
    ∀ (r : Release) (h : Heap) (bits : UInt64), h.Sound r →
      ((InWindow bits ∨ h.nextAligned + 40 ≤ h.memory.size) →
        ∃ v h', Heap.exec h (Heap.float bits) = (.ok v, h')) ∧
      ∀ v h', Heap.exec h (Heap.float bits) = (.ok v, h') →
        (r.facts.isFlonum v = true ↔ InWindow bits) ∧
        (∀ debug, (Accessors.mk r debug).rbType h'.memory v = .ok TypeCode.float ∧
          (Accessors.mk r debug).floatTypeP h'.memory v = .ok true) ∧
        Heap.exec h' (Heap.floatValue v) = (.ok (some bits), h') := by
  refine ⟨isSome_encode_iff, fun _ _ ↦ encode_eq_some, fun _ ↦ encode_decode, ?_⟩
  intro r h bits hs
  cases he : encode bits with
  | some w =>
    obtain ⟨hw, hdec⟩ := encode_eq_some he
    have hin : InWindow bits := (isSome_encode_iff bits).mp (by rw [he]; rfl)
    refine ⟨fun _ ↦ ⟨w, h, Heap.exec_float_of_encode hs he⟩, fun v h' hx ↦ ?_⟩
    rw [Heap.exec_float_of_encode hs he] at hx
    cases hx
    obtain ⟨hflo, -, -⟩ := Flonum.reads_of_tag r h.memory false hw
    refine ⟨iff_of_true hflo hin, fun debug ↦ (Flonum.reads_of_tag r h.memory debug hw).2, ?_⟩
    rw [Heap.exec_floatValue_of_tag hs hw, hdec]
  | none =>
    have hout : ¬ InWindow bits := fun hin ↦ by
      have hsome := (isSome_encode_iff bits).mpr hin
      rw [he] at hsome
      cases hsome
    refine ⟨fun hroom ↦ ?_, fun v h' hx ↦ ?_⟩
    · obtain ⟨h', hx, -⟩ := Heap.exec_heapFloat_of_room hs (hroom.resolve_left hout) bits
      exact ⟨_, h', by rw [Heap.exec_float_of_none hs he, hx]⟩
    rw [Heap.exec_float_of_none hs he] at hx
    obtain ⟨h1, hx1, hs1, hobj⟩ :=
      Heap.exec_heapFloat_of_room hs (Heap.room_of_heapFloat_ok hs hx) bits
    rw [hx1] at hx
    cases hx
    have hreads := hobj.reads hs1.base hs1.mapped_le
    refine ⟨?_, fun debug ↦ (hreads debug).2, hobj.exec_floatValue hs1⟩
    rw [(hreads false).1]
    exact iff_of_false Bool.false_ne_true hout

end RubyLayout
