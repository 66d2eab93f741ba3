import RubyLayout.Proofs.Objects

/-!
# Strings in the arena

What a string object is, as the accessors see it, and what every release reads from one.

* `StringBits` says the header bits of a string layout do not collide, and `StringSlot` that the
  words of a string slot do not overlap; both hold for every release (`Release.stringBits`,
  `Release.stringSlot`).
* `StringHeader` is what the accessors read from a header word: the string type, the embedded
  form, the length bits and the interned and frozen flags. The builders' header words are
  string headers (`StringBits.header_lenBits`, `StringBits.header_plain`,
  `StringBits.header_noEmbed`), and interning keeps one (`StringHeader.intern`).
* `StringAt` lays a string's bytes, length and buffer pointer out at an offset of memory, and
  `StringObject` places it at an aligned address of the arena.
* `StringObject.reads`: through either tier and in every build, a string object reads as a
  string of its length and bytes, whose pointer is its inline bytes exactly when it is embedded
  and lies in the arena otherwise, and whose interned flag is its own.
-/

set_option autoImplicit false
set_option relaxedAutoImplicit false

namespace RubyLayout

open Memory

/-! ### String layouts -/

/-- The header bits of a string layout do not collide: the embedded flag, the length field and
the interned and frozen flags each miss the type and one another, and the length field is wide
enough for the embedding capacity. -/
structure StringBits (f : Facts) : Prop where
  typeMask_eq : f.header.typeMask = 0x1f
  noEmbed_ne : f.string.noEmbed ≠ 0
  noEmbed_type : f.string.noEmbed &&& f.header.typeMask = 0
  noEmbed_fstr : f.string.noEmbed &&& f.string.fstr = 0
  lenMask_type : f.string.embedLenMask &&& f.header.typeMask = 0
  lenMask_noEmbed : f.string.embedLenMask &&& f.string.noEmbed = 0
  lenMask_fstr : f.string.embedLenMask &&& f.string.fstr = 0
  fstr_type : f.string.fstr &&& f.header.typeMask = 0
  intern_type : (f.string.fstr ||| f.header.freeze) &&& f.header.typeMask = 0
  intern_noEmbed : (f.string.fstr ||| f.header.freeze) &&& f.string.noEmbed = 0
  intern_lenMask : (f.string.fstr ||| f.header.freeze) &&& f.string.embedLenMask = 0
  intern_fstr : (f.string.fstr ||| f.header.freeze) &&& f.string.fstr = f.string.fstr
  intern_freeze : (f.string.fstr ||| f.header.freeze) &&& f.header.freeze = f.header.freeze
  freeze_ne : f.header.freeze ≠ 0
  lenField : f.string.embedLenMask ≠ 0 → ∃ w, 0 < w ∧
    f.string.embedLenMask.toNat = (2 ^ w - 1) * 2 ^ f.string.embedLenShift.toNat ∧
    f.string.embedLenShift.toNat + w ≤ 64 ∧ f.string.embedCapacity.toNat < 2 ^ w

/-- The string bits of every release do not collide. -/
theorem Release.stringBits (r : Release) : StringBits r.facts := by
  cases r
  case v27 | v30 | v31 =>
    exact ⟨rfl, by decide, by decide, by decide, by decide, by decide, by decide, by decide,
      by decide, by decide, by decide, by decide, by decide, by decide,
      fun _ ↦ ⟨5, by decide, by decide, by decide, by decide⟩⟩
  case v32 | v33 | v34 | v40 =>
    exact ⟨rfl, by decide, by decide, by decide, by decide, by decide, by decide, by decide,
      by decide, by decide, by decide, by decide, by decide, by decide,
      fun h ↦ absurd rfl h⟩

/-- The words of a string slot do not overlap: the header word comes first, the length field
of an embedded string (when the layout has one) ends where its bytes start, and the length, the
pointer and the capacity of a string with a separate buffer fill the base slot of 40 bytes. -/
structure StringSlot (f : Facts) : Prop where
  ary_ge : 8 ≤ f.string.embedAryOffset.toNat
  ary_lt : f.string.embedAryOffset.toNat < 40
  lenField : f.string.embedLenMask = 0 → 8 ≤ f.string.embedLenOffset.toNat ∧
    f.string.embedLenOffset.toNat + 8 ≤ f.string.embedAryOffset.toNat
  heapLen_ge : 8 ≤ f.string.heapLenOffset.toNat
  heapLen_le : f.string.heapLenOffset.toNat + 8 ≤ f.string.heapPtrOffset.toNat
  heapPtr_le : f.string.heapPtrOffset.toNat + 16 ≤ 40

/-- The string slots of every release do not overlap. -/
theorem Release.stringSlot (r : Release) : StringSlot r.facts := by
  cases r
  case v27 | v30 | v31 =>
    exact ⟨by decide, by decide, fun h ↦ absurd h (by decide), by decide, by decide, by decide⟩
  case v32 | v33 | v34 | v40 =>
    exact ⟨by decide, by decide, fun _ ↦ ⟨by decide, by decide⟩, by decide, by decide,
      by decide⟩

/-! ### Header words of strings -/

/-! ### Header words of strings -/

/-- What the accessors read from the header word `w` of a string of `n` bytes: the string type,
the embedded form exactly when `embedded`, the length in the flag bits when an embedded string
keeps it there, and the interned flag exactly when `interned`, which also freezes it. -/
structure StringHeader (f : Facts) (w : UInt64) (embedded : Bool) (n : Nat) (interned : Bool) :
    Prop where
  type_eq : w &&& f.header.typeMask = TypeCode.string.code.toUInt64
  noEmbed_iff : w &&& f.string.noEmbed = 0 ↔ embedded = true
  length_eq : embedded = true → f.string.embedLenMask ≠ 0 →
    (w &&& f.string.embedLenMask) >>> f.string.embedLenShift = n.toUInt64
  fstr_iff : w &&& f.string.fstr ≠ 0 ↔ interned = true
  frozen : interned = true → w &&& f.header.freeze ≠ 0

namespace StringBits

variable {f : Facts}

theorem code_type (hb : StringBits f) :
    TypeCode.string.code.toUInt64 &&& f.header.typeMask = TypeCode.string.code.toUInt64 := by
  rw [hb.typeMask_eq]
  decide

/-- The string type code lies inside the type mask, so it misses every flag that misses the
mask. -/
theorem code_and (hb : StringBits f) {k : UInt64} (hk : k &&& f.header.typeMask = 0) :
    TypeCode.string.code.toUInt64 &&& k = 0 :=
  Bits.and_eq_zero_of_within hb.code_type hk

/-- The header word of an embedded string with its length in the flag bits. -/
theorem header_lenBits (hb : StringBits f) (hmask : f.string.embedLenMask ≠ 0) {n : Nat}
    (hn : n ≤ f.string.embedCapacity.toNat) :
    StringHeader f (TypeCode.string.code.toUInt64 ||| 0 |||
      (Word.shl n.toUInt64 f.string.embedLenShift &&& f.string.embedLenMask)) true n false := by
  obtain ⟨w, hw, hM, hsw, hcap⟩ := hb.lenField hmask
  have hlen : ∀ k, f.string.embedLenMask &&& k = 0 →
      (Word.shl n.toUInt64 f.string.embedLenShift &&& f.string.embedLenMask) &&& k = 0 :=
    fun k hk ↦ Bits.and_and_eq_zero _ hk
  refine ⟨?_, ?_, ?_, ?_, ?_⟩
  · rw [Bits.or_and_of_and_eq_zero _ (hlen _ hb.lenMask_type), UInt64.or_zero, hb.code_type]
  · rw [Bits.or_and_of_and_eq_zero _ (hlen _ hb.lenMask_noEmbed), UInt64.or_zero,
      hb.code_and hb.noEmbed_type]
    exact iff_of_true rfl rfl
  · intro _ _
    have hS : f.string.embedLenShift < 64 := by
      rw [UInt64.lt_iff_toNat_lt]
      exact Nat.lt_of_lt_of_le (by omega) hsw
    have hnw : n.toUInt64.toNat < 2 ^ w := by
      rw [Nat.toUInt64_eq, UInt64.toNat_ofNat']
      exact Nat.lt_of_le_of_lt (Nat.mod_le _ _) (by omega)
    rw [Bits.or_and, UInt64.or_zero, hb.code_and hb.lenMask_type, UInt64.zero_or,
      UInt64.and_assoc, UInt64.and_self, Word.shl_of_lt hS, Bits.field_roundtrip hM hw hsw hnw]
  · rw [Bits.or_and_of_and_eq_zero _ (hlen _ hb.lenMask_fstr), UInt64.or_zero,
      hb.code_and hb.fstr_type]
    exact iff_of_false (fun h ↦ h rfl) Bool.false_ne_true
  · intro h
    cases h

/-- The header word of an embedded string whose layout keeps the length in a word. -/
theorem header_plain (hb : StringBits f) (hmask : f.string.embedLenMask = 0) (n : Nat) :
    StringHeader f (TypeCode.string.code.toUInt64 ||| 0) true n false := by
  refine ⟨?_, ?_, fun _ h ↦ absurd hmask h, ?_, fun h ↦ absurd h Bool.false_ne_true⟩
  · rw [UInt64.or_zero, hb.code_type]
  · rw [UInt64.or_zero, hb.code_and hb.noEmbed_type]
    exact iff_of_true rfl rfl
  · rw [UInt64.or_zero, hb.code_and hb.fstr_type]
    exact iff_of_false (fun h ↦ h rfl) Bool.false_ne_true

/-- The header word of a string whose bytes lie in a separate buffer. -/
theorem header_noEmbed (hb : StringBits f) (n : Nat) :
    StringHeader f (TypeCode.string.code.toUInt64 ||| f.string.noEmbed) false n false := by
  refine ⟨?_, ?_, fun h ↦ absurd h Bool.false_ne_true, ?_, fun h ↦ absurd h Bool.false_ne_true⟩
  · rw [Bits.or_and_of_and_eq_zero _ hb.noEmbed_type, hb.code_type]
  · rw [Bits.or_and, hb.code_and hb.noEmbed_type, UInt64.zero_or, UInt64.and_self]
    exact iff_of_false hb.noEmbed_ne Bool.false_ne_true
  · rw [Bits.or_and_of_and_eq_zero _ hb.noEmbed_fstr, hb.code_and hb.fstr_type]
    exact iff_of_false (fun h ↦ h rfl) Bool.false_ne_true

end StringBits

/-- Interning sets the interned and frozen flags and leaves the type, the form and the length
bits of the header word. -/
theorem StringHeader.intern {f : Facts} {w : UInt64} {e : Bool} {n : Nat} {i : Bool}
    (hb : StringBits f) (hF : f.string.fstr ≠ 0) (hw : StringHeader f w e n i) :
    StringHeader f (w ||| (f.string.fstr ||| f.header.freeze)) e n true := by
  refine ⟨?_, ?_, ?_, ?_, fun _ ↦ ?_⟩
  · rw [Bits.or_and_of_and_eq_zero _ hb.intern_type]
    exact hw.type_eq
  · rw [Bits.or_and_of_and_eq_zero _ hb.intern_noEmbed]
    exact hw.noEmbed_iff
  · rw [Bits.or_and_of_and_eq_zero _ hb.intern_lenMask]
    exact hw.length_eq
  · rw [Bits.or_and, hb.intern_fstr]
    exact iff_of_true (Bits.or_ne_zero_of_right _ hF) rfl
  · rw [Bits.or_and, hb.intern_freeze]
    exact Bits.or_ne_zero_of_right _ hb.freeze_ne

/-! ### Strings in memory -/

/-- A string of the bytes `s` with the header word `w` at the arena offset `off` of `m`. An
embedded string keeps its bytes in its slot and, when the layout has no length bits, its length
in a word of the slot; any other string keeps its length and a pointer to a buffer of its bytes,
which lies in the arena after the slot. -/
inductive StringAt (f : Facts) (m : Memory) (off : Nat) (s : ByteArray) (w : UInt64) :
    Bool → Prop where
  | embedded (header : HoldsBytes m off (Memory.wordBytes w))
      (length : f.string.embedLenMask = 0 →
        HoldsBytes m (off + f.string.embedLenOffset.toNat) (Memory.wordBytes s.size.toUInt64))
      (bytes : HoldsBytes m (off + f.string.embedAryOffset.toNat) s) :
      StringAt f m off s w true
  | buffer (buf : Nat) (header : HoldsBytes m off (Memory.wordBytes w))
      (after : off + 40 ≤ buf) (inside : buf < m.size)
      (length : HoldsBytes m (off + f.string.heapLenOffset.toNat)
        (Memory.wordBytes s.size.toUInt64))
      (ptr : HoldsBytes m (off + f.string.heapPtrOffset.toNat)
        (Memory.wordBytes (m.base + buf.toUInt64)))
      (bytes : HoldsBytes m buf s) :
      StringAt f m off s w false

/-- The string of the bytes `s` lies at `v` in `m` by the facts `f`: at a word-aligned offset of
the arena with room for a base slot, in the embedded form exactly when `embedded`, interned
exactly when `interned`. -/
def StringObject (f : Facts) (m : Memory) (v : Value) (s : ByteArray) (embedded interned : Bool) :
    Prop :=
  ∃ off w, v = m.base + off.toUInt64 ∧ off % 8 = 0 ∧ off + 40 ≤ m.size ∧
    StringHeader f w embedded s.size interned ∧ StringAt f m off s w embedded

theorem StringAt.header_holds {f : Facts} {m : Memory} {off : Nat} {s : ByteArray} {w : UInt64}
    {e : Bool} (h : StringAt f m off s w e) : HoldsBytes m off (Memory.wordBytes w) := by
  cases h with
  | embedded header => exact header
  | buffer buf header => exact header

theorem StringAt.size_lt {f : Facts} {m : Memory} {off : Nat} {s : ByteArray} {w : UInt64}
    {e : Bool} (h : StringAt f m off s w e) (hmap : m.mapped ≤ Heap.mapLimit) :
    s.size < 2 ^ 63 := by
  have hlim : Heap.mapLimit = 2 ^ 47 := rfl
  cases h with
  | embedded header length bytes =>
    have := bytes.1
    omega
  | buffer buf header after inside length ptr bytes =>
    have := bytes.1
    omega

/-! ### Reading strings -/

namespace StringObject

variable {r : Release} {m : Memory} {v : Value} {s : ByteArray} {e i : Bool}

/-- A string laid out at an aligned offset is a heap reference whose flags every build reads as
its header word. -/
theorem flags_eq {off : Nat} {w : UInt64} (hbase : Heap.ArenaBase m.base)
    (hmap : m.mapped ≤ Heap.mapLimit) (hat : StringAt r.facts m off s w e) (hoff : off % 8 = 0)
    (debug : Bool) :
    r.facts.isSpecialConst (m.base + off.toUInt64) = false ∧
      (Accessors.mk r debug).flags m (m.base + off.toUInt64) = .ok w :=
  Accessors.flags_of_holdsBytes r debug hbase hmap hat.header_holds hoff

theorem typeCode_eq {f : Facts} {w : UInt64} {n : Nat} (hw : StringHeader f w e n i) :
    (⟨(w &&& f.header.typeMask).toUInt32⟩ : TypeCode) = TypeCode.string := by
  rw [hw.type_eq]
  rfl

/-- A string object is a heap reference whose flags every build reads as its header word. -/
theorem header (hobj : StringObject r.facts m v s e i) (hbase : Heap.ArenaBase m.base)
    (hmap : m.mapped ≤ Heap.mapLimit) (debug : Bool) :
    ∃ w, (r.facts.isSpecialConst v = false ∧ (Accessors.mk r debug).flags m v = .ok w) ∧
      StringHeader r.facts w e s.size i := by
  obtain ⟨off, w, rfl, hoff, -, hw, hat⟩ := hobj
  exact ⟨w, flags_eq hbase hmap hat hoff debug, hw⟩

/-- The string length every build of a release reads from a string object. -/
theorem stringLength_eq (hobj : StringObject r.facts m v s e i) (hbase : Heap.ArenaBase m.base)
    (hmap : m.mapped ≤ Heap.mapLimit) (debug : Bool) :
    (Accessors.mk r debug).stringLength m v = .ok s.size := by
  obtain ⟨off, w, rfl, hoff, -, hw, hat⟩ := hobj
  obtain ⟨hsc, hflags⟩ := flags_eq hbase hmap hat hoff debug
  have hw0 : m.wordAt (m.base + off.toUInt64 + r.facts.header.flagsOffset) = .ok w := hflags
  rw [Accessors.stringLength_eq_facts debug hw0,
    Accessors.assertType_eq_ok (a := Accessors.mk r debug) hsc hflags (typeCode_eq hw),
    Accessors.ok_bind]
  have hsize := hat.size_lt hmap
  unfold Facts.stringLengthOf
  cases hat with
  | embedded header length bytes =>
    rw [if_pos (hw.noEmbed_iff.mpr rfl)]
    by_cases hmask : r.facts.string.embedLenMask = 0
    · rw [if_neg (not_not_intro hmask),
        Accessors.longAt_of_holdsBytes (length hmask)
          (Memory.toNat_arena_add hbase hmap (length hmask)),
        Word.signed_toUInt64 hsize]
    · rw [if_pos hmask, hw.length_eq rfl hmask, Word.signed_toUInt64 hsize]
  | buffer buf header after inside length ptr bytes =>
    rw [if_neg (fun h ↦ Bool.false_ne_true (hw.noEmbed_iff.mp h)),
      Accessors.longAt_of_holdsBytes length (Memory.toNat_arena_add hbase hmap length),
      Word.signed_toUInt64 hsize]

/-- Where every build of a release finds the bytes of a string object: in its slot exactly when
it is embedded, and in either case at an offset of the arena that holds them, inside the arena
proper when it is a separate buffer. -/
theorem stringPtr_eq (hobj : StringObject r.facts m v s e i) (hbase : Heap.ArenaBase m.base)
    (hmap : m.mapped ≤ Heap.mapLimit) (debug : Bool) :
    ∃ p poff, (Accessors.mk r debug).stringPtr m v = .ok p ∧
      p.toNat = m.base.toNat + poff ∧ HoldsBytes m poff s ∧
      (p = v + r.facts.string.embedAryOffset ↔ e = true) ∧ (e = false → poff < m.size) := by
  obtain ⟨off, w, rfl, hoff, -, hw, hat⟩ := hobj
  obtain ⟨hsc, hflags⟩ := flags_eq hbase hmap hat hoff debug
  rw [Accessors.stringPtr_eq_facts (Accessors.mk r debug) hflags,
    Accessors.assertType_eq_ok (a := Accessors.mk r debug) hsc hflags (typeCode_eq hw),
    Accessors.ok_bind]
  unfold Facts.stringPtrOf
  dsimp only [Accessors.layout]
  cases hat with
  | embedded header length bytes =>
    simp only [hw.noEmbed_iff.mpr rfl, if_true]
    exact ⟨_, _, rfl, Memory.toNat_arena_add hbase hmap bytes, bytes, iff_of_true rfl trivial,
      fun h ↦ absurd h (by decide)⟩
  | buffer buf header after inside length ptr bytes =>
    have hlim : buf ≤ Heap.mapLimit := by
      have := bytes.1
      omega
    have hne : ¬ w &&& r.facts.string.noEmbed = 0 :=
      fun h ↦ Bool.false_ne_true (hw.noEmbed_iff.mp h)
    simp only [hne, if_false]
    rw [Memory.wordAt_of_holdsBytes ptr (Memory.toNat_arena_add hbase hmap ptr)]
    refine ⟨_, buf, rfl, hbase.toNat_add_off hlim, bytes,
      iff_of_false (fun heq ↦ ?_) Bool.false_ne_true, fun _ ↦ inside⟩
    have hary := (Release.stringSlot r).ary_lt
    have hslot := congrArg UInt64.toNat heq
    rw [hbase.toNat_add_off hlim, hbase.toNat_add (by omega)] at hslot
    omega

/-- Every build of a release reads the interned flag of a string object. -/
theorem stringInternedP_eq (hobj : StringObject r.facts m v s e i)
    (hbase : Heap.ArenaBase m.base) (hmap : m.mapped ≤ Heap.mapLimit) (debug : Bool) :
    (Accessors.mk r debug).stringInternedP m v = .ok i := by
  obtain ⟨w, ⟨hsc, hflags⟩, hw⟩ := header hobj hbase hmap debug
  rw [Accessors.stringInternedP_eq_facts (Accessors.mk r debug) hflags,
    Accessors.assertType_eq_ok (a := Accessors.mk r debug) hsc hflags (typeCode_eq hw),
    Accessors.ok_bind]
  congr 1
  cases i with
  | false => exact decide_eq_false (fun h ↦ Bool.false_ne_true (hw.fstr_iff.mp h))
  | true => exact decide_eq_true (hw.fstr_iff.mpr rfl)

/-- An interned string object reads as frozen. -/
theorem frozenP_eq (hobj : StringObject r.facts m v s e true)
    (hbase : Heap.ArenaBase m.base) (hmap : m.mapped ≤ Heap.mapLimit) (debug : Bool) :
    (Accessors.mk r debug).frozenP m v = .ok true := by
  obtain ⟨w, ⟨hsc, hflags⟩, hw⟩ := header hobj hbase hmap debug
  unfold Accessors.frozenP
  rw [Accessors.layout, hsc, hflags]
  simp only [Bool.false_eq_true, if_false, Accessors.ok_bind, Bits.bne_eq_decide,
    decide_eq_true (hw.frozen rfl)]
  rfl

/-- Every build of a release reads a string object as a string. -/
theorem rbType_eq (hobj : StringObject r.facts m v s e i) (hbase : Heap.ArenaBase m.base)
    (hmap : m.mapped ≤ Heap.mapLimit) (debug : Bool) :
    (Accessors.mk r debug).rbType m v = .ok .string := by
  obtain ⟨w, ⟨hsc, hflags⟩, hw⟩ := header hobj hbase hmap debug
  rw [Accessors.rbType_eq (a := Accessors.mk r debug) hsc hflags]
  exact congrArg Except.ok (typeCode_eq hw)

/-- The checked tier finds a string object to be a string. -/
theorem requireType_eq_ok (api : Api) (hobj : StringObject api.release.facts m v s e i)
    (hbase : Heap.ArenaBase m.base) (hmap : m.mapped ≤ Heap.mapLimit) (op : String) :
    api.requireType m op v .string = .ok () := by
  obtain ⟨w, ⟨hsc, hflags⟩, hw⟩ := header hobj hbase hmap api.debug
  exact Api.requireType_eq_ok api hsc hflags (typeCode_eq hw) op

/-- What the accessors of a release read from a string object, through either tier: its type,
its length, its bytes, a pointer to its inline bytes exactly when it is embedded and otherwise
into the arena, and its interned flag. -/
theorem reads (api : Api) (hobj : StringObject api.release.facts m v s e i)
    (hbase : Heap.ArenaBase m.base) (hmap : m.mapped ≤ Heap.mapLimit) :
    api.raw.rbType m v = .ok .string ∧
      api.stringLength m v = .ok s.size ∧
      api.stringValue m v = .ok s ∧
      (api.stringPtr m v = .ok (v + api.release.facts.string.embedAryOffset) ↔ e = true) ∧
      (e = false → ∃ p, api.stringPtr m v = .ok p ∧ m.contains p = true) ∧
      api.stringInternedP m v = .ok i := by
  have hreq := requireType_eq_ok api hobj hbase hmap
  have hlen : api.stringLength m v = .ok s.size := by
    unfold Api.stringLength
    rw [Api.tier_eq_raw _ (hreq _)]
    exact stringLength_eq hobj hbase hmap api.debug
  obtain ⟨p, poff, hptr, hp, hheld, hin, hbuf⟩ := stringPtr_eq hobj hbase hmap api.debug
  have hptr' : api.stringPtr m v = .ok p := by
    unfold Api.stringPtr
    rw [Api.tier_eq_raw _ (hreq _)]
    exact hptr
  have hfit := hheld.1
  have hlim : Heap.mapLimit = 2 ^ 47 := rfl
  have hpos := hbase.pos
  have hlt := hbase.lt
  refine ⟨rbType_eq hobj hbase hmap api.debug, hlen, ?_, ?_, fun he ↦ ⟨p, hptr', ?_⟩, ?_⟩
  · unfold Api.stringValue
    rw [hptr', Accessors.ok_bind, hlen, Accessors.ok_bind]
    exact Api.view_of_holdsBytes hheld hp (fun h0 ↦ by rw [h0] at hp; simp at hp; omega)
      (by omega) (Int.natCast_nonneg _) (by simp)
  · rw [hptr']
    exact ⟨fun h ↦ hin.mp (Except.ok.inj h), fun h ↦ congrArg Except.ok (hin.mpr h)⟩
  · have := hbuf he
    simp only [Memory.contains, Bool.and_eq_true, decide_eq_true_eq]
    omega
  · unfold Api.stringInternedP
    rw [Api.tier_eq_raw _ (hreq _)]
    exact stringInternedP_eq hobj hbase hmap api.debug

end StringObject

end RubyLayout
