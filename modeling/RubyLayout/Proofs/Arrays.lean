import RubyLayout.Proofs.Objects

/-!
# Arrays in the arena

What an array object is, as the accessors see it, and what every release reads from one.

* The elements of an array are stored as the little-endian bytes of their words, `wordsBytes`;
  word `i` of them lies `8 i` bytes along (`Heap.wordsBytes_getElem?`,
  `Memory.HoldsBytes.element`), and reading them back as words gives the list
  (`Api.wordsOf_wordsBytes`).
* `ArrayBits` says the header bits of an array layout do not collide, and `ArraySlot` that the
  words of an array slot do not overlap; both hold for every release (`Release.arrayBits`,
  `Release.arraySlot`).
* `ArrayHeader` is what the accessors read from a header word: the array type, the embedded flag
  and the length bits; the builders' header words are array headers
  (`ArrayBits.header_embedded`, `ArrayBits.header_buffer`).
* `ArrayAt` lays an array's elements, length and buffer pointer out at an offset of memory, and
  `ArrayObject` places it at an aligned address of the arena.
* `ArrayObject.reads`: through either tier and in every build, an array object reads as an array
  of its length whose every element, and whose list of elements, are its own, and whose pointer
  is its inline elements exactly when it is embedded and lies in the arena otherwise.
-/

set_option autoImplicit false
set_option relaxedAutoImplicit false

namespace RubyLayout

open Memory

/-! ### Element words -/

namespace Heap

/-- Appending the bytes of words one by one appends the bytes of the list. -/
theorem foldl_append_wordBytes (init : ByteArray) (ws : List UInt64) :
    ws.foldl (fun acc w ↦ acc ++ Memory.wordBytes w) init = init ++ wordsBytes ws := by
  induction ws generalizing init with
  | nil => exact ByteArray.append_empty.symm
  | cons w ws ih =>
    have hcons : wordsBytes (w :: ws) = ByteArray.empty ++ Memory.wordBytes w ++ wordsBytes ws :=
      ih _
    rw [List.foldl_cons, ih, hcons, ByteArray.empty_append, ByteArray.append_assoc]

theorem wordsBytes_cons (w : UInt64) (ws : List UInt64) :
    wordsBytes (w :: ws) = Memory.wordBytes w ++ wordsBytes ws := by
  rw [wordsBytes, List.foldl_cons, foldl_append_wordBytes, ByteArray.empty_append]

@[simp] theorem wordsBytes_size (ws : List UInt64) : (wordsBytes ws).size = 8 * ws.length := by
  induction ws with
  | nil => rfl
  | cons w ws ih =>
    rw [wordsBytes_cons, ByteArray.size_append, ih, wordBytes_size, List.length_cons]
    omega

/-- Byte `k` of word `i` of the bytes of a list of words. -/
theorem wordsBytes_getElem? {ws : List UInt64} {i k : Nat} (hi : i < ws.length) (hk : k < 8) :
    (wordsBytes ws).data[8 * i + k]? = some (ws[i] >>> (8 * k).toUInt64).toUInt8 := by
  induction ws generalizing i with
  | nil => cases hi
  | cons w ws ih =>
    have h8 : (Memory.wordBytes w).data.size = 8 := wordBytes_size w
    rw [wordsBytes_cons, ByteArray.data_append, Array.getElem?_append, h8]
    cases i with
    | zero =>
      rw [if_pos (by omega), Nat.mul_zero, Nat.zero_add, wordBytes_getElem? w hk]
      rfl
    | succ i =>
      rw [if_neg (by omega), show 8 * (i + 1) + k - 8 = 8 * i + k by omega,
        ih (by simpa using hi)]
      rfl

end Heap

/-- Word `i` of held words is held eight bytes per word along. -/
theorem Memory.HoldsBytes.element {m : Memory} {off : Nat} {ws : List UInt64}
    (hb : HoldsBytes m off (Heap.wordsBytes ws)) {i : Nat} (hi : i < ws.length) :
    HoldsBytes m (off + 8 * i) (Memory.wordBytes ws[i]) := by
  have hfit := hb.1
  rw [Heap.wordsBytes_size] at hfit
  refine ⟨by rw [wordBytes_size]; omega, fun k hk ↦ ?_⟩
  rw [wordBytes_size] at hk
  have hk' := hb.2 (8 * i + k) (by rw [Heap.wordsBytes_size]; omega)
  rw [Heap.wordsBytes_getElem? hi hk] at hk'
  rw [wordBytes_getElem? _ hk, hk', Nat.add_assoc]

/-- Reading the bytes of a list of words back as words gives the list. -/
theorem Api.wordsOf_wordsBytes (ws : List UInt64) : Api.wordsOf (Heap.wordsBytes ws) = ws := by
  unfold Api.wordsOf
  rw [Heap.wordsBytes_size, Nat.mul_div_cancel_left _ (by decide)]
  refine List.ext_getElem (by simp) fun i h1 h2 ↦ ?_
  rw [List.getElem_map, List.getElem_range]
  refine foldl_bytes_eq _ fun k hk ↦ ?_
  rw [Array.getD_eq_getD_getElem?, Heap.wordsBytes_getElem? (by simpa using h1) hk]
  rfl

/-- A word of a nonnegative integer below `2^64` is the integer. -/
theorem Word.toNat_ofInt {i : Int} (h0 : 0 ≤ i) (hi : i < 2 ^ 64) :
    (Word.ofInt i).toNat = i.toNat := by
  have hpow : Int.pow 2 64 = 2 ^ 64 := rfl
  unfold Word.ofInt
  rw [hpow, Int.emod_eq_of_lt h0 hi, Nat.toUInt64_eq, UInt64.toNat_ofNat']
  omega

/-- The address of element `i` of elements at `p`, without wraparound. -/
theorem toNat_add_ofInt_mul {p : UInt64} {i : Nat} (hfit : p.toNat + 8 * i < 2 ^ 64) :
    (p + Word.ofInt i * 8).toNat = p.toNat + 8 * i := by
  have hi := Word.toNat_ofInt (Int.natCast_nonneg i) (by omega)
  rw [UInt64.toNat_add, UInt64.toNat_mul, hi, Int.toNat_natCast]
  simp
  omega

/-! ### Array layouts -/

/-- The header bits of an array layout do not collide: the embedded flag and the length field
each miss the type and one another, and the length field is wide enough for the embedding
capacity. -/
structure ArrayBits (f : Facts) : Prop where
  typeMask_eq : f.header.typeMask = 0x1f
  embedFlag_ne : f.array.embedFlag ≠ 0
  embedFlag_type : f.array.embedFlag &&& f.header.typeMask = 0
  lenMask_type : f.array.embedLenMask &&& f.header.typeMask = 0
  lenMask_embedFlag : f.array.embedLenMask &&& f.array.embedFlag = 0
  lenField : ∃ w, 0 < w ∧
    f.array.embedLenMask.toNat = (2 ^ w - 1) * 2 ^ f.array.embedLenShift.toNat ∧
    f.array.embedLenShift.toNat + w ≤ 64 ∧ f.array.embedCapacity.toNat < 2 ^ w

/-- The array bits of every release do not collide. -/
theorem Release.arrayBits (r : Release) : ArrayBits r.facts := by
  cases r
  case v27 | v30 | v31 =>
    exact ⟨rfl, by decide, by decide, by decide, by decide,
      ⟨2, by decide, by decide, by decide, by decide⟩⟩
  case v32 | v33 | v34 | v40 =>
    exact ⟨rfl, by decide, by decide, by decide, by decide,
      ⟨7, by decide, by decide, by decide, by decide⟩⟩

/-- The words of an array slot do not overlap: the header word comes first, and the length, the
capacity and the pointer of an array with a separate buffer fill the base slot of 40 bytes. -/
structure ArraySlot (f : Facts) : Prop where
  ary_ge : 8 ≤ f.array.embedAryOffset.toNat
  ary_lt : f.array.embedAryOffset.toNat < 40
  heapLen_ge : 8 ≤ f.array.heapLenOffset.toNat
  heapLen_le : f.array.heapLenOffset.toNat + 16 ≤ f.array.heapPtrOffset.toNat
  heapPtr_le : f.array.heapPtrOffset.toNat + 8 ≤ 40

/-- The array slots of every release do not overlap. -/
theorem Release.arraySlot (r : Release) : ArraySlot r.facts := by
  cases r <;> exact ⟨by decide, by decide, by decide, by decide, by decide⟩

/-! ### Header words of arrays -/

/-- What the accessors read from the header word `w` of an array of `n` elements: the array type,
the embedded form exactly when `embedded`, and the length in the flag bits of an embedded
array. -/
structure ArrayHeader (f : Facts) (w : UInt64) (embedded : Bool) (n : Nat) : Prop where
  type_eq : w &&& f.header.typeMask = TypeCode.array.code.toUInt64
  embed_iff : w &&& f.array.embedFlag ≠ 0 ↔ embedded = true
  length_eq : embedded = true →
    (w &&& f.array.embedLenMask) >>> f.array.embedLenShift = n.toUInt64

namespace ArrayBits

variable {f : Facts}

theorem code_type (hb : ArrayBits f) :
    TypeCode.array.code.toUInt64 &&& f.header.typeMask = TypeCode.array.code.toUInt64 := by
  rw [hb.typeMask_eq]
  decide

/-- The header word of an embedded array: the embedded flag and the length bits. -/
theorem header_embedded (hb : ArrayBits f) {n : Nat} (hn : n ≤ f.array.embedCapacity.toNat) :
    ArrayHeader f (TypeCode.array.code.toUInt64 ||| (f.array.embedFlag |||
      (Word.shl n.toUInt64 f.array.embedLenShift &&& f.array.embedLenMask))) true n := by
  obtain ⟨w, hw, hM, hsw, hcap⟩ := hb.lenField
  have hlen : ∀ k, f.array.embedLenMask &&& k = 0 →
      (Word.shl n.toUInt64 f.array.embedLenShift &&& f.array.embedLenMask) &&& k = 0 :=
    fun k hk ↦ Bits.and_and_eq_zero _ hk
  have hcode : ∀ k, k &&& f.header.typeMask = 0 → TypeCode.array.code.toUInt64 &&& k = 0 :=
    fun k hk ↦ Bits.and_eq_zero_of_within hb.code_type hk
  refine ⟨?_, ?_, fun _ ↦ ?_⟩
  · rw [Bits.or_and_of_and_eq_zero _ (by rw [Bits.or_and, hb.embedFlag_type,
      hlen _ hb.lenMask_type, UInt64.or_zero]), hb.code_type]
  · rw [Bits.or_and, hcode _ hb.embedFlag_type, UInt64.zero_or, Bits.or_and, UInt64.and_self,
      hlen _ hb.lenMask_embedFlag, UInt64.or_zero]
    exact iff_of_true hb.embedFlag_ne rfl
  · have hS : f.array.embedLenShift < 64 := by
      rw [UInt64.lt_iff_toNat_lt]
      exact Nat.lt_of_lt_of_le (by omega) hsw
    have hnw : n.toUInt64.toNat < 2 ^ w := by
      rw [Nat.toUInt64_eq, UInt64.toNat_ofNat']
      exact Nat.lt_of_le_of_lt (Nat.mod_le _ _) (by omega)
    have hflag : f.array.embedFlag &&& f.array.embedLenMask = 0 := by
      rw [UInt64.and_comm]
      exact hb.lenMask_embedFlag
    rw [Bits.or_and, hcode _ hb.lenMask_type,
      UInt64.zero_or, Bits.or_and, hflag, UInt64.zero_or, UInt64.and_assoc, UInt64.and_self,
      Word.shl_of_lt hS, Bits.field_roundtrip hM hw hsw hnw]

/-- The header word of an array whose elements lie in a separate buffer. -/
theorem header_buffer (hb : ArrayBits f) (n : Nat) :
    ArrayHeader f (TypeCode.array.code.toUInt64 ||| 0) false n := by
  refine ⟨?_, ?_, fun h ↦ absurd h Bool.false_ne_true⟩
  · rw [UInt64.or_zero, hb.code_type]
  · rw [UInt64.or_zero, Bits.and_eq_zero_of_within hb.code_type hb.embedFlag_type]
    exact iff_of_false (fun h ↦ h rfl) Bool.false_ne_true

end ArrayBits

/-! ### Arrays in memory -/

/-- An array of the words `elems` with the header word `w` at the arena offset `off` of `m`. An
embedded array keeps its elements in its slot; any other array keeps its length and a pointer to
a buffer of its elements, which lies in the arena after the slot. -/
inductive ArrayAt (f : Facts) (m : Memory) (off : Nat) (elems : List Value) (w : UInt64) :
    Bool → Prop where
  | embedded (header : HoldsBytes m off (Memory.wordBytes w))
      (elements : HoldsBytes m (off + f.array.embedAryOffset.toNat) (Heap.wordsBytes elems)) :
      ArrayAt f m off elems w true
  | buffer (buf : Nat) (header : HoldsBytes m off (Memory.wordBytes w))
      (after : off + 40 ≤ buf) (inside : buf < m.size)
      (length : HoldsBytes m (off + f.array.heapLenOffset.toNat)
        (Memory.wordBytes elems.length.toUInt64))
      (ptr : HoldsBytes m (off + f.array.heapPtrOffset.toNat)
        (Memory.wordBytes (m.base + buf.toUInt64)))
      (elements : HoldsBytes m buf (Heap.wordsBytes elems)) :
      ArrayAt f m off elems w false

/-- The array of the words `elems` lies at `v` in `m` by the facts `f`: at a word-aligned offset
of the arena with room for a base slot, in the embedded form exactly when `embedded`. -/
def ArrayObject (f : Facts) (m : Memory) (v : Value) (elems : List Value) (embedded : Bool) :
    Prop :=
  ∃ off w, v = m.base + off.toUInt64 ∧ off % 8 = 0 ∧ off + 40 ≤ m.size ∧
    ArrayHeader f w embedded elems.length ∧ ArrayAt f m off elems w embedded

namespace ArrayAt

variable {f : Facts} {m : Memory} {off : Nat} {elems : List Value} {w : UInt64} {e : Bool}

theorem header_holds (h : ArrayAt f m off elems w e) : HoldsBytes m off (Memory.wordBytes w) := by
  cases h with
  | embedded header => exact header
  | buffer buf header => exact header

theorem length_lt (h : ArrayAt f m off elems w e) (hmap : m.mapped ≤ Heap.mapLimit) :
    elems.length < 2 ^ 63 := by
  have hlim : Heap.mapLimit = 2 ^ 47 := rfl
  cases h with
  | embedded header elements =>
    have := elements.1
    rw [Heap.wordsBytes_size] at this
    omega
  | buffer buf header after inside length ptr elements =>
    have := elements.1
    rw [Heap.wordsBytes_size] at this
    omega

end ArrayAt

/-! ### Reading arrays -/

namespace ArrayObject

variable {r : Release} {m : Memory} {v : Value} {elems : List Value} {e : Bool}

theorem typeCode_eq {f : Facts} {w : UInt64} {n : Nat} (hw : ArrayHeader f w e n) :
    (⟨(w &&& f.header.typeMask).toUInt32⟩ : TypeCode) = TypeCode.array := by
  rw [hw.type_eq]
  rfl

/-- The array length every build of a release reads from an array object. -/
theorem arrayLength_eq (hobj : ArrayObject r.facts m v elems e) (hbase : Heap.ArenaBase m.base)
    (hmap : m.mapped ≤ Heap.mapLimit) (debug : Bool) :
    (Accessors.mk r debug).arrayLength m v = .ok elems.length := by
  obtain ⟨off, w, rfl, hoff, -, hw, hat⟩ := hobj
  obtain ⟨hsc, hflags⟩ := Accessors.flags_of_holdsBytes r debug hbase hmap hat.header_holds hoff
  rw [Accessors.arrayLength_eq_facts (Accessors.mk r debug) hflags,
    Accessors.assertType_eq_ok (a := Accessors.mk r debug) hsc hflags (typeCode_eq hw),
    Accessors.ok_bind]
  have hlen := hat.length_lt hmap
  unfold Facts.arrayLengthOf
  dsimp only [Accessors.layout]
  cases hat with
  | embedded header elements =>
    simp only [ne_eq, hw.embed_iff.mpr rfl, not_false_eq_true, if_true]
    rw [hw.length_eq rfl, Word.signed_toUInt64 hlen]
  | buffer buf header after inside length ptr elements =>
    have hne : w &&& r.facts.array.embedFlag = 0 :=
      not_not.mp (fun h ↦ Bool.false_ne_true (hw.embed_iff.mp h))
    simp only [hne, ne_eq, not_true_eq_false, if_false]
    rw [Accessors.longAt_of_holdsBytes length (Memory.toNat_arena_add hbase hmap length),
      Word.signed_toUInt64 hlen]

/-- Where every build of a release finds the elements of an array object: in its slot exactly
when it is embedded, and in either case at an offset of the arena that holds them, inside the
arena proper when it is a separate buffer. -/
theorem arrayPtr_eq (hobj : ArrayObject r.facts m v elems e) (hbase : Heap.ArenaBase m.base)
    (hmap : m.mapped ≤ Heap.mapLimit) (debug : Bool) :
    ∃ p poff, (Accessors.mk r debug).arrayPtr m v = .ok p ∧
      p.toNat = m.base.toNat + poff ∧ HoldsBytes m poff (Heap.wordsBytes elems) ∧
      (p = v + r.facts.array.embedAryOffset ↔ e = true) ∧ (e = false → poff < m.size) := by
  obtain ⟨off, w, rfl, hoff, -, hw, hat⟩ := hobj
  obtain ⟨hsc, hflags⟩ := Accessors.flags_of_holdsBytes r debug hbase hmap hat.header_holds hoff
  rw [Accessors.arrayPtr_eq_facts (Accessors.mk r debug) hflags,
    Accessors.assertType_eq_ok (a := Accessors.mk r debug) hsc hflags (typeCode_eq hw),
    Accessors.ok_bind]
  unfold Facts.arrayPtrOf
  dsimp only [Accessors.layout]
  cases hat with
  | embedded header elements =>
    simp only [ne_eq, hw.embed_iff.mpr rfl, not_false_eq_true, if_true]
    exact ⟨_, _, rfl, Memory.toNat_arena_add hbase hmap elements, elements,
      iff_of_true rfl trivial, fun h ↦ absurd h (by decide)⟩
  | buffer buf header after inside length ptr elements =>
    have hlim : buf ≤ Heap.mapLimit := by
      have := elements.1
      omega
    have hne : w &&& r.facts.array.embedFlag = 0 :=
      not_not.mp (fun h ↦ Bool.false_ne_true (hw.embed_iff.mp h))
    simp only [hne, ne_eq, not_true_eq_false, if_false]
    rw [Memory.wordAt_of_holdsBytes ptr (Memory.toNat_arena_add hbase hmap ptr)]
    refine ⟨_, buf, rfl, hbase.toNat_add_off hlim, elements,
      iff_of_false (fun heq ↦ ?_) Bool.false_ne_true, fun _ ↦ inside⟩
    have hary := (Release.arraySlot r).ary_lt
    have hslot := congrArg UInt64.toNat heq
    rw [hbase.toNat_add_off hlim, hbase.toNat_add (by omega)] at hslot
    omega

/-- The word `i` words past held elements is element `i`. -/
theorem wordAt_element {p : UInt64} {poff : Nat} (hp : p.toNat = m.base.toNat + poff)
    (hheld : HoldsBytes m poff (Heap.wordsBytes elems)) (hbase : Heap.ArenaBase m.base)
    (hmap : m.mapped ≤ Heap.mapLimit) {i : Nat} (hi : i < elems.length) :
    m.wordAt (p + Word.ofInt i * 8) = .ok elems[i] := by
  have hel := hheld.element hi
  have hfit := hel.1
  have hlim : Heap.mapLimit = 2 ^ 47 := rfl
  have hpos := hbase.pos
  have hlt := hbase.lt
  refine Memory.wordAt_of_holdsBytes hel ?_
  rw [toNat_add_ofInt_mul (by rw [hp]; omega), hp, Nat.add_assoc]

/-- Element `i` of an array object, in every build of a release. -/
theorem arrayRef_eq (hobj : ArrayObject r.facts m v elems e) (hbase : Heap.ArenaBase m.base)
    (hmap : m.mapped ≤ Heap.mapLimit) (debug : Bool) {i : Nat} (hi : i < elems.length) :
    (Accessors.mk r debug).arrayRef m v i = .ok elems[i] := by
  obtain ⟨p, poff, hptr, hp, hheld, -, -⟩ := arrayPtr_eq hobj hbase hmap debug
  have hlen := arrayLength_eq hobj hbase hmap debug
  unfold Accessors.arrayRef
  cases debug
  · simp only [Bool.false_eq_true, if_false]
    rw [hptr, Accessors.ok_bind]
    exact wordAt_element hp hheld hbase hmap hi
  · have hassert : (Accessors.mk r true).assert (decide (0 ≤ (i : Int) ∧ (i : Int) <
        (elems.length : Int))) "RArrayAref" v "index in range" "out of bounds" = .ok () := by
      rw [decide_eq_true ⟨Int.natCast_nonneg i, by omega⟩]
      rfl
    simp only [if_true]
    rw [hlen, Accessors.ok_bind, hassert, Accessors.ok_bind, hptr, Accessors.ok_bind]
    exact wordAt_element hp hheld hbase hmap hi

/-- Every build of a release reads an array object as an array. -/
theorem rbType_eq (hobj : ArrayObject r.facts m v elems e) (hbase : Heap.ArenaBase m.base)
    (hmap : m.mapped ≤ Heap.mapLimit) (debug : Bool) :
    (Accessors.mk r debug).rbType m v = .ok .array := by
  obtain ⟨off, w, rfl, hoff, -, hw, hat⟩ := hobj
  obtain ⟨hsc, hflags⟩ := Accessors.flags_of_holdsBytes r debug hbase hmap hat.header_holds hoff
  rw [Accessors.rbType_eq (a := Accessors.mk r debug) hsc hflags]
  exact congrArg Except.ok (typeCode_eq hw)

/-- The checked tier finds an array object to be an array. -/
theorem requireType_eq_ok (api : Api) (hobj : ArrayObject api.release.facts m v elems e)
    (hbase : Heap.ArenaBase m.base) (hmap : m.mapped ≤ Heap.mapLimit) (op : String) :
    api.requireType m op v .array = .ok () := by
  obtain ⟨off, w, rfl, hoff, -, hw, hat⟩ := hobj
  obtain ⟨hsc, hflags⟩ :=
    Accessors.flags_of_holdsBytes api.release api.debug hbase hmap hat.header_holds hoff
  exact Api.requireType_eq_ok api hsc hflags (typeCode_eq hw) op

/-- What the accessors of a release read from an array object, through either tier: its type,
its length, each of its elements, all of them at once, and a pointer to its inline elements
exactly when it is embedded and otherwise into the arena. -/
theorem reads (api : Api) (hobj : ArrayObject api.release.facts m v elems e)
    (hbase : Heap.ArenaBase m.base) (hmap : m.mapped ≤ Heap.mapLimit) :
    api.raw.rbType m v = .ok .array ∧
      api.arrayLength m v = .ok elems.length ∧
      (∀ i (hi : i < elems.length), api.arrayRef m v i = .ok elems[i]) ∧
      api.arrayValues m v = .ok elems ∧
      (api.arrayPtr m v = .ok (v + api.release.facts.array.embedAryOffset) ↔ e = true) ∧
      (e = false → ∃ p, api.arrayPtr m v = .ok p ∧ m.contains p = true) := by
  have hreq := requireType_eq_ok api hobj hbase hmap
  have hlenRaw : api.raw.arrayLength m v = .ok elems.length :=
    arrayLength_eq hobj hbase hmap api.debug
  have hlen : api.arrayLength m v = .ok elems.length := by
    unfold Api.arrayLength
    rw [Api.tier_eq_raw _ (hreq _)]
    exact hlenRaw
  obtain ⟨p, poff, hptr, hp, hheld, hin, hbuf⟩ := arrayPtr_eq hobj hbase hmap api.debug
  have hptr' : api.arrayPtr m v = .ok p := by
    unfold Api.arrayPtr
    rw [Api.tier_eq_raw _ (hreq _)]
    exact hptr
  have hfit := hheld.1
  have hlim : Heap.mapLimit = 2 ^ 47 := rfl
  have hpos := hbase.pos
  have hlt := hbase.lt
  refine ⟨rbType_eq hobj hbase hmap api.debug, hlen, fun i hi ↦ ?_, ?_, ?_,
    fun he ↦ ⟨p, hptr', ?_⟩⟩
  · unfold Api.arrayRef
    by_cases hc : api.checking = true
    · rw [if_pos hc, hreq, Accessors.ok_bind, hlenRaw, Accessors.ok_bind,
        if_neg (by omega)]
      exact arrayRef_eq hobj hbase hmap api.debug hi
    · rw [if_neg hc]
      exact arrayRef_eq hobj hbase hmap api.debug hi
  · unfold Api.arrayValues
    rw [hptr', Accessors.ok_bind, hlen, Accessors.ok_bind,
      Api.view_of_holdsBytes hheld hp (fun h0 ↦ by rw [h0] at hp; simp at hp; omega)
        (by omega) (Int.natCast_nonneg _) (by simp; omega),
      Accessors.ok_bind, Api.wordsOf_wordsBytes]
    rfl
  · rw [hptr']
    exact ⟨fun h ↦ hin.mp (Except.ok.inj h), fun h ↦ congrArg Except.ok (hin.mpr h)⟩
  · have := hbuf he
    simp only [Memory.contains, Bool.and_eq_true, decide_eq_true_eq]
    omega

end ArrayObject

end RubyLayout
