import RubyLayout.Proofs.Objects
import RubyLayout.Proofs.HeapFrame
import RubyLayout.Proofs.BuilderFrames
import RubyLayout.Proofs.Headers

/-!
# Typed data across its two markings

A data object points at its data; a typed data object also points at a data type record and may
carry its payload in the slot. The releases with typed data mark it in one of two ways. In 3.3 and
3.4 a flag word beside the type word holds `1` or `1 | EMBEDDED`, and a plain data object has its
free function in that word. In 4.0 a header flag marks typed data and the low bit of the type word
says whether the payload is embedded. The heap builds all three kinds generically over the
release's `TypedDataLayout`; each release decodes them with its own accessors.

Main statement: `typed_data_read_back`. On a sound heap of a release with typed data, whose bytes
past the bump pointer are zero, a data type record from `dataType` is word-aligned. Typed data
built for it, embedded or not, is read back as typed data of that type, with the payload or the
data pointer it was given. Plain data is read back as data that is not typed.

The builders succeed with room and leave a `TypedDataAt` or an `UntypedDataAt` in memory
(`Heap.exec_embeddedTypedData_of_room`, `Heap.exec_typedData_of_room`,
`Heap.exec_untypedData_of_room`). The readers are proved once over those descriptions
(`TypedDataAt.reads`, `UntypedDataAt.reads`), with one case for each marking. A plain data object
reads as untyped in 3.3 only because its free function word is zero, so the zero tail of
`HeapFrame` is carried through `dataType` (`Heap.exec_dataType_spec`).
-/

set_option autoImplicit false
set_option relaxedAutoImplicit false

namespace RubyLayout

open Memory

/-! ### Typed data layouts -/

/-- Where a typed data layout puts its words in a slot of the base size: the type word and, when
no header flag marks typed data, the flag word lie between the class word and the payload at the
fourth word, apart from each other; the payload starts at the fourth word whether it is a pointer
or embedded. -/
structure TypedSlot (td : TypedDataLayout) : Prop where
  supported : td.supported = true
  type_ge : 16 ≤ td.typeOffset.toNat
  type_le : td.typeOffset.toNat + 8 ≤ 32
  flag_ge : td.typedFlag = 0 → 16 ≤ td.flagOffset.toNat
  flag_le : td.typedFlag = 0 → td.flagOffset.toNat + 8 ≤ 32
  type_flag : td.typedFlag = 0 →
    td.typeOffset.toNat + 8 ≤ td.flagOffset.toNat ∨
      td.flagOffset.toNat + 8 ≤ td.typeOffset.toNat
  data_eq : td.dataOffset.toNat = 32
  embed_eq : td.embedOffset.toNat = 32

namespace Release

/-- The releases with typed data mark it by a flag word at 24 beside the type word at 16, whose
bit 2 says embedded (3.3, 3.4), or by the header flag `0x40`, with the embedded bit 1 in the type
word at 24 (4.0). -/
theorem typedData_cases {r : Release} (hr : r.hasTypedData = true) :
    r.facts.typedData = ⟨16, 24, 32, 2, 0, 32⟩ ∨ r.facts.typedData = ⟨24, 0, 32, 1, 64, 32⟩ := by
  cases r
  case v27 | v30 | v31 | v32 => exact absurd hr (by decide)
  case v33 | v34 => exact .inl rfl
  case v40 => exact .inr rfl

theorem typedSlot {r : Release} (hr : r.hasTypedData = true) : TypedSlot r.facts.typedData := by
  rcases typedData_cases hr with htd | htd <;> rw [htd] <;>
    exact ⟨by decide, by decide, by decide, by decide, by decide, by decide, by decide,
      by decide⟩

/-- An object no larger than the largest slot gets a slot, and that slot is no larger than the
largest. -/
theorem slotSize_of_le_max (r : Release) {n : Nat} (hn : n ≤ r.facts.gc.maxSlotSize.toNat) :
    ∃ s, Heap.slotSize r.facts.gc n = .ok s ∧ s ≤ r.facts.gc.maxSlotSize.toNat := by
  obtain ⟨k, hk, hmax, hle⟩ : ∃ k, k < min r.facts.gc.sizePoolCount.toNat 65 ∧
      (Word.shl r.facts.gc.baseSlotSize k.toUInt64).toNat = r.facts.gc.maxSlotSize.toNat ∧
      ∀ j, j < min r.facts.gc.sizePoolCount.toNat 65 →
        (Word.shl r.facts.gc.baseSlotSize j.toUInt64).toNat ≤ r.facts.gc.maxSlotSize.toNat := by
    cases r
    case v27 | v30 | v31 => exact ⟨0, by decide, by decide, by decide⟩
    case v32 | v33 | v34 | v40 => exact ⟨4, by decide, by decide, by decide⟩
  unfold Heap.slotSize
  dsimp only
  split
  · rename_i j hfind
    exact ⟨_, rfl, hle j (List.mem_range.mp (List.mem_of_find?_eq_some hfind))⟩
  · rename_i hfind
    have hnot := List.find?_eq_none.mp hfind k (List.mem_range.mpr hk)
    rw [hmax, decide_eq_true hn] at hnot
    exact absurd rfl hnot

/-- The releases with typed data have the five pools of the variable-width heap, so their largest
slot holds an object of the base size. -/
theorem base_le_maxSlotSize {r : Release} (hr : r.hasTypedData = true) :
    40 ≤ r.facts.gc.maxSlotSize.toNat := by
  cases r
  case v27 | v30 | v31 | v32 => exact absurd hr (by decide)
  case v33 | v34 | v40 => decide

end Release

/-! ### Typed data objects in memory -/

/-- The words that mark a typed data object of type `typ` in the slot at `off`, as the builder
writes them for the layout `td`: with a header flag, the type pointer tagged with the embedded
bit; otherwise the type pointer and, beside it, a flag word of 1 with the embedded bit. -/
def TypedMark (td : TypedDataLayout) (m : Memory) (off : Nat) (typ : UInt64) (embedded : Bool) :
    Prop :=
  if td.typedFlag ≠ 0 then
    HoldsBytes m (off + td.typeOffset.toNat)
      (wordBytes (typ ||| if embedded then td.embedded else 0))
  else
    HoldsBytes m (off + td.typeOffset.toNat) (wordBytes typ) ∧
      HoldsBytes m (off + td.flagOffset.toNat)
        (wordBytes (1 ||| if embedded then td.embedded else 0))

/-- A typed data object of type `typ` at the arena offset `off`: an aligned slot of at least the
base size, the header word of the data type with the layout's typed flag, and the marking words. -/
structure TypedDataAt (f : Facts) (m : Memory) (off : Nat) (typ : UInt64) (embedded : Bool) :
    Prop where
  aligned : off % 8 = 0
  fits : off + 40 ≤ m.size
  header : HoldsBytes m off (wordBytes (TypeCode.data.code.toUInt64 ||| f.typedData.typedFlag))
  mark : TypedMark f.typedData m off typ embedded

namespace TypedMark

variable {td : TypedDataLayout} {m : Memory} {off : Nat} {typ : UInt64} {e : Bool}

theorem typeWord (hm : TypedMark td m off typ e) (hflag : td.typedFlag ≠ 0) :
    HoldsBytes m (off + td.typeOffset.toNat) (wordBytes (typ ||| if e then td.embedded else 0)) :=
  (if_pos hflag : TypedMark td m off typ e = _).mp hm

theorem flagWord (hm : TypedMark td m off typ e) (hflag : td.typedFlag = 0) :
    HoldsBytes m (off + td.typeOffset.toNat) (wordBytes typ) ∧
      HoldsBytes m (off + td.flagOffset.toNat) (wordBytes (1 ||| if e then td.embedded else 0)) :=
  (if_neg (not_not_intro hflag) : TypedMark td m off typ e = _).mp hm

end TypedMark

/-- Writing past the fourth word of a typed data object's slot leaves the object. -/
theorem TypedDataAt.withBytes {h : Heap} {f : Facts} (hts : TypedSlot f.typedData) {off k : Nat}
    {typ : UInt64} {e : Bool} (hobj : TypedDataAt f h.memory off typ e) (hk : off + 32 ≤ k)
    (b : ByteArray) : TypedDataAt f (h.withBytes k b).memory off typ e := by
  have htype := hts.type_le
  refine ⟨hobj.aligned, by simpa using hobj.fits,
    Heap.holdsBytes_withBytes_of_disjoint hobj.header (Or.inl (by simp; omega)), ?_⟩
  have hmark := hobj.mark
  unfold TypedMark at hmark ⊢
  split
  · rename_i hflag
    rw [if_pos hflag] at hmark
    exact Heap.holdsBytes_withBytes_of_disjoint hmark (Or.inl (by simp; omega))
  · rename_i hflag
    rw [if_neg hflag] at hmark
    have hflag' := hts.flag_le (not_not.mp hflag)
    exact ⟨Heap.holdsBytes_withBytes_of_disjoint hmark.1 (Or.inl (by simp; omega)),
      Heap.holdsBytes_withBytes_of_disjoint hmark.2 (Or.inl (by simp; omega))⟩

/-- An untyped data object of the pointer `data` at the arena offset `off`: an aligned slot of the
base size, the header word of the data type with no flag, a free function of zero where the
typed data of 3.3 and 3.4 keep their flag word, and the pointer in the fourth word. -/
structure UntypedDataAt (m : Memory) (off : Nat) (data : UInt64) : Prop where
  aligned : off % 8 = 0
  fits : off + 40 ≤ m.size
  header : HoldsBytes m off (wordBytes (TypeCode.data.code.toUInt64 ||| 0))
  free : HoldsBytes m (off + 24) (wordBytes 0)
  pointer : HoldsBytes m (off + 32) (wordBytes data)

namespace Heap

variable {r : Release} {h : Heap}

/-- A typed data object on a sound heap of a release with typed data, with room for its slot,
is built at the aligned bump pointer and marked there. -/
theorem exec_typedObject_of_room (hs : Sound h r) (hr : r.hasTypedData = true) {n s : Nat}
    (hslot : slotSize r.facts.gc n = .ok s) (hroom : h.nextAligned + s ≤ h.memory.size)
    (typ : UInt64) (e : Bool) :
    ∃ h', exec h (typedObject typ n e) = (.ok (h.memory.base + h.nextAligned.toUInt64), h') ∧
      SameArena h h' ∧ h'.next = h.nextAligned + s ∧
      TypedDataAt r.facts h'.memory h.nextAligned typ e := by
  have hts := Release.typedSlot hr
  unfold typedObject
  rw [exec_bind_of_ok exec_getFacts]
  dsimp only
  rw [hs.facts_eq, if_neg (by rw [hts.supported]; exact not_not_intro rfl)]
  obtain ⟨h1, hobj⟩ : ∃ h1, exec h (object n .data r.facts.typedData.typedFlag) =
      (.ok (h.memory.base + h.nextAligned.toUInt64), h1) := exec_object_ok hs hslot hroom
  obtain ⟨slot, hal, hslot', -⟩ := exec_object_spec hs hobj
  rw [hslot] at hslot'
  cases hslot'
  have hs1 : Sound h1 r := hs.of_sameArena hal.arena
  have hsize := hal.arena.size_eq
  have hbase := hal.base_le
  have htype := hts.type_le
  have htype' := hts.type_ge
  rw [exec_bind_of_ok hobj]
  by_cases hflag : r.facts.typedData.typedFlag ≠ 0
  · rw [if_pos hflag, exec_bind_of_ok (hs1.exec_writeWord_at hal.arena.base_eq _ _ (by omega)),
      exec_pure]
    refine ⟨_, rfl, hal.arena.trans (sameArena_withBytes _ _ _), by simpa using hal.next_eq,
      hs.nextAligned_mod, by simp; omega, ?_, ?_⟩
    · exact holdsBytes_withBytes_of_disjoint hal.header (Or.inl (by simp; omega))
    · rw [TypedMark, if_pos hflag]
      exact holdsBytes_withBytes_self _ _ _ (by simp; omega)
  · have hflag0 : r.facts.typedData.typedFlag = 0 := not_not.mp hflag
    have hflag' := hts.flag_le hflag0
    have hflag'' := hts.flag_ge hflag0
    have hapart := hts.type_flag hflag0
    rw [if_neg hflag, exec_bind_of_ok (hs1.exec_writeWord_at hal.arena.base_eq _ _ (by omega))]
    have hs2 := hs1.withBytes (h.nextAligned + r.facts.typedData.typeOffset.toNat)
      (Memory.wordBytes typ)
    rw [exec_bind_of_ok (hs2.exec_writeWord_at (by simp [hal.arena.base_eq]) h.nextAligned
      r.facts.typedData.flagOffset (by simp; omega)), exec_pure]
    refine ⟨_, rfl,
      (hal.arena.trans (sameArena_withBytes _ _ _)).trans (sameArena_withBytes _ _ _),
      by simpa using hal.next_eq, hs.nextAligned_mod, by simp; omega, ?_, ?_⟩
    · refine holdsBytes_withBytes_of_disjoint ?_ (Or.inl (by simp; omega))
      exact holdsBytes_withBytes_of_disjoint hal.header (Or.inl (by simp; omega))
    · rw [TypedMark, if_neg hflag]
      refine ⟨holdsBytes_withBytes_of_disjoint ?_ (by simp; omega),
        holdsBytes_withBytes_self _ _ _ (by simp; omega)⟩
      exact holdsBytes_withBytes_self _ _ _ (by simp; omega)

/-- A typed data object wrapping the pointer `data`, on a sound heap of a release with typed data
with room for a base slot, is built at the aligned bump pointer, marked as not embedded, with the
pointer in its payload word. -/
theorem exec_typedData_of_room (hs : Sound h r) (hr : r.hasTypedData = true)
    (hroom : h.nextAligned + 40 ≤ h.memory.size) (typ data : UInt64) :
    ∃ h', exec h (typedData typ data) = (.ok (h.memory.base + h.nextAligned.toUInt64), h') ∧
      Sound h' r ∧ h'.memory.base = h.memory.base ∧
      TypedDataAt r.facts h'.memory h.nextAligned typ false ∧
      HoldsBytes h'.memory (h.nextAligned + 32) (Memory.wordBytes data) := by
  have hts := Release.typedSlot hr
  have hslot : slotSize r.facts.gc (r.facts.typedData.dataOffset.toNat + r.facts.wordSize.toNat) =
      .ok 40 := by
    rw [hts.data_eq, Release.wordSize_eq]
    cases r <;> rfl
  unfold typedData
  rw [exec_bind_of_ok exec_getFacts, hs.facts_eq]
  obtain ⟨h1, hobj, ha1, -, hat⟩ := exec_typedObject_of_room hs hr hslot hroom typ false
  have hs1 : Sound h1 r := hs.of_sameArena ha1
  have hfits := hat.fits
  rw [exec_bind_of_ok hobj]
  have hdata := hts.data_eq
  rw [exec_bind_of_ok (hs1.exec_writeWord_at ha1.base_eq _ _ (by omega)), exec_pure]
  refine ⟨_, rfl, hs1.withBytes _ _, by rw [base_withBytes, ha1.base_eq],
    hat.withBytes hts (by omega) _, ?_⟩
  rw [hdata]
  exact holdsBytes_withBytes_self _ _ _ (by simp; omega)

/-- A typed data object embedding a payload that fits the largest slot, on a sound heap of a
release with typed data with room for the largest slot, is built at the aligned bump pointer,
marked as embedded, with the payload from its fourth word on. -/
theorem exec_embeddedTypedData_of_room (hs : Sound h r) (hr : r.hasTypedData = true)
    {payload : ByteArray}
    (hfit : r.facts.typedData.embedOffset.toNat + payload.size ≤ r.facts.gc.maxSlotSize.toNat)
    (hroom : h.nextAligned + r.facts.gc.maxSlotSize.toNat ≤ h.memory.size) (typ : UInt64) :
    ∃ h', exec h (embeddedTypedData typ payload) =
        (.ok (h.memory.base + h.nextAligned.toUInt64), h') ∧
      Sound h' r ∧ h'.memory.base = h.memory.base ∧
      TypedDataAt r.facts h'.memory h.nextAligned typ true ∧
      HoldsBytes h'.memory (h.nextAligned + 32) payload := by
  have hts := Release.typedSlot hr
  have hembed := hts.embed_eq
  obtain ⟨s, hslot, hsmax⟩ := Release.slotSize_of_le_max r hfit
  have hn := slotSize_eq_ok hslot
  unfold embeddedTypedData
  rw [exec_bind_of_ok exec_getFacts, hs.facts_eq]
  obtain ⟨h1, hobj, ha1, -, hat⟩ := exec_typedObject_of_room hs hr hslot (by omega) typ true
  have hs1 : Sound h1 r := hs.of_sameArena ha1
  have hsize := ha1.size_eq
  rw [exec_bind_of_ok hobj]
  rw [exec_bind_of_ok (hs1.exec_writeBytes_at ha1.base_eq _ _ (by omega)), exec_pure]
  refine ⟨_, rfl, hs1.withBytes _ _, by rw [base_withBytes, ha1.base_eq],
    hat.withBytes hts (by omega) _, ?_⟩
  rw [hembed]
  exact holdsBytes_withBytes_self _ _ _ (by omega)

/-- Eight bytes that are zero hold the zero word. -/
theorem holdsBytes_wordBytes_zero {m : Memory} {off : Nat} (hmap : off + 8 ≤ m.mapped)
    (hz : ∀ i, off ≤ i → i < off + 8 → m.byteAt i = 0) :
    HoldsBytes m off (Memory.wordBytes 0) := by
  refine ⟨by simpa using hmap, fun i hi ↦ ?_⟩
  rw [wordBytes_size] at hi
  rw [wordBytes_getElem? 0 hi, hz (off + i) (by omega) (by omega), UInt64.zero_shiftRight]
  rfl

/-- An untyped data object of the pointer `data`, on a sound heap with a zero tail and room for a
base slot, is built at the aligned bump pointer; its free function is the zero word the arena
held there. -/
theorem exec_untypedData_of_room (hs : Sound h r) (hz : ZeroTail h)
    (hroom : h.nextAligned + 40 ≤ h.memory.size) (data : UInt64) :
    ∃ h', exec h (untypedData data) = (.ok (h.memory.base + h.nextAligned.toUInt64), h') ∧
      Sound h' r ∧ h'.memory.base = h.memory.base ∧ UntypedDataAt h'.memory h.nextAligned data := by
  have hslot : slotSize r.facts.gc (5 * (8 : UInt64).toNat) = .ok 40 := by cases r <;> rfl
  have hle := hs.next_le_nextAligned
  unfold untypedData
  rw [exec_bind_of_ok exec_getFacts, hs.facts_eq, Release.wordSize_eq]
  dsimp only
  obtain ⟨h1, hobj⟩ : ∃ h1, exec h (object (5 * (8 : UInt64).toNat) .data 0) =
      (.ok (h.memory.base + h.nextAligned.toUInt64), h1) := exec_object_ok hs hslot hroom
  obtain ⟨slot, hal, hslot', -, hframe, -⟩ := exec_object_spec hs hobj
  rw [hslot] at hslot'
  cases hslot'
  have hs1 : Sound h1 r := hs.of_sameArena hal.arena
  have hfits := hal.fits
  have hsize := hal.arena.size_eq
  have hmap := h1.memory.size_le_mapped
  have hfree : HoldsBytes h1.memory (h.nextAligned + 24) (Memory.wordBytes 0) :=
    holdsBytes_wordBytes_zero (by omega) fun i hlo _ ↦ by
      rw [hframe i (.inr (by omega))]
      exact hz i (by omega)
  have h32 : (4 * 8 : UInt64).toNat = 32 := rfl
  rw [exec_bind_of_ok hobj, exec_bind_of_ok (hs1.exec_writeWord_at hal.arena.base_eq _ _
    (by rw [h32]; omega)), exec_pure]
  refine ⟨_, rfl, hs1.withBytes _ _, by rw [base_withBytes, hal.arena.base_eq],
    hs.nextAligned_mod, by simp; omega,
    holdsBytes_withBytes_of_disjoint hal.header
      (Or.inl (by simp only [wordBytes_size, h32]; omega)),
    holdsBytes_withBytes_of_disjoint hfree (Or.inl (by simp only [wordBytes_size, h32]; omega)),
    ?_⟩
  rw [← h32]
  exact holdsBytes_withBytes_self _ _ _ (by simp; omega)

end Heap

/-! ### Data types -/

namespace Heap

variable {r : Release} {h : Heap}


/-- A data type record is handed out when its name and the record fit the arena; the bump
pointer stays word-aligned past it. -/
theorem exec_dataType_of_room (hs : Sound h r) (name : String)
    (hroom : h.nextAligned + name.toUTF8.size + 88 ≤ h.memory.size) :
    ∃ typ h', exec h (dataType name) = (.ok typ, h') ∧ Sound h' r ∧
      h'.memory.size = h.memory.size ∧ h'.nextAligned = h'.next ∧
      h'.next ≤ h.nextAligned + name.toUTF8.size + 88 := by
  have hlim := hs.size_le
  unfold dataType
  rw [exec_bind_of_ok exec_getFacts, hs.facts_eq, Release.wordSize_eq]
  dsimp only
  have hs1 := hs.withNext (h.nextAligned + (name.toUTF8.size + 1))
  rw [exec_bind_of_ok (exec_raw_of_room (by omega) (by omega)),
    exec_bind_of_ok (hs1.exec_writeBytes_off rfl _ (by
      show h.nextAligned + name.toUTF8.size ≤ h.memory.size; omega))]
  generalize hh2 : Heap.withBytes _ _ _ = h2
  have hs2 : Sound h2 r := hh2 ▸ hs1.withBytes _ _
  have hn2 : h2.next = h.nextAligned + (name.toUTF8.size + 1) := by rw [← hh2, next_withBytes]
  have hsz2 : h2.memory.size = h.memory.size := by rw [← hh2, size_withBytes]
  have hlt := hs2.nextAligned_lt
  have h8 : (8 : UInt64).toNat = 8 := rfl
  have hs3 := hs2.withNext (h2.nextAligned + 10 * 8)
  rw [h8, exec_bind_of_ok (exec_raw_of_room (by omega) (by omega)),
    exec_bind_of_ok (hs3.exec_writeWord_off rfl _ (by
      show h2.nextAligned + 8 ≤ h2.memory.size; omega)), exec_pure]
  have hs4 := hs3.withBytes h2.nextAligned
    (Memory.wordBytes (h.memory.base + h.nextAligned.toUInt64))
  refine ⟨_, _, rfl, hs4, ?_, hs4.nextAligned_of_mod ?_, ?_⟩
  · rw [size_withBytes]
    exact hsz2
  · rw [next_withBytes]
    have := hs2.nextAligned_mod
    show (h2.nextAligned + 10 * 8) % 8 = 0
    omega
  · rw [next_withBytes]
    show h2.nextAligned + 10 * 8 ≤ _
    omega

/-- A data type record writes only the name and the record it hands out. -/
theorem keepsZeroTail_dataType (name : String) {base : UInt64} {lo : Nat} :
    KeepsZeroTail r base lo (dataType name) := by
  unfold dataType
  refine keepsZeroTail_getFacts_bind ?_
  refine keepsZeroTail_raw_bind fun cname _ hname ↦ ?_
  refine keepsZeroTail_bind (keepsZeroTail_writeBytes_off cname (by omega) (by omega))
    (keepsArena_writeBytes _ _) fun _ ↦ ?_
  refine keepsZeroTail_raw_bind fun typ _ hrec ↦ ?_
  have h8 : (8 : UInt64).toNat = 8 := rfl
  rw [Release.wordSize_eq, h8] at hrec ⊢
  exact keepsZeroTail_bind (keepsZeroTail_writeWord_off typ (by omega) (by omega))
    (keepsArena_writeWord _ _) fun _ ↦ keepsZeroTail_pure _

/-- A data type record is handed out at a word-aligned address of the arena, and leaves a sound
heap with a zero tail. -/
theorem exec_dataType_spec (hs : Sound h r) (hz : ZeroTail h) {name : String} {typ : UInt64}
    {h' : Heap} (hx : exec h (dataType name) = (.ok typ, h')) :
    typ.toNat % 8 = 0 ∧ Sound h' r ∧ ZeroTail h' := by
  have harena := sameArena_frame.keeps_dataType name h
  have hkeep := keepsZeroTail_dataType (r := r) name h hs rfl (Nat.zero_le _) hz
  rw [hx] at harena hkeep
  refine ⟨?_, hs.of_sameArena harena, hkeep.2⟩
  unfold dataType at hx
  rw [exec_bind_of_ok exec_getFacts, hs.facts_eq, Release.wordSize_eq] at hx
  obtain ⟨cname, h1, hraw1, hx⟩ := exec_bind_eq_ok hx
  obtain ⟨_, h2, hw, hx⟩ := exec_bind_eq_ok hx
  obtain ⟨p, h3, hraw2, hx⟩ := exec_bind_eq_ok hx
  obtain ⟨_, h4, -, hx⟩ := exec_bind_eq_ok hx
  rw [exec_pure] at hx
  cases hx
  obtain ⟨-, -, -, hh1⟩ := exec_raw_eq_ok hraw1
  have hs1 : Sound h1 r := hh1 ▸ hs.withNext _
  have ha2 := keepsArena_writeBytes cname name.toUTF8 h1
  rw [hw] at ha2
  have hs2 : Sound h2 r := hs1.of_sameArena ha2
  obtain ⟨hfits, -, rfl, -⟩ := exec_raw_eq_ok hraw2
  have hlim := hs2.size_le
  have halign := hs2.nextAligned_mod
  have hal := hs2.base.aligned
  unfold pageSize at hal
  rw [hs2.base.toNat_add_off (by omega)]
  omega

end Heap

/-! ### Reading typed data objects -/

namespace Word

variable {typ x : UInt64}

/-- The low bit of an even type pointer tagged with a bit `x` is `x`. -/
theorem or_and_one_of_even (htyp : typ.toNat % 2 = 0) (hx : x = 0 ∨ x = 1) :
    (typ ||| x) &&& 1 = x := by
  have h0 : typ &&& 1 = 0 := (Bits.and_lowMask_eq_iff (k := 1) rfl).mpr htyp
  rw [Bits.or_and, h0]
  rcases hx with rfl | rfl <;> rfl

/-- Clearing the tag bit `x` of an even type pointer gives the pointer back. -/
theorem or_sub_of_even (htyp : typ.toNat % 2 = 0) (hx : x = 0 ∨ x = 1) :
    (typ ||| x) - x = typ := by
  rcases hx with rfl | rfl
  · rw [UInt64.or_zero, UInt64.sub_zero]
  · have hsplit : typ.toNat = (typ.toNat / 2) <<< 1 := by
      rw [Nat.shiftLeft_eq]
      omega
    have hor : (typ ||| 1).toNat = typ.toNat + 1 := by
      rw [UInt64.toNat_or, UInt64.toNat_one, hsplit, ← Nat.shiftLeft_add_eq_or_of_lt (by decide)]
    apply UInt64.toNat_inj.mp
    rw [UInt64.toNat_sub_of_le _ _ (UInt64.le_iff_toNat_le.mpr (by rw [hor]; simp)), hor]
    simp

end Word

namespace TypedDataAt

variable {r : Release} {m : Memory} {off : Nat} {typ : UInt64} {e : Bool}

theorem typeCode_eq (r : Release) :
    (⟨((TypeCode.data.code.toUInt64 ||| r.facts.typedData.typedFlag) &&&
      r.facts.header.typeMask).toUInt32⟩ : TypeCode) = .data := by
  cases r <;> decide

theorem typedDataP_eq (hr : r.hasTypedData = true) (hobj : TypedDataAt r.facts m off typ e)
    (hbase : Heap.ArenaBase m.base) (hmap : m.mapped ≤ Heap.mapLimit) (debug : Bool) :
    (Accessors.mk r debug).typedDataP m (m.base + off.toUInt64) = .ok true := by
  obtain ⟨hsc, hflags⟩ :=
    Accessors.flags_of_holdsBytes r debug hbase hmap hobj.header hobj.aligned
  have hmark := hobj.mark
  rw [Accessors.typedDataP_eq_facts debug hflags,
    Accessors.assertType_eq_ok (a := Accessors.mk r debug) hsc hflags (typeCode_eq r),
    Accessors.ok_bind]
  unfold Facts.typedDataPOf
  rcases Release.typedData_cases hr with htd | htd
  · have hw := (hmark.flagWord (by rw [htd])).2
    rw [if_pos (by rw [htd]), Memory.wordAt_of_holdsBytes hw (Memory.toNat_arena_add hbase hmap hw),
      Accessors.ok_bind, htd]
    cases e <;> rfl
  · rw [if_neg (by rw [htd]; decide), htd]
    rfl

theorem typedDataEmbeddedP_eq (hr : r.hasTypedData = true) (hobj : TypedDataAt r.facts m off typ e)
    (htyp : typ.toNat % 2 = 0) (hbase : Heap.ArenaBase m.base) (hmap : m.mapped ≤ Heap.mapLimit)
    (debug : Bool) :
    (Accessors.mk r debug).typedDataEmbeddedP m (m.base + off.toUInt64) = .ok e := by
  obtain ⟨hsc, hflags⟩ :=
    Accessors.flags_of_holdsBytes r debug hbase hmap hobj.header hobj.aligned
  have hmark := hobj.mark
  rw [Accessors.typedDataEmbeddedP_eq_facts debug,
    Accessors.assertType_eq_ok (a := Accessors.mk r debug) hsc hflags (typeCode_eq r),
    Accessors.ok_bind]
  unfold Facts.typedDataEmbeddedOf Facts.typedDataEmbedOffset
  rcases Release.typedData_cases hr with htd | htd
  · have hw := (hmark.flagWord (by rw [htd])).2
    rw [if_pos (by rw [htd]), Memory.wordAt_of_holdsBytes hw (Memory.toNat_arena_add hbase hmap hw),
      Accessors.ok_bind, htd]
    cases e <;> rfl
  · have hemb : r.facts.typedData.embedded = 1 := by rw [htd]
    have hw := hmark.typeWord (by rw [htd]; decide)
    rw [hemb] at hw
    rw [if_neg (by rw [htd]; decide), Memory.wordAt_of_holdsBytes hw (Memory.toNat_arena_add hbase hmap hw),
      Accessors.ok_bind, hemb]
    cases e
    · rw [if_neg Bool.false_ne_true, Word.or_and_one_of_even htyp (.inl rfl)]
      rfl
    · rw [if_pos rfl, Word.or_and_one_of_even htyp (.inr rfl)]
      rfl

theorem typedDataType_eq (hr : r.hasTypedData = true) (hobj : TypedDataAt r.facts m off typ e)
    (htyp : typ.toNat % 2 = 0) (hbase : Heap.ArenaBase m.base) (hmap : m.mapped ≤ Heap.mapLimit)
    (debug : Bool) :
    (Accessors.mk r debug).typedDataType m (m.base + off.toUInt64) = .ok typ := by
  obtain ⟨hsc, hflags⟩ :=
    Accessors.flags_of_holdsBytes r debug hbase hmap hobj.header hobj.aligned
  have hmark := hobj.mark
  rw [Accessors.typedDataType_eq_facts debug,
    Accessors.assertType_eq_ok (a := Accessors.mk r debug) hsc hflags (typeCode_eq r),
    Accessors.ok_bind]
  unfold Facts.typedDataTypeOf
  rcases Release.typedData_cases hr with htd | htd
  · have hw := (hmark.flagWord (by rw [htd])).1
    rw [Memory.wordAt_of_holdsBytes hw (Memory.toNat_arena_add hbase hmap hw), Accessors.ok_bind,
      if_pos (by rw [htd])]
    rfl
  · have hemb : r.facts.typedData.embedded = 1 := by rw [htd]
    have hw := hmark.typeWord (by rw [htd]; decide)
    rw [hemb] at hw
    rw [Memory.wordAt_of_holdsBytes hw (Memory.toNat_arena_add hbase hmap hw), Accessors.ok_bind,
      if_neg (by rw [htd]; decide), hemb]
    cases e
    · rw [if_neg Bool.false_ne_true, Word.or_and_one_of_even htyp (.inl rfl),
        Word.or_sub_of_even htyp (.inl rfl)]
      rfl
    · rw [if_pos rfl, Word.or_and_one_of_even htyp (.inr rfl), Word.or_sub_of_even htyp (.inr rfl)]
      rfl

/-- The payload of a typed data object: in its slot when embedded, else the wrapped pointer. -/
theorem typedDataGetData_eq (hr : r.hasTypedData = true) (hobj : TypedDataAt r.facts m off typ e)
    (htyp : typ.toNat % 2 = 0) (hbase : Heap.ArenaBase m.base) (hmap : m.mapped ≤ Heap.mapLimit)
    (debug : Bool) :
    (Accessors.mk r debug).typedDataGetData m (m.base + off.toUInt64) =
      if e then .ok (m.base + off.toUInt64 + r.facts.typedData.embedOffset)
      else m.wordAt (m.base + off.toUInt64 + r.facts.typedData.dataOffset) := by
  obtain ⟨hsc, hflags⟩ :=
    Accessors.flags_of_holdsBytes r debug hbase hmap hobj.header hobj.aligned
  have hassert (op : String) := Accessors.assertType_eq_ok (a := Accessors.mk r debug) hsc hflags
    (typeCode_eq r) op
  have hemb : r.facts.typedDataEmbeddedOf m (m.base + off.toUInt64) = .ok e := by
    have h := typedDataEmbeddedP_eq hr hobj htyp hbase hmap debug
    rwa [Accessors.typedDataEmbeddedP_eq_facts debug, hassert, Accessors.ok_bind] at h
  rw [Accessors.typedDataGetData_eq_facts debug, hassert, Accessors.ok_bind]
  unfold Facts.typedDataGetDataOf
  rw [hemb, Accessors.ok_bind]
  cases e <;> rfl

theorem requireType_eq_ok (api : Api) (hobj : TypedDataAt api.release.facts m off typ e)
    (hbase : Heap.ArenaBase m.base) (hmap : m.mapped ≤ Heap.mapLimit) (op : String) :
    api.requireType m op (m.base + off.toUInt64) .data = .ok () := by
  obtain ⟨hsc, hflags⟩ :=
    Accessors.flags_of_holdsBytes api.release api.debug hbase hmap hobj.header hobj.aligned
  exact Api.requireType_eq_ok api hsc hflags (typeCode_eq api.release) op

/-- What the accessors of a release with typed data read from a typed data object, through either
tier: the data type, typed, embedded exactly when it is, its type pointer, and its payload in its
slot when embedded and through the wrapped pointer otherwise. -/
theorem reads (api : Api) (hr : api.release.hasTypedData = true)
    (hobj : TypedDataAt api.release.facts m off typ e) (htyp : typ.toNat % 2 = 0)
    (hbase : Heap.ArenaBase m.base) (hmap : m.mapped ≤ Heap.mapLimit) :
    api.raw.rbType m (m.base + off.toUInt64) = .ok .data ∧
      api.typedDataP m (m.base + off.toUInt64) = .ok true ∧
      api.typedDataEmbeddedP m (m.base + off.toUInt64) = .ok e ∧
      api.typedDataType m (m.base + off.toUInt64) = .ok typ ∧
      api.typedDataGetData m (m.base + off.toUInt64) =
        if e then .ok (m.base + off.toUInt64 + api.release.facts.typedData.embedOffset)
        else m.wordAt (m.base + off.toUInt64 + api.release.facts.typedData.dataOffset) := by
  obtain ⟨hsc, hflags⟩ :=
    Accessors.flags_of_holdsBytes api.release api.debug hbase hmap hobj.header hobj.aligned
  have hreq := requireType_eq_ok api hobj hbase hmap
  have htp : api.raw.typedDataP m (m.base + off.toUInt64) = .ok true :=
    typedDataP_eq hr hobj hbase hmap api.debug
  have hreqTyped (op : String) :
      api.requireTyped m op (m.base + off.toUInt64) = .ok () := by
    unfold Api.requireTyped
    rw [hreq, Accessors.ok_bind, htp]
    rfl
  refine ⟨?_, ?_, ?_, ?_, ?_⟩
  · rw [Accessors.rbType_eq (a := api.raw) hsc hflags]
    exact congrArg Except.ok (typeCode_eq api.release)
  · unfold Api.typedDataP
    rw [Api.tier_eq_raw _ (hreq _)]
    exact htp
  · unfold Api.typedDataEmbeddedP
    rw [Api.tier_eq_raw _ (hreqTyped _)]
    exact typedDataEmbeddedP_eq hr hobj htyp hbase hmap api.debug
  · unfold Api.typedDataType
    rw [Api.tier_eq_raw _ (hreqTyped _)]
    exact typedDataType_eq hr hobj htyp hbase hmap api.debug
  · unfold Api.typedDataGetData
    rw [Api.tier_eq_raw _ (hreqTyped _)]
    exact typedDataGetData_eq hr hobj htyp hbase hmap api.debug

end TypedDataAt

namespace UntypedDataAt

variable {r : Release} {m : Memory} {off : Nat} {data : UInt64}

theorem typeCode_eq (r : Release) :
    (⟨((TypeCode.data.code.toUInt64 ||| 0) &&& r.facts.header.typeMask).toUInt32⟩ : TypeCode) =
      .data := by
  cases r <;> decide

/-- No release with typed data finds an untyped data object typed: 3.3 and 3.4 read its free
function, zero, where they keep the flag word, and 4.0 finds no typed flag in its header. -/
theorem typedDataP_eq (hr : r.hasTypedData = true) (hobj : UntypedDataAt m off data)
    (hbase : Heap.ArenaBase m.base) (hmap : m.mapped ≤ Heap.mapLimit) (debug : Bool) :
    (Accessors.mk r debug).typedDataP m (m.base + off.toUInt64) = .ok false := by
  obtain ⟨hsc, hflags⟩ :=
    Accessors.flags_of_holdsBytes r debug hbase hmap hobj.header hobj.aligned
  rw [Accessors.typedDataP_eq_facts debug hflags,
    Accessors.assertType_eq_ok (a := Accessors.mk r debug) hsc hflags (typeCode_eq r),
    Accessors.ok_bind]
  unfold Facts.typedDataPOf
  rcases Release.typedData_cases hr with htd | htd
  · have hoff : r.facts.typedData.flagOffset.toNat = 24 := by rw [htd]; rfl
    have hfree := hobj.free
    rw [← hoff] at hfree
    rw [if_pos (by rw [htd]),
      Memory.wordAt_of_holdsBytes hfree (Memory.toNat_arena_add hbase hmap hfree),
      Accessors.ok_bind]
    rfl
  · rw [if_neg (by rw [htd]; decide), htd]
    rfl

/-- Through either tier, an untyped data object has the data type and is not typed. -/
theorem reads (api : Api) (hr : api.release.hasTypedData = true) (hobj : UntypedDataAt m off data)
    (hbase : Heap.ArenaBase m.base) (hmap : m.mapped ≤ Heap.mapLimit) :
    api.raw.rbType m (m.base + off.toUInt64) = .ok .data ∧
      api.typedDataP m (m.base + off.toUInt64) = .ok false := by
  obtain ⟨hsc, hflags⟩ :=
    Accessors.flags_of_holdsBytes api.release api.debug hbase hmap hobj.header hobj.aligned
  refine ⟨?_, ?_⟩
  · rw [Accessors.rbType_eq (a := api.raw) hsc hflags]
    exact congrArg Except.ok (typeCode_eq api.release)
  · unfold Api.typedDataP
    rw [Api.tier_eq_raw _ (Api.requireType_eq_ok api hsc hflags (typeCode_eq api.release) _)]
    exact typedDataP_eq hr hobj hbase hmap api.debug

end UntypedDataAt

/-! ### Typed data read back -/

open Heap in
/-- Typed data built for a data type record reads back through the release's decoders, whichever
way the release marks typed data: embedded typed data points at its own payload, typed data at
the pointer it was given, and plain data is never taken for typed data. -/
theorem typed_data_read_back (api : Api) (hr : api.release.hasTypedData = true) (h : Heap)
    (hs : h.Sound api.release) (hz : ZeroTail h) (name : String) {typ : UInt64} {h0 : Heap}
    (hdt : exec h (dataType name) = (.ok typ, h0))
    (hroom : h0.nextAligned + api.release.facts.gc.maxSlotSize.toNat ≤ h0.memory.size) :
    (∀ payload : ByteArray, api.release.facts.typedData.embedOffset.toNat + payload.size ≤
        api.release.facts.gc.maxSlotSize.toNat →
      ∃ w h1, exec h0 (embeddedTypedData typ payload) = (.ok w, h1) ∧
        api.raw.rbType h1.memory w = .ok .data ∧ api.typedDataP h1.memory w = .ok true ∧
        api.typedDataEmbeddedP h1.memory w = .ok true ∧
        api.typedDataType h1.memory w = .ok typ ∧
        api.typedDataGetData h1.memory w = .ok (w + api.release.facts.typedData.embedOffset) ∧
        h1.memory.readBytes (w + api.release.facts.typedData.embedOffset) payload.size =
          .ok payload) ∧
    (∀ data : UInt64, ∃ x h1, exec h0 (typedData typ data) = (.ok x, h1) ∧
        api.raw.rbType h1.memory x = .ok .data ∧ api.typedDataP h1.memory x = .ok true ∧
        api.typedDataEmbeddedP h1.memory x = .ok false ∧
        api.typedDataType h1.memory x = .ok typ ∧
        api.typedDataGetData h1.memory x = .ok data) ∧
    (∀ data : UInt64, ∃ y h1, exec h0 (untypedData data) = (.ok y, h1) ∧
        api.raw.rbType h1.memory y = .ok .data ∧ api.typedDataP h1.memory y = .ok false) := by
  obtain ⟨htyp8, hs0, hz0⟩ := exec_dataType_spec hs hz hdt
  have htyp : typ.toNat % 2 = 0 := by omega
  have hslot := Release.typedSlot hr
  have hbase := Release.base_le_maxSlotSize hr
  refine ⟨fun payload hfit ↦ ?_, fun data ↦ ?_, fun data ↦ ?_⟩
  case refine_1 =>
    obtain ⟨h1, hrun, hs1, hb1, hobj, hpay⟩ := exec_embeddedTypedData_of_room hs0 hr hfit hroom typ
    obtain ⟨hty, htp, hemb, htype, hget⟩ := hobj.reads api hr htyp hs1.base hs1.mapped_le
    rw [if_pos rfl] at hget
    rw [← hslot.embed_eq] at hpay
    rw [hb1] at hty htp hemb htype hget
    exact ⟨_, h1, hrun, hty, htp, hemb, htype, hget, readBytes_of_holdsBytes hpay
      (by rw [← hb1]; exact Memory.toNat_arena_add hs1.base hs1.mapped_le hpay)⟩
  case refine_2 =>
    obtain ⟨h1, hrun, hs1, hb1, hobj, hdata⟩ := exec_typedData_of_room hs0 hr (by omega) typ data
    obtain ⟨hty, htp, hemb, htype, hget⟩ := hobj.reads api hr htyp hs1.base hs1.mapped_le
    rw [if_neg Bool.false_ne_true] at hget
    rw [← hslot.data_eq] at hdata
    rw [hb1] at hty htp hemb htype hget
    refine ⟨_, h1, hrun, hty, htp, hemb, htype, hget.trans ?_⟩
    exact Memory.wordAt_of_holdsBytes hdata
      (by rw [← hb1]; exact Memory.toNat_arena_add hs1.base hs1.mapped_le hdata)
  case refine_3 =>
    obtain ⟨h1, hrun, hs1, hb1, hobj⟩ := exec_untypedData_of_room hs0 hz0 (by omega) data
    obtain ⟨hty, htp⟩ := hobj.reads api hr hs1.base hs1.mapped_le
    rw [hb1] at hty htp
    exact ⟨_, h1, hrun, hty, htp⟩

/-- On the heap that `create` makes for 4.0 on a page of arena, where typed data is marked by a
header flag and a tagged type word, embedded typed data of three bytes reads back its data type
record and its payload. -/
theorem typed_data_read_back_flagged :
    ∃ h typ h0, Heap.create Release.v40.facts 4096 = .ok h ∧
      Heap.exec h (Heap.dataType "rt") = (.ok typ, h0) ∧
      ∃ w h1,
        Heap.exec h0 (Heap.embeddedTypedData typ (ByteArray.mk #[1, 2, 3])) = (.ok w, h1) ∧
        (Api.ofRelease .v40 false .checked).typedDataType h1.memory w = .ok typ ∧
        h1.memory.readBytes (w + 32) 3 = .ok (ByteArray.mk #[1, 2, 3]) := by
  obtain ⟨h, hc, hnext, hsize⟩ := Heap.create_ok (r := .v40) 4096 (.inr ⟨by decide, by decide⟩)
  have hs := Heap.create_sound hc
  have hsize' : h.memory.size = 4096 := hsize
  have hlt := hs.nextAligned_lt
  have hname : "rt".toUTF8.size = 2 := by decide
  obtain ⟨typ, h0, hdt, -, hsize0, halign, hnext0⟩ := Heap.exec_dataType_of_room hs "rt" (by omega)
  have hroom : h0.nextAligned + 640 ≤ h0.memory.size := by
    rw [halign, hsize0]
    omega
  obtain ⟨hemb, -, -⟩ := typed_data_read_back (Api.ofRelease .v40 false .checked) (by decide) h
    hs (Heap.create_zeroTail hc) "rt" hdt hroom
  obtain ⟨w, h1, hrun, -, -, -, htype, -, hbytes⟩ := hemb (ByteArray.mk #[1, 2, 3]) (by decide)
  exact ⟨h, typ, h0, hc, hdt, w, h1, hrun, htype, hbytes⟩

end RubyLayout
