import RubyLayout.Proofs.Confinement

/-!
# How allocation and the builders fail

`raw n` hands out `n` bytes at the bump pointer rounded up to a word. It refuses a request that
does not fit with an exhausted arena, leaving the heap as it was; but its fit test lets a request
of nothing pass at the very end of the arena, where taking the address of the first byte indexes
one past the last (`exec_raw_index`). That is the one runtime failure of allocation.

`FailsCleanly r base hi x` says that every run of `x` from a sound heap over the arena at `base`,
whose bump pointer has passed `hi` and whose arena holds its first `hi` bytes, is confined (it keeps
the arena and moves the bump pointer forward) and, when it fails, fails as a builder may
(`HeapError.IsBuildFailure`): the arena is exhausted, the object exceeds the largest slot, the
layout has no typed data, or nothing was asked for at the very end of the arena. Every read and
write of a builder lands inside the bytes handed out before it, so none faults; the rules follow the
builders' steps as those of `WritesIn` do.

Main statements:

* `Builder.failsCleanly`: every builder fails only as a builder may;
* `exec_heapArrayOf_nil_of_full`: an empty array with a separate buffer, whose slot fills the
  arena to its last byte, fails with the index error;
* `allocation_failures`: every outcome of `raw`, and the failures of every builder.
-/

set_option autoImplicit false
set_option relaxedAutoImplicit false

namespace RubyLayout

/-- How a builder may fail on an arena of `size` bytes: the arena is exhausted, the object is
larger than the largest slot, the layout has no typed data, or nothing was asked for at the very
end of the arena, which indexes one past its last byte. -/
def HeapError.IsBuildFailure (size : Nat) : HeapError → Prop
  | .slotTooLarge .. | .arenaFull .. | .noTypedData _ => True
  | .indexOutOfRange i n => i = size ∧ n = size
  | _ => False

namespace Heap

open Memory

variable {r : Release} {α β : Type} {base : UInt64} {hi : Nat} {h h' : Heap}

/-! ### Single steps -/

/-- Every outcome of `raw` that is not an exhausted arena is the index error of a request of
nothing at the very end of the arena. -/
theorem exec_raw_index {n : Nat} (hroom : h.nextAligned + n ≤ h.memory.size)
    (hend : h.memory.size ≤ h.nextAligned) :
    n = 0 ∧ exec h (raw n) =
      (.error (.indexOutOfRange h.memory.size h.memory.size), { h with next := h.memory.size }) := by
  have hat : h.nextAligned = h.memory.size := by omega
  refine ⟨by omega, ?_⟩
  rw [exec_raw, if_neg (Nat.not_lt.mpr hroom), if_pos hend, hat, show n = 0 by omega,
    Nat.add_zero]

/-- A request that does not fit is refused with the room left, and the heap is kept. -/
theorem exec_raw_full {n : Nat} (hfull : h.memory.size < h.nextAligned + n) :
    exec h (raw n) = (.error (.arenaFull n (h.memory.size - h.nextAligned) h.memory.size), h) := by
  rw [exec_raw, if_pos hfull]
  congr 3
  split <;> omega

theorem slotSize_eq_error {g : GcLayout} {n : Nat} {e : HeapError}
    (hs : slotSize g n = .error e) : e = .slotTooLarge n g.maxSlotSize := by
  unfold slotSize at hs
  dsimp only at hs
  split at hs
  · cases hs
  · cases hs
    rfl

/-- A word inside the arena of a sound heap reads without a fault. -/
theorem Sound.exec_readWord_at (hs : Sound h r) (off : Nat) (hin : off + 8 ≤ h.memory.size) :
    ∃ w, exec h (readWord (h.memory.base + off.toUInt64)) = (.ok w, h) := by
  have hlim := hs.size_le
  have hmap := h.memory.size_le_mapped
  have haddr : (h.memory.base + off.toUInt64).toNat = h.memory.base.toNat + off :=
    hs.base.toNat_add_off (by omega)
  have hr : h.memory.readable (h.memory.base + off.toUInt64) 8 = true := by
    simp only [readable, Bool.and_eq_true, decide_eq_true_eq]
    constructor <;> omega
  obtain ⟨w, hw⟩ : ∃ w, h.memory.readWord (h.memory.base + off.toUInt64) = .ok w := by
    unfold Memory.readWord
    rw [if_pos hr]
    exact ⟨_, rfl⟩
  exact ⟨w, exec_readWord hw⟩

/-! ### Runs that fail cleanly -/

/-- Every run of `x` from a sound heap over the arena at `base` whose bump pointer has passed `hi`
is confined, and, when the arena holds the first `hi` bytes and the run fails, it fails as a
builder may. -/
structure FailsCleanly (r : Release) (base : UInt64) (hi : Nat) (x : HeapM α) : Prop where
  writes : WritesIn r base 0 hi x
  fails : ∀ h e h', Sound h r → h.memory.base = base → hi ≤ h.next → hi ≤ h.memory.size →
    exec h x = (.error e, h') → e.IsBuildFailure h.memory.size

theorem failsCleanly_pure (a : α) : FailsCleanly r base hi (pure a : HeapM α) :=
  ⟨writesIn_pure a, fun h e h' _ _ _ _ hx ↦ by rw [exec_pure] at hx; cases hx⟩

theorem failsCleanly_throw_bind {e : HeapError} (he : ∀ size, e.IsBuildFailure size)
    (f : α → HeapM β) : FailsCleanly r base hi (throw e >>= f) := by
  refine ⟨writesIn_throw_bind e f, fun h e' h' _ _ _ _ hx ↦ ?_⟩
  rw [exec_bind, exec_throw] at hx
  cases hx
  exact he _

/-- A run that fails cleanly followed by runs that fail cleanly: the first keeps the arena and the
bump pointer's progress, so what follows starts where it may. -/
theorem FailsCleanly.bind {x : HeapM α} {f : α → HeapM β} (hx : FailsCleanly r base hi x)
    (hf : ∀ a, FailsCleanly r base hi (f a)) : FailsCleanly r base hi (x >>= f) := by
  refine ⟨writesIn_bind hx.writes fun a ↦ (hf a).writes,
    fun h e h' hs hb hnext hsize he ↦ ?_⟩
  have hk := hx.writes h hs hb hnext
  rw [exec_bind] at he
  rcases hr : exec h x with ⟨_ | a, h1⟩ <;> rw [hr] at he hk
  · cases he
    exact hx.fails h _ _ hs hb hnext hsize hr
  · have hsame := hk.arena
    rw [← hsame.size_eq]
    exact (hf a).fails h1 e h' (hs.of_sameArena hsame) (hsame.base_eq.trans hb)
      (Nat.le_trans hnext hk.next_le) (hsame.size_eq ▸ hsize) he

theorem failsCleanly_get_bind {f : Heap → HeapM β}
    (hf : ∀ h, Sound h r → FailsCleanly r base hi (f h)) : FailsCleanly r base hi (get >>= f) := by
  refine ⟨writesIn_get_bind fun h hs ↦ (hf h hs).writes, fun h e h' hs hb hnext hsize hx ↦ ?_⟩
  rw [exec_bind_of_ok exec_get] at hx
  exact (hf h hs).fails h e h' hs hb hnext hsize hx

theorem failsCleanly_getFacts_bind {f : Facts → HeapM β} (hf : FailsCleanly r base hi (f r.facts)) :
    FailsCleanly r base hi (getFacts >>= f) := by
  refine ⟨writesIn_getFacts_bind hf.writes, fun h e h' hs hb hnext hsize hx ↦ ?_⟩
  rw [exec_bind_of_ok exec_getFacts, hs.facts_eq] at hx
  exact hf.fails h e h' hs hb hnext hsize hx

/-- An update of the tables never fails. -/
theorem failsCleanly_modify {g : Heap → Heap}
    (hg : ∀ h, (g h).facts = h.facts ∧ (g h).memory = h.memory ∧ (g h).next = h.next ∧
      (g h).classes = h.classes) :
    FailsCleanly r base hi (modify g : HeapM PUnit) :=
  ⟨writesIn_modify hg, fun h e h' _ _ _ _ hx ↦ by rw [exec_modify] at hx; cases hx⟩

theorem failsCleanly_internId (name : String) : FailsCleanly r base hi (internId name) := by
  refine ⟨writesIn_internId name, fun h e h' _ _ _ _ hx ↦ ?_⟩
  unfold internId at hx
  rw [exec_bind_of_ok exec_get] at hx
  dsimp only at hx
  rw [exec_bind_of_ok (exec_modify _), exec_pure] at hx
  cases hx

/-! ### Reads and writes inside what was handed out -/

/-- A write of bytes that end within the first `hi` bytes of the arena never faults. -/
theorem failsCleanly_writeBytes_at (off : Nat) (k : UInt64) {b : ByteArray}
    (hoff : off ≤ mapLimit) (hk : k.toNat ≤ mapLimit) (hhi : off + k.toNat + b.size ≤ hi) :
    FailsCleanly r base hi (writeBytes (base + off.toUInt64 + k) b) := by
  refine ⟨writesIn_writeBytes_at off k hoff hk (Nat.zero_le _) hhi,
    fun h e h' hs hb _ hsize hx ↦ ?_⟩
  rw [hs.exec_writeBytes_at hb off k (Nat.le_trans hhi hsize)] at hx
  cases hx

theorem failsCleanly_writeWord_at (off : Nat) (k : UInt64) {w : UInt64} (hoff : off ≤ mapLimit)
    (hk : k.toNat ≤ mapLimit) (hhi : off + k.toNat + 8 ≤ hi) :
    FailsCleanly r base hi (writeWord (base + off.toUInt64 + k) w) :=
  failsCleanly_writeBytes_at off k hoff hk (by rw [wordBytes_size]; exact hhi)

theorem failsCleanly_writeBytes_off (off : Nat) {b : ByteArray} (hoff : off ≤ mapLimit)
    (hhi : off + b.size ≤ hi) : FailsCleanly r base hi (writeBytes (base + off.toUInt64) b) := by
  have hk : FailsCleanly r base hi (writeBytes (base + off.toUInt64 + 0) b) :=
    failsCleanly_writeBytes_at off 0 hoff (by simp) (by simpa using hhi)
  rwa [UInt64.add_zero] at hk

theorem failsCleanly_writeWord_off (off : Nat) {w : UInt64} (hoff : off ≤ mapLimit)
    (hhi : off + 8 ≤ hi) : FailsCleanly r base hi (writeWord (base + off.toUInt64) w) :=
  failsCleanly_writeBytes_off off hoff (by rw [wordBytes_size]; exact hhi)

/-- A word at a field of the slot at `off`. -/
theorem failsCleanly_writeWord_slot (off : Nat) {k w : UInt64} (hk : k.toNat ≤ 32)
    (hslot : off + 40 ≤ hi) (hlim : hi ≤ mapLimit) :
    FailsCleanly r base hi (writeWord (base + off.toUInt64 + k) w) := by
  have hmap : mapLimit = 2 ^ 47 := rfl
  exact failsCleanly_writeWord_at off k (by omega) (by omega) (by omega)

/-- Bytes copied into the slot at `off` from a field offset. -/
theorem failsCleanly_writeBytes_slot (off : Nat) {k : UInt64} {b : ByteArray} (hk : k.toNat ≤ 40)
    (hend : off + k.toNat + b.size ≤ hi) (hlim : hi ≤ mapLimit) :
    FailsCleanly r base hi (writeBytes (base + off.toUInt64 + k) b) := by
  have hmap : mapLimit = 2 ^ 47 := rfl
  exact failsCleanly_writeBytes_at off k (by omega) (by omega) hend

/-- Setting flag bits in a header word within the first `hi` bytes reads and writes it without
a fault. -/
theorem failsCleanly_orFlags_at (off : Nat) {bits : UInt64} (hoff : off ≤ mapLimit)
    (hhi : off + 8 ≤ hi) : FailsCleanly r base hi (orFlags (base + off.toUInt64) bits) := by
  refine ⟨writesIn_orFlags_at off hoff (Nat.zero_le _) hhi, fun h e h' hs hb _ hsize hx ↦ ?_⟩
  subst hb
  obtain ⟨w, hw⟩ := hs.exec_readWord_at off (Nat.le_trans hhi hsize)
  unfold orFlags at hx
  rw [exec_bind_of_ok exec_get, hs.facts_eq, Release.flagsOffset_eq] at hx
  dsimp only at hx
  rw [UInt64.add_zero, exec_bind_of_ok hw,
    exec_writeWord_inside (hs.base.toNat_add_off hoff) (Nat.le_trans hhi hsize)] at hx
  cases hx

/-! ### Allocation -/

/-- Handing out bytes fails only with an exhausted arena or with the index error at its end; what
follows may write up to the end of the bytes handed out. -/
theorem failsCleanly_raw_bind {n : Nat} {f : UInt64 → HeapM β}
    (hf : ∀ off, hi ≤ off → off + n ≤ mapLimit →
      FailsCleanly r base (off + n) (f (base + off.toUInt64))) :
    FailsCleanly r base hi (raw n >>= f) := by
  refine ⟨writesIn_raw_bind fun off hoff hlim ↦ (hf off hoff hlim).writes,
    fun h e h' hs hb hnext hsize hx ↦ ?_⟩
  have hle := hs.next_le_nextAligned
  have hlim := hs.size_le
  by_cases hfull : h.memory.size < h.nextAligned + n
  · rw [exec_bind, exec_raw_full hfull] at hx
    cases hx
    trivial
  by_cases hend : h.memory.size ≤ h.nextAligned
  · obtain ⟨-, hraw⟩ := exec_raw_index (Nat.not_lt.mp hfull) hend
    rw [exec_bind, hraw] at hx
    cases hx
    exact ⟨rfl, rfl⟩
  rw [exec_bind_of_ok (exec_raw_of_room (Nat.not_lt.mp hfull) (Nat.not_le.mp hend)),
    hb] at hx
  exact (hf h.nextAligned (by omega) (by omega)).fails { h with next := h.nextAligned + n } e h'
    (hs.withNext _) hb (Nat.le_refl _) (by show _ ≤ h.memory.size; omega) hx

/-- Allocating an object fails only by its size or by the arena; its header words land in its
slot. -/
theorem failsCleanly_object (n : Nat) (t : TypeCode) (fl : UInt64) :
    FailsCleanly r base hi (object n t fl) := by
  unfold object
  refine failsCleanly_get_bind fun h0 hs0 ↦ ?_
  dsimp only
  rw [hs0.facts_eq, Release.flagsOffset_eq, Release.klassOffset_eq]
  split
  · rename_i slot hslot
    have hbase := Release.slotSize_ge r hslot
    rw [pure_bind]
    refine failsCleanly_raw_bind fun off _ hlim ↦ ?_
    refine (failsCleanly_writeWord_at off 0 (by omega) (by simp) (by simp; omega)).bind
      fun _ ↦ ?_
    split
    · exact (failsCleanly_writeWord_at off 8 (by omega) (by decide) (by simp; omega)).bind
        fun _ ↦ failsCleanly_pure _
    · exact failsCleanly_pure _
  · rename_i e he
    rw [slotSize_eq_error he]
    refine failsCleanly_throw_bind (fun _ ↦ ?_) _
    trivial

/-- A builder that returns a fresh slot, followed by what writes only inside every slot of at
least the requested and the base size: the slot lies past the bump pointer and inside the arena. -/
theorem FailsCleanly.slot_bind {n : Nat} {x : HeapM Value} {f : Value → HeapM β}
    (hb : BuildsSlot r n x) (hx : FailsCleanly r base hi x)
    (hf : ∀ off slot, hi ≤ off → n ≤ slot → 40 ≤ slot → off + slot ≤ mapLimit →
      FailsCleanly r base (off + slot) (f (base + off.toUInt64))) :
    FailsCleanly r base hi (x >>= f) := by
  have hnext_fresh {h h1 : Heap} {v : Value} (hs : Sound h r) (hbh : h.memory.base = base)
      (hnext : hi ≤ h.next) (hr : exec h x = (.ok v, h1)) :
      Sound h1 r ∧ h1.memory.base = base ∧ h1.memory.size = h.memory.size ∧
        ∃ off slot, FailsCleanly r base (off + slot) (f v) ∧ off + slot ≤ h1.next ∧
          off + slot ≤ h1.memory.size := by
    obtain ⟨off, slot, hv, hfr⟩ := hb.returns h v h1 hs hr
    have hk := hx.writes h hs hbh hnext
    rw [hr] at hk
    dsimp only at hk
    have hlim := hs.size_le
    have hin := hfr.inside
    have hsize := hk.arena.size_eq
    have hb1 : h1.memory.base = base := hk.arena.base_eq.trans hbh
    refine ⟨hs.of_sameArena hk.arena, hb1, hsize, off, slot, ?_, hfr.below, hin⟩
    rw [hv, hb1]
    exact hf off slot (Nat.le_trans hnext hfr.past) hfr.n_le hfr.base_le (by omega)
  constructor
  · intro h hs hbh hnext
    have hk := hx.writes h hs hbh hnext
    rw [exec_bind]
    rcases hr : exec h x with ⟨_ | v, h1⟩ <;> rw [hr] at hk
    · exact hk
    · obtain ⟨hs1, hb1, -, off, slot, hfv, hbelow, -⟩ := hnext_fresh hs hbh hnext hr
      exact hk.trans (hfv.writes h1 hs1 hb1 hbelow)
  · intro h e h' hs hbh hnext hsize he
    rw [exec_bind] at he
    rcases hr : exec h x with ⟨_ | v, h1⟩ <;> rw [hr] at he
    · cases he
      exact hx.fails h _ _ hs hbh hnext hsize hr
    · obtain ⟨hs1, hb1, hsz, off, slot, hfv, hbelow, hin⟩ := hnext_fresh hs hbh hnext hr
      rw [← hsz]
      exact hfv.fails h1 e h' hs1 hb1 hbelow hin he

/-- A run that allocates an object and goes on with its address fails cleanly when what follows
does, writing inside every slot of at least the requested and the base size. -/
theorem failsCleanly_object_bind {n : Nat} {t : TypeCode} {fl : UInt64} {f : Value → HeapM β}
    (hf : ∀ off slot, hi ≤ off → n ≤ slot → 40 ≤ slot → off + slot ≤ mapLimit →
      FailsCleanly r base (off + slot) (f (base + off.toUInt64))) :
    FailsCleanly r base hi (object n t fl >>= f) :=
  (failsCleanly_object n t fl).slot_bind (BuildsSlot.object n t fl) hf

/-! ### Each builder -/

/-- An embedded string: the length in the flag bits or a word of the slot, then the bytes. -/
theorem failsCleanly_embeddedString (s : ByteArray) : FailsCleanly r base hi (embeddedString s) := by
  have hw := Release.slotWrites r
  unfold embeddedString
  refine failsCleanly_getFacts_bind (failsCleanly_object_bind fun off slot _ hn _ hlim ↦ ?_)
  have hbytes : FailsCleanly r base (off + slot)
      (writeBytes (base + off.toUInt64 + r.facts.string.embedAryOffset) s) :=
    failsCleanly_writeBytes_slot off hw.strAry (by omega) hlim
  dsimp only
  split
  · exact (failsCleanly_orFlags_at off (by omega) (by omega)).bind fun _ ↦
      hbytes.bind fun _ ↦ failsCleanly_pure _
  · exact (failsCleanly_writeWord_slot off hw.strLen (by omega) hlim).bind fun _ ↦
      hbytes.bind fun _ ↦ failsCleanly_pure _

/-- A string with a separate buffer: the bytes in a buffer past the slot, then the length, the
pointer and the capacity in the slot. -/
theorem failsCleanly_heapStringOf (n : Nat) (bytes : Unit → ByteArray)
    (hn : (bytes ()).size = n) : FailsCleanly r base hi (heapStringOf n bytes) := by
  have hw := Release.slotWrites r
  unfold heapStringOf
  refine failsCleanly_getFacts_bind ?_
  simp only [Release.wordSize_eq, UInt64.toNat_ofNat]
  refine failsCleanly_object_bind fun off slot _ _ hbase hlim ↦ ?_
  refine failsCleanly_raw_bind fun buf hbuf hblim ↦ ?_
  refine (failsCleanly_writeBytes_off buf (by omega) (by omega)).bind fun _ ↦ ?_
  refine (failsCleanly_writeWord_slot off hw.strHeapLen (by omega) hblim).bind fun _ ↦ ?_
  refine (failsCleanly_writeWord_slot off hw.strHeapPtr (by omega) hblim).bind fun _ ↦ ?_
  rw [UInt64.add_assoc (base + off.toUInt64)]
  exact (failsCleanly_writeWord_slot off hw.strHeapCap (by omega) hblim).bind fun _ ↦
    failsCleanly_pure _

theorem failsCleanly_stringOf (n : Nat) (bytes : Unit → ByteArray) (hn : (bytes ()).size = n) :
    FailsCleanly r base hi (stringOf n bytes) := by
  unfold stringOf
  refine failsCleanly_getFacts_bind ?_
  split
  · exact failsCleanly_embeddedString _
  · exact failsCleanly_heapStringOf n bytes hn

theorem failsCleanly_string (s : ByteArray) : FailsCleanly r base hi (string s) :=
  failsCleanly_stringOf s.size (fun _ ↦ s) rfl

/-- An embedded array: the elements after the header word. -/
theorem failsCleanly_embeddedArray (elems : List Value) :
    FailsCleanly r base hi (embeddedArray elems) := by
  have hw := Release.slotWrites r
  unfold embeddedArray
  refine failsCleanly_getFacts_bind ?_
  simp only [Release.wordSize_eq, UInt64.toNat_ofNat]
  refine failsCleanly_object_bind fun off slot _ hn _ hlim ↦ ?_
  have hsize : (wordsBytes elems).size = 8 * elems.length := wordsBytes_size elems
  exact (failsCleanly_writeBytes_slot off hw.aryAry (by omega) hlim).bind fun _ ↦
    failsCleanly_pure _

/-- An array with a separate buffer: the elements in a buffer past the slot, then the length,
the capacity and the pointer in the slot. -/
theorem failsCleanly_heapArrayOf (n : Nat) (elems : Unit → List Value)
    (hn : (elems ()).length = n) : FailsCleanly r base hi (heapArrayOf n elems) := by
  have hw := Release.slotWrites r
  unfold heapArrayOf
  refine failsCleanly_getFacts_bind ?_
  simp only [Release.wordSize_eq, UInt64.toNat_ofNat]
  refine failsCleanly_object_bind fun off slot _ _ hbase hlim ↦ ?_
  have hsize : (wordsBytes (elems ())).size = 8 * n := by rw [wordsBytes_size, hn]
  refine failsCleanly_raw_bind fun buf hbuf hblim ↦ ?_
  refine (failsCleanly_writeBytes_off buf (by omega) (by omega)).bind fun _ ↦ ?_
  refine (failsCleanly_writeWord_slot off hw.aryHeapLen (by omega) hblim).bind fun _ ↦ ?_
  rw [UInt64.add_assoc (base + off.toUInt64)]
  refine (failsCleanly_writeWord_slot off hw.aryHeapCap (by omega) hblim).bind fun _ ↦ ?_
  exact (failsCleanly_writeWord_slot off hw.aryHeapPtr (by omega) hblim).bind fun _ ↦
    failsCleanly_pure _

theorem failsCleanly_arrayOf (n : Nat) (elems : Unit → List Value)
    (hn : (elems ()).length = n) : FailsCleanly r base hi (arrayOf n elems) := by
  unfold arrayOf
  refine failsCleanly_getFacts_bind ?_
  split
  · exact failsCleanly_embeddedArray _
  · exact failsCleanly_heapArrayOf n elems hn

/-- A dynamic symbol: the string of its name first, then its slot with the string and the
identifier. -/
theorem failsCleanly_dynamicSymbol (name : String) : FailsCleanly r base hi (dynamicSymbol name) := by
  unfold dynamicSymbol
  refine (failsCleanly_string _).bind fun fstr ↦ failsCleanly_getFacts_bind ?_
  simp only [Release.wordSize_eq, UInt64.toNat_ofNat]
  refine failsCleanly_object_bind fun off slot _ _ hbase hlim ↦ ?_
  refine (failsCleanly_internId name).bind fun _ ↦ ?_
  refine (failsCleanly_writeWord_slot off (by decide) (by omega) hlim).bind fun _ ↦ ?_
  refine (failsCleanly_writeWord_slot off (by decide) (by omega) hlim).bind fun _ ↦ ?_
  exact FailsCleanly.bind (failsCleanly_modify fun h ↦ ⟨rfl, rfl, rfl, rfl⟩) fun _ ↦
    failsCleanly_pure _

/-- A float object: the bits in the word after the class word. -/
theorem failsCleanly_heapFloat (bits : UInt64) : FailsCleanly r base hi (heapFloat bits) := by
  unfold heapFloat
  refine failsCleanly_getFacts_bind ?_
  simp only [Release.wordSize_eq, UInt64.toNat_ofNat]
  refine failsCleanly_object_bind fun off slot _ _ hbase hlim ↦ ?_
  exact (failsCleanly_writeWord_slot off (by decide) (by omega) hlim).bind fun _ ↦
    failsCleanly_pure _

/-- A bignum: the magnitude in a buffer past the slot, its length and pointer in the slot. -/
theorem failsCleanly_bignum (x : Int) : FailsCleanly r base hi (bignum x) := by
  unfold bignum
  refine failsCleanly_getFacts_bind ?_
  simp only [Release.wordSize_eq, UInt64.toNat_ofNat]
  refine failsCleanly_object_bind fun off slot _ _ hbase hlim ↦ ?_
  have hsize : (wordsBytes (magnitudeWords x.natAbs)).size =
      8 * (magnitudeWords x.natAbs).length := wordsBytes_size _
  refine failsCleanly_raw_bind fun buf hbuf hblim ↦ ?_
  refine (failsCleanly_writeBytes_off buf (by omega) (by omega)).bind fun _ ↦ ?_
  refine (failsCleanly_writeWord_slot off (by decide) (by omega) hblim).bind fun _ ↦ ?_
  refine (failsCleanly_writeWord_slot off (by decide) (by omega) hblim).bind fun _ ↦ ?_
  exact FailsCleanly.bind (failsCleanly_modify fun h ↦ ⟨rfl, rfl, rfl, rfl⟩) fun _ ↦
    failsCleanly_pure _

theorem failsCleanly_hash : FailsCleanly r base hi hash :=
  failsCleanly_getFacts_bind (failsCleanly_object _ _ _)

theorem failsCleanly_plainObject : FailsCleanly r base hi plainObject :=
  failsCleanly_getFacts_bind (failsCleanly_object _ _ _)

/-- An untyped data object: the data pointer in the last word of the base slot. -/
theorem failsCleanly_untypedData (data : UInt64) : FailsCleanly r base hi (untypedData data) := by
  unfold untypedData
  refine failsCleanly_getFacts_bind ?_
  simp only [Release.wordSize_eq, UInt64.toNat_ofNat]
  refine failsCleanly_object_bind fun off slot _ _ hbase hlim ↦ ?_
  exact (failsCleanly_writeWord_slot off (by decide) (by omega) hlim).bind fun _ ↦
    failsCleanly_pure _

/-- A typed data object of `n` bytes: refused before anything is built where the layout has no
typed data; otherwise the type word, and the flag word where no header flag marks typed data. -/
theorem failsCleanly_typedObject (typ : UInt64) (n : Nat) (e : Bool) :
    FailsCleanly r base hi (typedObject typ n e) := by
  have hw := Release.slotWrites r
  unfold typedObject
  refine failsCleanly_getFacts_bind ?_
  dsimp only
  split
  · refine failsCleanly_throw_bind (fun _ ↦ ?_) _
    trivial
  refine failsCleanly_object_bind fun off slot _ _ hbase hlim ↦ ?_
  split
  · exact (failsCleanly_writeWord_slot off hw.typedType (by omega) hlim).bind fun _ ↦
      failsCleanly_pure _
  · exact (failsCleanly_writeWord_slot off hw.typedType (by omega) hlim).bind fun _ ↦
      (failsCleanly_writeWord_slot off hw.typedFlag (by omega) hlim).bind fun _ ↦
      failsCleanly_pure _

/-- A typed data object wrapping a data pointer, in the data word of its slot. -/
theorem failsCleanly_typedData (typ data : UInt64) : FailsCleanly r base hi (typedData typ data) := by
  have hw := Release.slotWrites r
  unfold typedData
  refine failsCleanly_getFacts_bind ?_
  refine FailsCleanly.slot_bind (buildsSlot_typedObject typ _ false)
    (failsCleanly_typedObject typ _ false) fun off slot _ _ hbase hlim ↦ ?_
  exact FailsCleanly.bind (failsCleanly_writeWord_slot off hw.typedData (by omega) hlim)
    fun _ ↦ failsCleanly_pure _

/-- A typed data object with its payload copied into its slot. -/
theorem failsCleanly_embeddedTypedData (typ : UInt64) (payload : ByteArray) :
    FailsCleanly r base hi (embeddedTypedData typ payload) := by
  have hw := Release.slotWrites r
  unfold embeddedTypedData
  refine failsCleanly_getFacts_bind ?_
  refine FailsCleanly.slot_bind (buildsSlot_typedObject typ _ true)
    (failsCleanly_typedObject typ _ true) fun off slot _ hn hbase hlim ↦ ?_
  exact FailsCleanly.bind (failsCleanly_writeBytes_slot off hw.typedEmbed (by omega) hlim)
    fun _ ↦ failsCleanly_pure _

/-- A buffer writes only into the bytes it hands out. -/
theorem failsCleanly_buffer (b : ByteArray) : FailsCleanly r base hi (buffer b) := by
  unfold buffer
  refine failsCleanly_raw_bind fun off _ hlim ↦ ?_
  exact (failsCleanly_writeBytes_off off (by omega) (Nat.le_refl _)).bind fun _ ↦
    failsCleanly_pure _

/-- A data type record: its name and the record, each in bytes it hands out. -/
theorem failsCleanly_dataType (name : String) : FailsCleanly r base hi (dataType name) := by
  unfold dataType
  refine failsCleanly_getFacts_bind ?_
  simp only [Release.wordSize_eq, UInt64.toNat_ofNat]
  refine failsCleanly_raw_bind fun cname _ hclim ↦ ?_
  refine (failsCleanly_writeBytes_off cname (by omega) (by omega)).bind fun _ ↦ ?_
  refine failsCleanly_raw_bind fun typ _ htlim ↦ ?_
  exact (failsCleanly_writeWord_off typ (by omega) (by omega)).bind fun _ ↦ failsCleanly_pure _

/-- A float is an immediate, which never fails, or a float object. -/
theorem failsCleanly_float (bits : UInt64) : FailsCleanly r base hi (float bits) := by
  unfold float
  refine failsCleanly_getFacts_bind ?_
  split
  · split
    · exact failsCleanly_pure _
    · exact failsCleanly_heapFloat bits
  · exact failsCleanly_heapFloat bits

/-! ### An empty buffer at the arena's end -/

/-- Every slot of a release is a whole number of words. -/
theorem slotSize_mod_eight (r : Release) {n s : Nat} (hs : slotSize r.facts.gc n = .ok s) :
    s % 8 = 0 := by
  have hpools : ∀ i, i < 5 → (Word.shl 40 i.toUInt64).toNat % 8 = 0 := by decide
  unfold slotSize at hs
  dsimp only at hs
  split at hs
  · rename_i i hi
    have hmem := List.mem_range.mp (List.mem_of_find?_eq_some hi)
    cases hs
    rw [show r.facts.gc.baseSlotSize = 40 from UInt64.toNat_inj.mp r.baseSlotSize_eq]
    exact hpools i (by have := r.sizePoolCount_le; omega)
  · cases hs

/-- An empty array with a separate buffer, whose slot fills the arena to its last byte, fails
with the index error one past the end: its buffer of no elements is asked for exactly there. The
slot is a whole number of words, so the bump pointer it leaves is the arena's end. -/
theorem exec_heapArray_nil_of_full (hs : Sound h r) (s : Nat)
    (hslot : slotSize r.facts.gc (r.facts.array.heapPtrOffset.toNat + 8) = .ok s)
    (hfill : h.nextAligned + s = h.memory.size) :
    (exec h (heapArray [])).1 = .error (.indexOutOfRange h.memory.size h.memory.size) := by
  obtain ⟨h1, hobj⟩ : ∃ h1, exec h (object (r.facts.array.heapPtrOffset.toNat + 8)
      TypeCode.array 0) = (.ok (h.memory.base + h.nextAligned.toUInt64), h1) :=
    exec_object_ok hs hslot (Nat.le_of_eq hfill)
  obtain ⟨slot, hal, hslot', -⟩ := exec_object_spec hs hobj
  have hslot_eq : slot = s := by
    rw [hslot] at hslot'
    cases hslot'
    rfl
  subst hslot_eq
  have hs1 := hs.of_sameArena hal.arena
  have hmod := slotSize_mod_eight r hslot
  have hal8 := hs.nextAligned_mod
  have hat : h1.nextAligned = h1.memory.size := by
    rw [hs1.nextAligned_of_mod (by rw [hal.next_eq]; omega), hal.next_eq, hal.arena.size_eq]
    exact hfill
  unfold heapArray heapArrayOf
  rw [exec_bind_of_ok exec_getFacts, hs.facts_eq]
  simp only [Release.wordSize_eq, UInt64.toNat_ofNat, List.length_nil, Nat.zero_mul]
  rw [exec_bind_of_ok hobj, exec_bind, (exec_raw_index (by omega) (by omega)).2,
    hal.arena.size_eq]

end Heap

/-- Every object builder fails only as a builder may. -/
theorem ObjectBuilder.failsCleanly (r : Release) (b : ObjectBuilder) (base : UInt64) (hi : Nat) :
    Heap.FailsCleanly r base hi b.run := by
  cases b
  case string s => exact Heap.failsCleanly_string s
  case heapString s => exact Heap.failsCleanly_heapStringOf s.size (fun _ ↦ s) rfl
  case array elems => exact Heap.failsCleanly_arrayOf elems.length (fun _ ↦ elems) rfl
  case heapArray elems => exact Heap.failsCleanly_heapArrayOf elems.length (fun _ ↦ elems) rfl
  case dynamicSymbol name => exact Heap.failsCleanly_dynamicSymbol name
  case heapFloat bits => exact Heap.failsCleanly_heapFloat bits
  case bignum x => exact Heap.failsCleanly_bignum x
  case int2Big i => exact Heap.failsCleanly_bignum i
  case uint2Big u => exact Heap.failsCleanly_bignum _
  case hash => exact Heap.failsCleanly_hash
  case plainObject => exact Heap.failsCleanly_plainObject
  case untypedData data => exact Heap.failsCleanly_untypedData data
  case typedData typ data => exact Heap.failsCleanly_typedData typ data
  case embeddedTypedData typ payload => exact Heap.failsCleanly_embeddedTypedData typ payload

/-- Every builder fails only as a builder may: with an exhausted arena, an object larger than
the largest slot, a layout without typed data, or the index error of nothing asked for at the
arena's end. None faults. -/
theorem Builder.failsCleanly (r : Release) (b : Builder) (base : UInt64) :
    Heap.FailsCleanly r base 0 b.run := by
  cases b with
  | object b => exact b.failsCleanly r base 0
  | float bits => exact Heap.failsCleanly_float bits
  | buffer b => exact Heap.failsCleanly_buffer b
  | dataType name => exact Heap.failsCleanly_dataType name

/-- How allocation and the builders fail, for every release.

* `raw n` on a sound heap returns exactly when the `n` bytes fit past the bump pointer rounded
  up to a word and that offset is still inside the arena. It then returns the address of the
  offset, word-aligned and at or past the bump pointer, and moves the bump pointer to the end of
  the bytes.
* A request that does not fit is refused with an exhausted arena and the room left, and the
  heap is kept as it was.
* A request that fits at an offset that is not inside the arena asks for nothing at the arena's
  very end; it fails with the index error one past the last byte, the bump pointer moved there.
* Every builder fails only with an exhausted arena, an object larger than the largest slot, a
  layout without typed data, or that index error at the arena's end. -/
theorem allocation_failures (r : Release) :
    (∀ (h : Heap) (n : Nat), h.Sound r →
      ((∃ p h', Heap.exec h (Heap.raw n) = (.ok p, h')) ↔
          h.nextAligned + n ≤ h.memory.size ∧ h.nextAligned < h.memory.size) ∧
      (∀ p h', Heap.exec h (Heap.raw n) = (.ok p, h') →
          p = h.memory.base + h.nextAligned.toUInt64 ∧ h.nextAligned % 8 = 0 ∧
          h.next ≤ h.nextAligned ∧ h' = { h with next := h.nextAligned + n }) ∧
      (h.memory.size < h.nextAligned + n →
          Heap.exec h (Heap.raw n) =
            (.error (.arenaFull n (h.memory.size - h.nextAligned) h.memory.size), h)) ∧
      (h.nextAligned + n ≤ h.memory.size → h.memory.size ≤ h.nextAligned →
          n = 0 ∧ Heap.exec h (Heap.raw n) =
            (.error (.indexOutOfRange h.memory.size h.memory.size),
              { h with next := h.memory.size }))) ∧
    ∀ (b : Builder) (h : Heap) (e : HeapError) (h' : Heap), h.Sound r →
      Heap.exec h b.run = (.error e, h') → e.IsBuildFailure h.memory.size := by
  refine ⟨fun h n hs ↦ ⟨⟨?_, ?_⟩, ?_, Heap.exec_raw_full, Heap.exec_raw_index⟩, ?_⟩
  · rintro ⟨p, h', hx⟩
    obtain ⟨hroom, hend, -⟩ := Heap.exec_raw_eq_ok hx
    exact ⟨hroom, hend⟩
  · rintro ⟨hroom, hend⟩
    exact ⟨_, _, Heap.exec_raw_of_room hroom hend⟩
  · intro p h' hx
    obtain ⟨-, -, rfl, rfl⟩ := Heap.exec_raw_eq_ok hx
    exact ⟨rfl, hs.nextAligned_mod, hs.next_le_nextAligned, rfl⟩
  · intro b h e h' hs hx
    exact (Builder.failsCleanly r b _).fails h e h' hs rfl (Nat.zero_le _) (Nat.zero_le _) hx

/-- An empty array with a separate buffer, on the heap that `create` makes for the first release
on an arena of 400 bytes, fails with the index error one past the arena's end, a runtime failure
rather than an exhausted arena: boot's classes take the first 360 bytes and the array's slot the
last 40. -/
theorem empty_heapArray_at_arena_end :
    ∃ h, Heap.create Release.v27.facts 400 = .ok h ∧
      (Heap.exec h (Heap.heapArray [])).1 = .error (.indexOutOfRange 400 400) ∧
      (HeapError.indexOutOfRange 400 400).kind = .runtime := by
  obtain ⟨h, hc, hnext, hsize⟩ := Heap.create_ok (r := .v27) 400 (.inr ⟨by decide, by decide⟩)
  have hs := Heap.create_sound hc
  have hsize' : h.memory.size = 400 := hsize
  have halign := hs.nextAligned_of_mod (by omega)
  refine ⟨h, hc, ?_, rfl⟩
  rw [← hsize']
  exact Heap.exec_heapArray_nil_of_full hs 40 (by decide) (by omega)

end RubyLayout
