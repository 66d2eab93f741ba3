import RubyLayout.Proofs.HeaderBuild
import RubyLayout.Proofs.SlotReads

/-!
# Builders write only what they hand out

Every builder hands out its slots and buffers past the bump pointer it starts from, and writes
nothing outside them. `Confined lo h h'` says that `h'` differs from `h` only at the arena offsets
from `lo` up to its own bump pointer, which is no further back; it is reflexive and transitive.
`WritesIn r base lo hi x` says that every run of `x` from a sound heap over the arena at `base`
whose bump pointer has passed `hi` ends, whatever its outcome, in a heap confined from `lo`. Being
confined is a `SoundFrame` (`confined_frame`), so reads, sequences and `raw` follow the rules proved
for every such frame. A write between `lo` and `hi` is confined (`writesIn_writeBytes_at`), and
`raw` and `object` hand out bytes past the bump pointer, so what follows them may write up to the
end of what they handed out (`writesIn_raw_bind`, `BuildsSlot.bind`).

`BuildsSlot r n x` says that every run of `x` is confined from any offset its bump pointer has
passed, and that every value it returns is the address of a word-aligned slot of at least `n`
bytes and the base size, handed out past the bump pointer the run started from and inside the
arena (`FreshSlot`). Its rules compose a builder from an allocation and a body that writes only
into the slot and returns it (`SlotBody`).

`Builder` lists the calls that build: the object builders (a concatenation is the string of the
texts joined), floats, buffers and data type records. Main statements:

* `Builder.writesIn`: every call writes only bytes it hands out itself;
* `ObjectBuilder.buildsSlot`: every object builder returns a fresh slot;
* `Builder.settled`: every value a call returns that is not a pointer to raw bytes is an
  immediate or a fresh slot.
-/

set_option autoImplicit false
set_option relaxedAutoImplicit false

namespace RubyLayout

/-- Every word the builders write after allocating an object ends inside its base slot of 40
bytes, and every run of bytes they copy into it starts there. -/
structure SlotWrites (f : Facts) : Prop where
  strLen : f.string.embedLenOffset.toNat ≤ 32
  strAry : f.string.embedAryOffset.toNat ≤ 40
  strHeapLen : f.string.heapLenOffset.toNat ≤ 32
  strHeapPtr : f.string.heapPtrOffset.toNat ≤ 32
  strHeapCap : (f.string.heapPtrOffset + 8).toNat ≤ 32
  aryAry : f.array.embedAryOffset.toNat ≤ 40
  aryHeapLen : f.array.heapLenOffset.toNat ≤ 32
  aryHeapCap : (f.array.heapLenOffset + 8).toNat ≤ 32
  aryHeapPtr : f.array.heapPtrOffset.toNat ≤ 32
  typedType : f.typedData.typeOffset.toNat ≤ 32
  typedFlag : f.typedData.flagOffset.toNat ≤ 32
  typedData : f.typedData.dataOffset.toNat ≤ 32
  typedEmbed : f.typedData.embedOffset.toNat ≤ 40

theorem Release.slotWrites (r : Release) : SlotWrites r.facts := by
  cases r <;> exact ⟨by decide, by decide, by decide, by decide, by decide, by decide, by decide,
    by decide, by decide, by decide, by decide, by decide, by decide⟩

namespace Heap

open Memory

variable {r : Release} {α β : Type} {base : UInt64} {lo hi : Nat}

/-! ### Confined changes -/

/-- `h'` differs from `h` only at the arena offsets from `lo` up to its bump pointer: it lies
over the same arena, has the same class objects and a bump pointer no further back. -/
structure Confined (lo : Nat) (h h' : Heap) : Prop where
  arena : SameArena h h'
  classes_eq : h'.classes = h.classes
  next_le : h.next ≤ h'.next
  byteAt_eq : ∀ i, i < lo ∨ h'.next ≤ i → h'.memory.byteAt i = h.memory.byteAt i

namespace Confined

variable {h h' h₁ h₂ h₃ : Heap}

theorem refl (lo : Nat) (h : Heap) : Confined lo h h :=
  ⟨SameArena.refl h, rfl, Nat.le_refl _, fun _ _ ↦ rfl⟩

theorem trans (h₁₂ : Confined lo h₁ h₂) (h₂₃ : Confined lo h₂ h₃) : Confined lo h₁ h₃ := by
  refine ⟨h₁₂.arena.trans h₂₃.arena, h₂₃.classes_eq.trans h₁₂.classes_eq,
    Nat.le_trans h₁₂.next_le h₂₃.next_le, fun i hi ↦ ?_⟩
  have hi₂ : i < lo ∨ h₂.next ≤ i := hi.imp_right (Nat.le_trans h₂₃.next_le)
  exact (h₂₃.byteAt_eq i hi).trans (h₁₂.byteAt_eq i hi₂)

theorem mono {lo' : Nat} (hc : Confined lo h h') (hle : lo' ≤ lo) : Confined lo' h h' :=
  ⟨hc.arena, hc.classes_eq, hc.next_le, fun i hi ↦ hc.byteAt_eq i (hi.imp_left (by omega))⟩

/-- A change confined to the offsets from `lo` keeps every byte below `lo`. -/
theorem agreesBelow (hc : Confined lo h h') : h.memory.AgreesBelow h'.memory lo :=
  ⟨hc.arena.base_eq, hc.arena.size_eq, fun i hi ↦ hc.byteAt_eq i (.inl hi)⟩

/-- Writing bytes between `lo` and the bump pointer is confined from `lo`. -/
theorem withBytes (h : Heap) {off : Nat} {b : ByteArray} (hlo : lo ≤ off)
    (hhi : off + b.size ≤ h.next) : Confined lo h (h.withBytes off b) :=
  ⟨sameArena_withBytes _ _ _, classes_withBytes _ _ _, Nat.le_of_eq (next_withBytes _ _ _).symm,
    fun i hi ↦ byteAt_withBytes_of_disjoint h (by rw [next_withBytes] at hi; omega)⟩

end Confined

/-! ### Runs confined to a range -/

/-- Every run of the operation from a sound heap over the arena at `base` whose bump pointer has
passed `hi` ends in a heap confined from `lo`, whatever its outcome. -/
def WritesIn (r : Release) (base : UInt64) (lo hi : Nat) (x : HeapM α) : Prop :=
  ∀ h : Heap, Sound h r → h.memory.base = base → hi ≤ h.next → Confined lo h (exec h x).2

/-- A change confined past `lo` is a frame from the heaps whose bump pointer has passed `hi`. -/
theorem confined_frame : SoundFrame r (fun h ↦ hi ≤ h.next) (Confined lo) where
  bump _ _ hf hm hn hc := ⟨⟨hf, by rw [hm], by rw [hm]⟩, hc, hn, fun _ _ ↦ by rw [hm]⟩
  trans := Confined.trans
  arena hc := hc.arena
  forward hp hc := Nat.le_trans hp hc.next_le

theorem writesIn_of_eq {x : HeapM α} (hx : ∀ h, (exec h x).2 = h) : WritesIn r base lo hi x :=
  confined_frame.keeps_of_eq hx

theorem writesIn_pure (a : α) : WritesIn r base lo hi (pure a : HeapM α) :=
  confined_frame.keeps_pure a

theorem writesIn_throw_bind (e : HeapError) (f : α → HeapM β) :
    WritesIn r base lo hi (throw e >>= f) :=
  confined_frame.keeps_throw_bind e f

theorem writesIn_bind {x : HeapM α} {f : α → HeapM β} (hx : WritesIn r base lo hi x)
    (hf : ∀ a, WritesIn r base lo hi (f a)) : WritesIn r base lo hi (x >>= f) :=
  confined_frame.keeps_bind hx hf

theorem writesIn_get_bind {f : Heap → HeapM β} (hf : ∀ h, Sound h r → WritesIn r base lo hi (f h)) :
    WritesIn r base lo hi (get >>= f) :=
  SoundKeeps.get_bind hf

theorem writesIn_getFacts_bind {f : Facts → HeapM β} (hf : WritesIn r base lo hi (f r.facts)) :
    WritesIn r base lo hi (getFacts >>= f) :=
  SoundKeeps.getFacts_bind hf

theorem writesIn_modify {g : Heap → Heap}
    (hg : ∀ h, (g h).facts = h.facts ∧ (g h).memory = h.memory ∧ (g h).next = h.next ∧
      (g h).classes = h.classes) :
    WritesIn r base lo hi (modify g : HeapM PUnit) :=
  confined_frame.keeps_modify hg

theorem writesIn_readWord_bind {a : UInt64} {f : UInt64 → HeapM β}
    (hf : ∀ w, WritesIn r base lo hi (f w)) : WritesIn r base lo hi (readWord a >>= f) :=
  confined_frame.keeps_readWord_bind hf

/-- A write from `lo` that ends by `hi` is confined from `lo`; a write that faults writes
nothing. -/
theorem writesIn_writeBytes_at (off : Nat) (k : UInt64) {b : ByteArray} (hoff : off ≤ mapLimit)
    (hk : k.toNat ≤ mapLimit) (hlo : lo ≤ off + k.toNat) (hhi : off + k.toNat + b.size ≤ hi) :
    WritesIn r base lo hi (writeBytes (base + off.toUInt64 + k) b) := by
  intro h hs hb hnext
  subst hb
  rw [exec_writeBytes_heap]
  split
  · rw [hs.base.toNat_add_field hoff hk, Nat.add_sub_cancel_left]
    exact Confined.withBytes h hlo (by omega)
  · exact Confined.refl lo h

theorem writesIn_writeWord_at (off : Nat) (k : UInt64) {w : UInt64} (hoff : off ≤ mapLimit)
    (hk : k.toNat ≤ mapLimit) (hlo : lo ≤ off + k.toNat) (hhi : off + k.toNat + 8 ≤ hi) :
    WritesIn r base lo hi (writeWord (base + off.toUInt64 + k) w) :=
  writesIn_writeBytes_at off k hoff hk hlo (by rw [wordBytes_size]; exact hhi)

/-- A write at the start of bytes handed out. -/
theorem writesIn_writeBytes_off (off : Nat) {b : ByteArray} (hoff : off ≤ mapLimit)
    (hlo : lo ≤ off) (hhi : off + b.size ≤ hi) :
    WritesIn r base lo hi (writeBytes (base + off.toUInt64) b) := by
  have hk : WritesIn r base lo hi (writeBytes (base + off.toUInt64 + 0) b) :=
    writesIn_writeBytes_at off 0 hoff (by simp) (by simpa using hlo) (by simpa using hhi)
  rwa [UInt64.add_zero] at hk

theorem writesIn_writeWord_off (off : Nat) {w : UInt64} (hoff : off ≤ mapLimit)
    (hlo : lo ≤ off) (hhi : off + 8 ≤ hi) :
    WritesIn r base lo hi (writeWord (base + off.toUInt64) w) :=
  writesIn_writeBytes_off off hoff hlo (by rw [wordBytes_size]; exact hhi)

/-- Setting flag bits in a header word between `lo` and `hi`. -/
theorem writesIn_orFlags_at (off : Nat) {bits : UInt64} (hoff : off ≤ mapLimit)
    (hlo : lo ≤ off) (hhi : off + 8 ≤ hi) :
    WritesIn r base lo hi (orFlags (base + off.toUInt64) bits) := by
  unfold orFlags
  refine writesIn_get_bind fun h0 hs0 ↦ ?_
  rw [hs0.facts_eq, Release.flagsOffset_eq]
  exact writesIn_readWord_bind fun _ ↦
    writesIn_writeWord_at off 0 hoff (by simp) (by simpa using hlo) (by simpa using hhi)

theorem writesIn_internId (name : String) : WritesIn r base lo hi (internId name) := by
  unfold internId
  refine writesIn_get_bind fun h0 _ ↦ ?_
  split
  exact writesIn_bind (writesIn_modify fun h ↦ ⟨rfl, rfl, rfl, rfl⟩) fun _ ↦ writesIn_pure _

/-! ### Allocation -/

theorem writesIn_raw (n : Nat) : WritesIn r base lo hi (raw n) :=
  confined_frame.keeps_raw n

/-- Bytes handed out lie past the bump pointer, so a run that goes on with their address is
confined when what follows writes only up to their end. -/
theorem writesIn_raw_bind {n : Nat} {f : UInt64 → HeapM β}
    (hf : ∀ off, hi ≤ off → off + n ≤ mapLimit →
      WritesIn r base lo (off + n) (f (base + off.toUInt64))) :
    WritesIn r base lo hi (raw n >>= f) := by
  intro h hs hb hnext
  have hk := (writesIn_raw n : WritesIn r base lo hi _) h hs hb hnext
  rw [exec_bind]
  rcases hr : exec h (raw n) with ⟨_ | p, h1⟩ <;> rw [hr] at hk
  · exact hk
  · obtain ⟨hfits, -, rfl, rfl⟩ := exec_raw_eq_ok hr
    have hle := hs.next_le_nextAligned
    have hlim := hs.size_le
    subst hb
    exact hk.trans (hf h.nextAligned (by omega) (by omega) _ (hs.withNext (h.nextAligned + n)) rfl
      (Nat.le_refl _))

/-- Allocating an object writes its header and class words, at the start of the slot it hands
out past the bump pointer. -/
theorem writesIn_object (n : Nat) (t : TypeCode) (fl : UInt64) (hlo : lo ≤ hi) :
    WritesIn r base lo hi (object n t fl) := by
  unfold object
  refine writesIn_get_bind fun h0 hs0 ↦ ?_
  dsimp only
  rw [hs0.facts_eq, Release.flagsOffset_eq, Release.klassOffset_eq]
  split
  · rename_i slot hslot
    have hbase := Release.slotSize_ge r hslot
    rw [pure_bind]
    refine writesIn_raw_bind fun off hoff hlim ↦ ?_
    refine writesIn_bind (writesIn_writeWord_at off 0 (by omega) (by simp) (by simp; omega)
      (by simp; omega)) fun _ ↦ ?_
    split
    · exact writesIn_bind (writesIn_writeWord_at off 8 (by omega) (by decide) (by omega)
        (by simp; omega)) fun _ ↦ writesIn_pure _
    · exact writesIn_pure _
  · exact writesIn_throw_bind _ _

/-- A word at a field of the slot at `off`. -/
theorem writesIn_writeWord_slot (off : Nat) {k w : UInt64} (hk : k.toNat ≤ 32) (hlo : lo ≤ off)
    (hslot : off + 40 ≤ hi) (hlim : hi ≤ mapLimit) :
    WritesIn r base lo hi (writeWord (base + off.toUInt64 + k) w) := by
  have hmap : mapLimit = 2 ^ 47 := rfl
  exact writesIn_writeWord_at off k (by omega) (by omega) (by omega) (by omega)

/-- Bytes copied into the slot at `off` from a field offset. -/
theorem writesIn_writeBytes_slot (off : Nat) {k : UInt64} {b : ByteArray} (hk : k.toNat ≤ 40)
    (hlo : lo ≤ off) (hend : off + k.toNat + b.size ≤ hi) (hlim : hi ≤ mapLimit) :
    WritesIn r base lo hi (writeBytes (base + off.toUInt64 + k) b) := by
  have hmap : mapLimit = 2 ^ 47 := rfl
  exact writesIn_writeBytes_at off k (by omega) (by omega) (by omega) hend

/-! ### Builders that return a fresh slot -/

/-- A slot of at least `n` bytes and the base size at the arena offset `off`: word-aligned, past
`lo`, and below the bump pointer of `h`, inside its arena. -/
structure FreshSlot (n lo : Nat) (h : Heap) (off slot : Nat) : Prop where
  aligned : off % 8 = 0
  past : lo ≤ off
  n_le : n ≤ slot
  base_le : 40 ≤ slot
  below : off + slot ≤ h.next
  inside : off + slot ≤ h.memory.size

/-- Every run of the builder from a sound heap that returns a value returns the address of a
fresh slot of at least `n` bytes, handed out past the bump pointer the run started from. -/
def ReturnsSlot (r : Release) (n : Nat) (x : HeapM Value) : Prop :=
  ∀ h v h', Sound h r → exec h x = (.ok v, h') →
    ∃ off slot, v = h'.memory.base + off.toUInt64 ∧ FreshSlot n h.next h' off slot

/-- What follows the allocation of a slot of at least `n` bytes: in every arena, at every offset,
and for every slot size, it writes only inside the slot or past the bump pointer, and returns the
slot. -/
def SlotBody (r : Release) (n : Nat) (f : Value → HeapM Value) : Prop :=
  ∀ base lo off slot, lo ≤ off → n ≤ slot → 40 ≤ slot → off + slot ≤ mapLimit →
    WritesIn r base lo (off + slot) (f (base + off.toUInt64)) ∧
      Returns (f (base + off.toUInt64)) (base + off.toUInt64)

/-- Every run of the builder is confined from every offset its bump pointer has passed, and every
value it returns is a fresh slot of at least `n` bytes. -/
structure BuildsSlot (r : Release) (n : Nat) (x : HeapM Value) : Prop where
  writes : ∀ base lo, WritesIn r base lo lo x
  returns : ReturnsSlot r n x

namespace BuildsSlot

variable {n : Nat} {x : HeapM Value}

theorem object (n : Nat) (t : TypeCode) (fl : UInt64) : BuildsSlot r n (object n t fl) := by
  refine ⟨fun _ lo ↦ writesIn_object n t fl (Nat.le_refl lo), fun h v h' hs hx ↦ ?_⟩
  obtain ⟨slot, hal, -⟩ := exec_object_spec hs hx
  exact ⟨h.nextAligned, slot, by rw [hal.addr, hal.arena.base_eq], hs.nextAligned_mod, hs.next_le_nextAligned, hal.n_le,
    hal.base_le, Nat.le_of_eq hal.next_eq.symm, hal.arena.size_eq ▸ hal.fits⟩

/-- A builder followed by a body that writes into the slot it returned and returns it. -/
theorem bind {f : Value → HeapM Value} (hx : BuildsSlot r n x) (hf : SlotBody r n f) :
    BuildsSlot r n (x >>= f) := by
  constructor
  · intro base lo h hs hb hnext
    have hk := hx.writes base lo h hs hb hnext
    rw [exec_bind]
    rcases hr : exec h x with ⟨_ | v, h1⟩ <;> rw [hr] at hk
    · exact hk
    · dsimp only at hk
      obtain ⟨off, slot, rfl, hfr⟩ := hx.returns h v h1 hs hr
      have hlim := hs.size_le
      have hin := hfr.inside
      have hsize := hk.arena.size_eq
      have hbody := hf h1.memory.base lo off slot (Nat.le_trans hnext hfr.past) hfr.n_le
        hfr.base_le (by omega)
      exact hk.trans (hbody.1 h1 (hs.of_sameArena hk.arena) rfl hfr.below)
  · intro h v' h2 hs hx'
    obtain ⟨v, h1, hr, hr2⟩ := exec_bind_eq_ok hx'
    obtain ⟨off, slot, rfl, hfr⟩ := hx.returns h v h1 hs hr
    have hk := hx.writes h.memory.base h.next h hs rfl (Nat.le_refl _)
    rw [hr] at hk
    dsimp only at hk
    have hlim := hs.size_le
    have hin := hfr.inside
    have hsize := hk.arena.size_eq
    have hbody := hf h1.memory.base off off slot (Nat.le_refl _) hfr.n_le hfr.base_le (by omega)
    have hk2 := hbody.1 h1 (hs.of_sameArena hk.arena) rfl hfr.below
    rw [hr2] at hk2
    exact ⟨off, slot, by rw [hbody.2 h1 v' h2 hr2, hk2.arena.base_eq], hfr.aligned, hfr.past,
      hfr.n_le, hfr.base_le, Nat.le_trans hfr.below hk2.next_le, hk2.arena.size_eq ▸ hin⟩

theorem getFacts_bind {f : Facts → HeapM Value} (hf : BuildsSlot r n (f r.facts)) :
    BuildsSlot r n (getFacts >>= f) := by
  refine ⟨fun base lo ↦ writesIn_getFacts_bind (hf.writes base lo), fun h v h' hs hx ↦ ?_⟩
  rw [exec_bind_of_ok exec_getFacts, hs.facts_eq] at hx
  exact hf.returns h v h' hs hx

theorem throw_bind (e : HeapError) (f : α → HeapM Value) : BuildsSlot r n (throw e >>= f) := by
  refine ⟨fun _ _ ↦ writesIn_throw_bind e f, fun h v h' _ hx ↦ ?_⟩
  rw [exec_bind, exec_throw] at hx
  cases hx

/-- A confined run before a builder: the slot is handed out past where the run left the bump
pointer. -/
theorem after {y : HeapM α} {f : α → HeapM Value} (hy : ∀ base lo, WritesIn r base lo lo y)
    (hf : ∀ a, BuildsSlot r n (f a)) : BuildsSlot r n (y >>= f) := by
  refine ⟨fun base lo ↦ writesIn_bind (hy base lo) fun a ↦ (hf a).writes base lo,
    fun h v h' hs hx ↦ ?_⟩
  obtain ⟨a, h1, hr, hx⟩ := exec_bind_eq_ok hx
  have hk := hy h.memory.base h.next h hs rfl (Nat.le_refl _)
  rw [hr] at hk
  obtain ⟨off, slot, hv, hfr⟩ := (hf a).returns h1 v h' (hs.of_sameArena hk.arena) hx
  exact ⟨off, slot, hv, hfr.aligned, Nat.le_trans hk.next_le hfr.past, hfr.n_le, hfr.base_le,
    hfr.below, hfr.inside⟩

theorem mono {m : Nat} (hx : BuildsSlot r n x) (hle : m ≤ n) : BuildsSlot r m x := by
  refine ⟨hx.writes, fun h v h' hs hr ↦ ?_⟩
  obtain ⟨off, slot, hv, hfr⟩ := hx.returns h v h' hs hr
  exact ⟨off, slot, hv, hfr.aligned, hfr.past, Nat.le_trans hle hfr.n_le, hfr.base_le,
    hfr.below, hfr.inside⟩

end BuildsSlot

/-! ### Each builder -/

/-- An embedded string: the length in the flag bits or a word of the slot, then the bytes. -/
theorem buildsSlot_embeddedString (s : ByteArray) : BuildsSlot r 0 (embeddedString s) := by
  have hw := Release.slotWrites r
  unfold embeddedString
  refine BuildsSlot.getFacts_bind ?_
  refine (BuildsSlot.bind (BuildsSlot.object _ _ _) fun base lo off slot hlo hn hbase hlim ↦
    ⟨?_, ?_⟩).mono (Nat.zero_le _)
  · have hbytes : WritesIn r base lo (off + slot)
        (writeBytes (base + off.toUInt64 + r.facts.string.embedAryOffset) s) :=
      writesIn_writeBytes_slot off hw.strAry hlo (by omega) hlim
    dsimp only
    split
    · exact writesIn_bind (writesIn_orFlags_at off (by omega) hlo (by omega)) fun _ ↦
        writesIn_bind hbytes fun _ ↦ writesIn_pure _
    · exact writesIn_bind (writesIn_writeWord_slot off hw.strLen hlo (by omega) hlim) fun _ ↦
        writesIn_bind hbytes fun _ ↦ writesIn_pure _
  · dsimp only
    split <;> exact returns_bind fun _ ↦ returns_bind fun _ ↦ returns_pure _

/-- A string with a separate buffer: the bytes in a buffer past the slot, then the length, the
pointer and the capacity in the slot. -/
theorem buildsSlot_heapStringOf (n : Nat) (bytes : Unit → ByteArray)
    (hn : (bytes ()).size = n) : BuildsSlot r 0 (heapStringOf n bytes) := by
  have hw := Release.slotWrites r
  unfold heapStringOf
  refine BuildsSlot.getFacts_bind ?_
  simp only [Release.wordSize_eq, UInt64.toNat_ofNat]
  refine (BuildsSlot.bind (BuildsSlot.object _ _ _) fun base lo off slot hlo _ hbase hlim ↦
    ⟨?_, ?_⟩).mono (Nat.zero_le _)
  · refine writesIn_raw_bind fun buf hbuf hblim ↦ ?_
    refine writesIn_bind (writesIn_writeBytes_off buf (by omega) (by omega) (by omega))
      fun _ ↦ ?_
    refine writesIn_bind (writesIn_writeWord_slot off hw.strHeapLen hlo (by omega) hblim)
      fun _ ↦ ?_
    refine writesIn_bind (writesIn_writeWord_slot off hw.strHeapPtr hlo (by omega) hblim)
      fun _ ↦ ?_
    rw [UInt64.add_assoc (base + off.toUInt64)]
    exact writesIn_bind (writesIn_writeWord_slot off hw.strHeapCap hlo (by omega) hblim)
      fun _ ↦ writesIn_pure _
  · exact returns_bind fun _ ↦ returns_bind fun _ ↦ returns_bind fun _ ↦ returns_bind fun _ ↦
      returns_bind fun _ ↦ returns_pure _

theorem buildsSlot_stringOf (n : Nat) (bytes : Unit → ByteArray) (hn : (bytes ()).size = n) :
    BuildsSlot r 0 (stringOf n bytes) := by
  unfold stringOf
  refine BuildsSlot.getFacts_bind ?_
  split
  · exact buildsSlot_embeddedString _
  · exact buildsSlot_heapStringOf n bytes hn

theorem buildsSlot_string (s : ByteArray) : BuildsSlot r 0 (string s) :=
  buildsSlot_stringOf s.size (fun _ ↦ s) rfl

/-- An embedded array: the elements after the header word. -/
theorem buildsSlot_embeddedArray (elems : List Value) : BuildsSlot r 0 (embeddedArray elems) := by
  have hw := Release.slotWrites r
  unfold embeddedArray
  refine BuildsSlot.getFacts_bind ?_
  simp only [Release.wordSize_eq, UInt64.toNat_ofNat]
  refine (BuildsSlot.bind (BuildsSlot.object _ _ _) fun base lo off slot hlo hn hbase hlim ↦
    ⟨?_, returns_bind fun _ ↦ returns_pure _⟩).mono (Nat.zero_le _)
  have hsize : (wordsBytes elems).size = 8 * elems.length := wordsBytes_size elems
  exact writesIn_bind (writesIn_writeBytes_slot off hw.aryAry hlo (by omega) hlim) fun _ ↦
    writesIn_pure _

/-- An array with a separate buffer: the elements in a buffer past the slot, then the length,
the capacity and the pointer in the slot. -/
theorem buildsSlot_heapArrayOf (n : Nat) (elems : Unit → List Value)
    (hn : (elems ()).length = n) : BuildsSlot r 0 (heapArrayOf n elems) := by
  have hw := Release.slotWrites r
  unfold heapArrayOf
  refine BuildsSlot.getFacts_bind ?_
  simp only [Release.wordSize_eq, UInt64.toNat_ofNat]
  refine (BuildsSlot.bind (BuildsSlot.object _ _ _) fun base lo off slot hlo _ hbase hlim ↦
    ⟨?_, ?_⟩).mono (Nat.zero_le _)
  · have hsize : (wordsBytes (elems ())).size = 8 * n := by rw [wordsBytes_size, hn]
    refine writesIn_raw_bind fun buf hbuf hblim ↦ ?_
    refine writesIn_bind (writesIn_writeBytes_off buf (by omega) (by omega) (by omega))
      fun _ ↦ ?_
    refine writesIn_bind (writesIn_writeWord_slot off hw.aryHeapLen hlo (by omega) hblim)
      fun _ ↦ ?_
    rw [UInt64.add_assoc (base + off.toUInt64)]
    refine writesIn_bind (writesIn_writeWord_slot off hw.aryHeapCap hlo (by omega) hblim)
      fun _ ↦ ?_
    exact writesIn_bind (writesIn_writeWord_slot off hw.aryHeapPtr hlo (by omega) hblim)
      fun _ ↦ writesIn_pure _
  · exact returns_bind fun _ ↦ returns_bind fun _ ↦ returns_bind fun _ ↦ returns_bind fun _ ↦
      returns_bind fun _ ↦ returns_pure _

theorem buildsSlot_arrayOf (n : Nat) (elems : Unit → List Value) (hn : (elems ()).length = n) :
    BuildsSlot r 0 (arrayOf n elems) := by
  unfold arrayOf
  refine BuildsSlot.getFacts_bind ?_
  split
  · exact buildsSlot_embeddedArray _
  · exact buildsSlot_heapArrayOf n elems hn

/-- A dynamic symbol: the string of its name first, then its slot with the string and the
identifier. -/
theorem buildsSlot_dynamicSymbol (name : String) : BuildsSlot r 0 (dynamicSymbol name) := by
  unfold dynamicSymbol
  refine BuildsSlot.after (fun base lo ↦ (buildsSlot_string _).writes base lo) fun fstr ↦ ?_
  refine BuildsSlot.getFacts_bind ?_
  simp only [Release.wordSize_eq, UInt64.toNat_ofNat]
  refine (BuildsSlot.bind (BuildsSlot.object _ _ _) fun base lo off slot hlo _ hbase hlim ↦
    ⟨?_, returns_bind fun _ ↦ returns_bind fun _ ↦ returns_bind fun _ ↦ returns_bind fun _ ↦
      returns_pure _⟩).mono (Nat.zero_le _)
  refine writesIn_bind (writesIn_internId name) fun _ ↦ ?_
  refine writesIn_bind (writesIn_writeWord_slot off (by decide) hlo (by omega) hlim) fun _ ↦ ?_
  refine writesIn_bind (writesIn_writeWord_slot off (by decide) hlo (by omega) hlim) fun _ ↦ ?_
  exact writesIn_bind (writesIn_modify fun h ↦ ⟨rfl, rfl, rfl, rfl⟩) fun _ ↦ writesIn_pure _

/-- A float object: the bits in the word after the class word. -/
theorem buildsSlot_heapFloat (bits : UInt64) : BuildsSlot r 0 (heapFloat bits) := by
  unfold heapFloat
  refine BuildsSlot.getFacts_bind ?_
  simp only [Release.wordSize_eq, UInt64.toNat_ofNat]
  refine (BuildsSlot.bind (BuildsSlot.object _ _ _) fun base lo off slot hlo _ hbase hlim ↦
    ⟨?_, returns_bind fun _ ↦ returns_pure _⟩).mono (Nat.zero_le _)
  exact writesIn_bind (writesIn_writeWord_slot off (by decide) hlo (by omega) hlim) fun _ ↦
    writesIn_pure _

/-- A bignum: the magnitude in a buffer past the slot, its length and pointer in the slot. -/
theorem buildsSlot_bignum (x : Int) : BuildsSlot r 0 (bignum x) := by
  unfold bignum
  refine BuildsSlot.getFacts_bind ?_
  simp only [Release.wordSize_eq, UInt64.toNat_ofNat]
  refine (BuildsSlot.bind (BuildsSlot.object _ _ _) fun base lo off slot hlo _ hbase hlim ↦
    ⟨?_, ?_⟩).mono (Nat.zero_le _)
  · refine writesIn_raw_bind fun buf hbuf hblim ↦ ?_
    have hsize : (wordsBytes (magnitudeWords x.natAbs)).size =
        8 * (magnitudeWords x.natAbs).length := wordsBytes_size _
    refine writesIn_bind (writesIn_writeBytes_off buf (by omega) (by omega) (by omega))
      fun _ ↦ ?_
    refine writesIn_bind (writesIn_writeWord_slot off (by decide) hlo (by omega) hblim)
      fun _ ↦ ?_
    refine writesIn_bind (writesIn_writeWord_slot off (by decide) hlo (by omega) hblim)
      fun _ ↦ ?_
    exact writesIn_bind (writesIn_modify fun h ↦ ⟨rfl, rfl, rfl, rfl⟩) fun _ ↦ writesIn_pure _
  · exact returns_bind fun _ ↦ returns_bind fun _ ↦ returns_bind fun _ ↦ returns_bind fun _ ↦
      returns_bind fun _ ↦ returns_pure _

theorem buildsSlot_hash : BuildsSlot r 0 hash := by
  unfold hash
  exact BuildsSlot.getFacts_bind ((BuildsSlot.object _ _ _).mono (Nat.zero_le _))

theorem buildsSlot_plainObject : BuildsSlot r 0 plainObject := by
  unfold plainObject
  exact BuildsSlot.getFacts_bind ((BuildsSlot.object _ _ _).mono (Nat.zero_le _))

/-- An untyped data object: the data pointer in the last word of the base slot. -/
theorem buildsSlot_untypedData (data : UInt64) : BuildsSlot r 0 (untypedData data) := by
  unfold untypedData
  refine BuildsSlot.getFacts_bind ?_
  simp only [Release.wordSize_eq, UInt64.toNat_ofNat]
  refine (BuildsSlot.bind (BuildsSlot.object _ _ _) fun base lo off slot hlo _ hbase hlim ↦
    ⟨?_, returns_bind fun _ ↦ returns_pure _⟩).mono (Nat.zero_le _)
  exact writesIn_bind (writesIn_writeWord_slot off (by decide) hlo (by omega) hlim) fun _ ↦
    writesIn_pure _

/-- A typed data object of `n` bytes: the type word, and the flag word where no header flag marks
typed data; refused before anything is built where the layout has no typed data. -/
theorem buildsSlot_typedObject (typ : UInt64) (n : Nat) (e : Bool) :
    BuildsSlot r n (typedObject typ n e) := by
  have hw := Release.slotWrites r
  unfold typedObject
  refine BuildsSlot.getFacts_bind ?_
  dsimp only
  split
  · exact BuildsSlot.throw_bind _ _
  refine BuildsSlot.bind (BuildsSlot.object _ _ _) fun base lo off slot hlo _ hbase hlim ↦ ⟨?_, ?_⟩
  · split
    · exact writesIn_bind (writesIn_writeWord_slot off hw.typedType hlo (by omega) hlim)
        fun _ ↦ writesIn_pure _
    · exact writesIn_bind (writesIn_writeWord_slot off hw.typedType hlo (by omega) hlim)
        fun _ ↦ writesIn_bind (writesIn_writeWord_slot off hw.typedFlag hlo (by omega) hlim)
        fun _ ↦ writesIn_pure _
  · split
    · exact returns_bind fun _ ↦ returns_pure _
    · exact returns_bind fun _ ↦ returns_bind fun _ ↦ returns_pure _

/-- A typed data object wrapping a data pointer, in the data word of its slot. -/
theorem buildsSlot_typedData (typ data : UInt64) : BuildsSlot r 0 (typedData typ data) := by
  have hw := Release.slotWrites r
  unfold typedData
  refine BuildsSlot.getFacts_bind ?_
  refine (BuildsSlot.bind (buildsSlot_typedObject typ _ false)
    fun base lo off slot hlo _ hbase hlim ↦ ⟨?_, returns_bind fun _ ↦ returns_pure _⟩).mono
    (Nat.zero_le _)
  exact writesIn_bind (writesIn_writeWord_slot off hw.typedData hlo (by omega) hlim) fun _ ↦
    writesIn_pure _

/-- A typed data object with its payload copied into its slot. -/
theorem buildsSlot_embeddedTypedData (typ : UInt64) (payload : ByteArray) :
    BuildsSlot r 0 (embeddedTypedData typ payload) := by
  have hw := Release.slotWrites r
  unfold embeddedTypedData
  refine BuildsSlot.getFacts_bind ?_
  refine (BuildsSlot.bind (buildsSlot_typedObject typ _ true)
    fun base lo off slot hlo hn hbase hlim ↦ ⟨?_, returns_bind fun _ ↦ returns_pure _⟩).mono
    (Nat.zero_le _)
  exact writesIn_bind (writesIn_writeBytes_slot off hw.typedEmbed hlo (by omega) hlim) fun _ ↦
    writesIn_pure _

/-! ### Raw bytes and floats -/

/-- A buffer writes only the bytes it hands out. -/
theorem writesIn_buffer (b : ByteArray) : WritesIn r base lo lo (buffer b) := by
  unfold buffer
  refine writesIn_raw_bind fun off hoff hlim ↦ ?_
  exact writesIn_bind (writesIn_writeBytes_off off (by omega) hoff (Nat.le_refl _)) fun _ ↦
    writesIn_pure _

/-- A data type record writes its name and the record, each in bytes it hands out. -/
theorem writesIn_dataType (name : String) : WritesIn r base lo lo (dataType name) := by
  unfold dataType
  refine writesIn_getFacts_bind ?_
  simp only [Release.wordSize_eq, UInt64.toNat_ofNat]
  refine writesIn_raw_bind fun cname hc hclim ↦ ?_
  refine writesIn_bind (writesIn_writeBytes_off cname (by omega) hc (by omega)) fun _ ↦ ?_
  refine writesIn_raw_bind fun typ ht htlim ↦ ?_
  exact writesIn_bind (writesIn_writeWord_off typ (by omega) (by omega) (by omega)) fun _ ↦
    writesIn_pure _

/-- A float is an immediate, which writes nothing, or a float object. -/
theorem writesIn_float (bits : UInt64) : WritesIn r base lo lo (float bits) := by
  unfold float
  refine writesIn_getFacts_bind ?_
  split
  · split
    · exact writesIn_pure _
    · exact (buildsSlot_heapFloat bits).writes base lo
  · exact (buildsSlot_heapFloat bits).writes base lo

end Heap

/-! ### The builders -/

/-- The word of a float with an immediate form is an immediate. -/
theorem Release.isSpecialConst_of_encode (r : Release) {bits w : UInt64}
    (h : Flonum.encode bits = some w) : r.facts.isSpecialConst w = true := by
  have hmask : r.facts.specials.immediateMask = 7 := by cases r <;> rfl
  simp only [Facts.isSpecialConst, Facts.isImmediate, hmask, Bool.or_eq_true, bne_iff_ne, ne_eq]
  left
  unfold Flonum.encode at h
  dsimp only at h
  split at h
  · cases h
    rw [Bits.or_and]
    exact Bits.or_ne_zero_of_right _ (by decide)
  · split at h
    · cases h
      decide
    · cases h

/-- Every object builder returns a fresh slot and writes only bytes it hands out. -/
theorem ObjectBuilder.buildsSlot (r : Release) (b : ObjectBuilder) : Heap.BuildsSlot r 0 b.run := by
  cases b
  case string s => exact Heap.buildsSlot_string s
  case heapString s => exact Heap.buildsSlot_heapStringOf s.size (fun _ ↦ s) rfl
  case array elems => exact Heap.buildsSlot_arrayOf elems.length (fun _ ↦ elems) rfl
  case heapArray elems => exact Heap.buildsSlot_heapArrayOf elems.length (fun _ ↦ elems) rfl
  case dynamicSymbol name => exact Heap.buildsSlot_dynamicSymbol name
  case heapFloat bits => exact Heap.buildsSlot_heapFloat bits
  case bignum x => exact Heap.buildsSlot_bignum x
  case int2Big i => exact Heap.buildsSlot_bignum i
  case uint2Big u => exact Heap.buildsSlot_bignum _
  case hash => exact Heap.buildsSlot_hash
  case plainObject => exact Heap.buildsSlot_plainObject
  case untypedData data => exact Heap.buildsSlot_untypedData data
  case typedData typ data => exact Heap.buildsSlot_typedData typ data
  case embeddedTypedData typ payload => exact Heap.buildsSlot_embeddedTypedData typ payload

/-- A call that builds in the heap: an object builder, a float (an immediate where the layout
has immediate floats and the number has an immediate form), a buffer holding bytes, or a data
type record. A concatenation of texts is the string builder applied to the texts joined. -/
inductive Builder where
  | object (b : ObjectBuilder)
  | float (bits : UInt64)
  | buffer (b : ByteArray)
  | dataType (name : String)

/-- A value whose answers later builds keep: an immediate, or the address of a word-aligned slot
of at least the base size below the bump pointer of the heap, inside its arena. -/
def Settled (f : Facts) (h : Heap) (v : Value) : Prop :=
  f.isSpecialConst v = true ∨
    ∃ off slot, v = h.memory.base + off.toUInt64 ∧ Heap.FreshSlot 0 0 h off slot

/-- A value stays settled in a heap confined from anywhere. -/
theorem Settled.of_confined {f : Facts} {h h' : Heap} {v : Value} {lo : Nat} (hv : Settled f h v)
    (hc : Heap.Confined lo h h') : Settled f h' v := by
  rcases hv with hsc | ⟨off, slot, rfl, hfr⟩
  · exact .inl hsc
  · exact .inr ⟨off, slot, by rw [hc.arena.base_eq], hfr.aligned, hfr.past, hfr.n_le, hfr.base_le,
      Nat.le_trans hfr.below hc.next_le, hc.arena.size_eq ▸ hfr.inside⟩

namespace Builder

/-- The run of the call; a buffer and a data type record return the address of their bytes. -/
def run : Builder → HeapM Value
  | .object b => b.run
  | .float bits => Heap.float bits
  | .buffer b => Heap.buffer b
  | .dataType name => Heap.dataType name

/-- Whether the call returns a value, as objects and floats do, rather than the address of raw
bytes. -/
def returnsValue : Builder → Bool
  | .object _ | .float _ => true
  | .buffer _ | .dataType _ => false

/-- Every call writes only bytes it hands out itself: from a sound heap, whatever its outcome,
it leaves every byte below the bump pointer it starts from and every byte past the one it leaves,
and moves the bump pointer only forward. -/
theorem writesIn (r : Release) (b : Builder) (base : UInt64) (lo : Nat) :
    Heap.WritesIn r base lo lo b.run := by
  cases b with
  | object b => exact (b.buildsSlot r).writes base lo
  | float bits => exact Heap.writesIn_float bits
  | buffer b => exact Heap.writesIn_buffer b
  | dataType name => exact Heap.writesIn_dataType name

/-- Every value a call returns is settled in the heap it leaves: an immediate float, or a slot
handed out by the call. -/
theorem settled {r : Release} (b : Builder) (hb : b.returnsValue = true) {h h' : Heap}
    {v : Value} (hs : Heap.Sound h r) (hx : Heap.exec h b.run = (.ok v, h')) :
    Settled r.facts h' v := by
  have hslot {x : HeapM Value} (hx' : Heap.BuildsSlot r 0 x) (hr : Heap.exec h x = (.ok v, h')) :
      Settled r.facts h' v := by
    obtain ⟨off, slot, rfl, hfr⟩ := hx'.returns h v h' hs hr
    exact .inr ⟨off, slot, rfl, hfr.aligned, Nat.zero_le _, hfr.n_le, hfr.base_le, hfr.below,
      hfr.inside⟩
  cases b with
  | object b => exact hslot (b.buildsSlot r) hx
  | float bits =>
    unfold run Heap.float at hx
    rw [Heap.exec_bind_of_ok Heap.exec_getFacts, hs.facts_eq] at hx
    split at hx
    · split at hx
      · rename_i w hw
        rw [Heap.exec_pure] at hx
        cases hx
        exact .inl (r.isSpecialConst_of_encode hw)
      · exact hslot (Heap.buildsSlot_heapFloat bits) hx
    · exact hslot (Heap.buildsSlot_heapFloat bits) hx
  | buffer _ => cases hb
  | dataType _ => cases hb

end Builder

end RubyLayout
