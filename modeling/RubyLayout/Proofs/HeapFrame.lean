import RubyLayout.Proofs.HeapSteps

/-!
# Ranges of the arena a run keeps

The builders write only into slots and buffers they hand out themselves, at offsets past the bump
pointer they start from. This module gives that frame law in a compositional form.

`Kept r lo hi h h'` says that `h'` is a heap over the same arena as `h`, with the same class
objects, a bump pointer past `hi`, and the same bytes at the arena offsets `[lo, hi)`; it is
reflexive and transitive. `KeepsRange r base lo hi x` says that every run of `x` from a sound heap
over the arena at `base` whose bump pointer has passed `hi` ends, whatever its outcome, in a heap
that keeps `[lo, hi)`. The base is a parameter because the writes of a run are addressed: a write
at `base + off` lands at the offset `off` only of the arena at `base`.

The rules follow the primitives. Those that do not look at the bytes hold of every relation that
`SoundFrame` describes and are proved for it once, under `SoundKeeps`: reads, `pure`, `throw` and
updates of the tables keep everything (`keepsRange_of_eq`, `keepsRange_modify`), a sequence keeps
what both parts keep (`keepsRange_bind`), and `raw` only moves the bump pointer. Keeping a range
is such a relation (`kept_frame`). A write keeps every range it misses (`keepsRange_writeBytes_at`,
`keepsRange_orFlags_at`); and bytes handed out by `raw` or by `object` lie past the bump pointer,
so a run that goes on with their address keeps a range when what follows keeps it for every
address past the range (`keepsRange_raw_bind`, `keepsRange_object_bind`).

The same writes keep the arena zero past the bump pointer. `ZeroTail h` says that every byte from
the bump pointer on is zero, and `KeepsZeroTail r base lo x` that every run of `x` from a sound heap
over the arena at `base` with a zero tail whose bump pointer has passed `lo` writes only below `lo`
and moves the bump pointer forward. Its rules are those of `KeepsRange`, and a heap made by `create`
has a zero tail (`create_zeroTail`): its arena starts empty, and boot writes only the class objects
it allocates.
-/

set_option autoImplicit false
set_option relaxedAutoImplicit false

namespace RubyLayout

namespace Heap

open Memory

variable {r : Release} {α β : Type} {lo hi : Nat} {base : UInt64}

/-! ### Relations kept from sound heaps -/

/-- Every run of the operation from a sound heap over the arena at `base` that meets `P` ends,
whatever its outcome, in a heap that `R` relates to the heap it started on. -/
def SoundKeeps (r : Release) (base : UInt64) (P : Heap → Prop) (R : Heap → Heap → Prop)
    (x : HeapM α) : Prop :=
  ∀ h : Heap, Sound h r → h.memory.base = base → P h → R h (exec h x).2

/-- A relation from a heap to a later one that allows what the steps of a run do outside the
bytes: from a sound heap that meets `P`, it holds of every heap with the same facts, bytes and
class objects and a bump pointer no further back; it composes, keeps the arena and carries `P`
forward. A range kept (`kept_frame`) and a change confined past an offset
(`confined_frame`, in `Confinement`) are such relations; the rules for reads, sequences and
allocation are proved here once for both. -/
structure SoundFrame (r : Release) (P : Heap → Prop) (R : Heap → Heap → Prop) : Prop where
  bump : ∀ {h h' : Heap}, Sound h r → P h → h'.facts = h.facts → h'.memory = h.memory →
    h.next ≤ h'.next → h'.classes = h.classes → R h h'
  trans : ∀ {h₁ h₂ h₃ : Heap}, R h₁ h₂ → R h₂ h₃ → R h₁ h₃
  arena : ∀ {h h' : Heap}, R h h' → SameArena h h'
  forward : ∀ {h h' : Heap}, P h → R h h' → P h'

namespace SoundKeeps

variable {P : Heap → Prop} {R : Heap → Heap → Prop}

/-- A run that reads the heap first keeps `R` when what follows keeps it from every sound
heap. -/
theorem get_bind {f : Heap → HeapM β} (hf : ∀ h, Sound h r → SoundKeeps r base P R (f h)) :
    SoundKeeps r base P R (get >>= f) := by
  intro h hs hb hp
  rw [exec_bind_of_ok exec_get]
  exact hf h hs h hs hb hp

theorem getFacts_bind {f : Facts → HeapM β} (hf : SoundKeeps r base P R (f r.facts)) :
    SoundKeeps r base P R (getFacts >>= f) := by
  intro h hs hb hp
  rw [exec_bind_of_ok exec_getFacts, hs.facts_eq]
  exact hf h hs hb hp

end SoundKeeps

namespace SoundFrame

variable {P : Heap → Prop} {R : Heap → Heap → Prop}

theorem keeps_of_eq (hR : SoundFrame r P R) {x : HeapM α} (hx : ∀ h, (exec h x).2 = h) :
    SoundKeeps r base P R x := by
  intro h hs _ hp
  rw [hx h]
  exact hR.bump hs hp rfl rfl (Nat.le_refl _) rfl

theorem keeps_pure (hR : SoundFrame r P R) (a : α) : SoundKeeps r base P R (pure a : HeapM α) :=
  hR.keeps_of_eq fun _ ↦ rfl

theorem keeps_throw_bind (hR : SoundFrame r P R) (e : HeapError) (f : α → HeapM β) :
    SoundKeeps r base P R (throw e >>= f) :=
  hR.keeps_of_eq fun _ ↦ by rw [exec_bind, exec_throw]

/-- A sequence keeps what its steps keep, whether or not the first step fails. -/
theorem keeps_bind (hR : SoundFrame r P R) {x : HeapM α} {f : α → HeapM β}
    (hx : SoundKeeps r base P R x) (hf : ∀ a, SoundKeeps r base P R (f a)) :
    SoundKeeps r base P R (x >>= f) := by
  intro h hs hb hp
  have hk := hx h hs hb hp
  rw [exec_bind]
  rcases hr : exec h x with ⟨_ | a, h1⟩ <;> rw [hr] at hk
  · exact hk
  · exact hR.trans hk (hf a h1 (hs.of_sameArena (hR.arena hk)) ((hR.arena hk).base_eq.trans hb)
      (hR.forward hp hk))

/-- An update of the tables that leaves the facts, the arena, the bump pointer and the class
objects keeps `R`. -/
theorem keeps_modify (hR : SoundFrame r P R) {g : Heap → Heap}
    (hg : ∀ h, (g h).facts = h.facts ∧ (g h).memory = h.memory ∧ (g h).next = h.next ∧
      (g h).classes = h.classes) :
    SoundKeeps r base P R (modify g : HeapM PUnit) := by
  intro h hs _ hp
  obtain ⟨hf, hm, hn, hc⟩ := hg h
  exact hR.bump hs hp hf hm (Nat.le_of_eq hn.symm) hc

theorem keeps_readWord_bind (hR : SoundFrame r P R) {a : UInt64} {f : UInt64 → HeapM β}
    (hf : ∀ w, SoundKeeps r base P R (f w)) : SoundKeeps r base P R (readWord a >>= f) :=
  hR.keeps_bind (hR.keeps_of_eq fun h ↦ exec_readWord_heap h a) hf

/-- Handing out bytes moves only the bump pointer, forward. -/
theorem keeps_raw (hR : SoundFrame r P R) (n : Nat) : SoundKeeps r base P R (raw n) := by
  intro h hs _ hp
  have hle := hs.next_le_nextAligned
  rw [exec_raw]
  split
  · exact hR.bump hs hp rfl rfl (Nat.le_refl _) rfl
  · split
    · exact hR.bump hs hp rfl rfl (by dsimp only; omega) rfl
    · exact hR.bump hs hp rfl rfl (by dsimp only; omega) rfl

end SoundFrame

/-! ### Kept ranges -/

/-- `h'` keeps what `h` holds at the arena offsets `[lo, hi)`: it lies over the same arena, has
the same class objects and a bump pointer past `hi`, and reads the same bytes there. -/
structure Kept (r : Release) (lo hi : Nat) (h h' : Heap) : Prop where
  arena : SameArena h h'
  classes_eq : h'.classes = h.classes
  next_ge : hi ≤ h'.next
  byteAt_eq : ∀ i, lo ≤ i → i < hi → h'.memory.byteAt i = h.memory.byteAt i

theorem Kept.refl {h : Heap} (hnext : hi ≤ h.next) : Kept r lo hi h h :=
  ⟨SameArena.refl h, rfl, hnext, fun _ _ _ ↦ rfl⟩

theorem Kept.trans {h₁ h₂ h₃ : Heap} (h₁₂ : Kept r lo hi h₁ h₂) (h₂₃ : Kept r lo hi h₂ h₃) :
    Kept r lo hi h₁ h₃ :=
  ⟨h₁₂.arena.trans h₂₃.arena, h₂₃.classes_eq.trans h₁₂.classes_eq, h₂₃.next_ge,
    fun i hlo hhi ↦ (h₂₃.byteAt_eq i hlo hhi).trans (h₁₂.byteAt_eq i hlo hhi)⟩

/-- Bytes held inside a kept range are held after it. -/
theorem Kept.holdsBytes {h h' : Heap} (hk : Kept r lo hi h h') {off : Nat} {b : ByteArray}
    (hb : HoldsBytes h.memory off b) (hlo : lo ≤ off) (hhi : off + b.size ≤ hi) :
    HoldsBytes h'.memory off b := by
  have hmap : h'.memory.mapped = h.memory.mapped := by
    rw [Memory.mapped, Memory.mapped, hk.arena.size_eq]
  refine ⟨by rw [hmap]; exact hb.1, fun i hi' ↦ ?_⟩
  rw [hk.byteAt_eq (off + i) (by omega) (by omega)]
  exact hb.2 i hi'

/-- Every run of the operation from a sound heap over the arena at `base` whose bump pointer has
passed `hi` keeps the arena offsets `[lo, hi)`, whatever its outcome. -/
def KeepsRange (r : Release) (base : UInt64) (lo hi : Nat) (x : HeapM α) : Prop :=
  ∀ h : Heap, Sound h r → h.memory.base = base → hi ≤ h.next → Kept r lo hi h (exec h x).2

/-- Keeping a range is a frame from the heaps whose bump pointer has passed its end. -/
theorem kept_frame : SoundFrame r (fun h ↦ hi ≤ h.next) (Kept r lo hi) where
  bump _ hp hf hm hn hc :=
    ⟨⟨hf, by rw [hm], by rw [hm]⟩, hc, Nat.le_trans hp hn, fun _ _ _ ↦ by rw [hm]⟩
  trans := Kept.trans
  arena hk := hk.arena
  forward _ hk := hk.next_ge

/-- A run that ends with a value keeps the range from the heap it started on. -/
theorem KeepsRange.kept {x : HeapM α} (hx : KeepsRange r base lo hi x) {h h' : Heap} {a : α}
    (hs : Sound h r) (hb : h.memory.base = base) (hnext : hi ≤ h.next)
    (hr : exec h x = (.ok a, h')) : Kept r lo hi h h' := by
  have hk := hx h hs hb hnext
  rwa [hr] at hk

theorem keepsRange_of_eq {x : HeapM α} (hx : ∀ h, (exec h x).2 = h) : KeepsRange r base lo hi x :=
  kept_frame.keeps_of_eq hx

theorem keepsRange_pure (a : α) : KeepsRange r base lo hi (pure a : HeapM α) :=
  kept_frame.keeps_pure a

theorem keepsRange_throw_bind (e : HeapError) (f : α → HeapM β) :
    KeepsRange r base lo hi (throw e >>= f) :=
  kept_frame.keeps_throw_bind e f

theorem keepsRange_bind {x : HeapM α} {f : α → HeapM β} (hx : KeepsRange r base lo hi x)
    (hf : ∀ a, KeepsRange r base lo hi (f a)) : KeepsRange r base lo hi (x >>= f) :=
  kept_frame.keeps_bind hx hf

theorem keepsRange_get_bind {f : Heap → HeapM β} (hf : ∀ h, Sound h r → KeepsRange r base lo hi (f h)) :
    KeepsRange r base lo hi (get >>= f) :=
  SoundKeeps.get_bind hf

theorem keepsRange_getFacts_bind {f : Facts → HeapM β} (hf : KeepsRange r base lo hi (f r.facts)) :
    KeepsRange r base lo hi (getFacts >>= f) :=
  SoundKeeps.getFacts_bind hf

theorem keepsRange_modify {g : Heap → Heap}
    (hg : ∀ h, (g h).facts = h.facts ∧ (g h).memory = h.memory ∧ (g h).next = h.next ∧
      (g h).classes = h.classes) :
    KeepsRange r base lo hi (modify g : HeapM PUnit) :=
  kept_frame.keeps_modify hg

theorem keepsRange_readWord_bind {a : UInt64} {f : UInt64 → HeapM β}
    (hf : ∀ w, KeepsRange r base lo hi (f w)) : KeepsRange r base lo hi (readWord a >>= f) :=
  kept_frame.keeps_readWord_bind hf

/-! ### Writes -/

/-- A write at an arena offset that misses the range keeps it; a write that faults writes
nothing. -/
theorem keepsRange_writeBytes_at (off : Nat) (k : UInt64) {b : ByteArray} (hoff : off ≤ mapLimit)
    (hk : k.toNat ≤ mapLimit) (hd : off + k.toNat + b.size ≤ lo ∨ hi ≤ off + k.toNat) :
    KeepsRange r base lo hi (writeBytes (base + off.toUInt64 + k) b) := by
  intro h hs hb hnext
  subst hb
  rw [exec_writeBytes_heap]
  split
  · rw [hs.base.toNat_add_field hoff hk, Nat.add_sub_cancel_left]
    exact ⟨sameArena_withBytes _ _ _, by simp, by simpa using hnext,
      fun i hlo hhi ↦ byteAt_withBytes_of_disjoint h (by omega)⟩
  · exact Kept.refl hnext

theorem keepsRange_writeWord_at (off : Nat) (k : UInt64) {w : UInt64} (hoff : off ≤ mapLimit)
    (hk : k.toNat ≤ mapLimit) (hd : off + k.toNat + 8 ≤ lo ∨ hi ≤ off + k.toNat) :
    KeepsRange r base lo hi (writeWord (base + off.toUInt64 + k) w) :=
  keepsRange_writeBytes_at off k hoff hk (by rw [wordBytes_size]; exact hd)

/-- A write at the start of bytes handed out that misses the range keeps it. -/
theorem keepsRange_writeBytes_off (off : Nat) {b : ByteArray} (hoff : off ≤ mapLimit)
    (hd : off + b.size ≤ lo ∨ hi ≤ off) :
    KeepsRange r base lo hi (writeBytes (base + off.toUInt64) b) := by
  have hk : KeepsRange r base lo hi (writeBytes (base + off.toUInt64 + 0) b) :=
    keepsRange_writeBytes_at off 0 hoff (by simp) (by simpa using hd)
  rwa [UInt64.add_zero] at hk

/-- Setting flag bits in a header word that misses the range keeps it. -/
theorem keepsRange_orFlags_at (off : Nat) {bits : UInt64} (hoff : off ≤ mapLimit)
    (hd : off + 8 ≤ lo ∨ hi ≤ off) :
    KeepsRange r base lo hi (orFlags (base + off.toUInt64) bits) := by
  unfold orFlags
  refine keepsRange_get_bind fun h0 hs0 ↦ ?_
  rw [hs0.facts_eq, Release.flagsOffset_eq]
  exact keepsRange_readWord_bind fun _ ↦
    keepsRange_writeWord_at off 0 hoff (by simp) (by simpa using hd)

/-! ### Allocation -/

theorem keepsRange_raw (n : Nat) : KeepsRange r base lo hi (raw n) :=
  kept_frame.keeps_raw n

/-- Bytes handed out lie past the bump pointer, so a run that goes on with their address keeps a
range when what follows keeps it for every address past the range. -/
theorem keepsRange_raw_bind {n : Nat} {f : UInt64 → HeapM β}
    (hf : ∀ off, hi ≤ off → off + n ≤ mapLimit →
      KeepsRange r base lo hi (f (base + off.toUInt64))) :
    KeepsRange r base lo hi (raw n >>= f) := by
  intro h hs hb hnext
  have hk := (keepsRange_raw n : KeepsRange r base lo hi _) h hs hb hnext
  rw [exec_bind]
  rcases hr : exec h (raw n) with ⟨_ | p, h1⟩ <;> rw [hr] at hk
  · exact hk
  · obtain ⟨hfits, -, rfl, rfl⟩ := exec_raw_eq_ok hr
    have hle := hs.next_le_nextAligned
    have hlim := hs.size_le
    subst hb
    exact hk.trans (hf h.nextAligned (by omega) (by omega) _ (hs.withNext _) rfl hk.next_ge)

/-- Allocating an object writes only its own slot, past the bump pointer. -/
theorem keepsRange_object (n : Nat) (t : TypeCode) (fl : UInt64) :
    KeepsRange r base lo hi (object n t fl) := by
  unfold object
  refine keepsRange_get_bind fun h0 hs0 ↦ ?_
  dsimp only
  rw [hs0.facts_eq, Release.flagsOffset_eq, Release.klassOffset_eq]
  split
  · refine keepsRange_bind (keepsRange_pure _) fun size ↦
      keepsRange_raw_bind fun off hoff hlim ↦ ?_
    have hmap : off ≤ mapLimit := by omega
    refine keepsRange_bind (keepsRange_writeWord_at off 0 hmap (by simp) (by simp; omega))
      fun _ ↦ ?_
    split
    · exact keepsRange_bind (keepsRange_writeWord_at off 8 hmap (by decide) (by simp; omega))
        fun _ ↦ keepsRange_pure _
    · exact keepsRange_pure _
  · exact keepsRange_throw_bind _ _

/-- A run that allocates an object and goes on with its address keeps a range when what follows
keeps it for every object address past the range. -/
theorem keepsRange_object_bind {n : Nat} {t : TypeCode} {fl : UInt64} {f : Value → HeapM β}
    (hf : ∀ off, hi ≤ off → off + 40 ≤ mapLimit →
      KeepsRange r base lo hi (f (base + off.toUInt64))) :
    KeepsRange r base lo hi (object n t fl >>= f) := by
  intro h hs hb hnext
  have hk := (keepsRange_object n t fl : KeepsRange r base lo hi _) h hs hb hnext
  rw [exec_bind]
  rcases hr : exec h (object n t fl) with ⟨_ | v, h1⟩ <;> rw [hr] at hk
  · exact hk
  · obtain ⟨slot, hal, -⟩ := exec_object_spec hs hr
    obtain rfl := hal.addr
    have hle := hs.next_le_nextAligned
    have hfits := hal.fits
    have hslot := hal.base_le
    have hlim := hs.size_le
    subst hb
    exact hk.trans (hf h.nextAligned (by omega) (by omega) _ (hs.of_sameArena hk.arena)
      hk.arena.base_eq hk.next_ge)

/-! ### The zero tail -/

/-- Every byte of the arena from the bump pointer on is zero: nothing has been written where
nothing has been handed out. -/
def ZeroTail (h : Heap) : Prop := ∀ i, h.next ≤ i → h.memory.byteAt i = 0

/-- Moving the bump pointer forward keeps the tail zero. -/
theorem ZeroTail.withNext {h : Heap} (hz : ZeroTail h) {n : Nat} (hn : h.next ≤ n) :
    ZeroTail { h with next := n } :=
  fun i hi ↦ hz i (by simp at hi; omega)

/-- Every run of the operation from a sound heap with a zero tail, whose bump pointer has passed
`lo`, writes only below `lo`: it leaves the bump pointer no further back and the tail zero,
whatever its outcome. -/
def KeepsZeroTail (r : Release) (base : UInt64) (lo : Nat) (x : HeapM α) : Prop :=
  ∀ h : Heap, Sound h r → h.memory.base = base → lo ≤ h.next → ZeroTail h →
    h.next ≤ (exec h x).2.next ∧ ZeroTail (exec h x).2

theorem keepsZeroTail_of_eq {x : HeapM α} (hx : ∀ h, (exec h x).2 = h) :
    KeepsZeroTail r base lo x := by
  intro h _ _ _ hz
  rw [hx h]
  exact ⟨Nat.le_refl _, hz⟩

theorem keepsZeroTail_pure (a : α) : KeepsZeroTail r base lo (pure a : HeapM α) :=
  keepsZeroTail_of_eq fun _ ↦ rfl

theorem keepsZeroTail_throw_bind (e : HeapError) (f : α → HeapM β) :
    KeepsZeroTail r base lo (throw e >>= f) :=
  keepsZeroTail_of_eq fun _ ↦ by rw [exec_bind, exec_throw]

theorem keepsZeroTail_bind {x : HeapM α} {f : α → HeapM β} (hx : KeepsZeroTail r base lo x)
    (hxa : KeepsArena x) (hf : ∀ a, KeepsZeroTail r base lo (f a)) :
    KeepsZeroTail r base lo (x >>= f) := by
  intro h hs hb hlo hz
  have hk := hx h hs hb hlo hz
  have ha := hxa h
  rw [exec_bind]
  rcases hr : exec h x with ⟨_ | a, h1⟩ <;> rw [hr] at hk ha <;> dsimp only at hk ha ⊢
  · exact hk
  · obtain ⟨hnext, hz1⟩ := hk
    obtain ⟨hnext2, hz2⟩ := hf a h1 (hs.of_sameArena ha) (ha.base_eq.trans hb) (by omega) hz1
    exact ⟨by omega, hz2⟩

theorem keepsZeroTail_get_bind {f : Heap → HeapM β}
    (hf : ∀ h, Sound h r → KeepsZeroTail r base lo (f h)) :
    KeepsZeroTail r base lo (get >>= f) := by
  intro h hs hb hlo hz
  rw [exec_bind_of_ok exec_get]
  exact hf h hs h hs hb hlo hz

theorem keepsZeroTail_getFacts_bind {f : Facts → HeapM β} (hf : KeepsZeroTail r base lo (f r.facts)) :
    KeepsZeroTail r base lo (getFacts >>= f) := by
  intro h hs hb hlo hz
  rw [exec_bind_of_ok exec_getFacts, hs.facts_eq]
  exact hf h hs hb hlo hz

/-- An update of the tables that leaves the arena and the bump pointer keeps the tail zero. -/
theorem keepsZeroTail_modify {g : Heap → Heap}
    (hg : ∀ h, (g h).memory = h.memory ∧ (g h).next = h.next) :
    KeepsZeroTail r base lo (modify g : HeapM PUnit) := by
  intro h _ _ _ hz
  obtain ⟨hm, hn⟩ := hg h
  show h.next ≤ (g h).next ∧ ZeroTail (g h)
  exact ⟨by omega, fun i hi ↦ by rw [hm]; exact hz i (by omega)⟩

/-- A write that ends below `lo` keeps the tail zero; a write that faults writes nothing. -/
theorem keepsZeroTail_writeBytes_at (off : Nat) (k : UInt64) {b : ByteArray}
    (hoff : off ≤ mapLimit) (hk : k.toNat ≤ mapLimit) (hd : off + k.toNat + b.size ≤ lo) :
    KeepsZeroTail r base lo (writeBytes (base + off.toUInt64 + k) b) := by
  intro h hs hb hlo hz
  subst hb
  rw [exec_writeBytes_heap]
  split
  · rw [hs.base.toNat_add_field hoff hk, Nat.add_sub_cancel_left]
    refine ⟨by simp, fun i hi ↦ ?_⟩
    rw [next_withBytes] at hi
    rw [byteAt_withBytes_of_disjoint h (by omega)]
    exact hz i hi
  · exact ⟨Nat.le_refl _, hz⟩

theorem keepsZeroTail_writeWord_at (off : Nat) (k : UInt64) {w : UInt64} (hoff : off ≤ mapLimit)
    (hk : k.toNat ≤ mapLimit) (hd : off + k.toNat + 8 ≤ lo) :
    KeepsZeroTail r base lo (writeWord (base + off.toUInt64 + k) w) :=
  keepsZeroTail_writeBytes_at off k hoff hk (by rw [wordBytes_size]; exact hd)

/-- A write at the start of bytes handed out, ending below `lo`. -/
theorem keepsZeroTail_writeBytes_off (off : Nat) {b : ByteArray} (hoff : off ≤ mapLimit)
    (hd : off + b.size ≤ lo) : KeepsZeroTail r base lo (writeBytes (base + off.toUInt64) b) := by
  have hk : KeepsZeroTail r base lo (writeBytes (base + off.toUInt64 + 0) b) :=
    keepsZeroTail_writeBytes_at off 0 hoff (by simp) (by simpa using hd)
  rwa [UInt64.add_zero] at hk

theorem keepsZeroTail_writeWord_off (off : Nat) {w : UInt64} (hoff : off ≤ mapLimit)
    (hd : off + 8 ≤ lo) : KeepsZeroTail r base lo (writeWord (base + off.toUInt64) w) :=
  keepsZeroTail_writeBytes_off off hoff (by rw [wordBytes_size]; exact hd)

/-- Handing out bytes moves only the bump pointer, forward. -/
theorem keepsZeroTail_raw (n : Nat) : KeepsZeroTail r base lo (raw n) := by
  intro h hs _ _ hz
  have hle := hs.next_le_nextAligned
  rw [exec_raw]
  by_cases hfull : h.nextAligned + n > h.memory.size
  · rw [if_pos hfull]
    exact ⟨Nat.le_refl _, hz⟩
  · rw [if_neg hfull]
    split
    · exact ⟨by show h.next ≤ h.nextAligned + n; omega, hz.withNext (by omega)⟩
    · exact ⟨by show h.next ≤ h.nextAligned + n; omega, hz.withNext (by omega)⟩

/-- Bytes handed out end at the new bump pointer, so what follows may write up to their end. -/
theorem keepsZeroTail_raw_bind {n : Nat} {f : UInt64 → HeapM β}
    (hf : ∀ off, lo ≤ off → off + n ≤ mapLimit →
      KeepsZeroTail r base (off + n) (f (base + off.toUInt64))) :
    KeepsZeroTail r base lo (raw n >>= f) := by
  intro h hs hb hlo hz
  have hk := (keepsZeroTail_raw n : KeepsZeroTail r base lo _) h hs hb hlo hz
  rw [exec_bind]
  rcases hr : exec h (raw n) with ⟨_ | p, h1⟩ <;> rw [hr] at hk
  · exact hk
  · obtain ⟨hfits, -, rfl, rfl⟩ := exec_raw_eq_ok hr
    have hle := hs.next_le_nextAligned
    have hlim := hs.size_le
    subst hb
    obtain ⟨hnext, hz2⟩ :=
      hf h.nextAligned (by omega) (by omega) _ (hs.withNext (h.nextAligned + n)) rfl
        (Nat.le_refl _) hk.2
    exact ⟨Nat.le_trans hk.1 hnext, hz2⟩

/-- Allocating an object writes only its own slot, which ends at the new bump pointer. -/
theorem keepsZeroTail_object (n : Nat) (t : TypeCode) (fl : UInt64) :
    KeepsZeroTail r base lo (object n t fl) := by
  unfold object
  refine keepsZeroTail_get_bind fun h0 hs0 ↦ ?_
  dsimp only
  rw [hs0.facts_eq, Release.flagsOffset_eq, Release.klassOffset_eq]
  split
  · rename_i slot hslot
    have hbase := Release.slotSize_ge r hslot
    rw [pure_bind]
    refine keepsZeroTail_raw_bind fun off _ hlim ↦ ?_
    refine keepsZeroTail_bind (keepsZeroTail_writeWord_at off 0 (by omega) (by simp)
      (by simp; omega)) (keepsArena_writeWord _ _) fun _ ↦ ?_
    split
    · exact keepsZeroTail_bind (keepsZeroTail_writeWord_at off 8 (by omega) (by decide)
        (by simp; omega)) (keepsArena_writeWord _ _) fun _ ↦ keepsZeroTail_pure _
    · exact keepsZeroTail_pure _
  · exact keepsZeroTail_throw_bind _ _

/-- A run that allocates an object and goes on with its address keeps the tail zero when what
follows writes only inside the base slot of every object address. -/
theorem keepsZeroTail_object_bind {n : Nat} {t : TypeCode} {fl : UInt64} {f : Value → HeapM β}
    (hf : ∀ off, lo ≤ off → off + 40 ≤ mapLimit →
      KeepsZeroTail r base (off + 40) (f (base + off.toUInt64))) :
    KeepsZeroTail r base lo (object n t fl >>= f) := by
  intro h hs hb hlo hz
  have hk := (keepsZeroTail_object n t fl : KeepsZeroTail r base lo _) h hs hb hlo hz
  rw [exec_bind]
  rcases hr : exec h (object n t fl) with ⟨_ | v, h1⟩ <;> rw [hr] at hk
  · exact hk
  · obtain ⟨slot, hal, -⟩ := exec_object_spec hs hr
    obtain rfl := hal.addr
    have hle := hs.next_le_nextAligned
    have hfits := hal.fits
    have hslot := hal.base_le
    have hlim := hs.size_le
    subst hb
    obtain ⟨hnext, hz2⟩ := hf h.nextAligned (by omega) (by omega) h1
      (hs.of_sameArena hal.arena) hal.arena.base_eq (by rw [hal.next_eq]; omega) hk.2
    exact ⟨Nat.le_trans hk.1 hnext, hz2⟩

theorem keepsZeroTail_forIn {γ : Type} (l : List γ) (b : β) (f : γ → β → HeapM (ForInStep β))
    (hf : ∀ a b, KeepsZeroTail r base lo (f a b)) (hfa : ∀ a b, KeepsArena (f a b)) :
    KeepsZeroTail r base lo (forIn l b f) := by
  induction l generalizing b with
  | nil => exact keepsZeroTail_pure b
  | cons a l ih =>
    rw [List.forIn_cons]
    refine keepsZeroTail_bind (hf a b) (hfa a b) fun step ↦ ?_
    cases step with
    | done b' => exact keepsZeroTail_pure b'
    | yield b' => exact ih b'

/-- Boot writes only the class objects it allocates. -/
theorem keepsZeroTail_boot : KeepsZeroTail r base 0 boot := by
  unfold boot
  refine keepsZeroTail_get_bind fun h0 hs0 ↦ ?_
  refine keepsZeroTail_object_bind fun off _ hlim ↦ ?_
  refine keepsZeroTail_get_bind fun h1 hs1 ↦ ?_
  rw [hs1.facts_eq, Release.klassOffset_eq]
  have h8 : (8 : UInt64).toNat = 8 := rfl
  refine keepsZeroTail_bind (keepsZeroTail_writeWord_at off 8 (by omega) (by decide)
    (by rw [h8]; omega)) (keepsArena_writeWord _ _) fun _ ↦ ?_
  refine keepsZeroTail_bind (keepsZeroTail_modify fun h ↦ ⟨rfl, rfl⟩)
    (keepsArena_modify fun h ↦ ⟨rfl, rfl, rfl⟩) fun _ ↦ ?_
  refine keepsZeroTail_bind (keepsZeroTail_forIn _ _ _ (fun t _ ↦ ?_) (fun t _ ↦ ?_))
    (keepsArena_forIn _ _ _ fun t _ ↦ ?_) fun _ ↦ keepsZeroTail_pure _
  · exact keepsZeroTail_object_bind fun off' _ _ ↦ keepsZeroTail_bind
      (keepsZeroTail_modify fun h ↦ ⟨rfl, rfl⟩) (keepsArena_modify fun h ↦ ⟨rfl, rfl, rfl⟩)
      fun _ ↦ keepsZeroTail_pure _
  all_goals exact keepsArena_bind (keepsArena_object _ _ _) fun c ↦
    keepsArena_bind (keepsArena_modify fun h ↦ ⟨rfl, rfl, rfl⟩) fun _ ↦ keepsArena_pure _

/-- An empty arena is all zero bytes. -/
theorem zeroTail_empty (f : Facts) (base : UInt64) (n : Nat) :
    ZeroTail (Heap.mk f ⟨base, n, .empty⟩ 0 [] default []) := by
  intro i _
  rw [Memory.byteAt_eq]
  rfl

/-- A heap made by `create` for the facts of a release has a zero tail: its arena starts empty,
and boot writes only the class objects it allocates. -/
theorem create_zeroTail {size : Int} {h : Heap} (hc : create r.facts size = .ok h) :
    ZeroTail h := by
  have hword : r.facts.wordSize = machineWord := by cases r <;> rfl
  unfold create at hc
  rw [if_neg (not_not_intro hword)] at hc
  generalize (if size = 0 then (defaultArenaSize : Int) else size) = sz at hc
  dsimp only at hc
  split_ifs at hc with hneg hbig
  have hs0 : Sound (Heap.mk r.facts ⟨arenaBase, sz.toNat, .empty⟩ 0 [] default []) r :=
    ⟨rfl, arenaBase_valid, by show sz.toNat ≤ mapLimit; omega⟩
  have hk := (keepsZeroTail_boot (r := r) _ hs0 rfl (Nat.le_refl _) (zeroTail_empty _ _ _)).2
  unfold exec at hk
  generalize ExceptT.run boot _ = res at hc hk
  obtain ⟨outcome, booted⟩ := res
  cases outcome with
  | error e => cases hc
  | ok u =>
    cases hc
    exact hk

end Heap

end RubyLayout
