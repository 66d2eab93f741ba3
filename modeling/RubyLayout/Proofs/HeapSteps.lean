import RubyLayout.Heap.Build
import RubyLayout.Release
import RubyLayout.Proofs.MemoryBytes

/-!
# Steps of the simulated heap

A heap operation runs in `HeapM`, and `Heap.exec` runs it from a heap to an outcome and the heap
it leaves. This module says what each of the primitive steps does, once, so that the builders
can be read step by step without unfolding them:

* `exec_bind` and `exec_bind_eq_ok` run a sequence and take a successful one apart;
* `exec_raw` gives every outcome of handing out bytes from the bump pointer;
* `exec_writeBytes` and `exec_orFlags` give the heap a write leaves, `withBytes`;
* `exec_object_eq_ok` takes a successful allocation of an object apart into `Allocated`: its
  slot, its address and its header word;
* `exec_object_bind_eq_ok`, `exec_writeWord_at`, `exec_writeWord_next` and `exec_orFlags_at`
  are the builders' steps on a sound heap, addressed by offsets of a slot.

Every operation keeps the facts and the arena (`KeepsArena`), whatever its outcome, so a heap
made by `create` for a release stays `Sound`: laid out by the release's facts in an arena of at
most `mapLimit` bytes whose base is page-aligned, past the first page and below `mapLimit`
(`ArenaBase`; `create` maps it at `arenaBase`, `create_sound`). From such a base an offset below
the arena size is an address without wraparound (`ArenaBase.toNat_add`), and the writes of the
builders land where their offsets say.
-/

set_option autoImplicit false
set_option relaxedAutoImplicit false

namespace RubyLayout

namespace Heap

open Memory

variable {α β : Type} {h h' : Heap}

/-! ### Running operations -/

@[simp] theorem exec_pure (a : α) : exec h (pure a : HeapM α) = (.ok a, h) := rfl

@[simp] theorem exec_throw (e : HeapError) : exec h (throw e : HeapM α) = (.error e, h) := rfl

@[simp] theorem exec_get : exec h (get : HeapM Heap) = (.ok h, h) := rfl

@[simp] theorem exec_getFacts : exec h getFacts = (.ok h.facts, h) := rfl

@[simp] theorem exec_modify (g : Heap → Heap) : exec h (modify g : HeapM Unit) = (.ok (), g h) :=
  rfl

theorem exec_bind (x : HeapM α) (f : α → HeapM β) :
    exec h (x >>= f) = match exec h x with
      | (.ok a, h1) => exec h1 (f a)
      | (.error e, h1) => (.error e, h1) := by
  unfold exec
  rw [ExceptT.run_bind]
  show StateT.bind _ _ h = _
  unfold StateT.bind
  rcases x.run h with ⟨_ | a, h1⟩ <;> rfl

/-- A sequence whose first step succeeds runs on from the heap that step leaves. -/
theorem exec_bind_of_ok {x : HeapM α} {f : α → HeapM β} {a : α} {h1 : Heap}
    (hx : exec h x = (.ok a, h1)) : exec h (x >>= f) = exec h1 (f a) := by
  rw [exec_bind, hx]

/-- A sequence that succeeds ran its first step successfully, and the rest from there. -/
theorem exec_bind_eq_ok {x : HeapM α} {f : α → HeapM β} {b : β}
    (hx : exec h (x >>= f) = (.ok b, h')) :
    ∃ a h1, exec h x = (.ok a, h1) ∧ exec h1 (f a) = (.ok b, h') := by
  rw [exec_bind] at hx
  rcases hr : exec h x with ⟨_ | a, h1⟩ <;> rw [hr] at hx
  · cases hx
  · exact ⟨a, h1, rfl, hx⟩

/-! ### Heaps over one arena -/

/-- Two heaps with the same facts over the same arena. -/
structure SameArena (h h' : Heap) : Prop where
  facts_eq : h'.facts = h.facts
  base_eq : h'.memory.base = h.memory.base
  size_eq : h'.memory.size = h.memory.size

theorem SameArena.refl (h : Heap) : SameArena h h := ⟨rfl, rfl, rfl⟩

theorem SameArena.trans {h₁ h₂ h₃ : Heap} (h₁₂ : SameArena h₁ h₂) (h₂₃ : SameArena h₂ h₃) :
    SameArena h₁ h₃ :=
  ⟨h₂₃.facts_eq.trans h₁₂.facts_eq, h₂₃.base_eq.trans h₁₂.base_eq, h₂₃.size_eq.trans h₁₂.size_eq⟩

/-- An address an arena may start at: on a page boundary past the first page, and below
`mapLimit`, so that no address of an arena of at most `mapLimit` bytes wraps around. -/
structure ArenaBase (b : UInt64) : Prop where
  aligned : b.toNat % pageSize = 0
  pos : 0 < b.toNat
  lt : b.toNat < mapLimit

/-- The base `create` maps its arena at is one. -/
theorem arenaBase_valid : ArenaBase arenaBase := ⟨by decide, by decide, by decide⟩

/-- A heap laid out by the facts of a release in an arena of at most `mapLimit` bytes from a
base an arena may start at. -/
structure Sound (h : Heap) (r : Release) : Prop where
  facts_eq : h.facts = r.facts
  base : ArenaBase h.memory.base
  size_le : h.memory.size ≤ mapLimit

theorem Sound.of_sameArena {r : Release} (hs : Sound h r) (ha : SameArena h h') : Sound h' r :=
  ⟨ha.facts_eq.trans hs.facts_eq, ha.base_eq ▸ hs.base, ha.size_eq ▸ hs.size_le⟩

/-- The readable pages of a sound heap end within the address space given to the arena. -/
theorem Sound.mapped_le {r : Release} (hs : Sound h r) : h.memory.mapped ≤ mapLimit := by
  have hsize := hs.size_le
  have hlim : mapLimit = 2 ^ 47 := rfl
  unfold Memory.mapped roundToPages pageSize
  omega

theorem Sound.withNext {r : Release} (hs : Sound h r) (n : Nat) : Sound { h with next := n } r :=
  ⟨hs.facts_eq, hs.base, hs.size_le⟩

theorem Sound.withBignums {r : Release} (hs : Sound h r) (l : List (Value × Int)) :
    Sound { h with bignums := l } r :=
  ⟨hs.facts_eq, hs.base, hs.size_le⟩

namespace ArenaBase

variable {b : UInt64}

theorem pageSize_le (hb : ArenaBase b) : pageSize ≤ b.toNat := by
  have := hb.aligned
  have := hb.pos
  unfold pageSize at *
  omega

/-- A field at `k` of an object at an offset into an arena of the largest size is an address
without wraparound. -/
theorem toNat_add_field (hb : ArenaBase b) {off : Nat} {k : UInt64} (hoff : off ≤ mapLimit)
    (hk : k.toNat ≤ mapLimit) : (b + off.toUInt64 + k).toNat = b.toNat + (off + k.toNat) := by
  have hlim : mapLimit = 2 ^ 47 := rfl
  have hb' := hb.lt
  rw [UInt64.toNat_add, UInt64.toNat_add, Nat.toUInt64_eq, UInt64.toNat_ofNat']
  omega

/-- An offset into an arena of the largest size is an address without wraparound. -/
theorem toNat_add (hb : ArenaBase b) {off : Nat} {k : UInt64} (hk : off + k.toNat ≤ mapLimit) :
    (b + off.toUInt64 + k).toNat = b.toNat + (off + k.toNat) :=
  hb.toNat_add_field (by omega) (by omega)

theorem toNat_add_off (hb : ArenaBase b) {off : Nat} (hk : off ≤ mapLimit) :
    (b + off.toUInt64).toNat = b.toNat + off := by
  have h0 : (b + off.toUInt64 + 0).toNat = b.toNat + (off + (0 : UInt64).toNat) :=
    hb.toNat_add (by simpa using hk)
  rwa [UInt64.add_zero, UInt64.toNat_zero, Nat.add_zero] at h0

/-- No address of the arena is the null word. -/
theorem add_ne_zero (hb : ArenaBase b) {off : Nat} (hoff : off ≤ mapLimit) :
    b + off.toUInt64 ≠ 0 := by
  intro h0
  have := hb.toNat_add_off hoff
  rw [h0, UInt64.toNat_zero] at this
  have := hb.pos
  omega

/-- Distinct offsets of the arena are distinct addresses. -/
theorem add_inj (hb : ArenaBase b) {o o' : Nat} (ho : o ≤ mapLimit) (ho' : o' ≤ mapLimit)
    (h : b + o.toUInt64 = b + o'.toUInt64) : o = o' := by
  have hn := congrArg UInt64.toNat h
  rw [hb.toNat_add_off ho, hb.toNat_add_off ho'] at hn
  omega

end ArenaBase

/-! ### Handing out bytes -/

/-- The offset `raw` hands out next: the bump pointer rounded up to the word size. -/
def nextAligned (h : Heap) : Nat :=
  (h.next + h.facts.wordSize.toNat - 1) / h.facts.wordSize.toNat * h.facts.wordSize.toNat

/-- Every outcome of handing out `n` bytes: refused with the room left when they do not fit,
refused as an index past the end when nothing is left (the bump pointer has moved), and the
address of the aligned offset otherwise. -/
theorem exec_raw (n : Nat) : exec h (raw n) =
    if h.nextAligned + n > h.memory.size then
      (.error (.arenaFull n (if h.nextAligned < h.memory.size then h.memory.size - h.nextAligned
        else 0) h.memory.size), h)
    else if h.nextAligned ≥ h.memory.size then
      (.error (.indexOutOfRange h.nextAligned h.memory.size), { h with next := h.nextAligned + n })
    else (.ok (h.memory.base + h.nextAligned.toUInt64), { h with next := h.nextAligned + n }) := by
  unfold raw
  rw [exec_bind, exec_get]
  simp only [← nextAligned.eq_1]
  generalize h.nextAligned = off
  by_cases hfull : off + n > h.memory.size
  · simp only [hfull, if_true]
    rfl
  · by_cases hend : off ≥ h.memory.size
    · simp only [hfull, hend, if_true, if_false]
      rfl
    · simp only [hfull, hend, if_false]
      rfl

theorem exec_raw_eq_ok {n : Nat} {p : UInt64} (hx : exec h (raw n) = (.ok p, h')) :
    h.nextAligned + n ≤ h.memory.size ∧ h.nextAligned < h.memory.size ∧
      p = h.memory.base + h.nextAligned.toUInt64 ∧ h' = { h with next := h.nextAligned + n } := by
  rw [exec_raw] at hx
  by_cases hfull : h.nextAligned + n > h.memory.size
  · rw [if_pos hfull] at hx
    cases hx
  · by_cases hend : h.nextAligned ≥ h.memory.size
    · rw [if_neg hfull, if_pos hend] at hx
      cases hx
    · rw [if_neg hfull, if_neg hend] at hx
      cases hx
      exact ⟨by omega, by omega, rfl, rfl⟩

/-- Bytes that fit the arena past the aligned bump pointer are handed out there. -/
theorem exec_raw_of_room {n : Nat} (hroom : h.nextAligned + n ≤ h.memory.size)
    (hend : h.nextAligned < h.memory.size) :
    exec h (raw n) =
      (.ok (h.memory.base + h.nextAligned.toUInt64), { h with next := h.nextAligned + n }) := by
  rw [exec_raw, if_neg (Nat.not_lt.mpr hroom), if_neg (Nat.not_le.mpr hend)]

/-- A slot found for `n` bytes holds them. -/
theorem slotSize_eq_ok {g : GcLayout} {n s : Nat} (hs : slotSize g n = .ok s) : n ≤ s := by
  unfold slotSize at hs
  dsimp only at hs
  split at hs
  · rename_i i hi
    have hfit := List.find?_some hi
    simp only [decide_eq_true_eq] at hfit
    cases hs
    exact hfit
  · cases hs

/-! ### Writes -/

/-- The heap with the bytes `b` written at the arena offset `off`; writing nothing changes
nothing. -/
def withBytes (h : Heap) (off : Nat) (b : ByteArray) : Heap :=
  if b.size = 0 then h else { h with memory := h.memory.putBytes off b }

theorem sameArena_withBytes (h : Heap) (off : Nat) (b : ByteArray) :
    SameArena h (h.withBytes off b) := by
  unfold withBytes
  split
  · exact SameArena.refl h
  · exact ⟨rfl, base_putBytes _ _ _, size_putBytes _ _ _⟩

@[simp] theorem facts_withBytes (h : Heap) (off : Nat) (b : ByteArray) :
    (h.withBytes off b).facts = h.facts := (sameArena_withBytes h off b).facts_eq

@[simp] theorem base_withBytes (h : Heap) (off : Nat) (b : ByteArray) :
    (h.withBytes off b).memory.base = h.memory.base := (sameArena_withBytes h off b).base_eq

@[simp] theorem size_withBytes (h : Heap) (off : Nat) (b : ByteArray) :
    (h.withBytes off b).memory.size = h.memory.size := (sameArena_withBytes h off b).size_eq

@[simp] theorem next_withBytes (h : Heap) (off : Nat) (b : ByteArray) :
    (h.withBytes off b).next = h.next := by
  unfold withBytes
  split <;> rfl

@[simp] theorem classes_withBytes (h : Heap) (off : Nat) (b : ByteArray) :
    (h.withBytes off b).classes = h.classes := by
  unfold withBytes
  split <;> rfl

@[simp] theorem symbols_withBytes (h : Heap) (off : Nat) (b : ByteArray) :
    (h.withBytes off b).symbols = h.symbols := by
  unfold withBytes
  split <;> rfl

@[simp] theorem bignums_withBytes (h : Heap) (off : Nat) (b : ByteArray) :
    (h.withBytes off b).bignums = h.bignums := by
  unfold withBytes
  split <;> rfl

/-- A write leaves every byte outside its range. -/
theorem byteAt_withBytes_of_disjoint (h : Heap) {off : Nat} {b : ByteArray} {i : Nat}
    (hi : i < off ∨ off + b.size ≤ i) : (h.withBytes off b).memory.byteAt i = h.memory.byteAt i := by
  unfold withBytes
  split
  · rfl
  · rw [byteAt_putBytes, if_neg (by omega)]

theorem Sound.withBytes {r : Release} (hs : Sound h r) (off : Nat) (b : ByteArray) :
    Sound (h.withBytes off b) r :=
  hs.of_sameArena (sameArena_withBytes h off b)

theorem holdsBytes_withBytes_self (h : Heap) (off : Nat) (b : ByteArray)
    (hin : off + b.size ≤ h.memory.size) : HoldsBytes (h.withBytes off b).memory off b := by
  have hmap := Nat.le_trans hin h.memory.size_le_mapped
  unfold withBytes
  split
  · exact holdsBytes_of_size_eq_zero (by omega) ‹_›
  · exact holdsBytes_putBytes_self hmap

theorem holdsBytes_withBytes_of_disjoint {off off' : Nat} {b c : ByteArray}
    (hc : HoldsBytes h.memory off' c) (hd : off' + c.size ≤ off ∨ off + b.size ≤ off') :
    HoldsBytes (h.withBytes off b).memory off' c := by
  unfold withBytes
  split
  · exact hc
  · exact holdsBytes_putBytes_of_disjoint hc hd

/-- A write inside the readable pages succeeds and leaves the heap with the bytes written. -/
theorem exec_writeBytes {a : UInt64} {b : ByteArray} {off : Nat}
    (ha : a.toNat = h.memory.base.toNat + off) (hin : off + b.size ≤ h.memory.mapped) :
    exec h (writeBytes a b) = (.ok (), h.withBytes off b) := by
  have hr : h.memory.readable a b.size = true := by
    simp only [readable, Bool.and_eq_true, decide_eq_true_eq]
    constructor <;> omega
  have hoff : a.toNat - h.memory.base.toNat = off := by omega
  unfold writeBytes withBytes
  rw [exec_bind, exec_get]
  dsimp only
  by_cases hz : b.size = 0
  · rw [if_pos hz, if_pos hz]
    rfl
  · rw [if_neg hz, if_neg hz, if_pos hr, hoff]
    rfl

/-- A write inside the arena succeeds and leaves the heap with the bytes written. -/
theorem exec_writeBytes_inside {a : UInt64} {b : ByteArray} {off : Nat}
    (ha : a.toNat = h.memory.base.toNat + off) (hin : off + b.size ≤ h.memory.size) :
    exec h (writeBytes a b) = (.ok (), h.withBytes off b) :=
  Heap.exec_writeBytes ha (Nat.le_trans hin h.memory.size_le_mapped)

theorem exec_writeWord_inside {a w : UInt64} {off : Nat}
    (ha : a.toNat = h.memory.base.toNat + off) (hin : off + 8 ≤ h.memory.size) :
    exec h (writeWord a w) = (.ok (), h.withBytes off (Memory.wordBytes w)) :=
  exec_writeBytes_inside ha (by rw [wordBytes_size]; exact hin)

theorem exec_readWord {a w : UInt64} (hw : h.memory.readWord a = .ok w) :
    exec h (readWord a) = (.ok w, h) := by
  unfold readWord
  rw [exec_bind, exec_get]
  dsimp only
  rw [hw]
  rfl

/-- Setting flag bits in a held header word writes the word with the bits set. -/
theorem exec_orFlags_inside {v bits w : UInt64} {off : Nat}
    (ha : (v + h.facts.header.flagsOffset).toNat = h.memory.base.toNat + off)
    (hw : HoldsBytes h.memory off (Memory.wordBytes w)) (hin : off + 8 ≤ h.memory.size) :
    exec h (orFlags v bits) = (.ok (), h.withBytes off (Memory.wordBytes (w ||| bits))) := by
  unfold orFlags
  rw [exec_bind, exec_get]
  dsimp only
  rw [exec_bind, exec_readWord (readWord_of_holdsBytes hw ha)]
  exact exec_writeWord_inside ha hin

/-! ### Relations that every run keeps -/

/-- The heap a write leaves: the bytes written when they lie in the readable pages, else the
heap as it was. -/
theorem exec_writeBytes_heap (h : Heap) (a : UInt64) (b : ByteArray) :
    (exec h (writeBytes a b)).2 =
      if h.memory.readable a b.size then h.withBytes (a.toNat - h.memory.base.toNat) b else h := by
  unfold writeBytes withBytes
  rw [exec_bind, exec_get]
  dsimp only
  by_cases hz : b.size = 0
  · simp only [hz, if_true, ite_self]
    rfl
  · by_cases hr : h.memory.readable a b.size = true
    · simp only [hz, hr, if_true, if_false]
      rfl
    · simp only [hz, hr, if_false, Bool.false_eq_true]
      rfl

theorem exec_readWord_heap (h : Heap) (a : UInt64) : (exec h (readWord a)).2 = h := by
  unfold readWord
  rw [exec_bind, exec_get]
  dsimp only
  split <;> rfl

/-- A run keeps the relation `R` when, whatever its outcome, `R` relates the heap it starts on
to the heap it leaves. -/
def Keeps (R : Heap → Heap → Prop) (x : HeapM α) : Prop := ∀ h, R h (exec h x).2

/-- What a run that keeps `R` and ends on `h'` leaves of `h`. -/
theorem Keeps.of_exec {R : Heap → Heap → Prop} {x : HeapM α} (hx : Keeps R x)
    {o : Except HeapError α} (hr : exec h x = (o, h')) : R h h' := by
  have hk := hx h
  rw [hr] at hk
  exact hk

/-- A relation from a heap to a later one that does not look at what the builders change: it is
reflexive and transitive, and it holds across a move of the bump pointer, a write of bytes and
new tables of class objects and of bignums. Every operation that leaves the symbol table alone
keeps it (`Frame.keeps_object`, `Frame.keeps_boot` and the builders' rules in
`BuilderFrames`). -/
structure Frame (R : Heap → Heap → Prop) : Prop where
  refl : ∀ h, R h h
  trans : ∀ {h₁ h₂ h₃ : Heap}, R h₁ h₂ → R h₂ h₃ → R h₁ h₃
  next : ∀ (h : Heap) (n : Nat), R h { h with next := n }
  bytes : ∀ (h : Heap) (off : Nat) (b : ByteArray), R h (h.withBytes off b)
  classes : ∀ (h : Heap) (l : List (TypeCode × Value)), R h { h with classes := l }
  bignums : ∀ (h : Heap) (l : List (Value × Int)), R h { h with bignums := l }

namespace Frame

variable {R : Heap → Heap → Prop}

theorem keeps_of_eq (hR : Frame R) {x : HeapM α} (hx : ∀ h, (exec h x).2 = h) : Keeps R x := by
  intro h
  rw [hx h]
  exact hR.refl h

theorem keeps_pure (hR : Frame R) (a : α) : Keeps R (pure a : HeapM α) := fun h ↦ hR.refl h

theorem keeps_throw (hR : Frame R) (e : HeapError) : Keeps R (throw e : HeapM α) :=
  fun h ↦ hR.refl h

theorem keeps_throw_bind (hR : Frame R) (e : HeapError) (f : α → HeapM β) :
    Keeps R (throw e >>= f) :=
  hR.keeps_of_eq fun _ ↦ by rw [exec_bind, exec_throw]

theorem keeps_get (hR : Frame R) : Keeps R (get : HeapM Heap) := fun h ↦ hR.refl h

theorem keeps_getFacts (hR : Frame R) : Keeps R getFacts := fun h ↦ hR.refl h

theorem keeps_modify {g : Heap → Heap} (hg : ∀ h, R h (g h)) : Keeps R (modify g : HeapM PUnit) :=
  hg

/-- A sequence keeps what its steps keep, whether or not the first step fails. -/
theorem keeps_bind (hR : Frame R) {x : HeapM α} {f : α → HeapM β} (hx : Keeps R x)
    (hf : ∀ a, Keeps R (f a)) : Keeps R (x >>= f) := by
  intro h
  have hk := hx h
  rw [exec_bind]
  rcases hr : exec h x with ⟨_ | a, h1⟩ <;> rw [hr] at hk
  · exact hk
  · exact hR.trans hk (hf a h1)

theorem keeps_forIn (hR : Frame R) {γ : Type} (l : List γ) (b : β)
    (f : γ → β → HeapM (ForInStep β)) (hf : ∀ a b, Keeps R (f a b)) : Keeps R (forIn l b f) := by
  induction l generalizing b with
  | nil => exact hR.keeps_pure b
  | cons a l ih =>
    rw [List.forIn_cons]
    refine hR.keeps_bind (hf a b) fun step ↦ ?_
    cases step with
    | done b' => exact hR.keeps_pure b'
    | yield b' => exact ih b'

/-- Handing out bytes keeps every frame: it leaves the heap or only moves its bump pointer. -/
theorem keeps_raw (hR : Frame R) (n : Nat) : Keeps R (raw n) := by
  intro h
  rw [exec_raw]
  split
  · exact hR.refl h
  · split
    · exact hR.next h _
    · exact hR.next h _

theorem keeps_readWord (hR : Frame R) (a : UInt64) : Keeps R (readWord a) :=
  hR.keeps_of_eq (exec_readWord_heap · a)

theorem keeps_writeBytes (hR : Frame R) (a : UInt64) (b : ByteArray) :
    Keeps R (writeBytes a b) := by
  intro h
  rw [exec_writeBytes_heap]
  split
  · exact hR.bytes h _ b
  · exact hR.refl h

theorem keeps_writeWord (hR : Frame R) (a w : UInt64) : Keeps R (writeWord a w) :=
  hR.keeps_writeBytes a _

theorem keeps_orFlags (hR : Frame R) (v bits : UInt64) : Keeps R (orFlags v bits) :=
  hR.keeps_bind hR.keeps_get fun _ ↦
    hR.keeps_bind (hR.keeps_readWord _) fun _ ↦ hR.keeps_writeWord _ _

/-- Allocation keeps every frame: the same steps follow on the slot whether its size is found or
refused. -/
theorem keeps_object (hR : Frame R) (n : Nat) (t : TypeCode) (fl : UInt64) :
    Keeps R (object n t fl) := by
  unfold object
  refine hR.keeps_bind hR.keeps_get fun h0 ↦ ?_
  dsimp only
  split
  on_goal 1 => refine hR.keeps_bind (hR.keeps_pure _) fun slot ↦ ?_
  on_goal 2 => refine hR.keeps_bind (hR.keeps_throw _) fun slot ↦ ?_
  all_goals
    refine hR.keeps_bind (hR.keeps_raw slot) fun v ↦ ?_
    refine hR.keeps_bind (hR.keeps_writeWord _ _) fun _ ↦ ?_
    split
    · exact hR.keeps_bind (hR.keeps_writeWord _ _) fun _ ↦ hR.keeps_pure v
    · exact hR.keeps_pure v

theorem keeps_boot (hR : Frame R) : Keeps R boot := by
  unfold boot
  refine hR.keeps_bind hR.keeps_get fun h0 ↦ ?_
  refine hR.keeps_bind (hR.keeps_object _ _ _) fun cls ↦ ?_
  refine hR.keeps_bind hR.keeps_get fun h1 ↦ ?_
  refine hR.keeps_bind (hR.keeps_writeWord _ _) fun _ ↦ ?_
  refine hR.keeps_bind (keeps_modify fun h ↦ hR.classes h _) fun _ ↦ ?_
  refine hR.keeps_bind (hR.keeps_forIn _ _ _ fun t _ ↦ ?_) fun _ ↦ hR.keeps_pure _
  refine hR.keeps_bind (hR.keeps_object _ _ _) fun c ↦ ?_
  exact hR.keeps_bind (keeps_modify fun h ↦ hR.classes h _) fun _ ↦ hR.keeps_pure _

end Frame

/-! ### Operations keep the arena -/

/-- An operation keeps the arena when, whatever its outcome, the heap it leaves has the facts,
the base and the size it started with. -/
def KeepsArena (x : HeapM α) : Prop := ∀ h, SameArena h (exec h x).2

/-- Heaps over one arena are related as a frame: no step of a builder moves the arena. -/
theorem sameArena_frame : Frame SameArena where
  refl := SameArena.refl
  trans := SameArena.trans
  next _ _ := ⟨rfl, rfl, rfl⟩
  bytes := sameArena_withBytes
  classes _ _ := ⟨rfl, rfl, rfl⟩
  bignums _ _ := ⟨rfl, rfl, rfl⟩

theorem keepsArena_pure (a : α) : KeepsArena (pure a : HeapM α) := sameArena_frame.keeps_pure a

theorem keepsArena_modify {f : Heap → Heap} (hf : ∀ h, SameArena h (f h)) :
    KeepsArena (modify f : HeapM PUnit) := hf

theorem keepsArena_bind {x : HeapM α} {f : α → HeapM β} (hx : KeepsArena x)
    (hf : ∀ a, KeepsArena (f a)) : KeepsArena (x >>= f) :=
  sameArena_frame.keeps_bind hx hf

theorem keepsArena_raw (n : Nat) : KeepsArena (raw n) := sameArena_frame.keeps_raw n

theorem keepsArena_writeBytes (a : UInt64) (b : ByteArray) : KeepsArena (writeBytes a b) :=
  sameArena_frame.keeps_writeBytes a b

theorem keepsArena_writeWord (a w : UInt64) : KeepsArena (writeWord a w) :=
  sameArena_frame.keeps_writeWord a w

theorem keepsArena_orFlags (v bits : UInt64) : KeepsArena (orFlags v bits) :=
  sameArena_frame.keeps_orFlags v bits

theorem keepsArena_forIn {γ : Type} (l : List γ) (b : β) (f : γ → β → HeapM (ForInStep β))
    (hf : ∀ a b, KeepsArena (f a b)) : KeepsArena (forIn l b f) :=
  sameArena_frame.keeps_forIn l b f hf

theorem keepsArena_object (n : Nat) (t : TypeCode) (fl : UInt64) : KeepsArena (object n t fl) :=
  sameArena_frame.keeps_object n t fl

/-- A heap made by `create` for the facts of a release is sound. -/
theorem create_sound {r : Release} {size : Int} {h : Heap} (hc : create r.facts size = .ok h) :
    Sound h r := by
  have hword : r.facts.wordSize = machineWord := by cases r <;> rfl
  unfold create at hc
  rw [if_neg (not_not_intro hword)] at hc
  generalize (if size = 0 then (defaultArenaSize : Int) else size) = sz at hc
  dsimp only at hc
  split_ifs at hc with hneg hbig
  generalize hb : ExceptT.run boot _ = res at hc
  obtain ⟨outcome, booted⟩ := res
  have hk := sameArena_frame.keeps_boot (Heap.mk r.facts ⟨arenaBase, sz.toNat, .empty⟩ 0 [] default [])
  unfold exec at hk
  rw [hb] at hk
  cases outcome with
  | error e => cases hc
  | ok u =>
    cases hc
    have hsize : h.memory.size = sz.toNat := hk.size_eq
    exact ⟨hk.facts_eq, hk.base_eq ▸ arenaBase_valid, by omega⟩

end Heap

/-! ### Objects -/

namespace Release

theorem flagsOffset_eq (r : Release) : r.facts.header.flagsOffset = 0 := by cases r <;> rfl

theorem klassOffset_eq (r : Release) : r.facts.header.klassOffset = 8 := by cases r <;> rfl

theorem wordSize_eq (r : Release) : r.facts.wordSize = 8 := by cases r <;> rfl

theorem baseSlotSize_eq (r : Release) : r.facts.gc.baseSlotSize.toNat = 40 := by
  cases r <;> rfl

/-- Every release has at most five size pools. -/
theorem sizePoolCount_le (r : Release) : r.facts.gc.sizePoolCount.toNat ≤ 5 := by
  cases r <;> decide

/-- Every slot of a release holds at least the 40 bytes of the base slot. -/
theorem slotSize_ge (r : Release) {n s : Nat} (hs : Heap.slotSize r.facts.gc n = .ok s) :
    40 ≤ s := by
  have hpools : ∀ i, i < 5 → 40 ≤ (Word.shl 40 i.toUInt64).toNat := by decide
  unfold Heap.slotSize at hs
  dsimp only at hs
  split at hs
  · rename_i i hi
    have hmem := List.mem_range.mp (List.mem_of_find?_eq_some hi)
    cases hs
    rw [show r.facts.gc.baseSlotSize = 40 from UInt64.toNat_inj.mp r.baseSlotSize_eq]
    exact hpools i (by have := r.sizePoolCount_le; omega)
  · cases hs

end Release

namespace Heap

open Memory

variable {h h' : Heap}

/-! ### Writing into slots -/

/-- A write at an offset of the arena of a sound heap, addressed from the arena's base. -/
theorem Sound.exec_writeBytes_at {r : Release} (hs : Sound h r) {base : UInt64}
    (hbase : h.memory.base = base) (off : Nat) (k : UInt64) {b : ByteArray}
    (hin : off + k.toNat + b.size ≤ h.memory.size) :
    exec h (writeBytes (base + off.toUInt64 + k) b) = (.ok (), h.withBytes (off + k.toNat) b) := by
  subst hbase
  exact exec_writeBytes_inside (hs.base.toNat_add (by have := hs.size_le; omega)) hin

theorem Sound.exec_writeWord_at {r : Release} (hs : Sound h r) {base : UInt64}
    (hbase : h.memory.base = base) (off : Nat) (k : UInt64) {w : UInt64}
    (hin : off + k.toNat + 8 ≤ h.memory.size) :
    exec h (writeWord (base + off.toUInt64 + k) w) =
      (.ok (), h.withBytes (off + k.toNat) (Memory.wordBytes w)) :=
  hs.exec_writeBytes_at hbase off k (by rw [wordBytes_size]; exact hin)

/-- A write at the start of bytes handed out. -/
theorem Sound.exec_writeBytes_off {r : Release} (hs : Sound h r) {base : UInt64}
    (hbase : h.memory.base = base) (off : Nat) {b : ByteArray}
    (hin : off + b.size ≤ h.memory.size) :
    exec h (writeBytes (base + off.toUInt64) b) = (.ok (), h.withBytes off b) := by
  subst hbase
  exact exec_writeBytes_inside (hs.base.toNat_add_off (by have := hs.size_le; omega)) hin

theorem Sound.exec_writeWord_off {r : Release} (hs : Sound h r) {base : UInt64}
    (hbase : h.memory.base = base) (off : Nat) {w : UInt64} (hin : off + 8 ≤ h.memory.size) :
    exec h (writeWord (base + off.toUInt64) w) =
      (.ok (), h.withBytes off (Memory.wordBytes w)) :=
  hs.exec_writeBytes_off hbase off (by rw [wordBytes_size]; exact hin)

/-- A write to the word after the word at `k`. -/
theorem Sound.exec_writeWord_next {r : Release} (hs : Sound h r) {base : UInt64}
    (hbase : h.memory.base = base) (off : Nat) (k : UInt64) {w : UInt64}
    (hin : off + k.toNat + 16 ≤ h.memory.size) :
    exec h (writeWord (base + off.toUInt64 + k + 8) w) =
      (.ok (), h.withBytes (off + k.toNat + 8) (Memory.wordBytes w)) := by
  have hlim : mapLimit = 2 ^ 47 := rfl
  have hsize := hs.size_le
  have hk : (k + 8).toNat = k.toNat + 8 := by
    rw [UInt64.toNat_add]
    simp
    omega
  rw [UInt64.add_assoc, hs.exec_writeWord_at hbase off (k + 8) (by omega), hk, Nat.add_assoc]

/-- Setting flag bits in the header word of a slot. -/
theorem Sound.exec_orFlags_at {r : Release} (hs : Sound h r) {base : UInt64}
    (hbase : h.memory.base = base) (off : Nat) {bits w : UInt64}
    (hw : HoldsBytes h.memory off (Memory.wordBytes w)) (hin : off + 8 ≤ h.memory.size) :
    exec h (orFlags (base + off.toUInt64) bits) =
      (.ok (), h.withBytes off (Memory.wordBytes (w ||| bits))) := by
  subst hbase
  refine exec_orFlags_inside ?_ hw hin
  rw [hs.facts_eq, Release.flagsOffset_eq, UInt64.add_zero]
  exact hs.base.toNat_add_off (by have := hs.size_le; omega)

/-! ### Allocating objects -/

/-- What allocating an object with the header word `hdr` leaves at `v`: a slot of `slot` bytes,
no fewer than asked for and no fewer than the base slot, from the word-aligned offset `off` of
the bump pointer and inside the arena; the header word at the slot's start, and the bump pointer
past the slot. -/
structure Allocated (h h' : Heap) (n : Nat) (hdr v : UInt64) (off slot : Nat) : Prop where
  off_eq : off = h.nextAligned
  n_le : n ≤ slot
  base_le : 40 ≤ slot
  fits : off + slot ≤ h.memory.size
  addr : v = h.memory.base + off.toUInt64
  next_eq : h'.next = off + slot
  arena : SameArena h h'
  header : HoldsBytes h'.memory off (Memory.wordBytes hdr)

/-- A successful allocation on a sound heap, in full: the slot is handed out at the aligned bump
pointer (`Allocated`) and has the size `slotSize` finds, the class word of its type, when the heap
has a class of that type, follows the header word, every byte outside those two words is as it
was, and the class objects, the symbols and the bignums are untouched. -/
theorem exec_object_spec {r : Release} (hs : Sound h r) {n : Nat} {t : TypeCode}
    {fl v : UInt64} (hx : exec h (object n t fl) = (.ok v, h')) :
    ∃ slot, Allocated h h' n (t.code.toUInt64 ||| fl) v h.nextAligned slot ∧
      slotSize r.facts.gc n = .ok slot ∧
      (∀ c, h.classOf t = some c →
        HoldsBytes h'.memory (h.nextAligned + 8) (Memory.wordBytes c)) ∧
      (∀ i, i < h.nextAligned ∨ h.nextAligned + 16 ≤ i →
        h'.memory.byteAt i = h.memory.byteAt i) ∧
      h'.classes = h.classes ∧ h'.symbols = h.symbols ∧ h'.bignums = h.bignums := by
  unfold object at hx
  rw [exec_bind, exec_get] at hx
  dsimp only at hx
  rcases hslot : slotSize h.facts.gc n with e | slot
  · rw [hslot, exec_bind, exec_throw] at hx
    cases hx
  rw [hslot, exec_bind, exec_pure] at hx
  dsimp only at hx
  obtain ⟨v0, h1, hraw, hx⟩ := exec_bind_eq_ok hx
  obtain ⟨hfits, -, rfl, rfl⟩ := exec_raw_eq_ok hraw
  have hsize : 40 ≤ slot := Release.slotSize_ge r (hs.facts_eq ▸ hslot)
  have hlim := hs.size_le
  have hfo : h.facts.header.flagsOffset = 0 := hs.facts_eq ▸ Release.flagsOffset_eq r
  have hko : h.facts.header.klassOffset = 8 := hs.facts_eq ▸ Release.klassOffset_eq r
  have hs1 := hs.withNext (h.nextAligned + slot)
  obtain ⟨u, h2, hw, hx⟩ := exec_bind_eq_ok hx
  rw [hfo, hs1.exec_writeWord_at rfl h.nextAligned 0 (by simp; omega)] at hw
  cases hw
  simp only [UInt64.toNat_zero, Nat.add_zero] at hx
  have hbump : SameArena h { h with next := h.nextAligned + slot } := ⟨rfl, rfl, rfl⟩
  have hhead := holdsBytes_withBytes_self { h with next := h.nextAligned + slot } h.nextAligned
    (Memory.wordBytes (t.code.toUInt64 ||| fl))
    (by simp only [wordBytes_size]; omega)
  have hframe (i : Nat) (hi : i < h.nextAligned ∨ h.nextAligned + 16 ≤ i) :
      ({ h with next := h.nextAligned + slot }.withBytes h.nextAligned
        (Memory.wordBytes (t.code.toUInt64 ||| fl))).memory.byteAt i = h.memory.byteAt i := by
    rw [byteAt_withBytes_of_disjoint _ (by simp only [wordBytes_size]; omega)]
  rcases hc : h.classOf t with _ | c
  · rw [hc, exec_pure] at hx
    cases hx
    exact ⟨slot, ⟨rfl, slotSize_eq_ok hslot, hsize, hfits, rfl, by simp,
      hbump.trans (sameArena_withBytes _ _ _), hhead⟩, hs.facts_eq ▸ hslot,
      fun c hc' ↦ absurd hc' (by simp), hframe, by simp, by simp, by simp⟩
  · rw [hc] at hx
    obtain ⟨u, h3, hw, hx⟩ := exec_bind_eq_ok hx
    rw [hko, (hs1.withBytes _ _).exec_writeWord_at (by simp) h.nextAligned 8 (by simp; omega)] at hw
    cases hw
    rw [exec_pure] at hx
    cases hx
    refine ⟨slot, ⟨rfl, slotSize_eq_ok hslot, hsize, hfits, rfl, by simp,
      (hbump.trans (sameArena_withBytes _ _ _)).trans (sameArena_withBytes _ _ _),
      holdsBytes_withBytes_of_disjoint hhead (by simp)⟩, hs.facts_eq ▸ hslot, fun c' hc' ↦ ?_,
      fun i hi ↦ ?_, by simp, by simp, by simp⟩
    · cases hc'
      exact holdsBytes_withBytes_self _ _ _ (by simp; omega)
    · have h8 : (8 : UInt64).toNat = 8 := rfl
      rw [byteAt_withBytes_of_disjoint _ (by simp only [wordBytes_size, h8]; omega), hframe i hi]

/-- A successful allocation on a sound heap: the slot is handed out at the aligned bump pointer,
the header word written at its start and the class word after it. -/
theorem exec_object_eq_ok {r : Release} (hs : Sound h r) {n : Nat} {t : TypeCode}
    {fl v : UInt64} (hx : exec h (object n t fl) = (.ok v, h')) :
    ∃ slot, Allocated h h' n (t.code.toUInt64 ||| fl) v h.nextAligned slot := by
  obtain ⟨slot, hal, -⟩ := exec_object_spec hs hx
  exact ⟨slot, hal⟩

/-- An allocation on a sound heap succeeds when the arena has room for its slot after the
aligned bump pointer, and returns the address there. -/
theorem exec_object_ok {r : Release} (hs : Sound h r) {n s : Nat} {t : TypeCode} {fl : UInt64}
    (hslot : slotSize r.facts.gc n = .ok s) (hroom : h.nextAligned + s ≤ h.memory.size) :
    ∃ h', exec h (object n t fl) = (.ok (h.memory.base + h.nextAligned.toUInt64), h') := by
  have hsize : 40 ≤ s := Release.slotSize_ge r hslot
  have hlim := hs.size_le
  unfold object
  rw [exec_bind, exec_get]
  dsimp only
  rw [hs.facts_eq, hslot, exec_bind, exec_pure]
  dsimp only
  rw [exec_bind, exec_raw, if_neg (by omega), if_neg (by omega)]
  dsimp only
  have hs1 := hs.withNext (h.nextAligned + s)
  rw [Release.flagsOffset_eq, exec_bind, hs1.exec_writeWord_at rfl h.nextAligned 0 (by simp; omega)]
  dsimp only
  rcases h.classOf t with _ | c
  · exact ⟨_, rfl⟩
  · rw [Release.klassOffset_eq, exec_bind,
      (hs1.withBytes _ _).exec_writeWord_at (by simp) h.nextAligned 8 (by simp; omega)]
    exact ⟨_, rfl⟩

/-- A successful run that starts by allocating an object allocates it at the aligned bump
pointer and runs on from there with its address. -/
theorem exec_object_bind_eq_ok {r : Release} {α : Type} (hs : Sound h r) {n : Nat}
    {t : TypeCode} {fl : UInt64} {f : Value → HeapM α} {b : α}
    (hx : exec h (object n t fl >>= f) = (.ok b, h')) :
    ∃ slot h1, Allocated h h1 n (t.code.toUInt64 ||| fl) (h.memory.base + h.nextAligned.toUInt64)
      h.nextAligned slot ∧ exec h1 (f (h.memory.base + h.nextAligned.toUInt64)) = (.ok b, h') := by
  obtain ⟨v, h1, hobj, hx⟩ := exec_bind_eq_ok hx
  obtain ⟨slot, hal⟩ := exec_object_eq_ok hs hobj
  obtain rfl := hal.addr
  exact ⟨slot, h1, hal, hx⟩

variable {r : Release}

/-- The bump pointer of a sound heap rounds up to a word-aligned offset. -/
theorem Sound.nextAligned_mod (hs : Sound h r) : h.nextAligned % 8 = 0 := by
  unfold nextAligned
  rw [hs.facts_eq, Release.wordSize_eq]
  exact Nat.mul_mod_left _ _

theorem Sound.next_le_nextAligned (hs : Sound h r) : h.next ≤ h.nextAligned := by
  unfold nextAligned
  rw [hs.facts_eq, Release.wordSize_eq]
  have := Nat.div_add_mod (h.next + 8 - 1) 8
  have := Nat.mod_lt (h.next + 8 - 1) (show 0 < 8 by decide)
  show h.next ≤ (h.next + 8 - 1) / 8 * 8
  omega

/-- Rounding up to a word moves the bump pointer by less than a word. -/
theorem Sound.nextAligned_lt (hs : Sound h r) : h.nextAligned < h.next + 8 := by
  unfold nextAligned
  rw [hs.facts_eq, Release.wordSize_eq]
  have := Nat.div_add_mod (h.next + 8 - 1) 8
  show (h.next + 8 - 1) / 8 * 8 < h.next + 8
  omega

/-- A word-aligned bump pointer is its own rounding. -/
theorem Sound.nextAligned_of_mod (hs : Sound h r) (h8 : h.next % 8 = 0) :
    h.nextAligned = h.next := by
  unfold nextAligned
  rw [hs.facts_eq, Release.wordSize_eq]
  show (h.next + 8 - 1) / 8 * 8 = h.next
  omega

/-- An object followed by a buffer, on a sound heap: the slot is handed out at the aligned bump
pointer and the buffer at the next aligned offset past it, inside the arena; what follows runs from
the heap whose bump pointer is the buffer's end. -/
theorem exec_object_raw_bind_eq_ok {α : Type} (hs : Sound h r) {n k : Nat} {t : TypeCode}
    {fl : UInt64} {f : Value → UInt64 → HeapM α} {b : α}
    (hx : exec h (object n t fl >>= fun v ↦ raw k >>= f v) = (.ok b, h')) :
    ∃ slot h1, Allocated h h1 n (t.code.toUInt64 ||| fl) (h.memory.base + h.nextAligned.toUInt64)
      h.nextAligned slot ∧ Sound h1 r ∧ h.nextAligned + slot ≤ h1.nextAligned ∧
      h1.nextAligned + k ≤ h1.memory.size ∧ h1.nextAligned < h1.memory.size ∧
      exec { h1 with next := h1.nextAligned + k }
        (f (h.memory.base + h.nextAligned.toUInt64) (h.memory.base + h1.nextAligned.toUInt64)) =
        (.ok b, h') := by
  obtain ⟨slot, h1, hal, hx⟩ := exec_object_bind_eq_ok hs hx
  obtain ⟨p, h2, hraw, hx⟩ := exec_bind_eq_ok hx
  obtain ⟨hbuf, hinside, rfl, rfl⟩ := exec_raw_eq_ok hraw
  have hs1 : Sound h1 r := hs.of_sameArena hal.arena
  refine ⟨slot, h1, hal, hs1, hal.next_eq ▸ hs1.next_le_nextAligned, hbuf, hinside, ?_⟩
  rw [hal.arena.base_eq] at hx
  exact hx

end Heap

end RubyLayout
