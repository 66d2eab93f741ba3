import RubyLayout.Proofs.SymbolFrame
import RubyLayout.Proofs.CorpusBuild
import RubyLayout.Proofs.Persistence

/-!
# What building leaves of each sample

The comparison of two sets of accessors reads each sample value by what it finds there. This
module says what that is, for every value a valid corpus builds, and proves that building keeps
it until the last case is built.

`Shape f m t v` is what a value is in the memory `m` with the symbol table `t`: a special
constant; a string or an array object laid out in full (`StringObject`, `ArrayObject`); a
symbol object bound to an identifier; or an object of another type, of which only the base slot
and the header type are read (`ObjectAt`).

Interning and freezing set flag bits in the header word of the value just built. Those bits miss
the type, the embedding flags and the lengths (`QuietBits`), so a shape survives the rewrite
of its header word (`Shape.setFlags`), for a string with the interned flag it then has.

`Shaped r h v` asks that the value keep its shape in every memory that agrees with the heap
below its bump pointer. Later steps of building change nothing there and lose no binding of a
dynamic symbol (`Later`), so a shaped value stays shaped (`Shaped.of_later`). The rewrite of
its own header is the one write below the bump pointer; a memory that agrees with the heap after
it agrees, once the old word is put back, with the heap before it (`Shaped.setFlags`).
-/

set_option autoImplicit false
set_option relaxedAutoImplicit false

namespace RubyLayout

open Memory Heap

/-! ### Rewriting one word -/

namespace Memory

/-- A word held at an offset is the only word held there. -/
theorem HoldsBytes.word_eq {m : Memory} {off : Nat} {w w' : UInt64}
    (hw : HoldsBytes m off (wordBytes w)) (hw' : HoldsBytes m off (wordBytes w')) : w = w' := by
  have hbyte (u : UInt64) (hu : HoldsBytes m off (wordBytes u)) :
      ∀ i, i < 8 → m.byteAt (off + i) = (u >>> (8 * i).toUInt64).toUInt8 := by
    intro i hi
    have hi' := hu.2 i (by rw [wordBytes_size]; exact hi)
    rw [wordBytes_getElem? u hi] at hi'
    exact (Option.some.inj hi').symm
  rw [← foldl_bytes_eq _ (hbyte w hw), foldl_bytes_eq _ (hbyte w' hw')]

/-- Agreement below an offset passes along a chain of memories, up to the lower offset. -/
theorem AgreesBelow.trans {m₁ m₂ m₃ : Memory} {lo hi : Nat} (h₁₂ : m₁.AgreesBelow m₂ lo)
    (h₂₃ : m₂.AgreesBelow m₃ hi) (hle : lo ≤ hi) : m₁.AgreesBelow m₃ lo :=
  ⟨h₂₃.base_eq.trans h₁₂.base_eq, h₂₃.size_eq.trans h₁₂.size_eq,
    fun i hi' ↦ (h₂₃.byteAt_eq i (by omega)).trans (h₁₂.byteAt_eq i hi')⟩

/-- `m'` is `m` with the word at the offset `off` replaced by `w`: the same arena, and the same
bytes at every other offset. -/
structure Rewrites (m m' : Memory) (off : Nat) (w : UInt64) : Prop where
  base_eq : m'.base = m.base
  size_eq : m'.size = m.size
  holds : HoldsBytes m' off (wordBytes w)
  byteAt_eq : ∀ i, i < off ∨ off + 8 ≤ i → m'.byteAt i = m.byteAt i

/-- Bytes held apart from a rewritten word stay held. -/
theorem HoldsBytes.of_rewrites {m m' : Memory} {off p : Nat} {w : UInt64} {b : ByteArray}
    (hb : HoldsBytes m p b) (hr : m.Rewrites m' off w) (hd : p + b.size ≤ off ∨ off + 8 ≤ p) :
    HoldsBytes m' p b := by
  refine ⟨by rw [mapped, hr.size_eq]; exact hb.1, fun i hi ↦ ?_⟩
  rw [hr.byteAt_eq (p + i) (by omega)]
  exact hb.2 i hi

end Memory

/-! ### Header words with flag bits set -/

/-- Quiet bits that miss the interned flag leave a string header as it is, frozen or not. -/
theorem StringHeader.setFlags {f : Facts} {w b : UInt64} {e : Bool} {n : Nat} {i : Bool}
    (hq : QuietBits f b) (hfstr : b &&& f.string.fstr = 0) (hw : StringHeader f w e n i) :
    StringHeader f (w ||| b) e n i := by
  refine ⟨?_, ?_, ?_, ?_, fun hi ↦ ?_⟩
  · rw [Bits.or_and_of_and_eq_zero _ hq.type]
    exact hw.type_eq
  · rw [Bits.or_and_of_and_eq_zero _ hq.noEmbed]
    exact hw.noEmbed_iff
  · rw [Bits.or_and_of_and_eq_zero _ hq.strLen]
    exact hw.length_eq
  · rw [Bits.or_and_of_and_eq_zero _ hfstr]
    exact hw.fstr_iff
  · rw [Bits.or_and, UInt64.or_comm]
    exact Bits.or_ne_zero_of_right _ (hw.frozen hi)

/-- Quiet bits leave an array header as it is. -/
theorem ArrayHeader.setFlags {f : Facts} {w b : UInt64} {e : Bool} {n : Nat}
    (hq : QuietBits f b) (hw : ArrayHeader f w e n) : ArrayHeader f (w ||| b) e n := by
  refine ⟨?_, ?_, ?_⟩
  · rw [Bits.or_and_of_and_eq_zero _ hq.type]
    exact hw.type_eq
  · rw [Bits.or_and_of_and_eq_zero _ hq.aryFlag]
    exact hw.embed_iff
  · rw [Bits.or_and_of_and_eq_zero _ hq.aryLen]
    exact hw.length_eq

/-- The frozen flag misses the interned flag in every release. -/
theorem Release.freeze_and_fstr (r : Release) :
    r.facts.header.freeze &&& r.facts.string.fstr = 0 := by
  cases r <;> decide

/-! ### Objects in memory -/

/-- A heap object of the type `t` at `v` in `m`: its base slot lies at a word-aligned offset of
the arena, inside the memory, and its header word holds the type. -/
def ObjectAt (f : Facts) (m : Memory) (v : Value) (t : TypeCode) : Prop :=
  ∃ off w, v = m.base + off.toUInt64 ∧ off % 8 = 0 ∧ off + 40 ≤ m.size ∧
    HoldsBytes m off (wordBytes w) ∧ w &&& f.header.typeMask = t.code.toUInt64

theorem ObjectAt.setFlags {f : Facts} {m m' : Memory} {v : Value} {t : TypeCode} {b : UInt64}
    (hobj : ObjectAt f m v t)
    (hr : ∀ off w, v = m.base + off.toUInt64 → HoldsBytes m off (wordBytes w) →
      m.Rewrites m' off (w ||| b))
    (hq : QuietBits f b) : ObjectAt f m' v t := by
  obtain ⟨off, w, hv, hoff, hin, hheld, hty⟩ := hobj
  have hrw := hr off w hv hheld
  refine ⟨off, w ||| b, by rw [hrw.base_eq]; exact hv, hoff, by rw [hrw.size_eq]; exact hin, hrw.holds, ?_⟩
  rw [Bits.or_and_of_and_eq_zero _ hq.type]
  exact hty

theorem StringAt.of_rewrites {r : Release} {m m' : Memory} {off : Nat} {s : ByteArray}
    {w w' : UInt64} {e : Bool} (hat : StringAt r.facts m off s w e) (hr : m.Rewrites m' off w') :
    StringAt r.facts m' off s w' e := by
  have hg := Release.stringSlot r
  cases hat with
  | embedded header length bytes =>
    have hary := hg.ary_ge
    refine .embedded hr.holds (fun hmask ↦ ?_) (bytes.of_rewrites hr (.inr (by omega)))
    have hlf := hg.lenField hmask
    exact (length hmask).of_rewrites hr (.inr (by omega))
  | buffer buf header after inside length ptr bytes =>
    have hlen := hg.heapLen_ge
    have hptr := hg.heapLen_le
    exact .buffer buf hr.holds after (by rw [hr.size_eq]; exact inside)
      (length.of_rewrites hr (.inr (by omega)))
      (by rw [hr.base_eq]; exact ptr.of_rewrites hr (.inr (by omega)))
      (bytes.of_rewrites hr (.inr (by omega)))

theorem ArrayAt.of_rewrites {r : Release} {m m' : Memory} {off : Nat} {elems : List Value}
    {w w' : UInt64} {e : Bool} (hat : ArrayAt r.facts m off elems w e)
    (hr : m.Rewrites m' off w') : ArrayAt r.facts m' off elems w' e := by
  have hg := Release.arraySlot r
  cases hat with
  | embedded header elements =>
    have hary := hg.ary_ge
    exact .embedded hr.holds (elements.of_rewrites hr (.inr (by omega)))
  | buffer buf header after inside length ptr elements =>
    have hlen := hg.heapLen_ge
    have hptr := hg.heapLen_le
    exact .buffer buf hr.holds after (by rw [hr.size_eq]; exact inside)
      (length.of_rewrites hr (.inr (by omega)))
      (by rw [hr.base_eq]; exact ptr.of_rewrites hr (.inr (by omega)))
      (elements.of_rewrites hr (.inr (by omega)))

/-! ### Shapes of values -/

/-- What the comparison finds at a value, in the memory `m` with the symbol table `t`: a special
constant; a string or an array object laid out in full; a symbol object bound to an identifier;
or an object of another type, of which only its base slot and its type are read. -/
inductive Shape (f : Facts) (m : Memory) (t : SymbolTable) (v : Value) : Prop where
  | special (hsc : f.isSpecialConst v = true)
  | string {s : ByteArray} {e i : Bool} (hobj : StringObject f m v s e i)
  | array {elems : List Value} {e : Bool} (hobj : ArrayObject f m v elems e)
  | symbol (hobj : ObjectAt f m v TypeCode.symbol) (hbound : (t.dynamicId? v).isSome)
  | object {ty : TypeCode} (hobj : ObjectAt f m v ty) (hstr : ty ≠ TypeCode.string)
      (hary : ty ≠ TypeCode.array) (hsym : ty ≠ TypeCode.symbol)

namespace Shape

variable {r : Release} {m m' : Memory} {t t' : SymbolTable} {v : Value}

/-- A heap reference of some shape has a base slot inside the memory and a header word. -/
theorem header (hsh : Shape r.facts m t v) (hsc : r.facts.isSpecialConst v = false) :
    ∃ off w, v = m.base + off.toUInt64 ∧ off + 40 ≤ m.size ∧ HoldsBytes m off (wordBytes w) := by
  cases hsh with
  | special h => rw [h] at hsc; cases hsc
  | string hobj =>
    obtain ⟨off, w, hv, -, hin, -, hat⟩ := hobj
    exact ⟨off, w, hv, hin, hat.header_holds⟩
  | array hobj =>
    obtain ⟨off, w, hv, -, hin, -, hat⟩ := hobj
    exact ⟨off, w, hv, hin, hat.header_holds⟩
  | symbol hobj =>
    obtain ⟨off, w, hv, -, hin, hheld, -⟩ := hobj
    exact ⟨off, w, hv, hin, hheld⟩
  | object hobj =>
    obtain ⟨off, w, hv, -, hin, hheld, -⟩ := hobj
    exact ⟨off, w, hv, hin, hheld⟩

/-- A symbol table that keeps every binding keeps every shape. -/
theorem of_suffix (hsh : Shape r.facts m t v) (hsuf : t.dynamic <:+ t'.dynamic) :
    Shape r.facts m t' v := by
  cases hsh with
  | special h => exact .special h
  | string hobj => exact .string hobj
  | array hobj => exact .array hobj
  | symbol hobj hbound => exact .symbol hobj (SymbolTable.dynamicId?_isSome_of_suffix hsuf hbound)
  | object hobj hstr hary hsym => exact .object hobj hstr hary hsym

/-- Setting quiet bits in the header word of a value keeps its shape. A string keeps its form,
length and bytes, with the interned flag that `hstr` gives. -/
theorem setFlags {b : UInt64} (hsh : Shape r.facts m t v)
    (hr : ∀ off w, v = m.base + off.toUInt64 → HoldsBytes m off (wordBytes w) →
      m.Rewrites m' off (w ||| b))
    (hq : QuietBits r.facts b)
    (hstr : ∀ {w e n i}, StringHeader r.facts w e n i → ∃ i', StringHeader r.facts (w ||| b) e n i') :
    Shape r.facts m' t v := by
  cases hsh with
  | special h => exact .special h
  | string hobj =>
    obtain ⟨off, w, hv, hoff, hin, hw, hat⟩ := hobj
    have hrw := hr off w hv hat.header_holds
    obtain ⟨i', hw'⟩ := hstr hw
    exact .string ⟨off, w ||| b, by rw [hrw.base_eq]; exact hv, hoff, by rw [hrw.size_eq]; exact hin,
      hw',
      hat.of_rewrites hrw⟩
  | array hobj =>
    obtain ⟨off, w, hv, hoff, hin, hw, hat⟩ := hobj
    have hrw := hr off w hv hat.header_holds
    exact .array ⟨off, w ||| b, by rw [hrw.base_eq]; exact hv, hoff, by rw [hrw.size_eq]; exact hin,
      hw.setFlags hq,
      hat.of_rewrites hrw⟩
  | symbol hobj hbound => exact .symbol (hobj.setFlags hr hq) hbound
  | object hobj hstr' hary hsym => exact .object (hobj.setFlags hr hq) hstr' hary hsym

end Shape

/-! ### Values kept along a build -/

/-- `h'` follows `h` by steps of building that keep what `h` holds: nothing changes below the
bump pointer of `h`, and no binding of a dynamic symbol is lost. -/
structure Heap.Later (h h' : Heap) : Prop where
  confined : Confined h.next h h'
  bindings : h.symbols.dynamic <:+ h'.symbols.dynamic

namespace Heap.Later

theorem refl (h : Heap) : Later h h := ⟨Confined.refl _ h, List.suffix_refl _⟩

theorem trans {h₁ h₂ h₃ : Heap} (h₁₂ : Later h₁ h₂) (h₂₃ : Later h₂ h₃) : Later h₁ h₃ :=
  ⟨h₁₂.confined.trans (h₂₃.confined.mono h₁₂.confined.next_le),
    h₁₂.bindings.trans h₂₃.bindings⟩

end Heap.Later

/-- A memory that agrees with a heap after one of its words is rewritten agrees, once the old
word is put back, with the heap before the rewrite. -/
theorem Heap.agreesBelow_putBack {h : Heap} {m : Memory} {off : Nat} {w w' : UInt64}
    (hm : (h.withBytes off (Memory.wordBytes w')).memory.AgreesBelow m h.next)
    (hheld : HoldsBytes h.memory off (Memory.wordBytes w)) :
    h.memory.AgreesBelow (m.putBytes off (Memory.wordBytes w)) h.next := by
  refine ⟨by rw [base_putBytes, hm.base_eq, base_withBytes],
    by rw [size_putBytes, hm.size_eq, size_withBytes], fun i hi ↦ ?_⟩
  rw [byteAt_putBytes]
  split_ifs with hword
  · have hi' := hheld.2 (i - off) (by rw [wordBytes_size] at hword ⊢; omega)
    rw [Nat.add_sub_cancel' hword.1] at hi'
    rw [hi']
    rfl
  · rw [hm.byteAt_eq i hi, byteAt_withBytes_of_disjoint h (by rw [wordBytes_size] at hword ⊢; omega)]

/-- A sample value as building keeps it in the heap `h`: of its shape in every memory that agrees
with `h` below its bump pointer, with the symbol table of `h`. -/
def Shaped (r : Release) (h : Heap) (v : Value) : Prop :=
  ∀ m, h.memory.AgreesBelow m h.next → Shape r.facts m h.symbols v

namespace Shaped

variable {r : Release} {h h' : Heap} {v : Value}

/-- Later steps of building keep a shaped value shaped. -/
theorem of_later (hv : Shaped r h v) (hl : Later h h') : Shaped r h' v := fun m hm ↦
  (hv m (hl.confined.agreesBelow.trans hm hl.confined.next_le)).of_suffix hl.bindings

/-- Setting quiet bits in the header word of a shaped heap reference keeps it shaped. Every
memory that agrees with the heap after the write agrees, once the old word is put back, with the
heap before it, where the value has its shape; putting the new word in again keeps the shape. -/
theorem setFlags (hs : Sound h r) (hv : Shaped r h v) (hsc : r.facts.isSpecialConst v = false)
    {off slot : Nat} (hoff : v = h.memory.base + off.toUInt64) (hfr : FreshSlot 0 0 h off slot)
    {w b : UInt64} (hw : h.memory.wordAt v = .ok w) (hq : QuietBits r.facts b)
    (hstr : ∀ {w e n i}, StringHeader r.facts w e n i →
      ∃ i', StringHeader r.facts (w ||| b) e n i') :
    Shaped r (h.withBytes off (wordBytes (w ||| b))) v := by
  have hlim := hs.size_le
  have hin := hfr.inside
  have hbelow := hfr.below
  have hslot := hfr.base_le
  obtain ⟨off', w', hoff', hin', hheld⟩ := (hv h.memory (AgreesBelow.refl _ _)).header hsc
  obtain rfl : off' = off := hs.base.add_inj (by omega) (by omega) (hoff'.symm.trans hoff)
  obtain rfl : w' = w := by
    have hread := Memory.wordAt_of_holdsBytes (a := v) hheld
      (by rw [hoff]; exact hs.base.toNat_add_off (by omega))
    rw [hread] at hw
    exact Except.ok.inj hw
  intro m hm
  rw [next_withBytes] at hm
  rw [symbols_withBytes]
  have hnew : HoldsBytes m off' (wordBytes (w' ||| b)) :=
    (holdsBytes_withBytes_self h off' _ (by rw [wordBytes_size]; omega)).of_agreesBelow hm
      (by rw [wordBytes_size]; omega)
  have hback := agreesBelow_putBack hm hheld
  have hmapped : m.mapped = h.memory.mapped := by
    rw [Memory.mapped, Memory.mapped, hm.size_eq, size_withBytes]
  refine (hv _ hback).setFlags (fun off'' w'' hoff'' hheld'' ↦ ?_) hq hstr
  obtain rfl : off'' = off' := by
    have hin'' := hheld''.1
    have hmap := hs.mapped_le
    rw [mapped_putBytes, hmapped, wordBytes_size] at hin''
    rw [hback.base_eq] at hoff''
    exact hs.base.add_inj (by omega) (by omega) (hoff''.symm.trans hoff')
  have hold := hheld.1
  obtain rfl : w'' = w' := hheld''.word_eq (holdsBytes_putBytes_self (by rw [hmapped]; exact hold))
  exact ⟨(base_putBytes _ _ _).symm, (size_putBytes _ _ _).symm, hnew, fun i hi ↦ by
    rw [byteAt_putBytes, if_neg (by rw [wordBytes_size]; omega)]⟩

end Shaped

/-! ### Heap calls that make a sample value -/

namespace Heap

variable {r : Release}

/-- An object that a builder allocates with the header of its type lies in every memory that
agrees with the heap the builder leaves, below its bump pointer. -/
theorem ObjectAt.of_built {x : HeapM Value} {n : Nat} {t : TypeCode} {fr : Bool}
    (hslot : BuildsSlot r n x) (hhead : BuildsHeader r t fr x) (ht : t ∈ bootTypes)
    {h h' : Heap} {v : Value} (hs : Sound h r) (hb : Booted h) (hx : exec h x = (.ok v, h')) :
    ∀ m, h'.memory.AgreesBelow m h'.next → ObjectAt r.facts m v t := by
  obtain ⟨off, slot, rfl, hfr⟩ := hslot.returns h v h' hs hx
  obtain ⟨c, hc, -⟩ := hb t ht
  obtain ⟨off', hv', -, hs', -, hh⟩ := hhead h c _ h' hs hc hx
  have hlim := hs'.size_le
  have hfits := hh.fits
  have hin := hfr.inside
  have hbelow := hfr.below
  have hslot40 := hfr.base_le
  obtain rfl : off' = off := hs'.base.add_inj (by omega) (by omega) hv'.symm
  obtain ⟨w, hheld, hty, -⟩ := hh.flags
  intro m hm
  exact ⟨off', w, by rw [hm.base_eq], hfr.aligned, by rw [hm.size_eq]; omega,
    hheld.of_agreesBelow hm (by rw [wordBytes_size]; omega), hty⟩

/-- The value `v` is a special constant, or a fresh slot of `h` handed out past `lo`. -/
def FreshValue (f : Facts) (lo : Nat) (h : Heap) (v : Value) : Prop :=
  f.isSpecialConst v = true ∨
    ∃ off slot, v = h.memory.base + off.toUInt64 ∧ FreshSlot 0 lo h off slot

/-- A heap call that makes a sample value: it writes only bytes it hands out and keeps every
binding of a dynamic symbol, and from a sound heap with a class for every type of boot, the
value it returns is shaped in the heap it leaves, a special constant or a slot handed out past
the bump pointer it started from. -/
structure MakesValue (r : Release) (x : HeapM Value) : Prop where
  writes : ∀ base lo, WritesIn r base lo lo x
  bindings : KeepsBindings x
  made : ∀ h v h', Sound h r → Booted h → exec h x = (.ok v, h') →
    Shaped r h' v ∧ FreshValue r.facts h.next h' v

namespace MakesValue

variable {α : Type} {x y : HeapM Value}

theorem pure_special {v : Value} (hsc : r.facts.isSpecialConst v = true) :
    MakesValue r (pure v) := by
  refine ⟨fun _ _ ↦ writesIn_pure v, bindings_frame.keeps_pure v, fun h v' h' _ _ hx ↦ ?_⟩
  rw [exec_pure] at hx
  cases hx
  exact ⟨fun _ _ ↦ .special hsc, .inl hsc⟩

/-- The facts the call reads are the release's; the bindings are kept whatever they are. -/
theorem getFacts_bind {f : Facts → HeapM Value} (hfb : KeepsBindings (getFacts >>= f))
    (hf : MakesValue r (f r.facts)) : MakesValue r (getFacts >>= f) := by
  refine ⟨fun base lo ↦ writesIn_getFacts_bind (hf.writes base lo), hfb, fun h v h' hs hb hx ↦ ?_⟩
  rw [exec_bind_of_ok exec_getFacts, hs.facts_eq] at hx
  exact hf.made h v h' hs hb hx

theorem ite {p : Prop} [Decidable p] (hx : MakesValue r x) (hy : MakesValue r y) :
    MakesValue r (if p then x else y) := by
  split
  · exact hx
  · exact hy

/-- A step that writes only what it hands out and keeps the bindings, before the call that makes
the value. -/
theorem after {z : HeapM α} {f : α → HeapM Value} (hz : ∀ base lo, WritesIn r base lo lo z)
    (hzb : KeepsBindings z) (hf : ∀ a, MakesValue r (f a)) : MakesValue r (z >>= f) := by
  refine ⟨fun base lo ↦ writesIn_bind (hz base lo) fun a ↦ (hf a).writes base lo,
    bindings_frame.keeps_bind hzb fun a ↦ (hf a).bindings, fun h v h' hs hb hx ↦ ?_⟩
  obtain ⟨a, h1, hz1, hf1⟩ := exec_bind_eq_ok hx
  have hk := hz _ h.next h hs rfl (Nat.le_refl _)
  rw [hz1] at hk
  obtain ⟨hshaped, hfresh⟩ :=
    (hf a).made h1 v h' (hs.of_sameArena hk.arena) (hb.of_classes_eq hk.classes_eq) hf1
  refine ⟨hshaped, hfresh.imp_right fun ⟨off, slot, hv, hfr⟩ ↦ ⟨off, slot, hv, ?_⟩⟩
  exact ⟨hfr.aligned, Nat.le_trans hk.next_le hfr.past, hfr.n_le, hfr.base_le, hfr.below,
    hfr.inside⟩

/-- A builder of a fresh slot whose value has, in every memory that agrees with the heap it
leaves below its bump pointer, the shape `hshape` gives. -/
theorem of_slot {n : Nat} (hslot : BuildsSlot r n x) (hbind : KeepsBindings x)
    (hshape : ∀ h v h', Sound h r → Booted h → exec h x = (.ok v, h') →
      ∀ m, h'.memory.AgreesBelow m h'.next → Shape r.facts m h'.symbols v) :
    MakesValue r x := by
  refine ⟨hslot.writes, hbind, fun h v h' hs hb hx ↦ ⟨hshape h v h' hs hb hx, ?_⟩⟩
  obtain ⟨off, slot, rfl, hfr⟩ := hslot.returns h v h' hs hx
  exact .inr ⟨off, slot, rfl, hfr.aligned, hfr.past, Nat.zero_le _, hfr.base_le, hfr.below,
    hfr.inside⟩

/-- A builder of an object of a type other than string, array and symbol. -/
theorem object {n : Nat} {t : TypeCode} {fr : Bool} (hslot : BuildsSlot r n x)
    (hhead : BuildsHeader r t fr x) (hbind : KeepsBindings x) (ht : t ∈ bootTypes)
    (hstr : t ≠ TypeCode.string) (hary : t ≠ TypeCode.array) (hsym : t ≠ TypeCode.symbol) :
    MakesValue r x :=
  of_slot hslot hbind fun _ _ _ hs hb hx m hm ↦
    .object (ObjectAt.of_built hslot hhead ht hs hb hx m hm) hstr hary hsym

end MakesValue

/-! ### The builders of samples -/

theorem makesValue_stringOf (n : Nat) (bytes : Unit → ByteArray) (hn : (bytes ()).size = n) :
    MakesValue r (stringOf n bytes) :=
  .of_slot (buildsSlot_stringOf n bytes hn) (bindings_frame.keeps_stringOf n bytes)
    fun _ _ _ hs _ hx m hm ↦ .string ((exec_stringOf_stable hs n bytes hn hx).2 m hm)

theorem makesValue_heapStringOf (n : Nat) (bytes : Unit → ByteArray)
    (hn : (bytes ()).size = n) : MakesValue r (heapStringOf n bytes) :=
  .of_slot (buildsSlot_heapStringOf n bytes hn) (bindings_frame.keeps_heapStringOf n bytes)
    fun _ _ _ hs _ hx m hm ↦ .string ((exec_heapStringOf_stable hs n bytes hn hx).2 m hm)

theorem makesValue_stringSample (s : ByteArray) (onHeap : Bool) :
    MakesValue r (stringSample s onHeap) :=
  .ite (makesValue_heapStringOf s.size _ rfl) (makesValue_stringOf s.size _ rfl)

theorem makesValue_arrayOf (n : Nat) (elems : Unit → List Value) (hn : (elems ()).length = n) :
    MakesValue r (arrayOf n elems) :=
  .of_slot (buildsSlot_arrayOf n elems hn) (bindings_frame.keeps_arrayOf n elems)
    fun _ _ _ hs _ hx m hm ↦ .array ((exec_arrayOf_stable hs n elems hn hx).2 m hm)

theorem makesValue_heapArrayOf (n : Nat) (elems : Unit → List Value)
    (hn : (elems ()).length = n) : MakesValue r (heapArrayOf n elems) :=
  .of_slot (buildsSlot_heapArrayOf n elems hn) (bindings_frame.keeps_heapArrayOf n elems)
    fun _ _ _ hs _ hx m hm ↦ .array ((exec_heapArrayOf_stable hs n elems hn hx).2 m hm)

/-- A dynamic symbol is a symbol object, bound to the identifier of its name. -/
theorem makesValue_dynamicSymbol (name : String) : MakesValue r (dynamicSymbol name) :=
  .of_slot (buildsSlot_dynamicSymbol name) (keepsBindings_dynamicSymbol name)
    fun _ _ _ hs hb hx m hm ↦ .symbol (ObjectAt.of_built (buildsSlot_dynamicSymbol name)
      (buildsHeader_dynamicSymbol r name) (by decide) hs hb hx m hm) (exec_dynamicSymbol_bound hx)

/-- A static symbol is an immediate, made after interning its name. -/
theorem makesValue_symbol (name : String) : MakesValue r (symbol name) := by
  unfold symbol
  exact .getFacts_bind (bindings_frame.keeps_symbol keepsBindings_internId name)
    (.after (fun _ _ ↦ writesIn_internId name) (keepsBindings_internId name) fun id ↦
      .pure_special (Release.isSpecialConst_symbol r id))

theorem makesValue_bignum (x : Int) : MakesValue r (bignum x) :=
  .object (buildsSlot_bignum x) (buildsHeader_bignum r x) (bindings_frame.keeps_bignum x)
    (by decide) (by decide) (by decide) (by decide)

/-- An integer is a fixnum, an immediate, or a bignum object. -/
theorem makesValue_integer (i : Int) : MakesValue r (integer i) := by
  unfold integer
  refine .ite (.getFacts_bind (bindings_frame.keeps_bind bindings_frame.keeps_getFacts fun _ ↦
    bindings_frame.keeps_pure _) (.pure_special ?_)) (makesValue_bignum i)
  have hmask : r.facts.specials.fixnumFlag &&& r.facts.specials.immediateMask =
      r.facts.specials.fixnumFlag := by
    cases r <;> decide
  exact Facts.specialConst_of_fixnum _ _ (isFixnum_fixnumOf r i) hmask

theorem makesValue_heapFloat (bits : UInt64) : MakesValue r (heapFloat bits) :=
  .object (buildsSlot_heapFloat bits) (buildsHeader_heapFloat r bits)
    (bindings_frame.keeps_heapFloat bits) (by decide) (by decide) (by decide) (by decide)

/-- A float is an immediate in the window of immediate floats, an object otherwise. -/
theorem makesValue_float (bits : UInt64) : MakesValue r (float bits) := by
  unfold float
  refine .getFacts_bind (bindings_frame.keeps_float bits) (.ite ?_ (makesValue_heapFloat bits))
  split
  · rename_i w hw
    exact .pure_special (Release.isSpecialConst_of_encode r hw)
  · exact makesValue_heapFloat bits

theorem makesValue_hash : MakesValue r hash :=
  .object buildsSlot_hash (buildsHeader_hash r) bindings_frame.keeps_hash (by decide) (by decide)
    (by decide) (by decide)

theorem makesValue_plainObject : MakesValue r plainObject :=
  .object buildsSlot_plainObject (buildsHeader_plainObject r) bindings_frame.keeps_plainObject
    (by decide) (by decide) (by decide) (by decide)

theorem makesValue_untypedData (data : UInt64) : MakesValue r (untypedData data) :=
  .object (buildsSlot_untypedData data) (buildsHeader_untypedData r data)
    (bindings_frame.keeps_untypedData data) (by decide) (by decide) (by decide) (by decide)

/-- A typed data sample: its data type record and, out of line, the buffer of its payload come
first, then the object. -/
theorem makesValue_typedSample (payload : ByteArray) (onHeap : Bool) :
    MakesValue r (typedSample payload onHeap) := by
  unfold typedSample
  refine .after (fun _ _ ↦ writesIn_dataType _) (bindings_frame.keeps_dataType _) fun typ ↦
    .ite ?_ ?_
  · exact .after (fun _ _ ↦ writesIn_buffer _) (bindings_frame.keeps_buffer _) fun buf ↦
      .object (buildsSlot_typedData typ buf) (buildsHeader_typedData r typ buf)
        (bindings_frame.keeps_typedData typ buf) (by decide) (by decide) (by decide) (by decide)
  · exact .object (buildsSlot_embeddedTypedData typ payload)
      (buildsHeader_embeddedTypedData r typ payload)
      (bindings_frame.keeps_embeddedTypedData typ payload) (by decide) (by decide) (by decide)
      (by decide)

end Heap

/-! ### Building the cases -/

namespace Conformance

open Heap

variable {r : Release} {α β : Type}

/-- A value made from the heap `h0`, in the heap `h`: a heap later than `h0`, where the value is
shaped, and a special constant or a slot handed out past the bump pointer of `h0`. -/
structure Made (r : Release) (h0 h : Heap) (v : Value) : Prop where
  later : Later h0 h
  shaped : Shaped r h v
  fresh : FreshValue r.facts h0.next h v

/-- Every run of `x` that succeeds with `a`, from a sound heap with a class for every type of boot
where `P` holds, leaves such a heap, where `Q a` holds. -/
def Advances (r : Release) (P : Heap → Prop) (x : BuildM α) (Q : α → Heap → Prop) : Prop :=
  ∀ h a h', Sound h r → Booted h → P h → x.run h = (.ok a, h') →
    Sound h' r ∧ Booted h' ∧ Q a h'

namespace Advances

variable {P P' : Heap → Prop} {Q Q' : α → Heap → Prop}

theorem of_pure {a : α} (hQ : ∀ h, P h → Q a h) : Advances r P (pure a) Q := by
  intro h a' h' hs hb hP hx
  rw [run_pure] at hx
  cases hx
  exact ⟨hs, hb, hQ h hP⟩

theorem throw {e : BuildError} : Advances r P (throw e : BuildM α) Q := by
  intro h a h' _ _ _ hx
  rw [run_throw] at hx
  cases hx

theorem bind {x : BuildM α} {f : α → BuildM β} {R : β → Heap → Prop} (hx : Advances r P x Q)
    (hf : ∀ a, Advances r (Q a) (f a) R) : Advances r P (x >>= f) R := by
  intro h b h' hs hb hP hrun
  rw [run_bind] at hrun
  rcases hr : x.run h with ⟨_ | a, h1⟩ <;> rw [hr] at hrun
  · cases hrun
  · obtain ⟨hs1, hb1, hQ⟩ := hx h a h1 hs hb hP hr
    exact hf a h1 b h' hs1 hb1 hQ hrun

theorem conseq {x : BuildM α} (hx : Advances r P x Q) (hP : ∀ h, P' h → P h)
    (hQ : ∀ a h, Q a h → Q' a h) : Advances r P' x Q' := by
  intro h a h' hs hb hP' hrun
  obtain ⟨hs', hb', hQa⟩ := hx h a h' hs hb (hP h hP') hrun
  exact ⟨hs', hb', hQ a h' hQa⟩

/-- A run may be followed from each heap where it can start. -/
theorem of_each {x : BuildM α} (hx : ∀ h0, P h0 → Advances r (fun h ↦ h = h0) x Q) :
    Advances r P x Q :=
  fun h a h' hs hb hP hrun ↦ hx h hP h a h' hs hb rfl hrun

/-- A step that reads the heap goes on from it, sound and with its classes. -/
theorem get_bind {f : Heap → BuildM α}
    (hf : ∀ h0, Sound h0 r → P h0 → Advances r (fun h ↦ h = h0) (f h0) Q) :
    Advances r P (get >>= f) Q := by
  intro h a h' hs hb hP hx
  rw [run_bind, run_get] at hx
  exact hf h hs hP h a h' hs hb rfl hx

/-- A length that is made leaves the heap as it was. -/
theorem of_fault {y : Except BuildError α} : Advances r P (fault y) (fun _ h ↦ P h) := by
  intro h a h' hs hb hP hx
  cases y with
  | error e => cases hx
  | ok a' =>
    cases hx
    exact ⟨hs, hb, hP⟩

/-- A heap call that makes a sample value makes it from the heap it starts on. -/
theorem onHeap {x : HeapM Value} (hx : MakesValue r x) (name : String) (h0 : Heap) :
    Advances r (fun h ↦ h = h0) (onHeap name x) (fun v h ↦ Made r h0 h v) := by
  rintro h v h' hs hb rfl hrun
  rw [run_onHeap] at hrun
  rcases hr : exec h x with ⟨_ | v', h1⟩ <;> rw [hr] at hrun
  · cases hrun
  · cases hrun
    have hk := hx.writes _ h.next h hs rfl (Nat.le_refl _)
    have hkb := hx.bindings h
    rw [hr] at hk hkb
    obtain ⟨hshaped, hfresh⟩ := hx.made _ _ _ hs hb hr
    exact ⟨hs.of_sameArena hk.arena, hb.of_classes_eq hk.classes_eq, ⟨hk, hkb⟩, hshaped, hfresh⟩

end Advances

/-- Every case whose value is built gets a value made from the heap it started on. Branches
that throw build nothing; a length is made without touching the heap. -/
theorem advances_buildValue (k : Case) (h0 : Heap) :
    Advances r (fun h ↦ h = h0) (buildValue k) (fun v h ↦ Made r h0 h v) := by
  unfold buildValue
  refine Advances.get_bind fun h1 hs1 hh1 ↦ ?_
  subst hh1
  rw [hs1.facts_eq]
  dsimp only
  split
  · split
    · rename_i s _
      refine Advances.of_pure fun h hh ↦ ?_
      subst hh
      exact ⟨Later.refl _, fun _ _ ↦ .special (s.isSpecialConst_word r),
        .inl (s.isSpecialConst_word r)⟩
    · exact Advances.throw
  · split
    · exact Advances.onHeap (makesValue_integer _) _ _
    · exact Advances.throw
  · split
    · exact Advances.onHeap (makesValue_integer _) _ _
    · exact Advances.throw
  · exact Advances.onHeap (makesValue_float _) _ _
  · split
    · exact Advances.onHeap (makesValue_stringSample _ _) _ _
    · exact Advances.of_fault.bind fun n ↦ Advances.onHeap
        (.ite (makesValue_heapStringOf n _ (size_fillerBytes n))
          (makesValue_stringOf n _ (size_fillerBytes n))) _ _
  · exact Advances.of_fault.bind fun n ↦ Advances.onHeap
      (.ite (makesValue_heapArrayOf n _ (by simp)) (makesValue_arrayOf n _ (by simp))) _ _
  · exact Advances.onHeap (makesValue_symbol _) _ _
  · exact Advances.onHeap (makesValue_dynamicSymbol _) _ _
  · exact Advances.onHeap makesValue_hash _ _
  · exact Advances.onHeap makesValue_plainObject _ _
  · exact Advances.onHeap (makesValue_untypedData 0) _ _
  · split
    · exact Advances.onHeap (makesValue_typedSample _ _) _ _
    · exact Advances.onHeap (makesValue_untypedData 0) _ _
  · exact Advances.throw

/-- Interning or freezing a value made from `h0`: a special constant faults, and a fresh slot
takes quiet flag bits in its header word. The write lies past the bump pointer of `h0`, so the
heap stays later than `h0`, and the value stays shaped. -/
theorem advances_flagValue {y : HeapM Value} {b : UInt64} (name : String) (v : Value)
    (h0 : Heap) (hy : ∀ h, Sound h r → exec h y = match exec h (orFlags v b) with
      | (.ok _, h') => (.ok v, h')
      | (.error e, h') => (.error e, h'))
    (hq : QuietBits r.facts b)
    (hstr : ∀ {w e n i}, StringHeader r.facts w e n i →
      ∃ i', StringHeader r.facts (w ||| b) e n i') :
    Advances r (fun h ↦ Made r h0 h v) (flagValue name r.facts v y)
      (fun v' h ↦ Made r h0 h v') := by
  intro h v' h' hs hb hm hrun
  unfold flagValue at hrun
  cases hsc : r.facts.isSpecialConst v
  · rw [hsc, if_neg Bool.false_ne_true, run_onHeap, hy h hs] at hrun
    obtain ⟨off, slot, rfl, hfr⟩ := hm.fresh.resolve_left (by rw [hsc]; exact Bool.false_ne_true)
    have hin := hfr.inside
    have hbelow := hfr.below
    have hslot := hfr.base_le
    obtain ⟨w, hw, hx⟩ := hs.exec_orFlags_slot (show off + 8 ≤ h.memory.size by omega) b
    rw [hx] at hrun
    cases hrun
    have hwrite : Confined h0.next h (h.withBytes off (wordBytes (w ||| b))) :=
      Confined.withBytes h hfr.past (by rw [wordBytes_size]; omega)
    refine ⟨hs.withBytes _ _, hb.of_classes_eq (classes_withBytes _ _ _),
      ⟨hm.later.confined.trans hwrite, by rw [symbols_withBytes]; exact hm.later.bindings⟩,
      hm.shaped.setFlags hs hsc rfl ⟨hfr.aligned, Nat.zero_le _, hfr.n_le, hslot, hbelow, hin⟩
        hw hq hstr, .inr ⟨off, slot, by rw [base_withBytes], ?_⟩⟩
    exact ⟨hfr.aligned, hfr.past, hfr.n_le, hslot, by rw [next_withBytes]; exact hbelow,
      by rw [size_withBytes]; exact hin⟩
  · rw [hsc, if_pos rfl, run_throw] at hrun
    cases hrun

/-- The freezing a case asks for, then its sample. -/
theorem advances_freezeSample (k : Case) (h0 : Heap) (v : Value) :
    Advances r (fun h ↦ Made r h0 h v)
      (do
        let v ← if k.frozen then flagValue k.name r.facts v (Heap.freeze v) else pure v
        pure (⟨k, v⟩ : Sample))
      (fun s h ↦ s.case = k ∧ Made r h0 h s.value) := by
  split
  · exact (advances_flagValue k.name v h0 (fun h hs ↦ exec_freeze_eq hs v)
      (Release.quietBits_freeze r) fun hw ↦
        ⟨_, hw.setFlags (Release.quietBits_freeze r) (Release.freeze_and_fstr r)⟩).bind
      fun _ ↦ Advances.of_pure fun _ hm ↦ ⟨rfl, hm⟩
  · dsimp only
    exact Advances.bind (Q := fun v h ↦ Made r h0 h v) (Advances.of_pure fun _ hm ↦ hm) fun _ ↦
      Advances.of_pure fun _ hm ↦ ⟨rfl, hm⟩

/-- Every case that is built gets a sample of itself, whose value is made from the heap the case
started on: interning and freezing keep the shape of what the heap call made. -/
theorem advances_buildCase (k : Case) (h0 : Heap) :
    Advances r (fun h ↦ h = h0) (buildCase k) (fun s h ↦ s.case = k ∧ Made r h0 h s.value) := by
  unfold buildCase
  refine (advances_buildValue k h0).bind fun v ↦ Advances.get_bind fun h1 hs1 hm1 ↦ ?_
  rw [hs1.facts_eq]
  dsimp only
  split
  · rename_i hint
    simp only [Bool.and_eq_true, bne_iff_ne, ne_eq] at hint
    refine Advances.bind (Q := fun v h ↦ Made r h0 h v) ?_ (advances_freezeSample k h0)
    exact (advances_flagValue k.name v h0 (fun h hs ↦ exec_internSample_eq hs hint.2 v)
      (Release.quietBits_intern r) fun hw ↦ ⟨true, hw.intern (Release.stringBits r) hint.2⟩).conseq
      (fun h hh ↦ hh ▸ hm1) fun _ _ hq ↦ hq
  · exact Advances.bind (Q := fun v h ↦ Made r h0 h v) (Advances.of_pure fun h hh ↦ hh ▸ hm1)
      (advances_freezeSample k h0)

/-- Building cases in turn: every sample built is of its case, in order, and its value is shaped
in the heap the last case leaves. By induction on the cases: a value made stays shaped over the
cases after it, which lead to a later heap. -/
theorem advances_mapM_buildCase (cs : List Case) (h0 : Heap) :
    Advances r (fun h ↦ h = h0) (cs.mapM buildCase)
      (fun ss h ↦ Later h0 h ∧ ss.map Sample.case = cs ∧ ∀ s ∈ ss, Shaped r h s.value) := by
  induction cs generalizing h0 with
  | nil =>
    rw [List.mapM_nil]
    refine Advances.of_pure fun h hh ↦ ?_
    subst hh
    exact ⟨Later.refl _, rfl, fun _ hs ↦ absurd hs List.not_mem_nil⟩
  | cons k rest ih =>
    rw [List.mapM_cons]
    refine (advances_buildCase k h0).bind fun s ↦ Advances.of_each fun h1 ⟨hk, hm⟩ ↦ ?_
    refine (ih h1).bind fun ss ↦ Advances.of_pure fun h ⟨hl, hcases, hss⟩ ↦ ?_
    refine ⟨hm.later.trans hl, by rw [List.map_cons, hk, hcases], fun s' hs' ↦ ?_⟩
    rcases List.mem_cons.mp hs' with rfl | hs'
    · exact hm.shaped.of_later hl
    · exact hss s' hs'

/-- Every sample of a corpus built on a sound heap with a class for every type of boot is of its
case, in case order, and has its shape in the heap the build leaves, which is sound. -/
theorem build_samples_shaped (c : Corpus) {h h' : Heap} {samples : List Sample}
    (hs : Sound h r) (hb : Booted h) (hx : c.build.run h = (.ok samples, h')) :
    Sound h' r ∧ samples.map Sample.case = c.cases ∧
      ∀ s ∈ samples, Shape r.facts h'.memory h'.symbols s.value := by
  obtain ⟨hs', -, -, hcases, hss⟩ := advances_mapM_buildCase c.cases h h samples h' hs hb rfl hx
  exact ⟨hs', hcases, fun s hsm ↦ hss s hsm _ (AgreesBelow.refl _ _)⟩

end Conformance

end RubyLayout
