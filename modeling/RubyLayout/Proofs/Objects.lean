import RubyLayout.Api.Basic
import RubyLayout.Proofs.WordKinds
import RubyLayout.Proofs.HeapSteps
import RubyLayout.Proofs.Decoders

/-!
# Objects of the arena seen through the accessors

The builders leave objects at word-aligned addresses of the arena, and the accessors of every
release check and read them in the same few ways. This module states those readings once:

* an aligned address above the first word is a heap reference for every release
  (`Release.isSpecialConst_eq_false`);
* a word held in memory is what `wordAt` and `longAt` read (`Memory.wordAt_of_holdsBytes`,
  `Accessors.longAt_of_holdsBytes`), and a length below `2^63` is its own signed reading
  (`Word.signed_toUInt64`);
* the header type of a heap reference comes from its header word, so the assertions of the
  debug build and the requirements of the checked tier pass on an object of the wanted type
  (`Accessors.assertType_eq_ok`, `Api.requireType_eq_ok`), and a call through the tier is then
  the raw call (`Api.tier_eq_raw`);
* a view of held bytes reads them (`Api.view_of_holdsBytes`).
-/

set_option autoImplicit false
set_option relaxedAutoImplicit false

namespace RubyLayout

open Memory

/-! ### Words of the arena -/

/-- An aligned address above the first word is a heap reference for every release. -/
theorem Release.isSpecialConst_eq_false (r : Release) {v : Value} (h8 : v.toNat % 8 = 0)
    (hbig : 8 < v.toNat) : r.facts.isSpecialConst v = false := by
  obtain ⟨N, U, hNU, hclass⟩ := Release.exists_kindClass r
  have hheap : r.facts.isKind v .heap = true := (hclass v .heap).mpr ⟨h8, by omega, by omega⟩
  simpa [Facts.isKind] using hheap

/-- A word below `2^63` is its own signed reading. -/
theorem Word.signed_toUInt64 {n : Nat} (hn : n < 2 ^ 63) : Word.signed n.toUInt64 = n := by
  exact Int64.toInt_ofNat_of_lt hn

theorem Word.shl_of_lt {x n : UInt64} (h : n < 64) : Word.shl x n = x <<< n := if_pos h

theorem Memory.wordAt_of_holdsBytes {m : Memory} {off : Nat} {w a : UInt64}
    (hb : HoldsBytes m off (Memory.wordBytes w)) (ha : a.toNat = m.base.toNat + off) :
    m.wordAt a = .ok w := by
  unfold Memory.wordAt
  rw [readWord_of_holdsBytes hb ha]

theorem Accessors.longAt_of_holdsBytes {m : Memory} {off : Nat} {v k w : UInt64}
    (hb : HoldsBytes m off (Memory.wordBytes w)) (ha : (v + k).toNat = m.base.toNat + off) :
    Accessors.longAt m v k = .ok (Word.signed w) := by
  unfold Accessors.longAt
  rw [Memory.wordAt_of_holdsBytes hb ha]
  rfl

/-- An aligned offset of an arena is the address of a heap reference: the base is page-aligned
and past the first page. -/
theorem Release.isSpecialConst_arena (r : Release) {base : UInt64} (hb : Heap.ArenaBase base)
    {off : Nat} (hoff : off % 8 = 0) (hfit : off ≤ Heap.mapLimit) :
    r.facts.isSpecialConst (base + off.toUInt64) = false := by
  have haddr := hb.toNat_add_off hfit
  have hal := hb.aligned
  have hpage := hb.pageSize_le
  unfold pageSize at hal hpage
  apply Release.isSpecialConst_eq_false r
  · rw [haddr]
    omega
  · rw [haddr]
    omega

/-- Bytes held at an offset of an arena lie at the address of that offset. -/
theorem Memory.toNat_arena_add {m : Memory} (hbase : Heap.ArenaBase m.base)
    (hmap : m.mapped ≤ Heap.mapLimit) {off : Nat} {k : UInt64} {b : ByteArray}
    (hb : HoldsBytes m (off + k.toNat) b) :
    (m.base + off.toUInt64 + k).toNat = m.base.toNat + (off + k.toNat) := by
  have hfit := hb.1
  exact hbase.toNat_add (by omega)

/-- An aligned offset of the arena holding a header word is a heap reference whose flags every
build reads as that word. -/
theorem Accessors.flags_of_holdsBytes (r : Release) (debug : Bool) {m : Memory} {off : Nat}
    {w : UInt64} (hbase : Heap.ArenaBase m.base) (hmap : m.mapped ≤ Heap.mapLimit)
    (hheader : HoldsBytes m off (Memory.wordBytes w)) (hoff : off % 8 = 0) :
    r.facts.isSpecialConst (m.base + off.toUInt64) = false ∧
      (Accessors.mk r debug).flags m (m.base + off.toUInt64) = .ok w := by
  have hfit := hheader.1
  refine ⟨Release.isSpecialConst_arena r hbase hoff (by omega), ?_⟩
  unfold Accessors.flags
  rw [Accessors.layout, Release.flagsOffset_eq]
  have h0 : HoldsBytes m (off + (0 : UInt64).toNat) (Memory.wordBytes w) := hheader
  exact Memory.wordAt_of_holdsBytes hheader (Memory.toNat_arena_add hbase hmap h0)

/-! ### Header checks -/

namespace Accessors

variable {a : Accessors} {m : Memory} {v w : Value}

theorem assertHeap_eq_ok (hsc : a.layout.isSpecialConst v = false) (op : String) :
    a.assertHeap op v = .ok () := by
  simp [assertHeap, assert, hsc]

/-- The header type of a heap reference is read from its header word. -/
theorem builtinType_eq (hsc : a.layout.isSpecialConst v = false)
    (hw : a.flags m v = .ok w) :
    a.builtinType m v = .ok ⟨(w &&& a.layout.header.typeMask).toUInt32⟩ := by
  unfold builtinType
  rw [assertHeap_eq_ok hsc, ok_bind, hw, ok_bind]
  rfl

theorem rbType_eq (hsc : a.layout.isSpecialConst v = false) (hw : a.flags m v = .ok w) :
    a.rbType m v = .ok ⟨(w &&& a.layout.header.typeMask).toUInt32⟩ := by
  unfold rbType
  rw [hsc]
  exact builtinType_eq hsc hw

/-- The type assertion passes on a heap object of the wanted type. -/
theorem assertType_eq_ok (hsc : a.layout.isSpecialConst v = false) (hw : a.flags m v = .ok w)
    {want : TypeCode} (ht : (⟨(w &&& a.layout.header.typeMask).toUInt32⟩ : TypeCode) = want)
    (op : String) : a.assertType op m v want = .ok () := by
  unfold assertType
  cases a.debug
  · rfl
  · simp only [if_true]
    rw [assertHeap_eq_ok hsc, ok_bind, builtinType_eq hsc hw, ok_bind,
      if_neg (fun hne ↦ hne ht)]
    rfl

end Accessors

namespace Api

variable {m : Memory} {v w : Value}

/-- The checked tier requires nothing more of a heap object of the wanted type. -/
theorem requireType_eq_ok (api : Api) (hsc : api.layout.isSpecialConst v = false)
    (hw : api.raw.flags m v = .ok w) {want : TypeCode}
    (ht : (⟨(w &&& api.layout.header.typeMask).toUInt32⟩ : TypeCode) = want) (op : String) :
    api.requireType m op v want = .ok () := by
  unfold requireType requireHeap
  rw [if_neg (by rw [hsc]; exact Bool.false_ne_true), pure_bind,
    Accessors.builtinType_eq (a := api.raw) hsc hw, Accessors.ok_bind,
    if_neg (fun hne ↦ hne ht)]
  rfl

/-! ### Calls through the tier and views -/

/-- A call through the tier is the raw call once the precondition the checked tier verifies
holds. -/
theorem tier_eq_raw {α : Type} (c : Bool) {pre : Access Unit} (hpre : pre = .ok ())
    (x : Access α) : (if c = true then pre >>= fun _ ↦ x else x) = x := by
  cases c
  · rfl
  · rw [if_pos rfl, hpre]
    rfl

/-- A view of held bytes inside the address space reads them. -/
theorem view_of_holdsBytes {m : Memory} {off : Nat} {b : ByteArray} {p : UInt64}
    (hb : HoldsBytes m off b) (ha : p.toNat = m.base.toNat + off) (hp : p ≠ 0)
    (hroom : p.toNat + b.size ≤ 2 ^ 64) {n : Int} {size : Nat} (hn : 0 ≤ n)
    (hsize : n.toNat * size = b.size) : view m p n size = .ok b := by
  have hpow : Nat.pow 2 64 = 2 ^ 64 := rfl
  have hlt := p.toNat_lt
  have hp0 : p.toNat ≠ 0 := fun h0 ↦ hp (UInt64.toNat_inj.mp (h0.trans UInt64.toNat_zero.symm))
  unfold view
  rw [if_neg (by omega)]
  dsimp only
  rw [hsize, if_neg hp, hpow, if_neg (by omega), readBytes_of_holdsBytes hb ha]

end Api

end RubyLayout
