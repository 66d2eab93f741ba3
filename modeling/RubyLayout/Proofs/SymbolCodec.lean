import RubyLayout.Proofs.Integers

/-!
# Static symbols

A static symbol keeps its identifier above the low `specialShift` bits of the word and the
symbol tag in those bits: `idToSymbol` shifts the identifier up and sets the tag, `symbolId`
shifts it back down. Two tests decide which words are static symbols. The classifier masks the
low bits with `~~~(~~~0 <<< shift)`, the heap with `(1 <<< shift) - 1`; for every shift, shifts
past the width of a word included, the two masks are the same word (`symbolTagMask_eq`), so the
classifier and the heap take the same words for static symbols and read the same identifier
from them.

Encoding loses the top `shift` bits of the identifier and nothing else: decoding gives the
identifier back modulo `2^(64 - shift)` (`toNat_symbolId_idToSymbol`), and encoding what a
static symbol carries gives the symbol back (`idToSymbol_symbolId`). On a release the encoded
word has the static symbol's kind and no other, so it is never `nil`, `true`, the undefined
marker, a fixnum or a flonum, under either set of special constants.

Main statement: `static_symbol_codec`.
-/

set_option autoImplicit false
set_option relaxedAutoImplicit false

namespace RubyLayout

/-- Below the width of a word, shifting left keeps the bits that stay inside it. -/
theorem Word.toNat_shl_of_lt (x : UInt64) {s : UInt64} (hs : s < 64) :
    (Word.shl x s).toNat = x.toNat % 2 ^ (64 - s.toNat) * 2 ^ s.toNat := by
  have hk : s.toNat < 64 := UInt64.lt_iff_toNat_lt.mp hs
  have hsplit : 2 ^ 64 = 2 ^ (64 - s.toNat) * 2 ^ s.toNat := by
    rw [← Nat.pow_add, Nat.sub_add_cancel (Nat.le_of_lt hk)]
  rw [Word.shl_of_lt hs, UInt64.toNat_shiftLeft, Nat.mod_eq_of_lt hk, Nat.shiftLeft_eq, hsplit,
    Nat.mul_mod_mul_right]

/-- Below the width of a word, shifting right divides by a power of two. -/
theorem Word.toNat_shr_of_lt (x : UInt64) {s : UInt64} (hs : s < 64) :
    (Word.shr x s).toNat = x.toNat / 2 ^ s.toNat := by
  have hk : s.toNat < 64 := UInt64.lt_iff_toNat_lt.mp hs
  rw [Word.shr, if_pos hs, UInt64.toNat_shiftRight, Nat.mod_eq_of_lt hk, Nat.shiftRight_eq_div_pow]

namespace Facts

variable (f : Facts)

/-! ### The two masks of the tag bits -/

/-- Below a shift of 64, the classifier's mask is the number `2^shift - 1`. -/
theorem toNat_symbolTagMask (hs : f.specials.specialShift < 64) :
    f.symbolTagMask.toNat = 2 ^ f.specials.specialShift.toNat - 1 := by
  have hk : f.specials.specialShift.toNat < 64 := UInt64.lt_iff_toNat_lt.mp hs
  have hsize : UInt64.size = 2 ^ 64 := rfl
  have hpos : 1 ≤ 2 ^ f.specials.specialShift.toNat := Nat.one_le_two_pow
  have hle : 2 ^ f.specials.specialShift.toNat ≤ 2 ^ 63 := Nat.pow_le_pow_right (by decide) (by omega)
  rw [symbolTagMask, Word.shl_of_lt hs, UInt64.toNat_not, UInt64.toNat_shiftLeft, UInt64.toNat_not,
    UInt64.toNat_zero, Nat.mod_eq_of_lt hk, Nat.shiftLeft_eq, hsize]
  generalize 2 ^ f.specials.specialShift.toNat = P at hpos hle ⊢
  omega

/-- The classifier's mask `~~~(~~~0 <<< shift)` is the heap's mask `(1 <<< shift) - 1`, for
every shift: past the width both are all ones. -/
theorem symbolTagMask_eq : f.symbolTagMask = Word.shl 1 f.specials.specialShift - 1 := by
  by_cases hs : f.specials.specialShift < 64
  · have hk : f.specials.specialShift.toNat < 64 := UInt64.lt_iff_toNat_lt.mp hs
    have hone : (Word.shl 1 f.specials.specialShift).toNat = 2 ^ f.specials.specialShift.toNat := by
      rw [Word.toNat_shl_of_lt 1 hs, UInt64.toNat_one, Nat.one_mod_eq_one.mpr (by
        have := Nat.one_lt_two_pow (n := 64 - f.specials.specialShift.toNat) (by omega)
        omega), Nat.one_mul]
    have hle : 1 ≤ Word.shl 1 f.specials.specialShift := by
      rw [UInt64.le_iff_toNat_le, hone, UInt64.toNat_one]
      exact Nat.one_le_two_pow
    apply UInt64.toNat_inj.mp
    rw [toNat_symbolTagMask f hs, UInt64.toNat_sub_of_le _ _ hle, hone, UInt64.toNat_one]
  · have hge : 64 ≤ f.specials.specialShift := UInt64.not_lt.mp hs
    rw [symbolTagMask, Word.shl_of_le _ _ hge, Word.shl_of_le _ _ hge]
    decide

/-- The classifier's test of a static symbol is the heap's. -/
theorem isStaticSymbol_iff_heapMask (v : Value) :
    f.isStaticSymbol v = true ↔
      v &&& (Word.shl 1 f.specials.specialShift - 1) = f.specials.symbolFlag := by
  rw [isStaticSymbol, symbolTagMask_eq, beq_iff_eq]

/-- Whether a word is a static symbol, and which identifier it carries, depend on the special
constants alone. -/
theorem isStaticSymbol_congr {g : Facts} (hg : f.specials = g.specials) (v : Value) :
    f.isStaticSymbol v = g.isStaticSymbol v := by
  simp only [isStaticSymbol, symbolTagMask, hg]

theorem symbolId_congr {g : Facts} (hg : f.specials = g.specials) (v : Value) :
    f.symbolId v = g.symbolId v := by
  simp only [symbolId, hg]

/-! ### Encoding and decoding -/

/-- Tagging the identifier a static symbol carries gives the symbol back, for every shift. -/
theorem idToSymbol_symbolId {v : Value} (h : f.isStaticSymbol v = true) :
    f.idToSymbol (f.symbolId v) = v := by
  have htag : v &&& f.symbolTagMask = f.specials.symbolFlag := beq_iff_eq.mp h
  rw [idToSymbol, symbolId, ← htag]
  by_cases hs : f.specials.specialShift < 64
  · have hmask := toNat_symbolTagMask f hs
    have hk : f.specials.specialShift.toNat < 64 := UInt64.lt_iff_toNat_lt.mp hs
    have hpos : 0 < 2 ^ f.specials.specialShift.toNat := Nat.two_pow_pos _
    have hlow : (Word.shl (Word.shr v f.specials.specialShift) f.specials.specialShift).toNat =
        v.toNat / 2 ^ f.specials.specialShift.toNat * 2 ^ f.specials.specialShift.toNat := by
      rw [Word.toNat_shl_of_lt _ hs, Word.toNat_shr_of_lt _ hs, Nat.mod_eq_of_lt]
      rw [Nat.div_lt_iff_lt_mul hpos, ← Nat.pow_add, Nat.sub_add_cancel (Nat.le_of_lt hk)]
      exact v.toNat_lt
    apply UInt64.toNat_inj.mp
    rw [Bits.toNat_or_of_lt _ _ (k := f.specials.specialShift.toNat)
        (by rw [hlow]; exact Nat.mul_mod_left _ _)
        (by rw [Bits.toNat_and_lowMask v _ hmask]; exact Nat.mod_lt _ hpos),
      hlow, Bits.toNat_and_lowMask v _ hmask]
    exact Nat.div_add_mod' _ _
  · have hge : 64 ≤ f.specials.specialShift := UInt64.not_lt.mp hs
    rw [Word.shr_of_le _ _ hge, Word.shl_of_le _ _ hge, symbolTagMask, Word.shl_of_le _ _ hge]
    simp

section Encoding

variable {f} (hs : f.specials.specialShift < 64)
  (hflag : f.specials.symbolFlag.toNat < 2 ^ f.specials.specialShift.toNat)
include hs hflag

/-- The number of an encoded identifier: its low `64 - shift` bits above the tag. -/
theorem toNat_idToSymbol (id : SymbolId) :
    (f.idToSymbol id).toNat = id.toNat % 2 ^ (64 - f.specials.specialShift.toNat) *
      2 ^ f.specials.specialShift.toNat + f.specials.symbolFlag.toNat := by
  rw [idToSymbol, Bits.toNat_or_of_lt _ _ (k := f.specials.specialShift.toNat)
    (by rw [Word.toNat_shl_of_lt _ hs]; exact Nat.mul_mod_left _ _) hflag,
    Word.toNat_shl_of_lt _ hs]

theorem isStaticSymbol_idToSymbol (id : SymbolId) : f.isStaticSymbol (f.idToSymbol id) = true := by
  rw [isStaticSymbol, beq_iff_eq, Bits.and_lowMask_eq_iff (toNat_symbolTagMask f hs),
    toNat_idToSymbol hs hflag, Nat.mul_comm, Nat.mul_add_mod, Nat.mod_eq_of_lt hflag]

/-- Decoding an encoded identifier loses its top `shift` bits and nothing else. -/
theorem toNat_symbolId_idToSymbol (id : SymbolId) :
    (f.symbolId (f.idToSymbol id)).toNat = id.toNat % 2 ^ (64 - f.specials.specialShift.toNat) := by
  rw [symbolId, Word.toNat_shr_of_lt _ hs, toNat_idToSymbol hs hflag, Nat.mul_comm,
    Nat.mul_add_div (Nat.two_pow_pos _), Nat.div_eq_of_lt hflag, Nat.add_zero]

end Encoding

end Facts

/-- A static symbol is decoded by the heap without its table, and the heap is left as it was. -/
theorem Heap.exec_sym2Id_of_static (h : Heap) {v : Value} (hst : h.facts.isStaticSymbol v = true) :
    Heap.exec h (Heap.sym2Id v) = (.ok (h.facts.symbolId v), h) := by
  have hmask := (h.facts.isStaticSymbol_iff_heapMask v).mp hst
  unfold Heap.sym2Id
  rw [Heap.exec_bind_of_ok Heap.exec_get]
  dsimp only
  rw [if_pos hmask]
  rfl

/-- A static symbol is decoded by the accessors without asking the host. -/
theorem Api.sym2Id_of_static (api : Api) {v : Value} (hst : api.layout.isStaticSymbol v = true) :
    api.sym2Id v = pure (api.layout.symbolId v) :=
  if_pos hst

/-! ### Static symbols of the releases -/

namespace Release

theorem specialShift_eq (r : Release) : r.facts.specials.specialShift = 8 := by
  obtain ⟨n, u, hs, -⟩ := specials_eq r
  rw [hs]
  rfl

theorem symbolFlag_eq (r : Release) : r.facts.specials.symbolFlag = 0xc := by
  obtain ⟨n, u, hs, -⟩ := specials_eq r
  rw [hs]
  rfl

theorem specialShift_lt (r : Release) : r.facts.specials.specialShift < 64 := by
  rw [specialShift_eq]
  decide

theorem symbolFlag_lt (r : Release) :
    r.facts.specials.symbolFlag.toNat < 2 ^ r.facts.specials.specialShift.toNat := by
  rw [specialShift_eq, symbolFlag_eq]
  decide

variable (r : Release) {v : Value} (hst : r.facts.isStaticSymbol v = true)
include hst

/-- A static symbol of a release has no other kind. -/
theorem isKind_of_static (k : WordKind) : r.facts.isKind v k = true ↔ k = .staticSymbol := by
  constructor
  · intro hk
    exact isKind_unique r hk hst
  · rintro rfl
    exact hst

/-- A static symbol of a release is no heap reference. -/
theorem isSpecialConst_of_static : r.facts.isSpecialConst v = true := by
  cases hsc : r.facts.isSpecialConst v
  · have hheap : r.facts.isKind v .heap = true := by simp [Facts.isKind, hsc]
    exact absurd ((isKind_of_static r hst .heap).mp hheap) (by decide)
  · rfl

end Release

namespace Accessors

variable (a : Accessors) (m : Memory) {v : Value} (hst : a.layout.isStaticSymbol v = true)
include hst

/-- A static symbol has the symbol type in either build, whatever memory holds. -/
theorem rbType_of_static : a.rbType m v = .ok TypeCode.symbol :=
  rbType_of_isKind a m (fun k hk ↦ (Release.isKind_of_static a.release hst k).mp hk) hst rfl

theorem symbolP_of_static : a.symbolP m v = .ok true := by
  have hsc : a.layout.isSpecialConst v = true := Release.isSpecialConst_of_static a.release hst
  simp only [symbolP, hsc, hst, Bool.not_true, Bool.false_eq_true, if_false]
  rfl

theorem dynamicSymP_of_static : a.dynamicSymP m v = .ok false := by
  have hsc : a.layout.isSpecialConst v = true := Release.isSpecialConst_of_static a.release hst
  simp only [dynamicSymP, hsc, Bool.not_true, Bool.false_eq_true, if_false]
  rfl

end Accessors

/-- The static symbol codec of every release. The classifier's mask of the tag bits is the
heap's, for any facts. The word of every identifier is a static symbol and of no other kind, a
special constant, of the symbol type, a symbol and no dynamic one, in either build and whatever
memory holds, and the accessors decode it, without the host, to the identifier modulo
`2^(64 - shift)`. Every static symbol is the word of the identifier it carries, and a heap with
the same special constants decodes it to that identifier too, leaving the heap as it was. -/
theorem static_symbol_codec (api : Api) :
    (∀ f : Facts, f.symbolTagMask = Word.shl 1 f.specials.specialShift - 1) ∧
    (∀ id : SymbolId,
      (∀ k, api.layout.isKind (api.layout.idToSymbol id) k = true ↔ k = .staticSymbol) ∧
      api.layout.isStaticSymbol (api.layout.idToSymbol id) = true ∧
      api.layout.isSpecialConst (api.layout.idToSymbol id) = true ∧
      (∀ m, api.raw.rbType m (api.layout.idToSymbol id) = .ok TypeCode.symbol ∧
        api.raw.symbolP m (api.layout.idToSymbol id) = .ok true ∧
        api.raw.dynamicSymP m (api.layout.idToSymbol id) = .ok false) ∧
      api.sym2Id (api.layout.idToSymbol id) =
        pure (id % 2 ^ (64 - api.layout.specials.specialShift.toNat))) ∧
    (∀ v, api.layout.isStaticSymbol v = true →
      api.layout.idToSymbol (api.layout.symbolId v) = v ∧
      ∀ h : Heap, h.facts.specials = api.layout.specials →
        Heap.exec h (Heap.sym2Id v) = (.ok (api.layout.symbolId v), h)) := by
  have hs : api.layout.specials.specialShift < 64 := Release.specialShift_lt api.release
  have hflag : api.layout.specials.symbolFlag.toNat < 2 ^ api.layout.specials.specialShift.toNat :=
    Release.symbolFlag_lt api.release
  refine ⟨Facts.symbolTagMask_eq, fun id ↦ ?_, fun v hst ↦ ?_⟩
  · have hst : api.layout.isStaticSymbol (api.layout.idToSymbol id) = true :=
      Facts.isStaticSymbol_idToSymbol hs hflag id
    refine ⟨Release.isKind_of_static api.release hst, hst,
      Release.isSpecialConst_of_static api.release hst,
      fun m ↦ ⟨api.raw.rbType_of_static m hst, api.raw.symbolP_of_static m hst,
        api.raw.dynamicSymP_of_static m hst⟩, ?_⟩
    rw [api.sym2Id_of_static hst]
    congr 1
    apply UInt64.toNat_inj.mp
    rw [Facts.toNat_symbolId_idToSymbol hs hflag, UInt64.toNat_mod]
    simp only [Api.layout, Release.specialShift_eq]
    rfl
  · refine ⟨api.layout.idToSymbol_symbolId hst, fun h hh ↦ ?_⟩
    have hhst : h.facts.isStaticSymbol v = true := by
      rw [h.facts.isStaticSymbol_congr hh]
      exact hst
    rw [Heap.exec_sym2Id_of_static h hhst, h.facts.symbolId_congr hh]

end RubyLayout
