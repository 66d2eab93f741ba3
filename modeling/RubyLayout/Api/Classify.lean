import RubyLayout.Facts.Basic
import RubyLayout.TypeCode
import RubyLayout.Value.Word

/-!
# Classifying words

Which kind of value a word is depends only on its low bits and on the layout's special
constants, so these tests read no memory:

* a word is *falsy* when clearing the bits of `nil` leaves nothing, which holds for `false` and
  `nil` only (`truthy` is the negation);
* a word is *immediate* when a bit of the immediate mask is set;
* a *special constant* is an immediate or a falsy word: everything but a heap reference;
* a fixnum has the fixnum bit, a flonum (only where the layout has them) the flonum tag under
  its mask, a static symbol the symbol tag in its low `specialShift` bits.

Main statements: `specialConst_of_fixnum`, a fixnum is never a heap reference, and
`specialConst_nil`, neither is `nil` of any layout.
-/

set_option autoImplicit false

namespace RubyLayout

namespace Facts

/-- Whether a word is neither `false` nor `nil`. -/
def truthy (f : Facts) (v : Value) : Bool := v &&& ~~~f.specials.qnil != 0

/-- Whether a word is `nil`. -/
def isNil (f : Facts) (v : Value) : Bool := v == f.specials.qnil

/-- Whether a word carries an immediate tag. -/
def isImmediate (f : Facts) (v : Value) : Bool := v &&& f.specials.immediateMask != 0

/-- Whether a word is not a heap reference: an immediate, `nil` or `false`. -/
def isSpecialConst (f : Facts) (v : Value) : Bool := f.isImmediate v || !f.truthy v

/-- Whether a word is a fixnum. -/
def isFixnum (f : Facts) (v : Value) : Bool := v &&& f.specials.fixnumFlag != 0

/-- The mask of the low `specialShift` bits, all bits when the shift is 64 or more. -/
def symbolTagMask (f : Facts) : UInt64 := ~~~(Word.shl (~~~0) f.specials.specialShift)

/-- Whether a word is a static symbol. -/
def isStaticSymbol (f : Facts) (v : Value) : Bool := v &&& f.symbolTagMask == f.specials.symbolFlag

/-- Whether a word is a flonum; never on layouts without them. -/
def isFlonum (f : Facts) (v : Value) : Bool :=
  f.flonum && v &&& f.specials.flonumMask == f.specials.flonumFlag

/-- The type of an immediate or special constant, by its tag: `false`, `nil`, `true`, the
undefined marker, fixnum, static symbol, flonum, in this order of tests; `none` when no test
holds. -/
def immediateType? (f : Facts) (v : Value) : Option TypeCode :=
  if v == f.specials.qfalse then some TypeCode.false
  else if v == f.specials.qnil then some TypeCode.nil
  else if v == f.specials.qtrue then some TypeCode.true
  else if v == f.specials.qundef then some TypeCode.undef
  else if f.isFixnum v then some TypeCode.fixnum
  else if f.isStaticSymbol v then some TypeCode.symbol
  else if f.isFlonum v then some TypeCode.float
  else none

/-- The word of the static symbol of an identifier. -/
def idToSymbol (f : Facts) (id : SymbolId) : Value :=
  Word.shl id f.specials.specialShift ||| f.specials.symbolFlag

/-- The identifier a static symbol carries. -/
def symbolId (f : Facts) (v : Value) : SymbolId := Word.shr v f.specials.specialShift

theorem specialConst_of_fixnum (f : Facts) (v : Value) (h : f.isFixnum v = true)
    (hmask : f.specials.fixnumFlag &&& f.specials.immediateMask = f.specials.fixnumFlag) :
    f.isSpecialConst v = true := by
  simp only [isFixnum, bne_iff_ne, ne_eq] at h
  simp only [isSpecialConst, isImmediate, Bool.or_eq_true, bne_iff_ne, ne_eq]
  left
  intro hz
  apply h
  rw [← hmask, ← UInt64.and_assoc, UInt64.and_comm v, UInt64.and_assoc, hz, UInt64.and_zero]

theorem specialConst_nil (f : Facts) : f.isSpecialConst f.specials.qnil = true := by
  simp [isSpecialConst, truthy]

end Facts

end RubyLayout
