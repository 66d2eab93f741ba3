import RubyLayout.Heap.Build
import RubyLayout.Binary64.Round
import RubyLayout.Binary64.Text

/-!
# Conversions the heap answers as a host

The accessors leave a few conversions to their host, which needs the heap: promoting a
machine integer that no fixnum holds to a bignum, reading an integer out of a number object,
and finding the identifier of a dynamic symbol.

* `num2Long` reads fixnums by an arithmetic shift, floats by truncation toward zero (a float
  outside `[-2^63, 2^63)` is a range error, a NaN reads as the smallest integer), and bignums
  the heap built when they fit 64 signed bits; anything else is not an integer.
* `num2ULong` reads the same, and also bignums up to `2^64 - 1`; a negative number down to
  `-2^63` wraps around.
* `sym2Id` decodes a static symbol and looks a dynamic one up in the symbol table.

The failures are range errors naming the value and the reason.
-/

set_option autoImplicit false

namespace RubyLayout

namespace Heap

/-- A bignum for a signed machine integer. -/
def int2Big (i : Int) : HeapM Value := bignum i

/-- A bignum for an unsigned machine integer. -/
def uint2Big (u : UInt64) : HeapM Value := bignum u.toNat

/-- Whether a word carries the fixnum tag. -/
def isFixnum (f : Facts) (v : Value) : Bool := v &&& f.specials.fixnumFlag != 0

/-- The integer a fixnum tags: the word shifted right by one, keeping the sign. -/
def fixnumValue (v : Value) : Int := Int.shiftRight (Word.signed v) 1

/-- The integer a float truncates to, or why it has none. -/
def floatToLong (v : Value) (bits : UInt64) : Except HeapError Int :=
  match Binary64.truncate? bits with
  | some t =>
    if t < longMin ∨ t > longMax then
      .error (.range v ("float " ++ Binary64.text bits ++ " out of range of integer"))
    else .ok t
  | none =>
    if Binary64.isNaN bits then .ok longMin
    else .error (.range v ("float " ++ Binary64.text bits ++ " out of range of integer"))

/-- The signed integer a number holds. -/
def num2Long (v : Value) : HeapM Int := do
  let h ← get
  if isFixnum h.facts v then return fixnumValue v
  match ← floatValue v with
  | some bits =>
    match floatToLong v bits with
    | .ok i => pure i
    | .error e => throw e
  | none =>
    match bigValue h v with
    | none => throw (.range v "no implicit conversion into Integer")
    | some x =>
      if x < longMin ∨ x > longMax then throw (.range v "bignum too big to convert into 'long'")
      else pure x

/-- The unsigned integer a number holds; negative numbers down to `-2^63` wrap around. -/
def num2ULong (v : Value) : HeapM UInt64 := do
  let h ← get
  if isFixnum h.facts v then return Word.ofInt (fixnumValue v)
  match bigValue h v with
  | none => return Word.ofInt (← num2Long v)
  | some x =>
    if 0 ≤ x ∧ x < Int.pow 2 64 then pure (Word.ofInt x)
    else if x < 0 ∧ longMin ≤ x then pure (Word.ofInt x)
    else throw (.range v "bignum out of range of unsigned long")

/-- The identifier of a static or dynamic symbol. -/
def sym2Id (v : Value) : HeapM SymbolId := do
  let h ← get
  let sp := h.facts.specials
  if v &&& (Word.shl 1 sp.specialShift - 1) = sp.symbolFlag then
    return Word.shr v sp.specialShift
  match h.symbols.dynamicId? v with
  | some id => pure id
  | none => throw (.range v "not a symbol")

end Heap

end RubyLayout
