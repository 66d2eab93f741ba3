import RubyLayout.Api.Classify
import RubyLayout.Release
import RubyLayout.Heap.Error

/-!
# Object accessors

The accessors of one release read the header, class, string, array, bignum and typed-data fields of
objects through a memory, at the offsets and with the flag bits of the release's layout. The type,
header and bignum accessors, which every release shares, read them from the facts the release
publishes; the string, array and typed-data accessors, which each release has of its own, read the
release's layout constants (`LayoutConsts`). A release's accessors come in two builds: the plain
build trusts its caller, the debug build asserts each precondition first and fails with a
precondition error naming the operation, the value, what it wanted and what it got. Assertions are
checked in a fixed order: the word is a heap reference, then its header has the wanted type, then
(for element reads) the index is in range.

The releases differ in three places:

* the string length lies in the header flags for embedded strings up to 3.1, in a word of its
  own for embedded strings in 3.2, and in one word shared by both forms from 3.3 on;
* typed data (from 3.3) is marked by a flag word beside the type pointer in 3.3 and 3.4, and by
  a header flag with the embedded bit in the type word in 4.0;
* the interned-string flag exists from 3.0 on.

Memory faults (reads of unmapped pages) are failures like the others.
-/

set_option autoImplicit false

namespace RubyLayout

/-- Why an accessor call failed. -/
inductive AccessError where
  /-- A precondition of `op` does not hold for `value`. -/
  | precondition (op : String) (value : Value) (want got : String)
  /-- The heap failed: a fault, a conversion out of range, a full arena. -/
  | heap (e : HeapError)
  /-- A view of memory was asked for with an impossible length or address. -/
  | badView (reason : String)
deriving DecidableEq, Repr

/-- The message of an accessor failure. -/
def AccessError.message : AccessError → String
  | .precondition op v want got =>
    op ++ ": precondition violated for " ++ Word.hex v ++ ": want " ++ want ++ ", got " ++ got
  | .heap e => e.message
  | .badView reason => "runtime error: unsafe.Slice: " ++ reason

/-- The outcome of an accessor call. -/
abbrev Access := Except AccessError

/-- Reads a word of memory; a fault is a failure. -/
def Memory.wordAt (m : Memory) (addr : UInt64) : Access UInt64 :=
  match m.readWord addr with
  | .ok w => .ok w
  | .error f => .error (.heap (.fault f))

/-- The accessors of a release, with or without the assertions of the debug build. -/
structure Accessors where
  /-- The release whose layout the accessors decode. -/
  release : Release
  /-- Whether preconditions are asserted. -/
  debug : Bool
deriving DecidableEq, Repr

namespace Accessors

/-- The layout the accessors decode, as its facts publish it. -/
def layout (a : Accessors) : Facts := a.release.facts

/-- The layout constants the string, array and typed-data accessors read. -/
def consts (a : Accessors) : LayoutConsts := a.release.consts

/-! ### Assertions -/

/-- Fails when the build asserts and `ok` does not hold. -/
def assert (a : Accessors) (ok : Bool) (op : String) (v : Value) (want got : String) :
    Access Unit :=
  if a.debug && !ok then .error (.precondition op v want got) else .ok ()

/-- Fails when the build asserts and `v` is not a heap reference. -/
def assertHeap (a : Accessors) (op : String) (v : Value) : Access Unit :=
  a.assert (!a.layout.isSpecialConst v) op v "heap reference" "special constant"

/-- The header flags word of an object. -/
def flags (a : Accessors) (m : Memory) (v : Value) : Access UInt64 :=
  m.wordAt (v + a.layout.header.flagsOffset)

/-- The header flags word of an object, at the release's `RBasicFlagsOffset`. -/
def flagsWord (a : Accessors) (m : Memory) (v : Value) : Access UInt64 :=
  m.wordAt (v + a.consts.rBasicFlagsOffset)

/-- A signed word of an object. -/
def longAt (m : Memory) (v : Value) (off : UInt64) : Access Int := do
  return Word.signed (← m.wordAt (v + off))

/-- The type code in the header of a heap object. -/
def builtinType (a : Accessors) (m : Memory) (v : Value) : Access TypeCode := do
  a.assertHeap "BuiltinType" v
  let f ← a.flags m v
  return ⟨(f &&& a.layout.header.typeMask).toUInt32⟩

/-- Fails when the build asserts and `v` is not a heap object of type `want`. -/
def assertType (a : Accessors) (op : String) (m : Memory) (v : Value) (want : TypeCode) :
    Access Unit := do
  if a.debug then
    a.assertHeap op v
    let got ← a.builtinType m v
    if got ≠ want then throw (.precondition op v want.name got.name)

/-! ### Types -/

/-- The type of any value: the header's type for heap objects, the tag's type for the others.
An immediate with no known tag is taken for a flonum (asserted in the debug build). -/
def rbType (a : Accessors) (m : Memory) (v : Value) : Access TypeCode := do
  if !a.layout.isSpecialConst v then a.builtinType m v
  else
    match a.layout.immediateType? v with
    | some t => pure t
    | none =>
      a.assert false "RBType" v "flonum" "unknown immediate"
      pure TypeCode.float

/-- Whether a value has the type `t`; an immediate with no known tag has none. -/
def typeP (a : Accessors) (m : Memory) (v : Value) (t : TypeCode) : Access Bool := do
  if !a.layout.isSpecialConst v then return (← a.builtinType m v) == t
  else
    match a.layout.immediateType? v with
    | some u => pure (u == t)
    | none => pure false

/-- Whether a value is a symbol, static or dynamic. -/
def symbolP (a : Accessors) (m : Memory) (v : Value) : Access Bool := do
  if !a.layout.isSpecialConst v then return (← a.builtinType m v) == TypeCode.symbol
  else pure (a.layout.isStaticSymbol v)

/-- Whether a value is a dynamic symbol object. -/
def dynamicSymP (a : Accessors) (m : Memory) (v : Value) : Access Bool := do
  if !a.layout.isSpecialConst v then return (← a.builtinType m v) == TypeCode.symbol
  else pure false

/-- Whether a value is a float, immediate or not. -/
def floatTypeP (a : Accessors) (m : Memory) (v : Value) : Access Bool := do
  if !a.layout.isSpecialConst v then return (← a.builtinType m v) == TypeCode.float
  else pure (a.layout.isFlonum v)

/-- Whether a value is an integer, fixnum or bignum. -/
def integerTypeP (a : Accessors) (m : Memory) (v : Value) : Access Bool := do
  if !a.layout.isSpecialConst v then return (← a.builtinType m v) == TypeCode.bignum
  else pure (a.layout.isFixnum v)

/-! ### Header -/

/-- The class word of a heap object, and whether it is set (hidden objects have none). -/
def basicClass (a : Accessors) (m : Memory) (v : Value) : Access (Value × Bool) := do
  a.assertHeap "RBasicClass" v
  let k ← m.wordAt (v + a.layout.header.klassOffset)
  return (k, k != 0)

/-- Whether a value is frozen; special constants always are. -/
def frozenP (a : Accessors) (m : Memory) (v : Value) : Access Bool := do
  if a.layout.isSpecialConst v then return true
  return (← a.flags m v) &&& a.layout.header.freeze != 0

/-- Whether a bignum is not negative. -/
def bignumPositiveP (a : Accessors) (m : Memory) (v : Value) : Access Bool := do
  a.assertType "BignumPositiveP" m v TypeCode.bignum
  return (← a.flags m v) &&& a.layout.header.bignumSign != 0

/-- Whether a bignum is negative. -/
def bignumNegativeP (a : Accessors) (m : Memory) (v : Value) : Access Bool := do
  a.assertType "BignumNegativeP" m v TypeCode.bignum
  return (← a.flags m v) &&& a.layout.header.bignumSign == 0

/-! ### Strings -/

/-- The length of a string. -/
def stringLength (a : Accessors) (m : Memory) (v : Value) : Access Int := do
  a.assertType "RStringLen" m v TypeCode.string
  match a.consts.rStringLength with
  | .flagBits embedLenMask embedLenShift heapLenOffset =>
    let f ← a.flagsWord m v
    if f &&& a.consts.rStringNoEmbed == 0 then
      return Word.signed ((f &&& embedLenMask) >>> embedLenShift)
    longAt m v heapLenOffset
  | .separateWords embedLenOffset heapLenOffset =>
    let f ← a.flagsWord m v
    if f &&& a.consts.rStringNoEmbed == 0 then longAt m v embedLenOffset
    else longAt m v heapLenOffset
  | .sharedWord lenOffset => longAt m v lenOffset

/-- The address of a string's bytes: in the slot when embedded, else the buffer pointer. -/
def stringPtr (a : Accessors) (m : Memory) (v : Value) : Access UInt64 := do
  a.assertType "RStringPtr" m v TypeCode.string
  if (← a.flagsWord m v) &&& a.consts.rStringNoEmbed == 0 then
    return v + a.consts.rStringEmbedAryOffset
  m.wordAt (v + a.consts.rStringHeapPtrOffset)

/-- Whether a string is interned; without an interned flag none is. -/
def stringInternedP (a : Accessors) (m : Memory) (v : Value) : Access Bool := do
  a.assertType "RStringInternedP" m v TypeCode.string
  return (← a.flagsWord m v) &&& a.consts.rStringFStr.getD 0 != 0

/-! ### Arrays -/

/-- The length of an array: in header flag bits when embedded, else a word. -/
def arrayLength (a : Accessors) (m : Memory) (v : Value) : Access Int := do
  a.assertType "RArrayLen" m v TypeCode.array
  let f ← a.flagsWord m v
  if f &&& a.consts.rArrayEmbedFlag != 0 then
    return Word.signed ((f &&& a.consts.rArrayEmbedLenMask) >>> a.consts.rArrayEmbedLenShift)
  longAt m v a.consts.rArrayHeapLenOffset

/-- The address of an array's elements: in the slot when embedded, else the buffer pointer. -/
def arrayPtr (a : Accessors) (m : Memory) (v : Value) : Access UInt64 := do
  a.assertType "RArrayConstPtr" m v TypeCode.array
  if (← a.flagsWord m v) &&& a.consts.rArrayEmbedFlag != 0 then
    return v + a.consts.rArrayEmbedAryOffset
  m.wordAt (v + a.consts.rArrayHeapPtrOffset)

/-- Element `i` of an array; the debug build asserts that the index is in range. -/
def arrayRef (a : Accessors) (m : Memory) (v : Value) (i : Int) : Access Value := do
  if a.debug then
    let n ← a.arrayLength m v
    a.assert (decide (0 ≤ i ∧ i < n)) "RArrayAref" v "index in range" "out of bounds"
  let p ← a.arrayPtr m v
  m.wordAt (p + Word.ofInt i * 8)

/-! ### Fixnums and symbols -/

/-- Whether an integer fits a fixnum. -/
def fixable (i : Int) : Bool := decide (fixnumMin ≤ i ∧ i ≤ fixnumMax)

/-- Whether an unsigned integer fits a fixnum. -/
def posFixable (u : UInt64) : Bool := decide ((u.toNat : Int) ≤ fixnumMax)

/-- The integer a fixnum tags. -/
def fixToLong (a : Accessors) (v : Value) : Access Int := do
  a.assert (a.layout.isFixnum v) "Fix2Long" v "fixnum" "non-fixnum"
  return Int.shiftRight (Word.signed v) 1

/-- The integer a fixnum tags, as an unsigned word. -/
def fixToULong (a : Accessors) (v : Value) : Access UInt64 := do
  a.assert (a.layout.isFixnum v) "Fix2ULong" v "fixnum" "non-fixnum"
  return Word.ofInt (Int.shiftRight (Word.signed v) 1)

/-- The fixnum of an integer, wrapping outside the fixnum range. -/
def longToFix (a : Accessors) (i : Int) : Access Value := do
  a.assert (fixable i) "Long2Fix" (Word.ofInt i) "fixable long" "out of range"
  return (Word.ofInt i <<< 1) ||| a.layout.specials.fixnumFlag

/-! ### Typed data -/

/-- Whether a data object is typed. -/
def typedDataP (a : Accessors) (m : Memory) (v : Value) : Access Bool := do
  a.assertType "RTypedDataP" m v TypeCode.data
  match a.release.typedConsts.mark with
  | .flagWord flagOffset =>
    let f ← m.wordAt (v + flagOffset)
    return f != 0 && f ≤ 1 ||| a.release.typedConsts.embedded
  | .headerFlag typedFlIsTypedData => return (← a.flagsWord m v) &&& typedFlIsTypedData != 0

/-- Whether a typed data object holds its payload in its slot. -/
def typedDataEmbeddedP (a : Accessors) (m : Memory) (v : Value) : Access Bool := do
  a.assertType "RTypedDataEmbeddedP" m v TypeCode.data
  match a.release.typedConsts.mark with
  | .flagWord flagOffset => return (← m.wordAt (v + flagOffset)) &&& a.release.typedConsts.embedded != 0
  | .headerFlag _ =>
    return (← m.wordAt (v + a.release.typedConsts.typeOffset)) &&& a.release.typedConsts.embedded != 0

/-- The data type of a typed data object. -/
def typedDataType (a : Accessors) (m : Memory) (v : Value) : Access UInt64 := do
  a.assertType "RTypedDataType" m v TypeCode.data
  let w ← m.wordAt (v + a.release.typedConsts.typeOffset)
  match a.release.typedConsts.mark with
  | .flagWord _ => return w
  | .headerFlag _ => return w - (w &&& a.release.typedConsts.embedded)

/-- The payload of a typed data object: its slot when embedded, else the wrapped pointer. -/
def typedDataGetData (a : Accessors) (m : Memory) (v : Value) : Access UInt64 := do
  a.assertType "RTypedDataGetData" m v TypeCode.data
  if ← a.typedDataEmbeddedP m v then return v + a.release.typedConsts.embedOffset
  m.wordAt (v + a.release.typedConsts.dataOffset)

end Accessors

end RubyLayout
