import RubyLayout.Api.Access
import RubyLayout.Heap.Host

/-!
# Accessor sets

An `Api` is what an extension links against: the accessors of one release, from the plain or
the debug build, used directly (the unchecked tier) or through the checked tier. The checked
tier verifies every precondition before the accessor runs and reports a violation with what the
value actually is: `heap reference` against the value's type, the wanted type against the header
type, `index in [0, n)` against the index, `T_FIXNUM` against the value's type, `fixable long`
against the integer, `typed data` against `untyped T_DATA`.

An `Api` also reports the facts it was built against. These are the release's own facts unless
they were replaced; an `Api` with replaced facts exposes only the core accessors, without the
interned-string and typed-data forms.

Conversions that need more than the word (`long2Num`, `num2Long`, `sym2Id`, …) ask the heap as
host, in `HostM`.
-/

set_option autoImplicit false

namespace RubyLayout

/-- Whether the accessors are used directly or with every precondition verified first. -/
inductive Tier where
  | unchecked
  | checked
deriving DecidableEq, Repr, Inhabited

/-- Heap operations seen from the accessors: failures are accessor failures. -/
abbrev HostM := ExceptT AccessError (StateM Heap)

/-- Runs a heap operation as a host call, keeping what it did to the heap. -/
def HostM.ofHeap {α : Type} (x : HeapM α) : HostM α :=
  ExceptT.mk (do
    match ← x.run with
    | .ok a => pure (.ok a)
    | .error e => pure (.error (.heap e)))

/-- An accessor outcome as a host call. -/
def HostM.ofAccess {α : Type} (x : Access α) : HostM α := ExceptT.mk (pure x)

/-- The arena of the heap. -/
def HostM.memory : HostM Memory := return (← get).memory

/-- A set of accessors as an extension sees it. -/
structure Api where
  /-- The release whose layout the accessors decode. -/
  release : Release
  /-- Whether the accessors come from the debug build. -/
  debug : Bool
  /-- The tier the accessors are used through. -/
  tier : Tier
  /-- The facts the set reports. -/
  reported : Facts
  /-- Whether the interned-string and typed-data forms are exposed. -/
  extended : Bool

namespace Api

/-- The accessors of a release, with the release's own facts. -/
def ofRelease (r : Release) (debug : Bool) (tier : Tier) : Api :=
  { release := r, debug := debug, tier := tier, reported := r.facts, extended := true }

/-- The same accessors reporting other facts, without the optional forms. -/
def withFacts (api : Api) (f : Facts) : Api := { api with reported := f, extended := false }

/-- The raw accessors. -/
def raw (api : Api) : Accessors := ⟨api.release, api.debug⟩

/-- The accessors of the plain build, without tier checks or assertions. -/
def plain (api : Api) : Accessors := ⟨api.release, false⟩

/-- The layout the accessors decode. -/
def layout (api : Api) : Facts := api.release.facts

/-- The version the accessors decode. -/
def version (api : Api) : Version := api.release.version

/-- Whether preconditions are verified before each accessor. -/
def checking (api : Api) : Bool := api.tier == .checked

/-- Whether the interned-string accessor is exposed. -/
def hasInternedStrings (api : Api) : Bool := api.extended && api.release.hasInternedStrings

/-- Whether the typed-data accessors are exposed. -/
def hasTypedData (api : Api) : Bool := api.extended && api.release.hasTypedData

/-! ### Checked-tier requirements -/

/-- Requires a heap reference. -/
def requireHeap (api : Api) (m : Memory) (op : String) (v : Value) : Access Unit := do
  if api.layout.isSpecialConst v then
    let t ← api.raw.rbType m v
    throw (.precondition op v "heap reference" t.name)

/-- Requires a heap object of type `want`. -/
def requireType (api : Api) (m : Memory) (op : String) (v : Value) (want : TypeCode) :
    Access Unit := do
  api.requireHeap m op v
  let got ← api.raw.builtinType m v
  if got ≠ want then throw (.precondition op v want.name got.name)

/-- Requires a typed data object. -/
def requireTyped (api : Api) (m : Memory) (op : String) (v : Value) : Access Unit := do
  api.requireType m op v TypeCode.data
  if !(← api.raw.typedDataP m v) then throw (.precondition op v "typed data" "untyped T_DATA")

/-- Requires a fixnum. -/
def requireFixnum (api : Api) (m : Memory) (op : String) (v : Value) : Access Unit := do
  if !api.layout.isFixnum v then
    let t ← api.raw.rbType m v
    throw (.precondition op v TypeCode.fixnum.name t.name)

/-! ### Accessors through the tier -/

/-- The header type of a heap object. -/
def builtinType (api : Api) (m : Memory) (v : Value) : Access TypeCode := do
  if api.checking then api.requireHeap m "BuiltinType" v
  api.raw.builtinType m v

/-- The class word of a heap object and whether it is set. -/
def basicClass (api : Api) (m : Memory) (v : Value) : Access (Value × Bool) := do
  if api.checking then api.requireHeap m "RBasicClass" v
  api.raw.basicClass m v

/-- Whether a bignum is not negative. -/
def bignumPositiveP (api : Api) (m : Memory) (v : Value) : Access Bool := do
  if api.checking then api.requireType m "BignumPositiveP" v TypeCode.bignum
  api.raw.bignumPositiveP m v

/-- Whether a bignum is negative. -/
def bignumNegativeP (api : Api) (m : Memory) (v : Value) : Access Bool := do
  if api.checking then api.requireType m "BignumNegativeP" v TypeCode.bignum
  api.raw.bignumNegativeP m v

/-- The length of a string. -/
def stringLength (api : Api) (m : Memory) (v : Value) : Access Int := do
  if api.checking then api.requireType m "RStringLen" v TypeCode.string
  api.raw.stringLength m v

/-- The address of a string's bytes. -/
def stringPtr (api : Api) (m : Memory) (v : Value) : Access UInt64 := do
  if api.checking then api.requireType m "RStringPtr" v TypeCode.string
  api.raw.stringPtr m v

/-- Whether a string is interned. -/
def stringInternedP (api : Api) (m : Memory) (v : Value) : Access Bool := do
  if api.checking then api.requireType m "RStringInternedP" v TypeCode.string
  api.raw.stringInternedP m v

/-- The length of an array. -/
def arrayLength (api : Api) (m : Memory) (v : Value) : Access Int := do
  if api.checking then api.requireType m "RArrayLen" v TypeCode.array
  api.raw.arrayLength m v

/-- The address of an array's elements. -/
def arrayPtr (api : Api) (m : Memory) (v : Value) : Access UInt64 := do
  if api.checking then api.requireType m "RArrayConstPtr" v TypeCode.array
  api.raw.arrayPtr m v

/-- Element `i` of an array. -/
def arrayRef (api : Api) (m : Memory) (v : Value) (i : Int) : Access Value := do
  if api.checking then
    api.requireType m "RArrayAref" v TypeCode.array
    let n ← api.raw.arrayLength m v
    if i < 0 ∨ i ≥ n then
      throw (.precondition "RArrayAref" v ("index in [0, " ++ toString n ++ ")") (toString i))
  api.raw.arrayRef m v i

/-- The integer a fixnum tags. -/
def fixToLong (api : Api) (m : Memory) (v : Value) : Access Int := do
  if api.checking then api.requireFixnum m "Fix2Long" v
  api.raw.fixToLong v

/-- The integer a fixnum tags, as an unsigned word. -/
def fixToULong (api : Api) (m : Memory) (v : Value) : Access UInt64 := do
  if api.checking then api.requireFixnum m "Fix2ULong" v
  api.raw.fixToULong v

/-- The fixnum of an integer. -/
def longToFix (api : Api) (i : Int) : Access Value := do
  if api.checking && !Accessors.fixable i then
    throw (.precondition "Long2Fix" (Word.ofInt i) "fixable long" (toString i))
  api.raw.longToFix i

/-- Whether a data object is typed. -/
def typedDataP (api : Api) (m : Memory) (v : Value) : Access Bool := do
  if api.checking then api.requireType m "RTypedDataP" v TypeCode.data
  api.raw.typedDataP m v

/-- Whether a typed data object embeds its payload. -/
def typedDataEmbeddedP (api : Api) (m : Memory) (v : Value) : Access Bool := do
  if api.checking then api.requireTyped m "RTypedDataEmbeddedP" v
  api.raw.typedDataEmbeddedP m v

/-- The data type of a typed data object. -/
def typedDataType (api : Api) (m : Memory) (v : Value) : Access UInt64 := do
  if api.checking then api.requireTyped m "RTypedDataType" v
  api.raw.typedDataType m v

/-- The payload address of a typed data object. -/
def typedDataGetData (api : Api) (m : Memory) (v : Value) : Access UInt64 := do
  if api.checking then api.requireTyped m "RTypedDataGetData" v
  api.raw.typedDataGetData m v

/-! ### Conversions through the host -/

/-- The value of a signed integer: a fixnum when it fits, else a bignum from the host. -/
def long2Num (api : Api) (i : Int) : HostM Value :=
  if Accessors.fixable i then HostM.ofAccess (api.raw.longToFix i)
  else HostM.ofHeap (Heap.int2Big i)

/-- The value of an unsigned integer: a fixnum when it fits, else a bignum from the host. -/
def ulong2Num (api : Api) (u : UInt64) : HostM Value :=
  if Accessors.posFixable u then HostM.ofAccess (api.raw.longToFix u.toNat)
  else HostM.ofHeap (Heap.uint2Big u)

/-- The signed integer a number holds: fixnums directly, the rest from the host. -/
def num2Long (api : Api) (v : Value) : HostM Int :=
  if api.layout.isFixnum v then HostM.ofAccess (api.raw.fixToLong v)
  else HostM.ofHeap (Heap.num2Long v)

/-- The unsigned integer a number holds: fixnums directly, the rest from the host. -/
def num2ULong (api : Api) (v : Value) : HostM UInt64 :=
  if api.layout.isFixnum v then HostM.ofAccess (api.raw.fixToULong v)
  else HostM.ofHeap (Heap.num2ULong v)

/-- The identifier of a symbol: static symbols directly, dynamic ones from the host. -/
def sym2Id (api : Api) (v : Value) : HostM SymbolId :=
  if api.layout.isStaticSymbol v then pure (api.layout.symbolId v)
  else HostM.ofHeap (Heap.sym2Id v)

/-! ### Views -/

/-- The bytes of memory from `p` on for `n` elements of `size` bytes. A negative count is
refused, and so is a range that runs past the end of the address space (for the null address,
any nonempty range). -/
def view (m : Memory) (p : UInt64) (n : Int) (size : Nat) : Access ByteArray :=
  if n < 0 then .error (.badView "len out of range")
  else
    let bytes := n.toNat * size
    let room := if p = 0 then 0 else Nat.pow 2 64 - p.toNat
    if bytes ≥ Nat.pow 2 64 ∨ bytes > room then
      .error (.badView (if p = 0 then "ptr is nil and len is not zero" else "len out of range"))
    else
      match m.readBytes p bytes with
      | .ok b => .ok b
      | .error f => .error (.heap (.fault f))

/-- The bytes of a string. -/
def stringValue (api : Api) (m : Memory) (v : Value) : Access ByteArray := do
  let p ← api.stringPtr m v
  let n ← api.stringLength m v
  view m p n 1

/-- The little-endian words of a byte string. -/
def wordsOf (b : ByteArray) : List UInt64 :=
  (List.range (b.size / 8)).map fun i =>
    (List.range 8).foldl
      (fun acc k => acc ||| ((b.data.getD (8 * i + k) 0).toUInt64 <<< (8 * k).toUInt64)) 0

/-- The elements of an array. -/
def arrayValues (api : Api) (m : Memory) (v : Value) : Access (List Value) := do
  let p ← api.arrayPtr m v
  let n ← api.arrayLength m v
  return wordsOf (← view m p n 8)

end Api

end RubyLayout
