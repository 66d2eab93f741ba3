import RubyLayout.Conformance.Build
import RubyLayout.Conformance.Report
import RubyLayout.Api.Basic
import RubyLayout.Api.Classify
import RubyLayout.Facts.Binary
import RubyLayout.Facts.Diff

/-!
# Comparing accessors

Two sets of accessors are compared on the samples of a corpus built in one heap: every
operation that applies to a sample is run on both sides and the two readings compared.

For every sample: the seven tag tests, the type, the type test for fifteen types, and the
symbol, float, integer and frozen tests. A special constant then goes on by what the reference
sees: a fixnum's conversions to and from integers, a static symbol's identifier and back. An
object goes on with its header type and class, and by its type: a string's length, address and
(when the addresses agree) bytes, and its interned flag where both sides have one; an array's
length and address and, when the lengths agree, each element; a bignum's sign; a dynamic
symbol's identifier; and typed data's accessors where both sides have them.

After the samples come the codec checks, which need no heap: which integers are fixnums and
their tagging, and the tagging of three identifiers.

Each check counts once both sides have read. A failing read on either side (a violated
precondition, a fault, a conversion out of range) ends the sample's checks and is recorded as a
disagreement of the operation `panic`.
-/

set_option autoImplicit false

namespace RubyLayout.Conformance

/-- A reading of an accessor, as a disagreement prints it. -/
inductive Reading where
  | flag (b : Bool)
  /-- A word printed in unsigned decimal: a value, an identifier or an unsigned long. -/
  | word (w : UInt64)
  /-- A signed long. -/
  | long (i : Int)
  | type (t : TypeCode)
  /-- An address, printed in hexadecimal. -/
  | address (p : UInt64)
  | bytes (b : ByteArray)

namespace Reading

/-- Bytes as text, each invalid sequence read as the replacement character. -/
def bytesText (b : ByteArray) : String :=
  match String.fromUTF8? b with
  | some s => s
  | none => String.ofList (b.toList.map fun x => if x < 0x80 then Char.ofNat x.toNat else '�')

/-- The printed form of a reading. -/
def text : Reading → String
  | .flag b => if b then "true" else "false"
  | .word w => toString w.toNat
  | .long i => toString i
  | .type t => t.name
  | .address p => if p == 0 then "<nil>" else Word.hex p
  | .bytes b => bytesText b

/-- Whether two readings are the same. -/
def same : Reading → Reading → Bool
  | .flag a, .flag b => a == b
  | .word a, .word b => a == b
  | .long a, .long b => a == b
  | .type a, .type b => a == b
  | .address a, .address b => a == b
  | .bytes a, .bytes b => a.toList == b.toList
  | _, _ => false

end Reading

/-- What both sides are compared on: their accessors, and the heap the samples live in. -/
structure Sides where
  want : Api
  got : Api
  heap : Heap

namespace Sides

/-- The memory of the heap. -/
def memory (s : Sides) : Memory := s.heap.memory

end Sides

/-- The running count of checks and the disagreements so far. -/
structure Tally where
  checks : Nat := 0
  mismatches : Array Mismatch := #[]

/-- Comparing one sample: a failing read ends it. -/
abbrev CompareM := ExceptT AccessError (StateM Tally)

/-- A read through an accessor. -/
def read {α : Type} (x : Access α) : CompareM α :=
  match x with
  | .ok a => pure a
  | .error e => throw e

/-- A read through a conversion of the host; the heap is only read. -/
def readHost {α : Type} (heap : Heap) (x : HostM α) : CompareM α :=
  match (x.run heap).1 with
  | .ok a => pure a
  | .error e => throw e

/-- Compares two readings of the case `name`'s operation `op`. -/
def record (name op : String) (want got : Reading) : CompareM Unit :=
  modify fun t =>
    { t with
      checks := t.checks + 1,
      mismatches :=
        if want.same got then t.mismatches
        else t.mismatches.push ⟨name, op, want.text, got.text⟩ }

/-- Reads the reference, then the other side, then compares. -/
def check (name op : String) (want got : CompareM Reading) : CompareM Unit := do
  let w ← want
  let g ← got
  record name op w g

/-- The types whose type test every sample is compared on. -/
def typesProbed : List TypeCode :=
  [TypeCode.none, TypeCode.object, TypeCode.class, TypeCode.float, TypeCode.string,
   TypeCode.array, TypeCode.hash, TypeCode.bignum, TypeCode.symbol, TypeCode.nil,
   TypeCode.true, TypeCode.false, TypeCode.fixnum, TypeCode.undef, TypeCode.data]

section Sample

variable (s : Sides) (name : String)

/-- The tag tests, the type and the type tests of a value. -/
def compareKinds (v : Value) : CompareM Unit := do
  let w := s.want
  let g := s.got
  let m := s.memory
  let tag (op : String) (p : Facts → Value → Bool) : CompareM Unit :=
    record name op (.flag (p w.layout v)) (.flag (p g.layout v))
  tag "SpecialConstP" Facts.isSpecialConst
  tag "NilP" Facts.isNil
  tag "Test" Facts.truthy
  tag "FixnumP" Facts.isFixnum
  tag "StaticSymP" Facts.isStaticSymbol
  tag "FlonumP" Facts.isFlonum
  tag "ImmediateP" Facts.isImmediate
  check name "RBType" (return .type (← read (w.raw.rbType m v)))
    (return .type (← read (g.raw.rbType m v)))
  for t in typesProbed do
    check name ("TypeP(" ++ t.name ++ ")") (return .flag (← read (w.raw.typeP m v t)))
      (return .flag (← read (g.raw.typeP m v t)))
  let test (op : String) (f : Accessors → Memory → Value → Access Bool) : CompareM Unit :=
    check name op (return .flag (← read (f w.raw m v))) (return .flag (← read (f g.raw m v)))
  test "SymbolP" Accessors.symbolP
  test "DynamicSymP" Accessors.dynamicSymP
  test "FloatTypeP" Accessors.floatTypeP
  test "IntegerTypeP" Accessors.integerTypeP
  test "FrozenP" Accessors.frozenP

/-- The checks of a special constant, by what the reference sees. -/
def compareImmediate (v : Value) : CompareM Unit := do
  let w := s.want
  let g := s.got
  let m := s.memory
  if w.layout.isFixnum v then
    check name "Fix2Long" (return .long (← read (w.fixToLong m v)))
      (return .long (← read (g.fixToLong m v)))
    check name "Fix2ULong" (return .word (← read (w.fixToULong m v)))
      (return .word (← read (g.fixToULong m v)))
    check name "Num2Long" (return .long (← readHost s.heap (w.num2Long v)))
      (return .long (← readHost s.heap (g.num2Long v)))
    check name "Long2Fix(Fix2Long)" (pure (.word v))
      (return .word (← read (g.longToFix (← read (g.fixToLong m v)))))
  else if w.layout.isStaticSymbol v then
    check name "Sym2ID" (return .word (← readHost s.heap (w.sym2Id v)))
      (return .word (← readHost s.heap (g.sym2Id v)))
    check name "ID2Sym(Sym2ID)" (pure (.word v))
      (return .word (g.layout.idToSymbol (← readHost s.heap (g.sym2Id v))))

/-- The checks of a string. -/
def compareString (v : Value) : CompareM Unit := do
  let w := s.want
  let g := s.got
  let m := s.memory
  let n ← read (w.stringLength m v)
  check name "RStringLen" (pure (.long n)) (return .long (← read (g.stringLength m v)))
  let wp ← read (w.stringPtr m v)
  let gp ← read (g.stringPtr m v)
  record name "RStringPtr" (.address wp) (.address gp)
  if wp == gp then
    check name "RStringPtr bytes" (return .bytes (← read (Api.view m wp n 1)))
      (return .bytes (← read (Api.view m gp (← read (g.stringLength m v)) 1)))
  if w.hasInternedStrings && g.hasInternedStrings then
    check name "RStringInternedP" (return .flag (← read (w.stringInternedP m v)))
      (return .flag (← read (g.stringInternedP m v)))

/-- Compares the elements of an array from index `i` on, `count` of them. -/
def compareElements (v : Value) : Nat → Nat → CompareM Unit
  | _, 0 => pure ()
  | i, count + 1 => do
    check name ("RArrayAref(" ++ toString i ++ ")")
      (return .word (← read (s.want.arrayRef s.memory v i)))
      (return .word (← read (s.got.arrayRef s.memory v i)))
    compareElements v (i + 1) count

/-- The checks of an array. -/
def compareArray (v : Value) : CompareM Unit := do
  let w := s.want
  let g := s.got
  let m := s.memory
  let n ← read (w.arrayLength m v)
  check name "RArrayLen" (pure (.long n)) (return .long (← read (g.arrayLength m v)))
  check name "RArrayConstPtr" (return .address (← read (w.arrayPtr m v)))
    (return .address (← read (g.arrayPtr m v)))
  if n == (← read (g.arrayLength m v)) then compareElements s name v 0 n.toNat

/-- The checks of typed data, where both sides have the accessors. -/
def compareData (v : Value) : CompareM Unit := do
  let w := s.want
  let g := s.got
  let m := s.memory
  if w.hasTypedData && g.hasTypedData then
    let typed ← read (w.typedDataP m v)
    check name "RTypedDataP" (pure (.flag typed)) (return .flag (← read (g.typedDataP m v)))
    if typed && (← read (g.typedDataP m v)) then
      check name "RTypedDataEmbeddedP" (return .flag (← read (w.typedDataEmbeddedP m v)))
        (return .flag (← read (g.typedDataEmbeddedP m v)))
      check name "RTypedDataType" (return .address (← read (w.typedDataType m v)))
        (return .address (← read (g.typedDataType m v)))
      check name "RTypedDataGetData" (return .address (← read (w.typedDataGetData m v)))
        (return .address (← read (g.typedDataGetData m v)))

/-- The checks of one sample. -/
def compareSample (v : Value) : CompareM Unit := do
  let w := s.want
  let g := s.got
  let m := s.memory
  compareKinds s name v
  if w.layout.isSpecialConst v then compareImmediate s name v
  else
    check name "BuiltinType" (return .type (← read (w.builtinType m v)))
      (return .type (← read (g.builtinType m v)))
    let (wk, wok) ← read (w.basicClass m v)
    let (gk, gok) ← read (g.basicClass m v)
    record name "RBasicClass" (.word wk) (.word gk)
    record name "RBasicClass.ok" (.flag wok) (.flag gok)
    let t ← read (w.builtinType m v)
    if t == TypeCode.string then compareString s name v
    else if t == TypeCode.array then compareArray s name v
    else if t == TypeCode.bignum then
      check name "BignumPositiveP" (return .flag (← read (w.bignumPositiveP m v)))
        (return .flag (← read (g.bignumPositiveP m v)))
      check name "BignumNegativeP" (return .flag (← read (w.bignumNegativeP m v)))
        (return .flag (← read (g.bignumNegativeP m v)))
    else if t == TypeCode.symbol then
      check name "Sym2ID" (return .word (← readHost s.heap (w.sym2Id v)))
        (return .word (← readHost s.heap (g.sym2Id v)))
    else if t == TypeCode.data then compareData s name v

end Sample

/-- The integers whose fixnum tests and tagging are compared. -/
def codecLongs : List Int :=
  [0, 1, -1, fixnumMax, fixnumMin, fixnumMax + 1, fixnumMin - 1, longMax, longMin]

/-- The unsigned integers whose fixnum tests are compared. -/
def codecULongs : List UInt64 :=
  [0, fixnumMax.toNat.toUInt64, fixnumMax.toNat.toUInt64 + 1, 0xffffffffffffffff]

/-- The identifiers whose tagging is compared: an operator and two static identifiers. -/
def codecIds : List UInt64 := [0x10, 0x12341, 0xfffff1]

/-- The codec checks. -/
def compareCodec (s : Sides) : CompareM Unit := do
  let name := "codec"
  for i in codecLongs do
    record name ("Fixable(" ++ toString i ++ ")") (.flag (Accessors.fixable i))
      (.flag (Accessors.fixable i))
    if Accessors.fixable i then
      check name ("Long2Fix(" ++ toString i ++ ")") (return .word (← read (s.want.longToFix i)))
        (return .word (← read (s.got.longToFix i)))
  for u in codecULongs do
    record name ("PosFixable(" ++ toString u.toNat ++ ")") (.flag (Accessors.posFixable u))
      (.flag (Accessors.posFixable u))
  for id in codecIds do
    record name ("ID2Sym(" ++ toString id.toNat ++ ")") (.word (s.want.layout.idToSymbol id))
      (.word (s.got.layout.idToSymbol id))

/-- The text a failing read is recorded with: a fault reads as a bad memory access. -/
def failureText : AccessError → String
  | .heap (.fault _) => "runtime error: invalid memory address or nil pointer dereference"
  | e => e.message

/-- Runs the checks of one case, recording a failing read as a disagreement. -/
def guarded (name : String) (x : CompareM Unit) : StateM Tally Unit := do
  match ← x.run with
  | .ok () => pure ()
  | .error e =>
    let m : Mismatch := { name := name, op := "panic", want := "no panic", got := failureText e }
    modify fun t => { t with mismatches := t.mismatches.push m }

/-- Compares two sets of accessors on the samples built in a heap, then on the codec. -/
def compare (want got : Api) (heap : Heap) (samples : List Sample) : Report :=
  let s : Sides := ⟨want, got, heap⟩
  let run : StateM Tally Unit := do
    for sample in samples do
      guarded sample.case.name (compareSample s sample.case.name sample.value)
    guarded "codec" (compareCodec s)
  let (_, t) := run.run {}
  let wantFacts := want.reported
  let gotFacts := got.reported
  { want := want.version, got := got.version,
    wantFingerprint := wantFacts.fingerprint, gotFingerprint := gotFacts.fingerprint,
    factsDiff := if wantFacts.fingerprint == gotFacts.fingerprint then []
      else Facts.diff wantFacts gotFacts,
    samples := samples.length, checks := t.checks, mismatches := t.mismatches.toList }

end RubyLayout.Conformance
