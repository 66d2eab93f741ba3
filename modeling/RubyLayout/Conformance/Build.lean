import RubyLayout.Conformance.Case
import RubyLayout.Heap.Sample
import RubyLayout.Api.Classify

/-!
# Building a corpus

Each case is built in the heap in order, then interned when it asks to be and the layout has an
interned-string flag, then frozen when it asks to be. A string without text is filled with
`abc…zabc…` up to its length; an array holds the fixnums `0, 1, …` up to its length. Typed
data falls back to untyped data on layouts that cannot embed a payload.

Building is not validation: a corpus built without validation meets the failures of a program
that trusts its input, and they are kept apart from the errors of building.

* A case of an unknown kind or special constant, and a heap that refuses an object, fail the
  build, naming the case.
* An integer text that does not read, a negative length, and a length too large to allocate are
  faults of the program: the filler of `n` bytes repeats the alphabet `n / 26 + 1` times (the
  division truncating), and fails when that count is negative, cannot be allocated, or leaves
  fewer than `n` bytes; an array of a negative or unallocatable length fails as such. Faults of
  the heap (writing outside it) are faults too, among them interning or freezing a special
  constant, whose word is no address of the arena. Faults name no case.
-/

set_option autoImplicit false

namespace RubyLayout.Conformance

/-- A built case: the case and its value. -/
structure Sample where
  case : Case
  value : Value

/-- Why a build stopped. -/
inductive BuildError where
  /-- The heap refused an operation for a case. -/
  | heap (name : String) (e : HeapError)
  /-- A special case names no special constant. -/
  | unknownSpecial (name text : String)
  /-- A case of an unknown kind. -/
  | unknownKind (name kind : String)
  /-- An integer case whose text is not an integer. -/
  | noInteger
  /-- A filler cut at a negative length. -/
  | sliceBounds (n : Int)
  /-- A buffer of a negative or unallocatable length. -/
  | allocationLength
  /-- The alphabet repeated a negative number of times. -/
  | negativeRepeat
  /-- The alphabet repeated beyond the largest length. -/
  | repeatOverflow

/-- How a build error is answered. -/
inductive BuildErrorKind where
  | heap (k : ErrorKind)
  | invalidCase
  | runtime
  | panic

/-- The name of a build error's kind in answers. -/
def BuildErrorKind.name : BuildErrorKind → String
  | .heap k => k.name
  | .invalidCase => "ErrInvalidCase"
  | .runtime => "runtime"
  | .panic => "panic"

namespace BuildError

/-- The kind of a build error. -/
def kind : BuildError → BuildErrorKind
  | .heap _ e => .heap e.kind
  | .unknownSpecial .. => .heap .plain
  | .unknownKind .. => .invalidCase
  | .noInteger | .sliceBounds _ | .allocationLength => .runtime
  | .negativeRepeat | .repeatOverflow => .panic

/-- The message of a build error; an error of the build names its case, a fault does not. -/
def message : BuildError → String
  | .heap name e =>
    if e.kind == .runtime then e.message else "build " ++ name ++ ": " ++ e.message
  | .unknownSpecial name text =>
    "build " ++ name ++ ": unknown special constant " ++ Text.quote text
  | .unknownKind name kind =>
    "build " ++ name ++ ": invalid corpus case: unknown kind " ++ Text.quote kind
  | .noInteger => "runtime error: invalid memory address or nil pointer dereference"
  | .sliceBounds n => "runtime error: slice bounds out of range [:" ++ toString n ++ "]"
  | .allocationLength => "runtime error: makeslice: len out of range"
  | .negativeRepeat => "strings: negative Repeat count"
  | .repeatOverflow => "strings: Repeat output length overflow"

end BuildError

/-- Building in a heap. -/
abbrev BuildM := ExceptT BuildError (StateM Heap)

/-- Runs a heap operation for the case `name`. -/
def onHeap {α : Type} (name : String) (x : HeapM α) : BuildM α := fun h =>
  match x.run h with
  | (.ok a, h) => (.ok a, h)
  | (.error e, h) => (.error (.heap name e), h)

/-- The largest allocation: 2^48 bytes. -/
def allocationLimit : Int := Int.pow 2 48

/-- The largest length of a text: 2^63 - 1 bytes. -/
def lengthLimit : Int := Int.pow 2 63 - 1

/-- The number of filler bytes for a length, or the fault of making them. -/
def fillerLength (n : Int) : Except BuildError Nat :=
  let count := n.tdiv 26 + 1
  if count < 0 then .error .negativeRepeat
  else if 26 * count > lengthLimit then .error .repeatOverflow
  else if count ≥ 2 && 26 * count > allocationLimit then .error .allocationLength
  else if n < 0 then .error (.sliceBounds n)
  else .ok n.toNat

/-- The number of elements of an array, or the fault of allocating them. -/
def elementCount (n : Int) : Except BuildError Nat :=
  if n < 0 || 8 * n > allocationLimit then .error .allocationLength else .ok n.toNat

/-- Fails with a fault of the program. -/
def fault {α : Type} (x : Except BuildError α) : BuildM α :=
  match x with
  | .ok a => pure a
  | .error e => throw e

/-- Builds the value of one case. -/
def buildValue (c : Case) : BuildM Value := do
  let f := (← get).facts
  let heap {α : Type} (x : HeapM α) : BuildM α := onHeap c.name x
  match Kind.ofName? c.kind with
  | some .special =>
    match SpecialConstant.ofName? c.text with
    | some s => pure (s.word f)
    | none => throw (.unknownSpecial c.name c.text)
  | some .fixnum | some .bignum =>
    match c.integer? with
    | some i => heap (Heap.integer i)
    | none => throw .noInteger
  | some .float => heap (Heap.float c.float)
  | some .string =>
    if !c.text.isEmpty then heap (Heap.stringSample c.text.toUTF8 c.heap)
    else
      let n ← fault (fillerLength (c.lengthFor f.string.embedCapacity))
      let bytes : Unit → ByteArray := fun _ => Heap.fillerBytes n
      heap (if c.heap then Heap.heapStringOf n bytes else Heap.stringOf n bytes)
  | some .array =>
    let n ← fault (elementCount (c.lengthFor f.array.embedCapacity))
    let elems : Unit → List Value := fun _ =>
      (List.range n).map fun (i : Nat) => Heap.fixnumOf f i
    heap (if c.heap then Heap.heapArrayOf n elems else Heap.arrayOf n elems)
  | some .symbol => heap (Heap.symbol c.text)
  | some .dynamicSymbol => heap (Heap.dynamicSymbol c.text)
  | some .hash => heap Heap.hash
  | some .object => heap Heap.plainObject
  | some .data => heap (Heap.untypedData 0)
  | some .typedData =>
    if f.typedData.supported then heap (Heap.typedSample c.text.toUTF8 c.heap)
    else heap (Heap.untypedData 0)
  | none => throw (.unknownKind c.name c.kind)

/-- Interns or freezes the value of the case `name` by the heap call `x`, which writes through
the value as an address. The arena lies where the system maps it, at an address no corpus can
name, so the word of a special constant is never one of its addresses: the write faults there. -/
def flagValue (name : String) (f : Facts) (v : Value) (x : HeapM Value) : BuildM Value :=
  if f.isSpecialConst v then throw (.heap name (.fault (Fault.at v))) else onHeap name x

/-- Builds one case: its value, interned and frozen as it asks. -/
def buildCase (c : Case) : BuildM Sample := do
  let v ← buildValue c
  let f := (← get).facts
  let v ← if c.interned && f.string.fstr != 0 then flagValue c.name f v (Heap.internSample v)
    else pure v
  let v ← if c.frozen then flagValue c.name f v (Heap.freeze v) else pure v
  pure ⟨c, v⟩

/-- Builds every case of a corpus in order. -/
def Corpus.build (c : Corpus) : BuildM (List Sample) := c.cases.mapM buildCase

end RubyLayout.Conformance
