import RubyLayout.Service.Session.Basic
import RubyLayout.Heap.Sample

/-!
# Looking into the heap

The steps that read the heap directly rather than through the accessors:

* `id {name}` interns a name and answers its identifier; `symbol_name {id}` answers the name
  an identifier was interned for, with whether there is one;
* `host {fn, …}` runs one of the heap's own conversions (`Int2Big`, `UInt2Big`, `Num2Long`,
  `Num2ULong`, `Sym2ID`);
* `hb {fn, …}` runs one of the sample builders; freezing and interning, which write to the
  object, take only an object in the arena;
* `inspect {v}` answers whether a word lies in the arena, the float the heap reads from it, and
  the integer behind a bignum the heap built;
* `words {v, off, n}` and `bytes {v, off, n}` read memory, which must lie in the readable pages;
* `facts` answers the version and fingerprint of the heap's facts.
-/

set_option autoImplicit false

namespace RubyLayout.Service

open StepM

/-- The `id` step. -/
def idStep (d : Doc) : StepM Outcome := do
  let name ← decode (stringField d "name")
  let id ← heap (Heap.internId name)
  return { doc := .obj [("id", (← render).wordDoc id)], value := some id }

/-- The `symbol_name` step. -/
def symbolNameStep (d : Doc) : StepM Outcome := do
  let id ← value d "id"
  let found := (← get).heap.symbols.name? id
  return { doc := .obj [("name", .str (found.getD "")), ("ok", .bool found.isSome)] }

/-- Answers a numeric result, which is the step's value. -/
def numeric (key text : String) (w : Value) : Outcome :=
  { doc := .obj [(key, .str text)], value := some w }

/-- The `host` step. -/
def hostStep (d : Doc) : StepM Outcome := do
  let r ← render
  match (d.getStr? "fn").getD "" with
  | "Int2Big" => do
    let i ← decode (longField d "i")
    built (← heap (Heap.int2Big i))
  | "UInt2Big" => do
    let u ← decode (ulongField d "u")
    built (← heap (Heap.uint2Big u))
  | "Num2Long" => do
    let v ← value d "v"
    let i ← heap (Heap.num2Long v)
    return numeric "long" (r.long i) (Word.ofInt i)
  | "Num2ULong" => do
    let v ← value d "v"
    let u ← heap (Heap.num2ULong v)
    return numeric "ulong" (r.ulong u) u
  | "Sym2ID" => do
    let v ← value d "v"
    let id ← heap (Heap.sym2Id v)
    return numeric "id" (r.word id) id
  | _ => throw (Doc.badInput "unknown host fn")

/-- The `hb` step. -/
def sampleStep (d : Doc) : StepM Outcome := do
  let onHeap := d.getFlag "heap"
  match (d.getStr? "fn").getD "" with
  | "Special" => do
    let name ← decode (stringField d "name")
    match SpecialConstant.ofName? name with
    | some c => built (c.word (← get).api.layout)
    | none => throw (Doc.error "error" ("unknown special constant " ++ Text.quote name))
  | "Integer" => do
    let n ← decode (bigIntegerField d "n")
    built (← heap (Heap.integer n))
  | "Float" => do
    let f ← decode (floatField d "f")
    built (← heap (Heap.float f))
  | "String" => do
    let b ← decode (bytesArgument d)
    built (← heap (Heap.stringSample b onHeap))
  | "Array" => do
    let elems ← decode ((← get).valuesField d "elems")
    built (← heap (Heap.arraySample elems onHeap))
  | "Symbol" => do
    let name ← decode (stringField d "name")
    built (← heap (Heap.symbol name))
  | "DynamicSymbol" => do
    let name ← decode (stringField d "name")
    built (← heap (Heap.dynamicSymbol name))
  | "Hash" => built (← heap Heap.hash)
  | "Object" => built (← heap Heap.plainObject)
  | "TypedData" => do
    let b ← decode (bytesArgument d)
    built (← heap (Heap.typedSample b onHeap))
  | "Data" => built (← heap (Heap.untypedData 0))
  | "Freeze" => do
    let v ← value d "v"
    requireObject v
    built (← heap (Heap.freeze v))
  | "Intern" => do
    let v ← value d "v"
    requireObject v
    built (← heap (Heap.internSample v))
  | _ => throw (Doc.badInput "unknown HeapBuilder method")

/-- The `inspect` step. -/
def inspectStep (d : Doc) : StepM Outcome := do
  let v ← value d "v"
  let s ← get
  let float : List (String × Doc) :=
    match (Heap.exec s.heap (Heap.floatValue v)).1 with
    | .ok (some bits) => [("float", Render.floatDoc bits)]
    | _ => []
  let big : List (String × Doc) :=
    match Heap.bigValue s.heap v with
    | some x => [("big", .str (toString x))]
    | none => []
  return { doc := .obj ([("contains", .bool (s.heap.memory.contains v))] ++ float ++ big) }

/-- The largest number of units one `words` or `bytes` step reads. -/
def wordsLimit : Int := 65536

/-- The memory a `words` or `bytes` step reads: `n` units of `size` bytes from `v + off`. -/
def readRange (d : Doc) (size : Nat) (limit : Int) : StepM ByteArray := do
  let v ← value d "v"
  let off ← decode (intFieldOr d "off" 0)
  let n ← decode (intFieldOr d "n" 1)
  let p := v + Word.ofInt off
  if n > limit then throw (unmappedDoc "range outside the arena")
  requireRange p (n * size) "range outside the arena"
  match (← get).heap.memory.readBytes p (n.toNat * size) with
  | .ok b => pure b
  | .error _ => throw (unmappedDoc "range outside the arena")

/-- The `words` step. -/
def wordsStep (d : Doc) : StepM Outcome := do
  let b ← readRange d 8 wordsLimit
  let r ← render
  return { doc := .obj [("words", .arr ((Api.wordsOf b).map r.wordDoc))] }

/-- The `bytes` step. -/
def bytesStep (d : Doc) : StepM Outcome := do
  let b ← readRange d 1 wordsLimit
  return { doc := .obj [("hex", .str (Render.hexBytes b))] }

/-- The `facts` step. -/
def factsStep : StepM Outcome := do
  let f := (← get).heap.facts
  return { doc := .obj [("version", .str f.version.text),
                        ("fingerprint", .str ("0x" ++ Word.hex16 f.fingerprint))] }

end RubyLayout.Service
