import RubyLayout.Service.Session.Basic
import RubyLayout.Heap.Sample

/-!
# Building steps

Each building step makes one value in the session's heap and answers it as `{"v": word}`; the
value is the step's value for later steps. The step's kind names what is built:

* `nil`, `true`, `false`, `undef`; `fixnum {i}` (tagged without a range check); `integer {i}`
  and `bignum {n}` (an integer of any size, as text);
* `float` and `heap_float {f}`; `string` and `heap_string` with bytes; `concat {parts}` (the
  texts joined); `array` and `heap_array` with `elems` or `fill` (the fixnums `0 … n-1`);
* `symbol` and `dsymbol {name}`; `hash`; `object`; `class {t}` (the class object of a type,
  answered with whether there is one); `buffer` with bytes; `raw {words}` (a buffer of words,
  for crafting objects by hand); `at {off}` (an address in the arena);
* `datatype {name}`, `typed_data {type, data?}`, `embedded_typed_data {type, …bytes}`,
  `data {data?}`;
* `hide`, `freeze` and `intern {v}`, which change an object in the arena and answer it.
-/

set_option autoImplicit false

namespace RubyLayout.Service

open StepM

/-- The fixnums `0 … n-1`. -/
def fixnumsBelow (f : Facts) (n : Nat) : List Value :=
  (List.range n).map fun (i : Nat) => Heap.fixnumOf f i

/-- The most elements an array step fills. -/
def arrayFillLimit : Int := 100000

/-- The elements of an array step: `fill` fixnums (at most 100000), or the `elems` values. -/
def arrayElements (d : Doc) : StepM (List Value) := do
  match d.get? "fill" with
  | some _ =>
    let n ← decode (intField d "fill")
    if 0 ≤ n ∧ n ≤ arrayFillLimit then return fixnumsBelow (← get).api.layout n.toNat
    else throw (Doc.badInput "fill out of range")
  | none => decode ((← get).valuesField d "elems")

/-- The texts of a `concat` step; a `parts` field that is not a list holds none. -/
def concatParts (d : Doc) : Decode (List String) :=
  match d.get? "parts" with
  | some (.arr xs) =>
    xs.mapM fun x =>
      match x with
      | .str t => .ok t
      | _ => .error "parts must be strings"
  | _ => .ok []

/-- A step that changes an object in the arena and answers it. -/
def objectStep (d : Doc) (change : Value → HeapM Value) : StepM Outcome := do
  let v ← value d "v"
  requireObject v
  built (← heap (change v))

/-- The building step of a kind, if the kind builds. -/
def buildStep (kind : String) (d : Doc) : Option (StepM Outcome) :=
  let facts : StepM Facts := return (← get).api.layout
  match kind with
  | "nil" => some do built (SpecialConstant.nil.word (← facts))
  | "true" => some do built (SpecialConstant.true.word (← facts))
  | "false" => some do built (SpecialConstant.false.word (← facts))
  | "undef" => some do built (SpecialConstant.undef.word (← facts))
  | "fixnum" => some do
    let i ← decode (longField d "i")
    built (Heap.fixnumOf (← facts) i)
  | "integer" => some do
    let i ← decode (longField d "i")
    built (← heap (Heap.integer i))
  | "bignum" => some do
    let n ← decode (bigIntegerField d "n")
    built (← heap (Heap.bignum n))
  | "float" => some do
    let f ← decode (floatField d "f")
    built (← heap (Heap.float f))
  | "heap_float" => some do
    let f ← decode (floatField d "f")
    built (← heap (Heap.heapFloat f))
  | "string" => some do
    let b ← decode (bytesArgument d)
    built (← heap (Heap.string b))
  | "heap_string" => some do
    let b ← decode (bytesArgument d)
    built (← heap (Heap.heapString b))
  | "concat" => some do
    let parts ← decode (concatParts d)
    built (← heap (Heap.string (String.join parts).toUTF8))
  | "array" => some do
    let elems ← arrayElements d
    built (← heap (Heap.array elems))
  | "heap_array" => some do
    let elems ← arrayElements d
    built (← heap (Heap.heapArray elems))
  | "symbol" => some do
    let name ← decode (stringField d "name")
    built (← heap (Heap.symbol name))
  | "dsymbol" => some do
    let name ← decode (stringField d "name")
    built (← heap (Heap.dynamicSymbol name))
  | "hash" => some do built (← heap Heap.hash)
  | "object" => some do built (← heap Heap.plainObject)
  | "class" => some do
    let t ← decode (typeField d "t")
    let found := (← get).heap.classOf t
    let v := found.getD 0
    let r ← render
    return { doc := .obj [("v", r.wordDoc v), ("ok", .bool found.isSome)], value := some v }
  | "buffer" => some do
    let b ← decode (bytesArgument d)
    built (← heap (Heap.buffer b))
  | "raw" => some do
    let ws ← decode ((← get).valuesField d "words")
    built (← heap (Heap.buffer (Heap.wordsBytes ws)))
  | "at" => some do
    let off ← decode (intField d "off")
    built (← decode ((← get).offsetAddress off))
  | "datatype" => some do
    let name ← decode (stringField d "name")
    built (← heap (Heap.dataType name))
  | "typed_data" => some do
    let typ ← value d "type"
    let data ← decode ((← get).valueFieldOr d "data" 0)
    built (← heap (Heap.typedData typ data))
  | "embedded_typed_data" => some do
    let typ ← value d "type"
    let b ← decode (bytesArgument d)
    built (← heap (Heap.embeddedTypedData typ b))
  | "data" => some do
    let data ← decode ((← get).valueFieldOr d "data" 0)
    built (← heap (Heap.untypedData data))
  | "hide" => some (objectStep d Heap.hide)
  | "freeze" => some (objectStep d Heap.freeze)
  | "intern" => some (objectStep d Heap.internSample)
  | _ => none

end RubyLayout.Service
