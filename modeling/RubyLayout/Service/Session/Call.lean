import RubyLayout.Service.Session.Basic
import RubyLayout.Service.Classify

/-!
# Calling accessors

A `call` step runs one accessor of the session's accessor set on its arguments: `v` (a value),
`i` (a signed integer), `u` (an unsigned integer), `t` (a type) and `id` (a value). Results are
answered by their kind: a boolean, a word, a signed or unsigned integer, an identifier, a type,
a class with whether it is set, a version, the bytes of a string or the elements of an array.
Words, integers and identifiers are the step's value.

Before an accessor reads memory, the session makes sure the read stays in the arena:

* a `v` argument, whatever the accessor, must be a special constant or an object in the arena;
  this is checked before the accessor is even looked up;
* in the unchecked tier of the plain build, an accessor of heap objects called on a special
  constant would read through the word itself, and is refused, before an accessor the
  release lacks is refused;
* an array element, and the bytes of a string or the elements of an array, must lie in the
  readable pages, with a count that is not negative (and at most 2^20 elements). These ranges
  are checked only when the accessor reaches the read, after the preconditions the tier or the
  build verifies.
-/

set_option autoImplicit false

namespace RubyLayout.Service

open StepM

/-- The result of an accessor, by its kind. -/
inductive CallResult where
  | bool (b : Bool)
  | word (w : Value)
  | long (i : Int)
  | ulong (u : UInt64)
  | id (i : SymbolId)
  | type (t : TypeCode)
  | klass (k : Value) (ok : Bool)
  | version (v : Version)
  | bytes (b : ByteArray)
  | words (ws : List Value)

namespace CallResult

/-- The answer of a result. -/
def doc (r : Render) : CallResult → Doc
  | .bool b => .obj [("bool", .bool b)]
  | .word w => .obj [("v", r.wordDoc w)]
  | .long i => .obj [("long", .str (r.long i))]
  | .ulong u => .obj [("ulong", .str (r.ulong u))]
  | .id i => .obj [("id", r.wordDoc i)]
  | .type t => .obj [("type", .str t.name)]
  | .klass k ok => .obj [("v", r.wordDoc k), ("ok", .bool ok)]
  | .version v => .obj [("version", .str v.text)]
  | .bytes b => Render.bytesDoc b
  | .words ws => r.wordsDoc ws

/-- The value a result leaves: the word of a numeric result. -/
def value? : CallResult → Option Value
  | .word w => some w
  | .long i => some (Word.ofInt i)
  | .ulong u => some u
  | .id i => some i
  | .klass k _ => some k
  | _ => none

end CallResult

/-- Refuses an accessor of heap objects on an immediate when nothing checks first. -/
def requireDereferencable (v : Value) : StepM Unit := do
  let api := (← get).api
  if !api.checking && !api.debug && api.layout.isSpecialConst v then
    throw (unmappedDoc "accessor on an immediate")

/-- The accessors of heap objects, which read memory through their `v` argument. -/
def readsObject (fn : String) : Bool :=
  ["BuiltinType", "RBasicClass", "BignumPositiveP", "BignumNegativeP", "RStringLen",
   "RStringPtr", "RStringInternedP", "RArrayLen", "RArrayConstPtr", "RArrayAref",
   "StringValue", "ArrayValues", "RTypedDataP", "RTypedDataEmbeddedP", "RTypedDataType",
   "RTypedDataGetData"].contains fn

/-- The `v` argument of an accessor that may read the object. -/
def objectArgument (d : Doc) : StepM Value := do
  let v ← value d "v"
  requireObjectOrSpecial v
  pure v

/-- The `v` argument of an accessor of heap objects. -/
def heapArgument (d : Doc) : StepM Value := do
  let v ← value d "v"
  requireDereferencable v
  requireObjectOrSpecial v
  pure v

/-- Refuses the interned-string accessor where the accessor set lacks it. -/
def requireInterned : StepM Unit := do
  if !(← get).api.hasInternedStrings then
    throw (Doc.error "unsupported" "version has no RStringInternedP")

/-- Refuses the typed data accessors where the accessor set lacks them. -/
def requireTypedData : StepM Unit := do
  if !(← get).api.hasTypedData then
    throw (Doc.error "unsupported" "version has no typed data accessors")

/-- Element `i` of an array, refused when the element the accessor reads lies outside the
readable pages. -/
def arrayElement (v : Value) (i : Int) : StepM Value := do
  let s ← get
  let api := s.api
  let m := s.heap.memory
  let plain := api.plain
  let reads : Bool :=
    if api.checking || api.debug then
      match plain.builtinType m v, plain.arrayLength m v with
      | .ok t, .ok n => !api.layout.isSpecialConst v && t == TypeCode.array && 0 ≤ i && i < n
      | _, _ => false
    else true
  if reads then
    let p ← access (plain.arrayPtr m v)
    if !m.readable (p + Word.ofInt (8 * i)) 8 then throw (unmappedDoc "element outside the arena")
  access (api.arrayRef m v i)

/-- The bytes of a string, refused when they lie outside the readable pages. -/
def stringBytes (v : Value) : StepM ByteArray := do
  let s ← get
  let m := s.heap.memory
  let p ← access (s.api.stringPtr m v)
  let n ← access (s.api.stringLength m v)
  requireRange p n "string bytes outside the arena"
  access (Api.view m p n 1)

/-- The largest number of array elements read at once. -/
def elementLimit : Int := Int.pow 2 20

/-- The elements of an array, refused when they lie outside the readable pages or are too
many. -/
def arrayWords (v : Value) : StepM (List Value) := do
  let s ← get
  let m := s.heap.memory
  let p ← access (s.api.arrayPtr m v)
  let n ← access (s.api.arrayLength m v)
  if n > elementLimit then throw (unmappedDoc "elements outside the arena")
  requireRange p (8 * n) "elements outside the arena"
  return Api.wordsOf (← access (Api.view m p n 8))

/-- Runs the accessor `fn` on the step's arguments. -/
def callResult (fn : String) (d : Doc) : StepM CallResult := do
  let api := (← get).api
  let f := api.layout
  let memory : StepM Memory := return (← get).heap.memory
  let tagTest (p : Value → Bool) : StepM CallResult := do
    let v ← value d "v"
    return .bool (p v)
  match fn with
  | "SpecialConstP" => tagTest f.isSpecialConst
  | "NilP" => tagTest f.isNil
  | "Test" => tagTest f.truthy
  | "FixnumP" => tagTest f.isFixnum
  | "StaticSymP" => tagTest f.isStaticSymbol
  | "FlonumP" => tagTest f.isFlonum
  | "ImmediateP" => tagTest f.isImmediate
  | "BuiltinType" => do
    let v ← heapArgument d
    return .type (← access (api.builtinType (← memory) v))
  | "RBType" => do
    let v ← objectArgument d
    return .type (← access (api.raw.rbType (← memory) v))
  | "TypeP" => do
    let v ← objectArgument d
    let t ← decode (typeField d "t")
    return .bool (← access (api.raw.typeP (← memory) v t))
  | "SymbolP" => do
    let v ← objectArgument d
    return .bool (← access (api.raw.symbolP (← memory) v))
  | "DynamicSymP" => do
    let v ← objectArgument d
    return .bool (← access (api.raw.dynamicSymP (← memory) v))
  | "FloatTypeP" => do
    let v ← objectArgument d
    return .bool (← access (api.raw.floatTypeP (← memory) v))
  | "IntegerTypeP" => do
    let v ← objectArgument d
    return .bool (← access (api.raw.integerTypeP (← memory) v))
  | "FrozenP" => do
    let v ← objectArgument d
    return .bool (← access (api.raw.frozenP (← memory) v))
  | "RBasicClass" => do
    let v ← heapArgument d
    let (k, ok) ← access (api.basicClass (← memory) v)
    return .klass k ok
  | "BignumPositiveP" => do
    let v ← heapArgument d
    return .bool (← access (api.bignumPositiveP (← memory) v))
  | "BignumNegativeP" => do
    let v ← heapArgument d
    return .bool (← access (api.bignumNegativeP (← memory) v))
  | "RStringLen" => do
    let v ← heapArgument d
    return .long (← access (api.stringLength (← memory) v))
  | "RStringPtr" => do
    let v ← heapArgument d
    return .word (← access (api.stringPtr (← memory) v))
  | "RStringInternedP" => do
    requireInterned
    let v ← heapArgument d
    return .bool (← access (api.stringInternedP (← memory) v))
  | "RArrayLen" => do
    let v ← heapArgument d
    return .long (← access (api.arrayLength (← memory) v))
  | "RArrayConstPtr" => do
    let v ← heapArgument d
    return .word (← access (api.arrayPtr (← memory) v))
  | "RArrayAref" => do
    let v ← heapArgument d
    let i ← decode (longField d "i")
    return .word (← arrayElement v i)
  | "RTypedDataP" => do
    requireTypedData
    let v ← heapArgument d
    return .bool (← access (api.typedDataP (← memory) v))
  | "RTypedDataEmbeddedP" => do
    requireTypedData
    let v ← heapArgument d
    return .bool (← access (api.typedDataEmbeddedP (← memory) v))
  | "RTypedDataType" => do
    requireTypedData
    let v ← heapArgument d
    return .word (← access (api.typedDataType (← memory) v))
  | "RTypedDataGetData" => do
    requireTypedData
    let v ← heapArgument d
    return .word (← access (api.typedDataGetData (← memory) v))
  | "Fix2Long" => do
    let v ← objectArgument d
    return .long (← access (api.fixToLong (← memory) v))
  | "Fix2ULong" => do
    let v ← objectArgument d
    return .ulong (← access (api.fixToULong (← memory) v))
  | "Long2Fix" => do
    let i ← decode (longField d "i")
    return .word (← access (api.longToFix i))
  | "Fixable" => do
    let i ← decode (longField d "i")
    return .bool (Accessors.fixable i)
  | "PosFixable" => do
    let u ← decode (ulongField d "u")
    return .bool (Accessors.posFixable u)
  | "Long2Num" => do
    let i ← decode (longField d "i")
    return .word (← host (api.long2Num i))
  | "ULong2Num" => do
    let u ← decode (ulongField d "u")
    return .word (← host (api.ulong2Num u))
  | "Num2Long" => do
    let v ← value d "v"
    return .long (← host (api.num2Long v))
  | "Num2ULong" => do
    let v ← value d "v"
    return .ulong (← host (api.num2ULong v))
  | "ID2Sym" => do
    let i ← value d "id"
    return .word (f.idToSymbol i)
  | "Sym2ID" => do
    let v ← value d "v"
    return .id (← host (api.sym2Id v))
  | "Version" => return .version api.version
  | "StringValue" => do
    let v ← heapArgument d
    return .bytes (← stringBytes v)
  | "ArrayValues" => do
    let v ← heapArgument d
    return .words (← arrayWords v)
  | _ => throw (Doc.badInput ("unknown fn " ++ Text.quote fn))

/-- The `call` step. -/
def callStep (d : Doc) : StepM Outcome := do
  let fn := (d.getStr? "fn").getD ""
  if (d.get? "v").isSome then
    let v ← value d "v"
    requireObjectOrSpecial v
    if readsObject fn then requireDereferencable v
  let result ← callResult fn d
  return { doc := result.doc (← render), value := result.value? }

end RubyLayout.Service
