import RubyLayout.Service.Session.Call

/-!
# Describing a value

`describe` runs on one value what a conformance check runs on a sample, each entry answering
its result or its failure:

* always the seven tag tests, the type, the type codes the value has, the symbol, float and
  integer type tests and the frozen test, and the float the heap reads from the value when it
  is one;
* for a fixnum, its integer both ways and the host's conversions; for a static symbol, its
  identifier and, when interned, its name;
* for a heap object, its header type and class, and then by that type: a string's length,
  address and bytes (and interned flag where the accessors have one); an array's length,
  address and elements; a bignum's sign tests, the host's conversions and the integer the heap
  built it from; a float's conversion to an integer; a dynamic symbol's identifier; and typed
  data's four accessors where the accessors have them.

The value must be a special constant or an object in the arena.
-/

set_option autoImplicit false

namespace RubyLayout.Service

open StepM

/-- One entry: its result written by `f`, or its failure. -/
def entry {α : Type} (x : StepM α) (f : Render → α → Doc) : StepM Doc :=
  attempt do
    let a ← x
    return f (← render) a

/-- The entries for an immediate. -/
def immediateEntries (v : Value) : StepM (List (String × Doc)) := do
  let s ← get
  let api := s.api
  let f := api.layout
  let m := s.heap.memory
  if f.isFixnum v then
    return [("Fix2Long", ← entry (access (api.fixToLong m v)) fun r i => .str (r.long i)),
            ("Fix2ULong", ← entry (access (api.fixToULong m v)) fun r u => .str (r.ulong u)),
            ("Num2Long", ← entry (host (api.num2Long v)) fun r i => .str (r.long i)),
            ("Num2ULong", ← entry (host (api.num2ULong v)) fun r u => .str (r.ulong u))]
  else if f.isStaticSymbol v then
    let id := f.symbolId v
    let name : List (String × Doc) :=
      match s.heap.symbols.name? id with
      | some n => [("name", .str n)]
      | none => []
    return [("Sym2ID", ← entry (host (api.sym2Id v)) fun r i => r.wordDoc i)] ++ name
  else return []

/-- The entries for a heap object of header type `t`. -/
def objectEntries (v : Value) (t : TypeCode) : StepM (List (String × Doc)) := do
  let s ← get
  let api := s.api
  let m := s.heap.memory
  let base : List (String × Doc) :=
    [("BuiltinType", ← entry (access (api.builtinType m v)) fun _ t => .str t.name),
     ("RBasicClass", ← entry (access (api.basicClass m v)) fun r (k, ok) =>
        .obj [("v", r.wordDoc k), ("ok", .bool ok)])]
  let bool (x : Access Bool) : StepM Doc := entry (access x) fun _ b => .bool b
  let byType : List (String × Doc) ←
    if t == TypeCode.string then do
      let interned ←
        if api.hasInternedStrings then
          pure [("RStringInternedP", ← bool (api.stringInternedP m v))]
        else pure []
      pure ([("RStringLen", ← entry (access (api.stringLength m v)) fun r i => .str (r.long i)),
             ("RStringPtr", ← entry (access (api.stringPtr m v)) fun r p => r.wordDoc p),
             ("bytes", ← entry (stringBytes v) fun _ b => Render.bytesDoc b)] ++ interned)
    else if t == TypeCode.array then
      pure [("RArrayLen", ← entry (access (api.arrayLength m v)) fun r i => .str (r.long i)),
            ("RArrayConstPtr", ← entry (access (api.arrayPtr m v)) fun r p => r.wordDoc p),
            ("elems", ← entry (arrayWords v) fun r ws => r.wordsDoc ws)]
    else if t == TypeCode.bignum then do
      let big : List (String × Doc) :=
        match Heap.bigValue (← get).heap v with
        | some x => [("big", .str (toString x))]
        | none => []
      pure ([("BignumPositiveP", ← bool (api.bignumPositiveP m v)),
             ("BignumNegativeP", ← bool (api.bignumNegativeP m v)),
             ("Num2Long", ← entry (host (api.num2Long v)) fun r i => .str (r.long i)),
             ("Num2ULong", ← entry (host (api.num2ULong v)) fun r u => .str (r.ulong u))] ++ big)
    else if t == TypeCode.float then
      pure [("Num2Long", ← entry (host (api.num2Long v)) fun r i => .str (r.long i))]
    else if t == TypeCode.symbol then
      pure [("Sym2ID", ← entry (host (api.sym2Id v)) fun r i => r.wordDoc i)]
    else if t == TypeCode.data && api.hasTypedData then
      pure [("RTypedDataP", ← bool (api.typedDataP m v)),
            ("RTypedDataEmbeddedP", ← bool (api.typedDataEmbeddedP m v)),
            ("RTypedDataType", ← entry (access (api.typedDataType m v)) fun r p => r.wordDoc p),
            ("RTypedDataGetData",
              ← entry (access (api.typedDataGetData m v)) fun r p => r.wordDoc p)]
    else pure []
  return base ++ byType

/-- The description of a value that is a special constant or an object in the arena. -/
def describeValue (v : Value) : StepM Doc := do
  let s ← get
  let api := s.api
  let f := api.layout
  let m := s.heap.memory
  let r := s.render
  let raw := api.raw
  let bool (x : Access Bool) : Doc := r.outcome x .bool
  let common : List (String × Doc) :=
    tagTests f v ++
    [("RBType", r.outcome (raw.rbType m v) fun t => .str t.name),
     ("TypeP", r.outcome (typeList api m v) fun ns => .arr (ns.map .str)),
     ("SymbolP", bool (raw.symbolP m v)),
     ("DynamicSymP", bool (raw.dynamicSymP m v)),
     ("FloatTypeP", bool (raw.floatTypeP m v)),
     ("IntegerTypeP", bool (raw.integerTypeP m v)),
     ("FrozenP", bool (raw.frozenP m v))]
  let float : List (String × Doc) :=
    match (Heap.exec s.heap (Heap.floatValue v)).1 with
    | .ok (some bits) => [("float", Render.floatDoc bits)]
    | _ => []
  let kind ←
    if f.isSpecialConst v then immediateEntries v
    else
      match api.plain.builtinType m v with
      | .ok t => objectEntries v t
      | .error _ => pure []
  return .obj (common ++ float ++ kind)

/-- The `describe` step. -/
def describeStep (d : Doc) : StepM Outcome := do
  let v ← value d "v"
  requireObjectOrSpecial v
  return { doc := ← describeValue v }

end RubyLayout.Service
