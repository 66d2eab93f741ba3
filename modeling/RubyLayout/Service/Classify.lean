import RubyLayout.Service.Versions

/-!
# Classifying a word and the fixnum and symbol codec

`classify` runs the classification of one word without memory. Every answer has the seven tag
tests; a special constant also gets its type, the type codes it has, the type predicates, and
the fixnum and symbol conversions that apply. Where the tier or the build verifies
preconditions, the answer also shows how each memory accessor refuses the word.

`codec` runs the fixnum conversions on an integer (`Long2Fix` and back), the fixnum test on an
unsigned integer, and the static symbol of an identifier and back.
-/

set_option autoImplicit false

namespace RubyLayout.Service

/-- No memory: the accessors that `classify` runs refuse special constants before reading. -/
def noMemory : Memory := ⟨0, 0, ByteArray.empty⟩

/-- The accessor set a request names with its `version` field and the tier field `tierKey`. -/
def Build.apiAt (b : Build) (d : Doc) (tierKey : String) : Answer Api := do
  let r ← b.releaseField d "version"
  let tier ← Answer.ofDecode (tierAt d tierKey)
  pure (Api.ofRelease r b.debug tier)

/-- The accessor set a request names with its `version` and `tier` fields. -/
def Build.apiField (b : Build) (d : Doc) : Answer Api := b.apiAt d "tier"

/-- The seven tag tests of a word. -/
def tagTests (f : Facts) (v : Value) : List (String × Doc) :=
  [("SpecialConstP", .bool (f.isSpecialConst v)), ("NilP", .bool (f.isNil v)),
   ("Test", .bool (f.truthy v)), ("FixnumP", .bool (f.isFixnum v)),
   ("StaticSymP", .bool (f.isStaticSymbol v)), ("FlonumP", .bool (f.isFlonum v)),
   ("ImmediateP", .bool (f.isImmediate v))]

/-- The names of the codes below 0x20 that a value has. -/
def typeList (api : Api) (m : Memory) (v : Value) : Access (List String) :=
  ((List.range 32).map fun i => TypeCode.mk i.toUInt32).foldlM (fun acc t => do
    if ← api.raw.typeP m v t then pure (acc ++ [t.name]) else pure acc) []

/-- A boolean outcome as a document. -/
def boolOutcome (r : Render) (x : Access Bool) : Doc := r.outcome x .bool

/-- The `classify` answer. -/
def classifyAnswer (b : Build) (d : Doc) : Answer Doc := do
  let api ← b.apiField d
  let v ← Answer.ofDecode (wordField d "word")
  let f := api.layout
  let m := noMemory
  let r : Render := {}
  let base := [("version", Doc.str api.version.text)] ++ tagTests f v
  if !f.isSpecialConst v then return .obj base
  let raw := api.raw
  let verifying := api.checking || api.debug
  let types : List (String × Doc) :=
    [("RBType", r.outcome (raw.rbType m v) fun t => .str t.name),
     ("TypeP", r.outcome (typeList api m v) fun ns => .arr (ns.map .str)),
     ("SymbolP", boolOutcome r (raw.symbolP m v)),
     ("DynamicSymP", boolOutcome r (raw.dynamicSymP m v)),
     ("FloatTypeP", boolOutcome r (raw.floatTypeP m v)),
     ("IntegerTypeP", boolOutcome r (raw.integerTypeP m v)),
     ("FrozenP", boolOutcome r (raw.frozenP m v))]
  let fixnums : List (String × Doc) :=
    if f.isFixnum v || verifying then
      [("Fix2Long", r.outcome (api.fixToLong m v) fun i => .str (toString i)),
       ("Fix2ULong", r.outcome (api.fixToULong m v) fun u => .str (toString u.toNat))]
    else []
  let roundTrip : List (String × Doc) :=
    if f.isFixnum v then
      [("Long2Fix(Fix2Long)", r.outcome (api.fixToLong m v >>= api.longToFix) r.wordDoc)]
    else []
  let symbols : List (String × Doc) :=
    if f.isStaticSymbol v then
      [("Sym2ID", .str (Word.hex (f.symbolId v))),
       ("ID2Sym(Sym2ID)", .str (Word.hex (f.idToSymbol (f.symbolId v))))]
    else []
  let refusals : List (String × Doc) :=
    if verifying then
      [("BuiltinType", r.outcome (api.builtinType m v) fun t => .str t.name),
       ("RBasicClass", r.outcome (api.basicClass m v) fun (k, ok) =>
          .obj [("klass", r.wordDoc k), ("ok", .bool ok)]),
       ("BignumPositiveP", boolOutcome r (api.bignumPositiveP m v)),
       ("BignumNegativeP", boolOutcome r (api.bignumNegativeP m v)),
       ("RStringLen", r.outcome (api.stringLength m v) fun i => .str (toString i)),
       ("RStringPtr", r.outcome (api.stringPtr m v) r.wordDoc),
       ("RArrayLen", r.outcome (api.arrayLength m v) fun i => .str (toString i)),
       ("RArrayConstPtr", r.outcome (api.arrayPtr m v) r.wordDoc),
       ("RArrayAref", r.outcome (api.arrayRef m v 0) r.wordDoc)] ++
      (if api.hasInternedStrings then
        [("RStringInternedP", boolOutcome r (api.stringInternedP m v))] else []) ++
      (if api.hasTypedData then
        [("RTypedDataP", boolOutcome r (api.typedDataP m v)),
         ("RTypedDataEmbeddedP", boolOutcome r (api.typedDataEmbeddedP m v)),
         ("RTypedDataType", r.outcome (api.typedDataType m v) r.wordDoc),
         ("RTypedDataGetData", r.outcome (api.typedDataGetData m v) r.wordDoc)] else [])
    else []
  return .obj (base ++ types ++ fixnums ++ roundTrip ++ symbols ++ refusals)

/-- The `codec` answer. -/
def codecAnswer (b : Build) (d : Doc) : Answer Doc := do
  let api ← b.apiField d
  let f := api.layout
  let m := noMemory
  let r : Render := {}
  let longPart ← match d.get? "i" with
    | none => pure []
    | some _ => do
      let i ← Answer.ofDecode (longField d "i")
      let fix := api.longToFix i
      pure [("Fixable", Doc.bool (Accessors.fixable i)),
            ("Long2Fix", r.outcome fix r.wordDoc),
            ("Fix2Long(Long2Fix)", r.outcome (fix >>= api.fixToLong m) fun n => .str (toString n)),
            ("Fix2ULong(Long2Fix)",
              r.outcome (fix >>= api.fixToULong m) fun u => .str (toString u.toNat))]
  let ulongPart ← match d.get? "u" with
    | none => pure []
    | some _ => do
      let u ← Answer.ofDecode (ulongField d "u")
      pure [("PosFixable", Doc.bool (Accessors.posFixable u))]
  let idPart ← match d.get? "id" with
    | none => pure []
    | some _ => do
      let id ← Answer.ofDecode (wordField d "id")
      let sym := f.idToSymbol id
      let static := f.isStaticSymbol sym
      pure ([("ID2Sym", r.wordDoc sym), ("StaticSymP(ID2Sym)", Doc.bool static)] ++
        (if static then [("Sym2ID(ID2Sym)", r.wordDoc (f.symbolId sym))] else []))
  return .obj ([("version", Doc.str api.version.text)] ++ longPart ++ ulongPart ++ idPart)

end RubyLayout.Service
