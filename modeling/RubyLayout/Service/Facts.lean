import RubyLayout.Service.Versions
import RubyLayout.Facts.Diff
import RubyLayout.Binary64.Text

/-!
# Layout facts as answers

The facts of a release, optionally patched field by field, are answered as a JSON object of
groups and fields, with their fingerprint, their canonical binary form in hexadecimal, whether
that form reads back to the same facts, the largest slot size and whether typed data is
supported. Numbers in the JSON object pass through binary64, as every JSON number does for the
service's clients, so integers beyond 2^53 are written as the nearest binary64 value.
-/

set_option autoImplicit false

namespace RubyLayout.Service

/-- A field value as a JSON value. -/
def fieldDoc : FieldValue → Doc
  | .word n => Doc.int (Binary64.roundTripInt n.toNat)
  | .int i => Doc.int (Binary64.roundTripInt i)
  | .flag b => .bool b

/-- The facts as a JSON object: top-level fields, and groups of fields. -/
def factsDoc (f : Facts) : Doc :=
  let entries := f.entries
  let groups := ["Version", "Specials", "Header", "String", "Array", "GC", "TypedData"]
  let groupDoc (g : String) : Doc :=
    .obj ((entries.filter fun e => e.group.map Prod.fst == some g).map fun e =>
      (e.name, fieldDoc e.value))
  let tops := (entries.filter fun e => e.group.isNone).map fun e => (e.name, fieldDoc e.value)
  .obj (tops ++ groups.map fun g => (g, groupDoc g))

/-- Hexadecimal text as bytes. -/
def readHex (s : String) : Option ByteArray :=
  let cs := s.toList
  if cs.length % 2 ≠ 0 then none
  else
    let pairs := (List.range (cs.length / 2)).map fun i =>
      (cs.getD (2 * i) ' ', cs.getD (2 * i + 1) ' ')
    let bytes : Option (List UInt8) := pairs.mapM fun (h, l) => do
      let a ← hexDigitValue h
      let b ← hexDigitValue l
      pure (a * 16 + b).toUInt8
    bytes.map fun bs => ByteArray.mk bs.toArray

/-- The value a patch gives to a field of the kind `kind`: a word or an integer read as a
field named `x`, or a flag. -/
def patchValue (path : String) (kind : FieldValue) (d : Doc) : Decode FieldValue :=
  let single := Doc.obj [("x", d)]
  match kind with
  | .word _ => return .word (← wordField single "x")
  | .int _ => return .int (← intField single "x")
  | .flag _ =>
    match d with
    | .bool b => .ok (.flag b)
    | _ => .error (path ++ " needs a bool")

/-- Applies a patch object to facts. -/
def applyPatch (f : Facts) (patch : Doc) : Decode Facts :=
  match patch with
  | .obj members =>
    members.foldlM (fun acc (path, v) => do
      match Facts.kindAt path with
      | none => .error ("unknown facts field " ++ Text.quote path)
      | some kind =>
        let value ← patchValue path kind v
        pure (acc.set path value)) f
  | _ => .error "patch must be an object"

/-- The facts a `{version, tier?, patch?}` object names; the tier is checked but does not
change the facts. -/
def Build.factsOf (b : Build) (d : Doc) : Answer Facts := do
  let r ← b.releaseField d "version"
  let _ ← Answer.ofDecode (tierAt d "tier")
  match d.get? "patch" with
  | none => pure r.facts
  | some p => Answer.ofDecode (applyPatch r.facts p)

/-- The `facts` answer. -/
def factsAnswer (b : Build) (d : Doc) : Answer Doc := do
  let f ← b.factsOf d
  let bytes := ByteArray.mk f.encode.toArray
  let roundTrip := match Facts.decode bytes with
    | .ok g => decide (g = f)
    | .error _ => false
  pure (.obj [("facts", factsDoc f),
              ("fingerprint", .str ("0x" ++ Word.hex16 f.fingerprint)),
              ("cbor", .str (Render.hexBytes bytes)),
              ("roundtrip_equal", .bool roundTrip),
              ("max_slot_size", .str (toString f.gc.maxSlotSize.toNat)),
              ("typed_data_supported", .bool f.typedData.supported)])

/-- The `unmarshal_facts` answer. -/
def unmarshalFactsAnswer (d : Doc) : Answer Doc := do
  let text ← Answer.ofDecode (stringField d "hex")
  let bytes ← match readHex text with
    | some b => pure b
    | none => throw (Doc.badInput "bad hex")
  match Facts.decode bytes with
  | .ok f =>
    pure (.obj [("facts", factsDoc f), ("fingerprint", .str ("0x" ++ Word.hex16 f.fingerprint))])
  | .error e => throw (Doc.error "error" e.message)

/-- The `diff_facts` answer. -/
def diffFactsAnswer (b : Build) (d : Doc) : Answer Doc := do
  match d.get? "a", d.get? "b" with
  | some (.obj a), some (.obj c) =>
    let fa ← b.factsOf (.obj a)
    let fb ← b.factsOf (.obj c)
    pure (.obj [("diff", .arr ((fa.diff fb).map .str))])
  | _, _ => throw (Doc.badInput "a and b must be objects")

end RubyLayout.Service
