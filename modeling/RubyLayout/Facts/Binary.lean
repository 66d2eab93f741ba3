import RubyLayout.Facts.Basic
import RubyLayout.Cbor.Decode
import RubyLayout.Hash.Xxh3

/-!
# The binary form of layout facts

Facts are written as a canonical CBOR map from the top-level keys 1 to 9 to their values: the
version and the six layout groups are maps of their own fields by key, the word size is an
unsigned integer and the flonum flag a boolean. Every field is written, zero or not. The
fingerprint of the facts is the XXH3 hash of these bytes.

Reading accepts any well-formed CBOR item and fills the fields it names, starting from all
zeros: unknown keys are skipped, `null` is all zeros, and an item of the wrong type is
refused with a message naming the field.
-/

set_option autoImplicit false

namespace RubyLayout

open Cbor

/-- A field value as a CBOR item. -/
def FieldValue.toItem : FieldValue → Item
  | .word n => .unsigned n
  | .int i => Item.ofInt i
  | .flag b => Item.ofBool b

/-- The groups of the facts with their keys, in key order. -/
def Facts.groups : List (String × Nat) :=
  [("Version", 1), ("Specials", 4), ("Header", 5), ("String", 6), ("Array", 7), ("GC", 8),
   ("TypedData", 9)]

/-- The name a decoding error gives each group's record type. -/
def Facts.groupType : String → String
  | "Version" => "rb.Version"
  | "Specials" => "rb.Specials"
  | "Header" => "rb.Header"
  | "String" => "rb.StringLayout"
  | "Array" => "rb.ArrayLayout"
  | "GC" => "rb.GCLayout"
  | _ => "rb.TypedDataLayout"

/-- The map of one group's fields by key. -/
def Facts.groupItem (f : Facts) (g : String) : Item :=
  .map ((f.entries.filter (fun e => e.group.map Prod.fst == some g)).map
    fun e => (.unsigned e.key.toUInt64, e.value.toItem))

/-- The facts as one CBOR map, top-level keys ascending. -/
def Facts.toItem (f : Facts) : Item :=
  let top := f.entries.filter (fun e => e.group.isNone)
  let topItems := top.map fun e => (e.key, e.value.toItem)
  let groupItems := Facts.groups.map fun (g, k) => (k, f.groupItem g)
  let all := (topItems ++ groupItems).mergeSort (fun a b => a.1 ≤ b.1)
  .map (all.map fun (k, v) => (.unsigned k.toUInt64, v))

/-- The canonical bytes of the facts. -/
def Facts.encode (f : Facts) : List UInt8 := f.toItem.encode

/-- The fingerprint of the facts: the XXH3 hash of their canonical bytes. -/
def Facts.fingerprint (f : Facts) : UInt64 := Xxh3.hash (ByteArray.mk f.encode.toArray)

/-- Decodes one field value of the kind `kind` into the facts at `path`. -/
def Facts.decodeField (path : String) (kind : FieldValue) (i : Item) (f : Facts) :
    Except DecodeError Facts :=
  match kind with
  | .word _ => do
    match ← decodeWord i with
    | some n => return f.set path (.word n)
    | none => return f
  | .int _ => do
    match ← decodeInt i with
    | some n => return f.set path (.int n)
    | none => return f
  | .flag _ => do
    match ← decodeBool i with
    | some b => return f.set path (.flag b)
    | none => return f

/-- The decoder of the field of key `j` in the group `g`, at the path and of the kind that the
entries `es` give it. -/
def Facts.groupField (es : List FactEntry) (g : String) (j : Nat) :
    Option (Item → Facts → Except DecodeError Facts) :=
  (es.find? (fun e => e.group.map Prod.fst == some g && e.key == j)).map
    fun e => Facts.decodeField e.path e.value

/-- The decoder of the top-level key `k`: a top-level field, or a group decoded as a record of
its own. -/
def Facts.topField (es : List FactEntry) (k : Nat) :
    Option (Item → Facts → Except DecodeError Facts) :=
  match es.find? (fun e => e.group.isNone && e.key == k) with
  | some e => some (Facts.decodeField e.path e.value)
  | none =>
    match Facts.groups.find? (fun g => g.2 == k) with
    | none => none
    | some (g, _) =>
      some fun item f => decodeRecord (Facts.groupType g) f (Facts.groupField es g) item

/-- Decodes the facts from an item, starting from `init`. -/
def Facts.ofItem (init : Facts) (i : Item) : Except DecodeError Facts :=
  decodeRecord "rb.Facts" init (Facts.topField init.entries) i

/-- Why bytes are not facts. -/
inductive FactsReadError where
  | malformed (e : ReadError)
  | mismatch (e : DecodeError)
deriving DecidableEq, Repr

/-- The message of a facts reading error. -/
def FactsReadError.message : FactsReadError → String
  | .malformed e => "rb: unmarshal facts: " ++ e.message
  | .mismatch e => "rb: unmarshal facts: " ++ e.message

/-- The all-zero facts, where reading starts. -/
def Facts.zero : Facts :=
  { version := ⟨0, 0⟩, wordSize := 0, flonum := false,
    specials := ⟨0, 0, 0, 0, 0, 0, 0, 0, 0, 0⟩, header := ⟨0, 0, 0, 0, 0, 0⟩,
    string := ⟨0, 0, 0, 0, 0, 0, 0, 0, 0⟩, array := ⟨0, 0, 0, 0, 0, 0, 0⟩, gc := ⟨0, 0⟩,
    typedData := ⟨0, 0, 0, 0, 0, 0⟩ }

/-- Reads facts from bytes. -/
def Facts.decode (data : ByteArray) : Except FactsReadError Facts :=
  match Cbor.read data with
  | .error e => .error (.malformed e)
  | .ok item =>
    match Facts.ofItem Facts.zero item with
    | .error e => .error (.mismatch e)
    | .ok f => .ok f

end RubyLayout
