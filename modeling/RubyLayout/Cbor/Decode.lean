import RubyLayout.Cbor.Read

/-!
# Decoding CBOR items into records

Records are decoded from maps whose keys name their fields by small integers. An integer key
names the field of that number, and a text key the field whose number it spells in decimal
without leading zeros; a field is decoded at its first key only, and a later key for the same
field is skipped unread. Other keys are skipped too, except a key of another type, a negative
key beyond the machine range or a text key that is not UTF-8, which are errors. `null` and
`undefined` leave a field as it was. Decoding goes on after an error, and the first error is
the one reported.

Before a field's value is decoded, its tags are read through: tags 0 to 3 must tag text, a
number or bytes as the standard says, tag 2 or 3 around bytes is the bignum they spell, and
other tags are transparent. A simple value other than `false`, `true`, `null` and `undefined`
reads as its number, and a negative integer below the machine range is refused whatever the
target.

A type error reads `cbor: cannot unmarshal <CBOR type> into Go value of type <type>`, or
`… into Go struct field <record>.<key> of type <type>` once a record field is known; the
field named is always the outermost one, and the type the innermost.
-/

set_option autoImplicit false

namespace RubyLayout.Cbor

/-- Why an item cannot be decoded into its target. -/
inductive DecodeError where
  /-- An item of the wrong type: its CBOR type, the target type, the outermost record field
  when known, and a note. -/
  | mismatch (cborType target : String) (field : Option String) (note : Option String)
  /-- Text that is not UTF-8. -/
  | invalidText
  /-- A standard tag around content of the wrong type: what the tag requires and the type of
  the content. -/
  | badTag (requirement cborType : String)
deriving DecidableEq, Repr

/-- The message of a decoding error. -/
def DecodeError.message : DecodeError → String
  | .mismatch c t f n =>
    let place := match f with
      | some f => " into Go struct field " ++ f
      | none => " into Go value"
    let tail := match n with
      | some n => " (" ++ n ++ ")"
      | none => ""
    "cbor: cannot unmarshal " ++ c ++ place ++ " of type " ++ t ++ tail
  | .invalidText => "cbor: invalid UTF-8 string"
  | .badTag r c => "cbor: " ++ r ++ ", got " ++ c

/-- Names the outermost record field of a type error. -/
def DecodeError.inField (field : String) : DecodeError → DecodeError
  | .mismatch c t _ n => .mismatch c t (some field) n
  | e => e

/-- What an item is decoded into. -/
inductive Target where
  /-- An unsigned machine word. -/
  | word
  /-- A signed machine integer. -/
  | int
  /-- A flag. -/
  | flag
  /-- A text. -/
  | text
  /-- A record of the given type name. -/
  | record (name : String)
  /-- A list of the given type name. -/
  | list (name : String)

/-- The name of a target type in messages. -/
def Target.name : Target → String
  | .word => "uint64"
  | .int => "int"
  | .flag => "bool"
  | .text => "string"
  | .record n => n
  | .list n => n

/-- An item as a decoder sees it once its tags are read. -/
inductive Datum where
  /-- A nonnegative integer: an unsigned item, a simple value or a positive bignum, with the
  CBOR type it came as. -/
  | nat (n : Nat) (cborType : String)
  /-- A negative integer within the machine range, with the CBOR type it came as. -/
  | neg (n : Int) (cborType : String)
  /-- `false` or `true`. -/
  | flag (b : Bool)
  /-- `null` or `undefined`. -/
  | nil
  /-- A float of any width. -/
  | float
  /-- UTF-8 text. -/
  | text (s : String)
  /-- A byte string. -/
  | bytes
  /-- An array. -/
  | array (items : List Item)
  /-- A map. -/
  | map (entries : List (Item × Item))

/-- The CBOR type of a datum in messages. -/
def Datum.cborType : Datum → String
  | .nat _ c | .neg _ c => c
  | .flag _ | .nil | .float => "primitives"
  | .text _ => "UTF-8 text string"
  | .bytes => "byte string"
  | .array _ => "array"
  | .map _ => "map"

/-- The type error of a datum for a target. -/
def Datum.mismatch (d : Datum) (target : Target) : DecodeError :=
  .mismatch d.cborType target.name none none

/-- The largest machine integer. -/
def intLimit : UInt64 := 0x7fffffffffffffff

/-- The value of a big-endian byte string. -/
def bytesValue (b : List UInt8) : Nat := b.foldl (fun acc x => acc * 256 + x.toNat) 0

/-- The error of a standard tag whose content has the wrong type: tag 0 tags text, tag 1 an
integer or a float, tags 2 and 3 bytes. -/
def tagError (number : UInt64) (content : Item) : Option DecodeError :=
  let got := majorName content.major
  match number.toNat, content with
  | 0, .text _ => none
  | 0, _ => some (.badTag "tag number 0 must be followed by text string" got)
  | 1, .unsigned _ | 1, .negative _ | 1, .float _ _ => none
  | 1, _ => some (.badTag "tag number 1 must be followed by integer or floating-point number" got)
  | 2, .bytes _ | 3, .bytes _ => none
  | 2, _ | 3, _ => some (.badTag "tag number 2 or 3 must be followed by byte string" got)
  | _, _ => none

/-- A bignum for a target: a list takes none; a value in the target's natural range is a
number, one beyond it is refused with the value. -/
def bignum (target : Target) (negative : Bool) (magnitude : Nat) : Except DecodeError Datum :=
  let value : Int := if negative then -1 - (magnitude : Int) else magnitude
  let overflow := DecodeError.mismatch "tag" target.name none
    (some (toString value ++ " overflows " ++ target.name))
  match target with
  | .list _ => .error (.mismatch "tag" target.name none none)
  | _ =>
    if negative then
      if magnitude ≤ intLimit.toNat then .ok (.neg value "tag") else .error overflow
    else if magnitude < UInt64.size then .ok (.nat magnitude "tag") else .error overflow

/-- Reads an item for a target. -/
def datum (target : Target) : Item → Except DecodeError Datum
  | .unsigned n => .ok (.nat n.toNat "positive integer")
  | .negative n =>
    if n > intLimit then
      .error (.mismatch "negative integer" target.name none
        (some ("-" ++ toString (n.toNat + 1) ++ " overflows Go's int64")))
    else .ok (.neg (-1 - (n.toNat : Int)) "negative integer")
  | .bytes _ => .ok .bytes
  | .text b =>
    match String.fromUTF8? (ByteArray.mk b.toArray) with
    | some s => .ok (.text s)
    | none => .error .invalidText
  | .array items => .ok (.array items)
  | .map entries => .ok (.map entries)
  | .simple v =>
    if v = 20 then .ok (.flag false)
    else if v = 21 then .ok (.flag true)
    else if v = 22 ∨ v = 23 then .ok .nil
    else .ok (.nat v.toNat "primitives")
  | .float _ _ => .ok .float
  | .tag number content =>
    match tagError number content with
    | some e => .error e
    | none =>
      match number.toNat, content with
      | 2, .bytes b => bignum target false (bytesValue b)
      | 3, .bytes b => bignum target true (bytesValue b)
      | _, _ => datum target content

/-- An unsigned word; `none` for `null`. -/
def decodeWord (i : Item) : Except DecodeError (Option UInt64) := do
  match ← datum .word i with
  | .nil => .ok none
  | .nat n _ => .ok (some n.toUInt64)
  | d => .error (d.mismatch .word)

/-- A machine integer; `none` for `null`. -/
def decodeInt (i : Item) : Except DecodeError (Option Int) := do
  match ← datum .int i with
  | .nil => .ok none
  | .nat n c =>
    if n > intLimit.toNat then
      .error (.mismatch c "int" none (some (toString n ++ " overflows int")))
    else .ok (some n)
  | .neg n _ => .ok (some n)
  | d => .error (d.mismatch .int)

/-- A flag; `none` for `null`. -/
def decodeBool (i : Item) : Except DecodeError (Option Bool) := do
  match ← datum .flag i with
  | .nil => .ok none
  | .flag b => .ok (some b)
  | d => .error (d.mismatch .flag)

/-- A text; `none` for `null`. -/
def decodeText (i : Item) : Except DecodeError (Option String) := do
  match ← datum .text i with
  | .nil => .ok none
  | .text s => .ok (some s)
  | d => .error (d.mismatch .text)

/-- The field number a text key spells: decimal digits without a leading zero. -/
def fieldNumber? (s : String) : Option Nat :=
  match s.toList with
  | [] => none
  | cs@(c :: rest) =>
    if cs.all Char.isDigit && (c != '0' || rest.isEmpty) then
      some (cs.foldl (fun acc c => acc * 10 + (c.toNat - 48)) 0)
    else none

/-- The field number a map key names, if any. -/
def keyOf (k : Item) : Except DecodeError (Option Nat) :=
  match k with
  | .unsigned n => .ok (some n.toNat)
  | .negative n =>
    if n > intLimit then
      .error (.mismatch "negative integer" "int64" none
        (some ("-1-" ++ toString n.toNat ++ " overflows Go's int64")))
    else .ok none
  | .text b =>
    match String.fromUTF8? (ByteArray.mk b.toArray) with
    | some s => .ok (fieldNumber? s)
    | none => .error .invalidText
  | j =>
    let t := majorName j.major
    .error (.mismatch t "string" none
      (some ("map key is of type " ++ t ++ " and cannot be used to match struct field name")))

/-- One map entry decoded into a record: the record so far, the field numbers already seen and
the first error. The entry is skipped when its key names no field or a field already seen;
otherwise the field's value is decoded, and an error keeps the record as it was. -/
def recordStep {α : Type} (record : String)
    (field : Nat → Option (Item → α → Except DecodeError α))
    (acc : α × List Nat × Option DecodeError) (entry : Item × Item) :
    α × List Nat × Option DecodeError :=
  let (value, found, first) := acc
  let keep (e : DecodeError) : Option DecodeError := first.orElse fun _ => some e
  match keyOf entry.1 with
  | .error e => (value, found, keep e)
  | .ok none => (value, found, first)
  | .ok (some k) =>
    if found.contains k then (value, found, first) else
    match field k with
    | none => (value, found, first)
    | some decode =>
      match decode entry.2 value with
      | .ok v => (v, k :: found, first)
      | .error e => (value, k :: found, keep (e.inField (record ++ "." ++ toString k)))

/-- Decodes a record named `record` from a map, starting from `init`; `field k` decodes the
value of key `k` into the record, or is none for an unknown key. -/
def decodeRecord {α : Type} (record : String) (init : α)
    (field : Nat → Option (Item → α → Except DecodeError α)) (i : Item) :
    Except DecodeError α := do
  match ← datum (.record record) i with
  | .nil => .ok init
  | .map entries =>
    let (value, _, first) := entries.foldl (recordStep record field) (init, [], none)
    match first with
    | some e => .error e
    | none => .ok value
  | .array _ =>
    .error (.mismatch "array" record none
      (some "cannot decode CBOR array to struct without toarray option"))
  | d => .error (d.mismatch (.record record))

/-- One element of an array decoded into a list: the elements so far and the first error. -/
def listStep {α : Type} (element : Item → Except DecodeError α)
    (acc : List α × Option DecodeError) (item : Item) : List α × Option DecodeError :=
  match element item with
  | .ok v => (acc.1 ++ [v], acc.2)
  | .error e => (acc.1, acc.2.orElse fun _ => some e)

/-- Decodes a list from an array, element by element; `null` gives none. The first element
error is reported after all elements are read. -/
def decodeList {α : Type} (target : String) (element : Item → Except DecodeError α)
    (i : Item) : Except DecodeError (Option (List α)) := do
  match ← datum (.list target) i with
  | .nil => .ok none
  | .array items =>
    let (values, first) := items.foldl (listStep element) ([], none)
    match first with
    | some e => .error e
    | none => .ok (some values)
  | d => .error (d.mismatch (.list target))

end RubyLayout.Cbor
