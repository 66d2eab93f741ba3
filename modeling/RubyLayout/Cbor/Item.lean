/-!
# CBOR data items

A CBOR data item is an unsigned or negative integer, a byte or text string, an array, a map,
a tagged item, a simple value or a float. `Item.encode` writes the canonical form: every head
uses the shortest argument encoding, strings, arrays and maps have definite lengths, and map
entries are written in the order given, which the builders of this library keep canonical
(ascending small integer keys).

A head is a major type in the top three bits of its first byte and an argument: below 24 it
is the low five bits, otherwise the low bits say that 1, 2, 4 or 8 big-endian bytes follow.

Main statements: `encodeHead_length` (a head takes 1, 2, 3, 5 or 9 bytes by the size of its
argument).
-/

set_option autoImplicit false

namespace RubyLayout.Cbor

/-- A CBOR data item. Text strings keep their raw bytes, which a reader checks as UTF-8 only
when it needs the text. -/
inductive Item where
  /-- Major type 0, the integer `n`. -/
  | unsigned (n : UInt64)
  /-- Major type 1, the integer `-1 - n`. -/
  | negative (n : UInt64)
  /-- Major type 2. -/
  | bytes (b : List UInt8)
  /-- Major type 3, the raw bytes of the text. -/
  | text (b : List UInt8)
  /-- Major type 4. -/
  | array (items : List Item)
  /-- Major type 5. -/
  | map (entries : List (Item × Item))
  /-- Major type 6. -/
  | tag (number : UInt64) (content : Item)
  /-- Major type 7 below 32: `false` is 20, `true` 21, `null` 22, `undefined` 23. -/
  | simple (value : UInt8)
  /-- Major type 7, a float of 2, 4 or 8 bytes, kept as its raw bits. -/
  | float (width : Nat) (bits : UInt64)
deriving Inhabited

/-- The major type of an item, 0 to 7. -/
def Item.major : Item → Nat
  | .unsigned _ => 0
  | .negative _ => 1
  | .bytes _ => 2
  | .text _ => 3
  | .array _ => 4
  | .map _ => 5
  | .tag _ _ => 6
  | .simple _ => 7
  | .float _ _ => 7

/-- The name of a major type in messages. -/
def majorName : Nat → String
  | 0 => "positive integer"
  | 1 => "negative integer"
  | 2 => "byte string"
  | 3 => "UTF-8 text string"
  | 4 => "array"
  | 5 => "map"
  | 6 => "tag"
  | _ => "primitives"

/-- The `count` lowest bytes of `n`, most significant first. -/
def bigEndian (count : Nat) (n : UInt64) : List UInt8 :=
  (List.range count).reverse.map fun i => (n >>> (8 * i).toUInt64).toUInt8

/-- The head of an item of major type `major` with argument `n`, shortest form. -/
def encodeHead (major : Nat) (n : UInt64) : List UInt8 :=
  let top := (major * 32).toUInt8
  if n < 24 then [top + n.toUInt8]
  else if n < 0x100 then (top + 24) :: bigEndian 1 n
  else if n < 0x10000 then (top + 25) :: bigEndian 2 n
  else if n < 0x100000000 then (top + 26) :: bigEndian 4 n
  else (top + 27) :: bigEndian 8 n

theorem encodeHead_length (major : Nat) (n : UInt64) :
    (encodeHead major n).length =
      if n < 24 then 1 else if n < 0x100 then 2 else if n < 0x10000 then 3
      else if n < 0x100000000 then 5 else 9 := by
  unfold encodeHead
  dsimp only
  repeat' split
  all_goals simp_all [bigEndian]

/-- The canonical encoding of an item. -/
def Item.encode : Item → List UInt8
  | .unsigned n => encodeHead 0 n
  | .negative n => encodeHead 1 n
  | .bytes b => encodeHead 2 b.length.toUInt64 ++ b
  | .text b => encodeHead 3 b.length.toUInt64 ++ b
  | .array items => encodeHead 4 items.length.toUInt64 ++ encodeList items
  | .map entries => encodeHead 5 entries.length.toUInt64 ++ encodeEntries entries
  | .tag t c => encodeHead 6 t ++ c.encode
  | .simple v => encodeHead 7 v.toUInt64
  | .float w bits =>
    if w = 2 then 0xf9 :: bigEndian 2 bits
    else if w = 4 then 0xfa :: bigEndian 4 bits
    else 0xfb :: bigEndian 8 bits
where
  /-- The encodings of a list of items, one after another. -/
  encodeList : List Item → List UInt8
    | [] => []
    | i :: rest => i.encode ++ encodeList rest
  /-- The encodings of map entries, key before value. -/
  encodeEntries : List (Item × Item) → List UInt8
    | [] => []
    | (k, v) :: rest => k.encode ++ v.encode ++ encodeEntries rest

/-- An integer as an item: nonnegative values are major type 0, negative ones major type 1. -/
def Item.ofInt (i : Int) : Item :=
  if i < 0 then .negative (-1 - i).toNat.toUInt64 else .unsigned i.toNat.toUInt64

/-- A text as an item. -/
def Item.ofString (s : String) : Item := .text s.toUTF8.toList

/-- A flag as an item: `true` or `false`. -/
def Item.ofBool (b : Bool) : Item := .simple (if b then 21 else 20)

end RubyLayout.Cbor
