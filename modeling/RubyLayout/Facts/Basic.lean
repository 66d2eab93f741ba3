import RubyLayout.Version

/-!
# Layout facts

The facts of a layout are the constants that decide how words and objects are read: the bit
patterns of the special constants and the tags of immediates, the header word offsets and
flags, where strings, arrays and typed data keep their length, contents and markers, and the
size pools of the collector. One record per layout release; every field is a named constant
of the layout.

Each field has a published name (`Specials.Nil`, `String.EmbedCapacity`, …) and a small integer
key inside its group. `Facts.entries` lists all fields in that published order; the printed
forms, the binary encoding, the field-by-field comparison and the patching all read and write
the record through this one list.

Main statement: `maxSlotSize_of_count_zero`, with no pools the largest slot has size zero.
-/

set_option autoImplicit false

namespace RubyLayout

/-- The bit patterns of the special constants and the tags of immediate words. -/
structure Specials where
  /-- The word of `false`. -/
  qfalse : UInt64
  /-- The word of `true`. -/
  qtrue : UInt64
  /-- The word of `nil`. -/
  qnil : UInt64
  /-- The word of the undefined marker. -/
  qundef : UInt64
  /-- The bits that are nonzero exactly in immediates other than the special constants. -/
  immediateMask : UInt64
  /-- The tag bit of fixnums. -/
  fixnumFlag : UInt64
  /-- The mask of the flonum tag. -/
  flonumMask : UInt64
  /-- The flonum tag. -/
  flonumFlag : UInt64
  /-- The tag of static symbols in the low `specialShift` bits. -/
  symbolFlag : UInt64
  /-- How far a symbol's identifier is shifted above its tag. -/
  specialShift : UInt64
deriving DecidableEq, Repr, Inhabited

/-- Where the header words of every object lie and what their flag bits mean. -/
structure HeaderLayout where
  /-- Offset of the flags word. -/
  flagsOffset : UInt64
  /-- Offset of the class word. -/
  klassOffset : UInt64
  /-- Mask of the type code in the flags word. -/
  typeMask : UInt64
  /-- The frozen flag. -/
  freeze : UInt64
  /-- The first user flag bit's shift. -/
  ushift : UInt64
  /-- The flag of a nonnegative bignum. -/
  bignumSign : UInt64
deriving DecidableEq, Repr, Inhabited

/-- How strings keep their bytes, inline or in a separate buffer. -/
structure StringLayout where
  /-- The flag of a string whose bytes live in a separate buffer. -/
  noEmbed : UInt64
  /-- Mask of the inline length in the flags word, zero when the length is a field. -/
  embedLenMask : UInt64
  /-- Shift of the inline length in the flags word. -/
  embedLenShift : UInt64
  /-- Offset of the inline length field. -/
  embedLenOffset : UInt64
  /-- Offset of the inline bytes. -/
  embedAryOffset : UInt64
  /-- Offset of the length of a string with a separate buffer. -/
  heapLenOffset : UInt64
  /-- Offset of the buffer pointer. -/
  heapPtrOffset : UInt64
  /-- The longest string kept inline. -/
  embedCapacity : UInt64
  /-- The flag of an interned string, zero when the layout has none. -/
  fstr : UInt64
deriving DecidableEq, Repr, Inhabited

/-- How arrays keep their elements, inline or in a separate buffer. -/
structure ArrayLayout where
  /-- The flag of an array with inline elements. -/
  embedFlag : UInt64
  /-- Mask of the inline length in the flags word. -/
  embedLenMask : UInt64
  /-- Shift of the inline length in the flags word. -/
  embedLenShift : UInt64
  /-- Offset of the inline elements. -/
  embedAryOffset : UInt64
  /-- Offset of the length of an array with a separate buffer. -/
  heapLenOffset : UInt64
  /-- Offset of the buffer pointer. -/
  heapPtrOffset : UInt64
  /-- The most elements kept inline. -/
  embedCapacity : UInt64
deriving DecidableEq, Repr, Inhabited

/-- The slot sizes of the collector: pool `i` has slots of `baseSlotSize * 2^i` bytes. -/
structure GcLayout where
  /-- The smallest slot size. -/
  baseSlotSize : UInt64
  /-- The number of pools. -/
  sizePoolCount : UInt64
deriving DecidableEq, Repr, Inhabited

/-- How typed data objects mark their type and keep their payload. -/
structure TypedDataLayout where
  /-- Offset of the type pointer. -/
  typeOffset : UInt64
  /-- Offset of the typed-data marker word, when the layout has one. -/
  flagOffset : UInt64
  /-- Offset of the data pointer. -/
  dataOffset : UInt64
  /-- The bit of an embedded payload, zero when the layout cannot embed. -/
  embedded : UInt64
  /-- The header flag of typed data, zero when a marker word is used instead. -/
  typedFlag : UInt64
  /-- Offset of an embedded payload. -/
  embedOffset : UInt64
deriving DecidableEq, Repr, Inhabited

/-- The layout facts of one release. -/
structure Facts where
  /-- The release the facts describe. -/
  version : Version
  /-- Bytes per machine word. -/
  wordSize : UInt64
  /-- Whether floats can be immediates. -/
  flonum : Bool
  /-- Special constants and immediate tags. -/
  specials : Specials
  /-- Header words. -/
  header : HeaderLayout
  /-- Strings. -/
  string : StringLayout
  /-- Arrays. -/
  array : ArrayLayout
  /-- Collector slot sizes. -/
  gc : GcLayout
  /-- Typed data. -/
  typedData : TypedDataLayout
deriving DecidableEq, Repr, Inhabited

/-- The largest slot, `baseSlotSize * 2^(sizePoolCount - 1)` in 64-bit arithmetic, where a
shift by 64 or more gives zero and a count of zero wraps around to a huge shift. -/
def GcLayout.maxSlotSize (g : GcLayout) : UInt64 :=
  let shift := (g.sizePoolCount - 1).toNat
  if shift < 64 then g.baseSlotSize <<< shift.toUInt64 else 0

theorem maxSlotSize_of_count_zero (base : UInt64) :
    GcLayout.maxSlotSize ⟨base, 0⟩ = 0 := by
  have h : ¬ ((0 : UInt64) - 1).toNat < 64 := by decide
  simp only [GcLayout.maxSlotSize]
  exact if_neg h

/-- Typed data objects can be built when the layout has an embedding bit. -/
def TypedDataLayout.supported (t : TypedDataLayout) : Bool := t.embedded != 0

/-! ### Fields by name -/

/-- The value of one field: an unsigned word, a machine integer or a flag. -/
inductive FieldValue where
  | word (n : UInt64)
  | int (i : Int)
  | flag (b : Bool)
deriving DecidableEq, Repr, Inhabited

/-- The printed form of a field value: decimal, or `true`/`false`. -/
def FieldValue.text : FieldValue → String
  | .word n => toString n.toNat
  | .int i => toString i
  | .flag b => if b then "true" else "false"

/-- A field of the facts: its group (name and key), its own name and key, and its value. -/
structure FactEntry where
  /-- The group the field belongs to, with the group's key; none for top-level fields. -/
  group : Option (String × Nat)
  /-- The field's published name. -/
  name : String
  /-- The field's key inside its group. -/
  key : Nat
  /-- The value. -/
  value : FieldValue
deriving DecidableEq, Repr

/-- The dotted path of a field, `Group.Name` or `Name`. -/
def FactEntry.path (e : FactEntry) : String :=
  match e.group with
  | some (g, _) => g ++ "." ++ e.name
  | none => e.name

/-- Every field, in published order. -/
def Facts.entries (f : Facts) : List FactEntry :=
  let ver : Option (String × Nat) := some ("Version", 1)
  let sp : Option (String × Nat) := some ("Specials", 4)
  let hd : Option (String × Nat) := some ("Header", 5)
  let st : Option (String × Nat) := some ("String", 6)
  let ar : Option (String × Nat) := some ("Array", 7)
  let gc : Option (String × Nat) := some ("GC", 8)
  let td : Option (String × Nat) := some ("TypedData", 9)
  [⟨ver, "Major", 1, .int f.version.major⟩, ⟨ver, "Minor", 2, .int f.version.minor⟩,
   ⟨none, "WordSize", 2, .word f.wordSize⟩, ⟨none, "Flonum", 3, .flag f.flonum⟩,
   ⟨sp, "False", 1, .word f.specials.qfalse⟩, ⟨sp, "True", 2, .word f.specials.qtrue⟩,
   ⟨sp, "Nil", 3, .word f.specials.qnil⟩, ⟨sp, "Undef", 4, .word f.specials.qundef⟩,
   ⟨sp, "ImmediateMask", 5, .word f.specials.immediateMask⟩,
   ⟨sp, "FixnumFlag", 6, .word f.specials.fixnumFlag⟩,
   ⟨sp, "FlonumMask", 7, .word f.specials.flonumMask⟩,
   ⟨sp, "FlonumFlag", 8, .word f.specials.flonumFlag⟩,
   ⟨sp, "SymbolFlag", 9, .word f.specials.symbolFlag⟩,
   ⟨sp, "SpecialShift", 10, .word f.specials.specialShift⟩,
   ⟨hd, "FlagsOffset", 1, .word f.header.flagsOffset⟩,
   ⟨hd, "KlassOffset", 2, .word f.header.klassOffset⟩,
   ⟨hd, "TypeMask", 3, .word f.header.typeMask⟩, ⟨hd, "Freeze", 4, .word f.header.freeze⟩,
   ⟨hd, "UShift", 5, .word f.header.ushift⟩, ⟨hd, "BignumSign", 6, .word f.header.bignumSign⟩,
   ⟨st, "NoEmbed", 1, .word f.string.noEmbed⟩, ⟨st, "EmbedLenMask", 2, .word f.string.embedLenMask⟩,
   ⟨st, "EmbedLenShift", 3, .word f.string.embedLenShift⟩,
   ⟨st, "EmbedLenOffset", 4, .word f.string.embedLenOffset⟩,
   ⟨st, "EmbedAryOffset", 5, .word f.string.embedAryOffset⟩,
   ⟨st, "HeapLenOffset", 6, .word f.string.heapLenOffset⟩,
   ⟨st, "HeapPtrOffset", 7, .word f.string.heapPtrOffset⟩,
   ⟨st, "EmbedCapacity", 8, .word f.string.embedCapacity⟩, ⟨st, "FStr", 9, .word f.string.fstr⟩,
   ⟨ar, "EmbedFlag", 1, .word f.array.embedFlag⟩,
   ⟨ar, "EmbedLenMask", 2, .word f.array.embedLenMask⟩,
   ⟨ar, "EmbedLenShift", 3, .word f.array.embedLenShift⟩,
   ⟨ar, "EmbedAryOffset", 4, .word f.array.embedAryOffset⟩,
   ⟨ar, "HeapLenOffset", 5, .word f.array.heapLenOffset⟩,
   ⟨ar, "HeapPtrOffset", 6, .word f.array.heapPtrOffset⟩,
   ⟨ar, "EmbedCapacity", 7, .word f.array.embedCapacity⟩,
   ⟨gc, "BaseSlotSize", 1, .word f.gc.baseSlotSize⟩,
   ⟨gc, "SizePoolCount", 2, .word f.gc.sizePoolCount⟩,
   ⟨td, "TypeOffset", 1, .word f.typedData.typeOffset⟩,
   ⟨td, "FlagOffset", 2, .word f.typedData.flagOffset⟩,
   ⟨td, "DataOffset", 3, .word f.typedData.dataOffset⟩,
   ⟨td, "Embedded", 4, .word f.typedData.embedded⟩,
   ⟨td, "TypedFlag", 5, .word f.typedData.typedFlag⟩,
   ⟨td, "EmbedOffset", 6, .word f.typedData.embedOffset⟩]

/-- The kind of value each path holds: `some (.word 0)` for words, `some (.int 0)` for machine
integers, `some (.flag false)` for the flag, none for an unknown path. -/
def Facts.kindAt (path : String) : Option FieldValue :=
  ((default : Facts).entries.find? (fun e => e.path == path)).map FactEntry.value

/-- Writes a word field. -/
def Facts.setWord (f : Facts) (path : String) (n : UInt64) : Facts :=
  match path with
  | "WordSize" => { f with wordSize := n }
  | "Specials.False" => { f with specials.qfalse := n }
  | "Specials.True" => { f with specials.qtrue := n }
  | "Specials.Nil" => { f with specials.qnil := n }
  | "Specials.Undef" => { f with specials.qundef := n }
  | "Specials.ImmediateMask" => { f with specials.immediateMask := n }
  | "Specials.FixnumFlag" => { f with specials.fixnumFlag := n }
  | "Specials.FlonumMask" => { f with specials.flonumMask := n }
  | "Specials.FlonumFlag" => { f with specials.flonumFlag := n }
  | "Specials.SymbolFlag" => { f with specials.symbolFlag := n }
  | "Specials.SpecialShift" => { f with specials.specialShift := n }
  | "Header.FlagsOffset" => { f with header.flagsOffset := n }
  | "Header.KlassOffset" => { f with header.klassOffset := n }
  | "Header.TypeMask" => { f with header.typeMask := n }
  | "Header.Freeze" => { f with header.freeze := n }
  | "Header.UShift" => { f with header.ushift := n }
  | "Header.BignumSign" => { f with header.bignumSign := n }
  | "String.NoEmbed" => { f with string.noEmbed := n }
  | "String.EmbedLenMask" => { f with string.embedLenMask := n }
  | "String.EmbedLenShift" => { f with string.embedLenShift := n }
  | "String.EmbedLenOffset" => { f with string.embedLenOffset := n }
  | "String.EmbedAryOffset" => { f with string.embedAryOffset := n }
  | "String.HeapLenOffset" => { f with string.heapLenOffset := n }
  | "String.HeapPtrOffset" => { f with string.heapPtrOffset := n }
  | "String.EmbedCapacity" => { f with string.embedCapacity := n }
  | "String.FStr" => { f with string.fstr := n }
  | "Array.EmbedFlag" => { f with array.embedFlag := n }
  | "Array.EmbedLenMask" => { f with array.embedLenMask := n }
  | "Array.EmbedLenShift" => { f with array.embedLenShift := n }
  | "Array.EmbedAryOffset" => { f with array.embedAryOffset := n }
  | "Array.HeapLenOffset" => { f with array.heapLenOffset := n }
  | "Array.HeapPtrOffset" => { f with array.heapPtrOffset := n }
  | "Array.EmbedCapacity" => { f with array.embedCapacity := n }
  | "GC.BaseSlotSize" => { f with gc.baseSlotSize := n }
  | "GC.SizePoolCount" => { f with gc.sizePoolCount := n }
  | "TypedData.TypeOffset" => { f with typedData.typeOffset := n }
  | "TypedData.FlagOffset" => { f with typedData.flagOffset := n }
  | "TypedData.DataOffset" => { f with typedData.dataOffset := n }
  | "TypedData.Embedded" => { f with typedData.embedded := n }
  | "TypedData.TypedFlag" => { f with typedData.typedFlag := n }
  | "TypedData.EmbedOffset" => { f with typedData.embedOffset := n }
  | _ => f

/-- Writes a field of any kind; a value of the wrong kind or an unknown path changes
nothing. -/
def Facts.set (f : Facts) (path : String) : FieldValue → Facts
  | .word n => f.setWord path n
  | .int i =>
    match path with
    | "Version.Major" => { f with version.major := i }
    | "Version.Minor" => { f with version.minor := i }
    | _ => f
  | .flag b => if path = "Flonum" then { f with flonum := b } else f

end RubyLayout
