import RubyLayout.Facts.Basic

/-!
# Layout constants

Each release comes with the constants of its layout as the interpreter's headers give them,
for 64-bit words with immediate floats, under the headers' own names (`RStringNoEmbed`,
`RArrayHeapPtrOffset`, `TypedDataEmbedded`, …): one `LayoutConsts` record per release. The
releases do not all have the same constants:

* a string's length lies in flag bits up to 3.1, in a word of its own for each form in 3.2, and
  in one word for both forms from 3.3 (`StringLength`), each with its own constants;
* the interned flag `RStringFStr` exists from 3.0;
* typed data exists from 3.3, marked by a flag word in 3.3 and 3.4 and by the header flag
  `TypedFlIsTypedData` in 4.0 (`TypedDataMark`).

`LayoutConsts.facts` publishes a record as layout facts the same way for every release: each
fact is the constant of the same meaning, and a fact whose constant the release lacks is zero.
So from 3.3 the one length word is published twice, as the embedded and the heap length offset,
and 4.0, which has no flag word, publishes its flag offset as zero.

Each release's record is written as the one before it with what changed.
-/

set_option autoImplicit false

namespace RubyLayout

/-- Where a release keeps the length of a string, with the constants that locate it. -/
inductive StringLength where
  /-- Embedded strings keep it in the flag bits `RStringEmbedLenMask`, `RStringEmbedLenShift`
  bits up; the others in the word at `RStringHeapLenOffset`. -/
  | flagBits (embedLenMask embedLenShift heapLenOffset : UInt64)
  /-- Embedded strings keep it in the word at `RStringEmbedLenOffset`, the others in the word
  at `RStringHeapLenOffset`. -/
  | separateWords (embedLenOffset heapLenOffset : UInt64)
  /-- Both forms keep it in the word at `RStringLenOffset`. -/
  | sharedWord (lenOffset : UInt64)
deriving DecidableEq, Repr

/-- How a release marks typed data, with the constant of the mark. -/
inductive TypedDataMark where
  /-- The word at `RTypedDataFlagOffset` holds 1, or 1 with the embedded bit. -/
  | flagWord (flagOffset : UInt64)
  /-- The header flag `TypedFlIsTypedData` is set, and the embedded bit tags the type word. -/
  | headerFlag (typedFlIsTypedData : UInt64)
deriving DecidableEq, Repr

/-- The typed-data constants of a release that has typed data. -/
structure TypedDataConsts where
  /-- How typed data is marked. -/
  mark : TypedDataMark
  /-- `RTypedDataTypeOffset`, the offset of the type word. -/
  typeOffset : UInt64
  /-- `RTypedDataDataOffset`, the offset of the data pointer. -/
  dataOffset : UInt64
  /-- `TypedDataEmbedded`, the bit of an embedded payload. -/
  embedded : UInt64
  /-- `RTypedDataEmbedOffset`, the offset of an embedded payload. -/
  embedOffset : UInt64
deriving DecidableEq, Repr

/-- The layout constants of one release. -/
structure LayoutConsts where
  /-- `VersionMajor`. -/
  versionMajor : Int
  /-- `VersionMinor`. -/
  versionMinor : Int
  /-- The special constants and immediate tags, `Qfalse` to `SpecialShift`. -/
  specials : Specials
  /-- `UseFlonum`. -/
  useFlonum : Bool
  /-- `TMask`, the mask of the type code in the flags word. -/
  tMask : UInt64
  /-- `FlUShift`, the bit of the first user flag. -/
  flUShift : UInt64
  /-- `FlFreeze`. -/
  flFreeze : UInt64
  /-- `RBasicFlagsOffset`. -/
  rBasicFlagsOffset : UInt64
  /-- `RBasicKlassOffset`. -/
  rBasicKlassOffset : UInt64
  /-- `BignumSignBit`. -/
  bignumSignBit : UInt64
  /-- `BaseSlotSize`. -/
  baseSlotSize : UInt64
  /-- `SizePoolCount`. -/
  sizePoolCount : UInt64
  /-- `RStringNoEmbed`. -/
  rStringNoEmbed : UInt64
  /-- Where the length of a string lies. -/
  rStringLength : StringLength
  /-- `RStringEmbedAryOffset`. -/
  rStringEmbedAryOffset : UInt64
  /-- `RStringHeapPtrOffset`. -/
  rStringHeapPtrOffset : UInt64
  /-- `RStringEmbedCapacity`. -/
  rStringEmbedCapacity : UInt64
  /-- `RStringFStr`, where the release has an interned flag. -/
  rStringFStr : Option UInt64
  /-- `RArrayEmbedFlag`. -/
  rArrayEmbedFlag : UInt64
  /-- `RArrayEmbedLenMask`. -/
  rArrayEmbedLenMask : UInt64
  /-- `RArrayEmbedLenShift`. -/
  rArrayEmbedLenShift : UInt64
  /-- `RArrayEmbedAryOffset`. -/
  rArrayEmbedAryOffset : UInt64
  /-- `RArrayHeapLenOffset`. -/
  rArrayHeapLenOffset : UInt64
  /-- `RArrayHeapPtrOffset`. -/
  rArrayHeapPtrOffset : UInt64
  /-- `RArrayEmbedCapacity`. -/
  rArrayEmbedCapacity : UInt64
  /-- The typed-data constants, where the release has typed data. -/
  rTypedData : Option TypedDataConsts
deriving DecidableEq, Repr

namespace LayoutConsts

/-- The word size every release's constants are given for. -/
def wordSize : UInt64 := 8

/-- The user flag `FlUser n`, `n` bits above `FlUShift`, which is 12 in every release. -/
def flUser (n : UInt64) : UInt64 := 1 <<< (12 + n)

/-! ### The constants of each release -/

/-- The constants of 2.7. -/
def ruby27 : LayoutConsts where
  versionMajor := 2
  versionMinor := 7
  specials :=
    { qfalse := 0x00, qtrue := 0x14, qnil := 0x08, qundef := 0x34, immediateMask := 0x07,
      fixnumFlag := 0x01, flonumMask := 0x03, flonumFlag := 0x02, symbolFlag := 0x0c,
      specialShift := 8 }
  useFlonum := true
  tMask := 0x1f
  flUShift := 12
  flFreeze := (1 : UInt64) <<< 11
  rBasicFlagsOffset := 0
  rBasicKlassOffset := wordSize
  bignumSignBit := flUser 1
  baseSlotSize := 5 * wordSize
  sizePoolCount := 1
  rStringNoEmbed := flUser 1
  rStringLength :=
    .flagBits (flUser 2 ||| flUser 3 ||| flUser 4 ||| flUser 5 ||| flUser 6) (12 + 2)
      (2 * wordSize)
  rStringEmbedAryOffset := 2 * wordSize
  rStringHeapPtrOffset := 3 * wordSize
  rStringEmbedCapacity := 3 * wordSize - 1
  rStringFStr := none
  rArrayEmbedFlag := flUser 1
  rArrayEmbedLenMask := flUser 3 ||| flUser 4
  rArrayEmbedLenShift := 12 + 3
  rArrayEmbedAryOffset := 2 * wordSize
  rArrayHeapLenOffset := 2 * wordSize
  rArrayHeapPtrOffset := 4 * wordSize
  rArrayEmbedCapacity := 3
  rTypedData := none

/-- The constants of 3.0: 2.7 with the interned flag. -/
def ruby30 : LayoutConsts :=
  { ruby27 with versionMajor := 3, versionMinor := 0, rStringFStr := some (flUser 17) }

/-- The constants of 3.1: those of 3.0. -/
def ruby31 : LayoutConsts := { ruby30 with versionMinor := 1 }

/-- The constants of 3.2: five size pools, whose largest slot bounds what is embedded, and the
embedded string's length in a word of its own. -/
def ruby32 : LayoutConsts :=
  let largestSlotSize : UInt64 := (5 * wordSize) <<< (5 - 1)
  { ruby31 with
    versionMinor := 2
    sizePoolCount := 5
    rStringLength := .separateWords (2 * wordSize) (2 * wordSize)
    rStringEmbedAryOffset := 3 * wordSize
    rStringEmbedCapacity := largestSlotSize - 3 * wordSize - 1
    rArrayEmbedLenMask :=
      flUser 3 ||| flUser 4 ||| flUser 5 ||| flUser 6 ||| flUser 7 ||| flUser 8 ||| flUser 9
    rArrayEmbedCapacity := (largestSlotSize - 2 * wordSize) / wordSize }

/-- The constants of 3.3: one length word for both string forms, new words for `nil` and the
undefined marker, and typed data marked by a flag word. -/
def ruby33 : LayoutConsts :=
  { ruby32 with
    versionMinor := 3
    specials := { ruby32.specials with qnil := 0x04, qundef := 0x24 }
    rStringLength := .sharedWord (2 * wordSize)
    rTypedData := some
      { mark := .flagWord (3 * wordSize), typeOffset := 2 * wordSize,
        dataOffset := 4 * wordSize, embedded := 2, embedOffset := 4 * wordSize } }

/-- The constants of 3.4: those of 3.3. -/
def ruby34 : LayoutConsts := { ruby33 with versionMinor := 4 }

/-- The constants of 4.0: typed data marked by the header flag `FlUserPriv0`, with the tagged
type word where 3.4 kept the flag word. -/
def ruby40 : LayoutConsts :=
  { ruby34 with
    versionMajor := 4
    versionMinor := 0
    rTypedData := some
      { mark := .headerFlag ((1 : UInt64) <<< 6), typeOffset := 3 * wordSize,
        dataOffset := 4 * wordSize, embedded := 1, embedOffset := 4 * wordSize } }

end LayoutConsts

/-! ### The published facts -/

namespace StringLength

/-- The mask of the length bits, zero where the length is a word. -/
def embedLenMask : StringLength → UInt64
  | .flagBits mask _ _ => mask
  | _ => 0

/-- The shift of the length bits, zero where the length is a word. -/
def embedLenShift : StringLength → UInt64
  | .flagBits _ shift _ => shift
  | _ => 0

/-- The offset of an embedded string's length word, zero where it has none. -/
def embedLenOffset : StringLength → UInt64
  | .flagBits .. => 0
  | .separateWords off _ => off
  | .sharedWord off => off

/-- The offset of the length word of a string with a buffer. -/
def heapLenOffset : StringLength → UInt64
  | .flagBits _ _ off => off
  | .separateWords _ off => off
  | .sharedWord off => off

end StringLength

namespace TypedDataMark

/-- The offset of the flag word, zero where typed data has none. -/
def flagOffset : TypedDataMark → UInt64
  | .flagWord off => off
  | .headerFlag _ => 0

/-- The header flag of typed data, zero where a flag word marks it. -/
def typedFlag : TypedDataMark → UInt64
  | .flagWord _ => 0
  | .headerFlag flag => flag

end TypedDataMark

namespace LayoutConsts

/-- The typed-data facts: each the constant of the same meaning, all zero without typed data. -/
def typedDataLayout : Option TypedDataConsts → TypedDataLayout
  | some t =>
    { typeOffset := t.typeOffset, flagOffset := t.mark.flagOffset, dataOffset := t.dataOffset,
      embedded := t.embedded, typedFlag := t.mark.typedFlag, embedOffset := t.embedOffset }
  | none =>
    { typeOffset := 0, flagOffset := 0, dataOffset := 0, embedded := 0, typedFlag := 0,
      embedOffset := 0 }

/-- The facts a release publishes: each fact the constant of the same meaning, zero where the
release has no such constant. -/
def facts (c : LayoutConsts) : Facts where
  version := ⟨c.versionMajor, c.versionMinor⟩
  wordSize := wordSize
  flonum := c.useFlonum
  specials := c.specials
  header :=
    { flagsOffset := c.rBasicFlagsOffset, klassOffset := c.rBasicKlassOffset,
      typeMask := c.tMask, freeze := c.flFreeze, ushift := c.flUShift,
      bignumSign := c.bignumSignBit }
  string :=
    { noEmbed := c.rStringNoEmbed, embedLenMask := c.rStringLength.embedLenMask,
      embedLenShift := c.rStringLength.embedLenShift,
      embedLenOffset := c.rStringLength.embedLenOffset,
      embedAryOffset := c.rStringEmbedAryOffset, heapLenOffset := c.rStringLength.heapLenOffset,
      heapPtrOffset := c.rStringHeapPtrOffset, embedCapacity := c.rStringEmbedCapacity,
      fstr := c.rStringFStr.getD 0 }
  array :=
    { embedFlag := c.rArrayEmbedFlag, embedLenMask := c.rArrayEmbedLenMask,
      embedLenShift := c.rArrayEmbedLenShift, embedAryOffset := c.rArrayEmbedAryOffset,
      heapLenOffset := c.rArrayHeapLenOffset, heapPtrOffset := c.rArrayHeapPtrOffset,
      embedCapacity := c.rArrayEmbedCapacity }
  gc := { baseSlotSize := c.baseSlotSize, sizePoolCount := c.sizePoolCount }
  typedData := typedDataLayout c.rTypedData

end LayoutConsts

end RubyLayout
