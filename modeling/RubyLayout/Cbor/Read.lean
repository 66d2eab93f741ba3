import RubyLayout.Cbor.Item

/-!
# Reading CBOR

`Cbor.read` turns bytes into one data item, refusing malformed input the way a strict decoder
does: no input at all is `EOF`; input that ends inside an item is `unexpected EOF`; additional
information 28 to 30, an indefinite length on an integer or tag, a stray break code, a simple
value below 32 written in two bytes, an indefinite-length string with a chunk of another type
or of indefinite length, nesting deeper than 32, more than 131072 array elements or map pairs,
and bytes after the item are each refused with their own message. Arrays and maps each add a
level of nesting; a chain of tags adds one level for every tag after the first, counted once
that tag's head is read, so a malformed head deep in a chain is reported as such.

Indefinite-length strings, arrays and maps are read into their definite equivalents.

The reader walks the input with a fuel argument of twice the number of bytes: every item takes
at least one byte, and each byte costs at most two steps of any chain of calls (reading an
indefinite-length item and then its first element), so the fuel never runs out on a
well-formed input.
-/

set_option autoImplicit false

namespace RubyLayout.Cbor

/-- Why bytes are not one well-formed data item. -/
inductive ReadError where
  /-- There were no bytes at all. -/
  | empty
  /-- The bytes ended inside an item. -/
  | truncated
  /-- A malformed head or structure, with its message. -/
  | malformed (message : String)
  /-- Bytes were left after the item. -/
  | extraneous (count index : Nat)
deriving DecidableEq, Repr

/-- The message of a read error. -/
def ReadError.message : ReadError → String
  | .empty => "EOF"
  | .truncated => "unexpected EOF"
  | .malformed m => m
  | .extraneous n i =>
    "cbor: " ++ toString n ++ " bytes of extraneous data starting at index " ++ toString i

/-- The deepest nesting of arrays, maps and tags a reader accepts. -/
def maxNesting : Nat := 32

/-- The most array elements, or map pairs, a reader accepts. -/
def maxElements : Nat := 131072

/-- The first byte that ends an indefinite-length item. -/
def breakCode : UInt8 := 0xff

/-- A head: its major type, additional information, argument and the position after it. -/
structure Head where
  /-- The major type. -/
  major : Nat
  /-- The additional information, the low five bits of the first byte. -/
  info : Nat
  /-- The argument. -/
  value : UInt64
  /-- The position after the head. -/
  next : Nat

/-- The `count` bytes at `pos` as a big-endian number, if they are all there. -/
def readBigEndian (data : ByteArray) (pos count : Nat) : Option UInt64 :=
  if pos + count ≤ data.size then
    some ((List.range count).foldl (fun acc i => (acc <<< 8) ||| (data.get! (pos + i)).toUInt64) 0)
  else none

/-- Reads the head at `pos`. -/
def readHead (data : ByteArray) (pos : Nat) : Except ReadError Head := do
  if h : pos < data.size then
    let b := data[pos]
    let major := (b >>> 5).toNat
    let info := (b &&& 31).toNat
    if info < 24 then return ⟨major, info, info.toUInt64, pos + 1⟩
    if info ≤ 27 then
      let count := Nat.pow 2 (info - 24)
      match readBigEndian data (pos + 1) count with
      | none => throw .truncated
      | some v =>
        if info = 24 ∧ major = 7 ∧ v < 32 then
          throw (.malformed ("cbor: invalid simple value " ++ toString v.toNat ++
            " for type primitives"))
        return ⟨major, info, v, pos + 1 + count⟩
    if info = 31 then
      if major = 0 ∨ major = 1 ∨ major = 6 then
        throw (.malformed ("cbor: invalid additional information 31 for type " ++
          majorName major))
      if major = 7 then throw (.malformed "cbor: unexpected \"break\" code")
      return ⟨major, info, 0, pos + 1⟩
    throw (.malformed ("cbor: invalid additional information " ++ toString info ++
      " for type " ++ majorName major))
  else throw .truncated

/-- The largest argument that is a valid length. -/
def lengthLimit : UInt64 := 0x7fffffffffffffff

/-- Splits a flat list of items into key-value pairs. -/
def pairUp : List Item → List (Item × Item)
  | k :: v :: rest => (k, v) :: pairUp rest
  | _ => []

mutual

/-- Reads one item at `pos` at nesting `depth`; `fuel` bounds the number of items. The first tag of
a chain adds no level of nesting; each tag it tags adds one once its head is read. -/
def readItem (data : ByteArray) (fuel depth pos : Nat) : Except ReadError (Item × Nat) :=
  match fuel with
  | 0 => throw .truncated
  | fuel + 1 => do
    let h ← readHead data pos
    match h.major with
    | 0 => return (.unsigned h.value, h.next)
    | 1 => return (.negative h.value, h.next)
    | 2 | 3 =>
      if h.info = 31 then
        let (chunks, next) ← readChunks data fuel depth h.major h.next
        let b := chunks
        return (if h.major = 2 then .bytes b else .text b, next)
      else
        if h.value > lengthLimit then
          throw (.malformed ("cbor: " ++ majorName h.major ++ " length " ++
            toString h.value.toNat ++ " is too large, causing integer overflow"))
        let n := h.value.toNat
        if h.next + n ≤ data.size then
          let b := (data.extract h.next (h.next + n)).toList
          return (if h.major = 2 then .bytes b else .text b, h.next + n)
        else throw .truncated
    | 4 | 5 =>
      let depth := depth + 1
      if depth > maxNesting then
        throw (.malformed ("cbor: exceeded max nested level " ++ toString maxNesting))
      if h.info = 31 then
        let (items, next) ← readUntilBreak data fuel depth h.major 0 h.next
        return (if h.major = 4 then .array items else .map (pairUp items), next)
      else
        if h.value > lengthLimit then
          throw (.malformed ("cbor: " ++ majorName h.major ++ " length " ++
            toString h.value.toNat ++ " is too large, it would cause integer overflow"))
        let n := h.value.toNat
        if h.major = 4 ∧ n > maxElements then
          throw (.malformed ("cbor: exceeded max number of elements " ++ toString maxElements ++
            " for CBOR array"))
        if h.major = 5 ∧ n > maxElements then
          throw (.malformed ("cbor: exceeded max number of key-value pairs " ++
            toString maxElements ++ " for CBOR map"))
        let count := if h.major = 4 then n else 2 * n
        let (items, next) ← readCount data fuel depth count h.next
        return (if h.major = 4 then .array items else .map (pairUp items), next)
    | 6 => do
      let tagsTag := match data[h.next]? with
        | some b => b >>> 5 == 6
        | none => false
      let depth ← if tagsTag then do
          let _ ← readHead data h.next
          if depth + 1 > maxNesting then
            throw (.malformed ("cbor: exceeded max nested level " ++ toString maxNesting))
          pure (depth + 1)
        else pure depth
      let (content, next) ← readItem data fuel depth h.next
      return (.tag h.value content, next)
    | _ =>
      if h.info = 25 then return (.float 2 h.value, h.next)
      else if h.info = 26 then return (.float 4 h.value, h.next)
      else if h.info = 27 then return (.float 8 h.value, h.next)
      else return (.simple h.value.toUInt8, h.next)

/-- Reads `count` items one after another. -/
def readCount (data : ByteArray) (fuel depth count pos : Nat) :
    Except ReadError (List Item × Nat) :=
  match count with
  | 0 => return ([], pos)
  | count + 1 => do
    let (item, next) ← readItem data fuel depth pos
    let (rest, last) ← readCount data fuel depth count next
    return (item :: rest, last)

/-- Reads items up to a break code; `seen` counts the items read so far. -/
def readUntilBreak (data : ByteArray) (fuel depth major seen pos : Nat) :
    Except ReadError (List Item × Nat) :=
  match fuel with
  | 0 => throw .truncated
  | fuel + 1 =>
    if h : pos < data.size then
      if data[pos] = breakCode then
        if major = 5 ∧ seen % 2 = 1 then throw (.malformed "cbor: unexpected \"break\" code")
        else return ([], pos + 1)
      else do
        let (item, next) ← readItem data fuel depth pos
        let seen := seen + 1
        if major = 4 ∧ seen > maxElements then
          throw (.malformed ("cbor: exceeded max number of elements " ++ toString maxElements ++
            " for CBOR array"))
        if major = 5 ∧ seen % 2 = 0 ∧ seen / 2 > maxElements then
          throw (.malformed ("cbor: exceeded max number of key-value pairs " ++
            toString maxElements ++ " for CBOR map"))
        let (rest, last) ← readUntilBreak data fuel depth major seen next
        return (item :: rest, last)
    else throw .truncated

/-- Reads the definite-length chunks of an indefinite-length string up to a break code and
joins their bytes. -/
def readChunks (data : ByteArray) (fuel depth major pos : Nat) :
    Except ReadError (List UInt8 × Nat) :=
  match fuel with
  | 0 => throw .truncated
  | fuel + 1 =>
    if h : pos < data.size then
      let b := data[pos]
      if b = breakCode then return ([], pos + 1)
      else if (b >>> 5).toNat ≠ major then
        throw (.malformed ("cbor: wrong element type " ++ majorName (b >>> 5).toNat ++
          " for indefinite-length " ++ majorName major))
      else if (b &&& 31) = 31 then
        throw (.malformed ("cbor: indefinite-length " ++ majorName major ++
          " chunk is not definite-length"))
      else do
        let (item, next) ← readItem data fuel depth pos
        let chunk := match item with
          | .bytes c | .text c => c
          | _ => []
        let (rest, last) ← readChunks data fuel depth major next
        return (chunk ++ rest, last)
    else throw .truncated

end

/-- Reads exactly one data item from the bytes. -/
def read (data : ByteArray) : Except ReadError Item := do
  if data.size = 0 then throw .empty
  let (item, next) ← readItem data (2 * data.size + 2) 0 0
  if next < data.size then throw (.extraneous (data.size - next) next)
  return item

end RubyLayout.Cbor
