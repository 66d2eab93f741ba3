import RubyLayout.Heap.Basic
import RubyLayout.Value.Flonum

/-!
# Building objects

The builders lay out every kind of object at the offsets and with the flag bits of the heap's
facts:

* the special constants and fixnums are words computed from the facts alone;
* a string up to the embedding capacity keeps its bytes in its slot, with its length in the
  header flags (or in a length field when the layout has no length bits); a longer string, or
  one built with `heapString`, points to a separate buffer of its bytes and a terminating zero;
* an array likewise embeds up to its capacity or points to a buffer of element words;
* a static symbol tags the identifier of its name, a dynamic symbol is an object holding its
  name as a string and its identifier;
* a float is an immediate when the version has immediate floats and the number lies in their
  window, otherwise an object holding the bits;
* a bignum holds its sign in the header and its magnitude as little-endian words in a buffer;
* typed data points to a data type and either wraps a payload pointer or embeds the payload.

Every builder allocates from the bump pointer, so offsets are fixed by the order of the calls.
-/

set_option autoImplicit false

namespace RubyLayout

namespace Heap

/-- The facts of the heap. -/
def getFacts : HeapM Facts := return (← get).facts

/-- The word size of the heap, in bytes. -/
def wordBytes : HeapM UInt64 := return (← get).facts.wordSize

/-- The bytes of a list of words, little-endian each. -/
def wordsBytes (ws : List UInt64) : ByteArray :=
  ws.foldl (fun acc w => acc ++ Memory.wordBytes w) ByteArray.empty

/-! ### Immediates -/

/-- A fixnum tagging `i` without a range check: the low 64 bits of `2 i + 1`. -/
def fixnumOf (f : Facts) (i : Int) : Value := (Word.ofInt i <<< 1) ||| f.specials.fixnumFlag

/-! ### Strings -/

/-- A string whose bytes are in its slot. -/
def embeddedString (s : ByteArray) : HeapM Value := do
  let sl := (← getFacts).string
  let n := s.size
  let v ← object (sl.embedAryOffset.toNat + n + 1) TypeCode.string 0
  if sl.embedLenMask ≠ 0 then
    orFlags v (Word.shl n.toUInt64 sl.embedLenShift &&& sl.embedLenMask)
  else
    writeWord (v + sl.embedLenOffset) n.toUInt64
  writeBytes (v + sl.embedAryOffset) s
  pure v

/-- A string of `n` bytes in a separate buffer, whatever their number, followed in its slot by its
length, pointer and capacity; the bytes are made by `bytes` only once the buffer is handed out,
so a string too large for the arena is refused without being made. -/
def heapStringOf (n : Nat) (bytes : Unit → ByteArray) : HeapM Value := do
  let f ← getFacts
  let sl := f.string
  let w := f.wordSize
  let v ← object (sl.heapPtrOffset.toNat + 2 * w.toNat) TypeCode.string sl.noEmbed
  let buf ← raw (n + 1)
  writeBytes buf (bytes ())
  writeWord (v + sl.heapLenOffset) n.toUInt64
  writeWord (v + sl.heapPtrOffset) buf
  writeWord (v + sl.heapPtrOffset + w) n.toUInt64
  pure v

/-- A string whose bytes are in a separate buffer, whatever their number. -/
def heapString (s : ByteArray) : HeapM Value := heapStringOf s.size fun _ => s

/-- A string of `n` bytes made by `bytes`, embedded when it fits the embedding capacity. -/
def stringOf (n : Nat) (bytes : Unit → ByteArray) : HeapM Value := do
  if n ≤ (← getFacts).string.embedCapacity.toNat then embeddedString (bytes ())
  else heapStringOf n bytes

/-- A string, embedded when it fits the embedding capacity. -/
def string (s : ByteArray) : HeapM Value := stringOf s.size fun _ => s

/-- Marks a string as interned: frozen and flagged as an interned string. -/
def intern (v : Value) : HeapM Unit := do
  let f ← getFacts
  if f.string.fstr = 0 then throw (.noFstring f.version)
  orFlags v (f.string.fstr ||| f.header.freeze)

/-! ### Arrays -/

/-- An array whose elements are in its slot. -/
def embeddedArray (elems : List Value) : HeapM Value := do
  let f ← getFacts
  let al := f.array
  let n := elems.length
  let flags := al.embedFlag ||| (Word.shl n.toUInt64 al.embedLenShift &&& al.embedLenMask)
  let v ← object (al.embedAryOffset.toNat + n * f.wordSize.toNat) TypeCode.array flags
  writeBytes (v + al.embedAryOffset) (wordsBytes elems)
  pure v

/-- An array of `n` elements in a separate buffer, whatever their number; the elements are
made by `elems` only once the buffer is handed out. -/
def heapArrayOf (n : Nat) (elems : Unit → List Value) : HeapM Value := do
  let f ← getFacts
  let al := f.array
  let w := f.wordSize
  let v ← object (al.heapPtrOffset.toNat + w.toNat) TypeCode.array 0
  let buf ← raw (n * w.toNat)
  writeBytes buf (wordsBytes (elems ()))
  writeWord (v + al.heapLenOffset) n.toUInt64
  writeWord (v + al.heapLenOffset + w) n.toUInt64
  writeWord (v + al.heapPtrOffset) buf
  pure v

/-- An array whose elements are in a separate buffer, whatever their number. -/
def heapArray (elems : List Value) : HeapM Value := heapArrayOf elems.length fun _ => elems

/-- An array of `n` elements made by `elems`, embedded when it fits the embedding capacity. -/
def arrayOf (n : Nat) (elems : Unit → List Value) : HeapM Value := do
  if n ≤ (← getFacts).array.embedCapacity.toNat then embeddedArray (elems ())
  else heapArrayOf n elems

/-- An array, embedded when it fits the embedding capacity. -/
def array (elems : List Value) : HeapM Value := arrayOf elems.length fun _ => elems

/-! ### Symbols -/

/-- The identifier of a name, interning it. -/
def internId (name : String) : HeapM SymbolId := do
  let (t, id) := (← get).symbols.intern name
  modify fun h => { h with symbols := t }
  pure id

/-- The static symbol of a name. -/
def symbol (name : String) : HeapM Value := do
  let sp := (← getFacts).specials
  let id ← internId name
  pure (Word.shl id sp.specialShift ||| sp.symbolFlag)

/-- A dynamic symbol object: header, hash value, the name as a string, and the identifier. -/
def dynamicSymbol (name : String) : HeapM Value := do
  let fstr ← string name.toUTF8
  let f ← getFacts
  let w := f.wordSize
  let v ← object (5 * w.toNat) TypeCode.symbol f.header.freeze
  let id ← internId name
  writeWord (v + 3 * w) fstr
  writeWord (v + 4 * w) id
  modify fun h => { h with symbols := h.symbols.bindDynamic v id }
  pure v

/-! ### Numbers -/

/-- A float object holding the bits of a binary64 number. -/
def heapFloat (bits : UInt64) : HeapM Value := do
  let f ← getFacts
  let w := f.wordSize
  let v ← object (2 * w.toNat + 8) TypeCode.float f.header.freeze
  writeWord (v + 2 * w) bits
  pure v

/-- A float: immediate when the version has immediate floats and the number is in their
window, an object otherwise. -/
def float (bits : UInt64) : HeapM Value := do
  if (← getFacts).flonum then
    match Flonum.encode bits with
    | some w => pure w
    | none => heapFloat bits
  else heapFloat bits

/-- The type code in the header of an object. -/
def typeOf (v : Value) : HeapM TypeCode := do
  let hd := (← getFacts).header
  let w ← readWord (v + hd.flagsOffset)
  pure ⟨(w &&& hd.typeMask).toUInt32⟩

/-- The bits of the number an immediate float or a float object of the arena holds. -/
def floatValue (v : Value) : HeapM (Option UInt64) := do
  let h ← get
  let sp := h.facts.specials
  if h.facts.flonum ∧ v &&& sp.flonumMask = sp.flonumFlag then pure (some (Flonum.decode v))
  else if ¬ h.memory.contains v then pure none
  else
    match h.memory.readWord (v + h.facts.header.flagsOffset) with
    | .ok flags =>
      if (flags &&& h.facts.header.typeMask).toUInt32 = TypeCode.float.code then
        match h.memory.readWord (v + 2 * h.facts.wordSize) with
        | .ok bits => pure (some bits)
        | .error _ => pure none
      else pure none
    | .error _ => pure none

/-- The 64-bit words of a natural number, least significant first; zero has none. -/
def magnitudeWords (n : Nat) : List UInt64 :=
  let count := (Nat.log2 n + 64) / 64
  if n = 0 then [] else (List.range count).map fun i => (n >>> (64 * i)).toUInt64

/-- A bignum: the sign in the header, the magnitude's words in a buffer. -/
def bignum (x : Int) : HeapM Value := do
  let f ← getFacts
  let w := f.wordSize
  let sign := if x ≥ 0 then f.header.bignumSign else 0
  let v ← object (4 * w.toNat) TypeCode.bignum (sign ||| f.header.freeze)
  let digits := magnitudeWords x.natAbs
  let buf ← raw (digits.length * w.toNat)
  writeBytes buf (wordsBytes digits)
  writeWord (v + 2 * w) digits.length.toUInt64
  writeWord (v + 3 * w) buf
  modify fun h => { h with bignums := (v, x) :: h.bignums }
  pure v

/-- The integer a bignum built by the heap holds. -/
def bigValue (h : Heap) (v : Value) : Option Int :=
  (h.bignums.find? (fun e => e.1 == v)).map Prod.snd

/-- An integer: a fixnum when it is in the fixnum range, a bignum otherwise. -/
def integer (i : Int) : HeapM Value := do
  if fixnumMin ≤ i ∧ i ≤ fixnumMax then pure (fixnumOf (← getFacts) i) else bignum i

/-! ### Other objects -/

/-- An empty hash. -/
def hash : HeapM Value := do
  object (← getFacts).gc.baseSlotSize.toNat TypeCode.hash 0

/-- A plain object without instance variables. -/
def plainObject : HeapM Value := do
  object (← getFacts).gc.baseSlotSize.toNat TypeCode.object 0

/-- A copy of bytes in the arena, standing for memory an object owns through a pointer. -/
def buffer (b : ByteArray) : HeapM UInt64 := do
  let p ← raw b.size
  writeBytes p b
  pure p

/-- A data type record whose first word points to its name; its ten words hold the name, five
functions, the parent, data and flags. -/
def dataType (name : String) : HeapM UInt64 := do
  let w := (← getFacts).wordSize
  let bytes := name.toUTF8
  let cname ← raw (bytes.size + 1)
  writeBytes cname bytes
  let typ ← raw (10 * w.toNat)
  writeWord typ cname
  pure typ

/-- A typed data object of `n` bytes pointing to the data type `typ`, embedded or not. -/
def typedObject (typ : UInt64) (n : Nat) (embedded : Bool) : HeapM Value := do
  let f ← getFacts
  let td := f.typedData
  if ¬ td.supported then throw (.noTypedData f.version)
  let embed := if embedded then td.embedded else 0
  let v ← object n TypeCode.data td.typedFlag
  if td.typedFlag ≠ 0 then
    writeWord (v + td.typeOffset) (typ ||| embed)
  else
    writeWord (v + td.typeOffset) typ
    writeWord (v + td.flagOffset) (1 ||| embed)
  pure v

/-- A typed data object wrapping the payload pointer `data`. -/
def typedData (typ data : UInt64) : HeapM Value := do
  let f ← getFacts
  let v ← typedObject typ (f.typedData.dataOffset.toNat + f.wordSize.toNat) false
  writeWord (v + f.typedData.dataOffset) data
  pure v

/-- A typed data object with its payload copied into its slot. -/
def embeddedTypedData (typ : UInt64) (payload : ByteArray) : HeapM Value := do
  let td := (← getFacts).typedData
  let v ← typedObject typ (td.embedOffset.toNat + payload.size) true
  writeBytes (v + td.embedOffset) payload
  pure v

/-- An untyped data object: header, no mark and free functions, and the data pointer. -/
def untypedData (data : UInt64) : HeapM Value := do
  let w := (← getFacts).wordSize
  let v ← object (5 * w.toNat) TypeCode.data 0
  writeWord (v + 4 * w) data
  pure v

/-- Clears the class word of an object. -/
def hide (v : Value) : HeapM Value := do
  writeWord (v + (← getFacts).header.klassOffset) 0
  pure v

/-- Sets the frozen flag of an object. -/
def freeze (v : Value) : HeapM Value := do
  orFlags v (← getFacts).header.freeze
  pure v

end Heap

end RubyLayout
