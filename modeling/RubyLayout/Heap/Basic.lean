import RubyLayout.Heap.Error
import RubyLayout.Facts.Basic
import RubyLayout.TypeCode
import RubyLayout.Heap.Symbols

/-!
# The simulated heap

A heap is an arena laid out by one set of facts, a bump pointer, the class objects made at
boot, a symbol table and the integers behind the bignums it built.

Allocation (`Heap.raw`) aligns the bump pointer to the word size and hands out the next `n`
bytes, or fails with the sizes involved when they do not fit; a request for nothing exactly at
the end of the arena fails like an index one past the last byte. Objects (`Heap.object`) take
the smallest slot of the collector's pools that holds them, get their type and flags in the
header word and the class of their type in the class word.

Boot makes the class `Class` (its own class) and then one class object each for `Object`,
`String`, `Array`, `Hash`, `Symbol`, `Float`, `Integer` (bignums) and `Data`, all of the base
slot size, so the first object built afterwards lies nine base slots into the arena.

Every operation runs in `HeapM`: it may fail, and its effects on the heap up to the failure
stay.
-/

set_option autoImplicit false

namespace RubyLayout

/-- A simulated heap. -/
structure Heap where
  /-- The facts the heap is laid out by. -/
  facts : Facts
  /-- The arena. -/
  memory : Memory
  /-- The offset of the first byte not yet handed out. -/
  next : Nat
  /-- The class object of each type that has one. -/
  classes : List (TypeCode × Value)
  /-- The symbol table. -/
  symbols : SymbolTable
  /-- The integer behind each bignum built. -/
  bignums : List (Value × Int)

/-- Heap operations: they may fail, and what they did to the heap before failing stays. -/
abbrev HeapM := ExceptT HeapError (StateM Heap)

namespace Heap

/-- The address of the arena's first byte. -/
def arenaBase : UInt64 := 0x7f3a80000000

/-- The arena size when none is asked for: 4 MiB. -/
def defaultArenaSize : Nat := 4 * 1024 * 1024

/-- The largest arena that can be mapped. -/
def mapLimit : Nat := Nat.pow 2 47

/-- The word size of the machine. -/
def machineWord : UInt64 := 8

/-- The class object of a type, if it has one. -/
def classOf (h : Heap) (t : TypeCode) : Option Value :=
  (h.classes.find? (fun c => c.1 == t)).map Prod.snd

/-- Writes bytes; a fault becomes the operation's failure, and writing nothing touches
nothing. -/
def writeBytes (addr : UInt64) (b : ByteArray) : HeapM Unit := do
  let m := (← get).memory
  if b.size = 0 then pure ()
  else if m.readable addr b.size then
    let off := addr.toNat - m.base.toNat
    modify fun h => { h with memory := h.memory.putBytes off b }
  else throw (.fault (Fault.at addr))

/-- Writes a word; a fault becomes the operation's failure. -/
def writeWord (addr w : UInt64) : HeapM Unit := writeBytes addr (Memory.wordBytes w)

/-- Reads a word; a fault becomes the operation's failure. -/
def readWord (addr : UInt64) : HeapM UInt64 := do
  let h ← get
  match h.memory.readWord addr with
  | .ok w => pure w
  | .error f => throw (.fault f)

/-- Sets bits in the flags word of an object. -/
def orFlags (v : Value) (bits : UInt64) : HeapM Unit := do
  let off := (← get).facts.header.flagsOffset
  let w ← readWord (v + off)
  writeWord (v + off) (w ||| bits)

/-- The slot size for an object of `n` bytes: the first pool size `base * 2^i`, `i` below the
pool count, that holds it. Sizes of pools past the 64th are zero and hold nothing new, so at
most 65 pools are tried. -/
def slotSize (g : GcLayout) (n : Nat) : Except HeapError Nat :=
  let pools := min g.sizePoolCount.toNat 65
  match (List.range pools).find? (fun i => n ≤ (Word.shl g.baseSlotSize i.toUInt64).toNat) with
  | some i => .ok (Word.shl g.baseSlotSize i.toUInt64).toNat
  | none => .error (.slotTooLarge n g.maxSlotSize)

/-- Hands out `n` bytes at the next word-aligned offset and returns their address. -/
def raw (n : Nat) : HeapM UInt64 := do
  let h ← get
  let w := h.facts.wordSize.toNat
  let off := (h.next + w - 1) / w * w
  let size := h.memory.size
  if off + n > size then
    let left := if off < size then size - off else 0
    throw (.arenaFull n left size)
  set { h with next := off + n }
  if off ≥ size then throw (.indexOutOfRange off size)
  pure (h.memory.base + off.toUInt64)

/-- Allocates an object of `n` bytes of type `t` with extra header flags, and writes its
header: the type and flags, and the class of its type if there is one. -/
def object (n : Nat) (t : TypeCode) (flags : UInt64) : HeapM Value := do
  let h ← get
  let size ← match slotSize h.facts.gc n with
    | .ok s => pure s
    | .error e => throw e
  let v ← raw size
  writeWord (v + h.facts.header.flagsOffset) (t.code.toUInt64 ||| flags)
  match h.classOf t with
  | some c => writeWord (v + h.facts.header.klassOffset) c
  | none => pure ()
  pure v

/-- The types that get a class object at boot after `Class` itself, in boot order. -/
def bootTypes : List TypeCode :=
  [TypeCode.object, TypeCode.string, TypeCode.array, TypeCode.hash, TypeCode.symbol,
   TypeCode.float, TypeCode.bignum, TypeCode.data]

/-- Makes the class objects. -/
def boot : HeapM Unit := do
  let base := (← get).facts.gc.baseSlotSize.toNat
  let cls ← object base TypeCode.class 0
  writeWord (cls + (← get).facts.header.klassOffset) cls
  modify fun h => { h with classes := h.classes ++ [(TypeCode.class, cls)] }
  for t in bootTypes do
    let c ← object base TypeCode.class 0
    modify fun h => { h with classes := h.classes ++ [(t, c)] }

/-- A fresh heap for the facts with an arena of `size` bytes, zero meaning the default. -/
def create (facts : Facts) (size : Int) : Except HeapError Heap :=
  if facts.wordSize ≠ machineWord then .error (.wordSize facts.wordSize)
  else
    let size := if size = 0 then (defaultArenaSize : Int) else size
    if size < 0 then .error (.mapFailed size "invalid argument")
    else if size.toNat > mapLimit then .error (.mapFailed size "cannot allocate memory")
    else
      let h : Heap := { facts := facts, memory := ⟨arenaBase, size.toNat, ByteArray.empty⟩,
                        next := 0, classes := [], symbols := default, bignums := [] }
      let (outcome, booted) := boot.run h
      match outcome with
      | .ok () => .ok booted
      | .error e => .error e

/-- Runs a heap operation, returning its outcome and the heap after it. -/
def exec {α : Type} (h : Heap) (op : HeapM α) : Except HeapError α × Heap := (op.run h)

end Heap

end RubyLayout
