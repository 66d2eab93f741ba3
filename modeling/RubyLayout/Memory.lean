import RubyLayout.Value.Word

/-!
# Arena memory

All objects live in one arena: `size` bytes starting at the address `base`. The pages that
hold the arena are readable in full, so reads may reach up to `size` rounded up to the page
size of 4096 bytes. Bytes never written read as zero; only a prefix of the arena is kept,
every byte beyond it is zero.

A read or write outside the readable pages faults. A fault in the first page of the address
space is the null-pointer fault; any other is a wild access.

Words are stored little-endian.
-/

set_option autoImplicit false

namespace RubyLayout

/-- The page size of the address space. -/
def pageSize : Nat := 4096

/-- Rounds a size up to whole pages. -/
def roundToPages (n : Nat) : Nat := (n + pageSize - 1) / pageSize * pageSize

/-- Why a memory access fails. -/
inductive Fault where
  /-- An access in the first page, where no object can be. -/
  | nilPage (addr : UInt64)
  /-- An access anywhere else outside the arena. -/
  | wild (addr : UInt64)
deriving DecidableEq, Repr

/-- The message of a fault. -/
def Fault.message : Fault → String
  | .nilPage _ => "runtime error: invalid memory address or nil pointer dereference"
  | .wild a => "unexpected fault address " ++ Word.hex a

/-- The fault of an access at an address. -/
def Fault.at (addr : UInt64) : Fault := if addr.toNat < pageSize then .nilPage addr else .wild addr

/-- An arena: its base address, its size, and the bytes written so far. -/
structure Memory where
  /-- The address of the first byte. -/
  base : UInt64
  /-- The number of bytes of the arena. -/
  size : Nat
  /-- A prefix of the arena's contents; every later byte is zero. -/
  bytes : ByteArray

namespace Memory

/-- The number of readable bytes: the arena rounded up to whole pages. -/
def mapped (m : Memory) : Nat := roundToPages m.size

/-- Whether an address lies inside the arena proper. -/
def contains (m : Memory) (addr : UInt64) : Bool :=
  m.base.toNat ≤ addr.toNat && addr.toNat < m.base.toNat + m.size

/-- Whether the `n` bytes from `addr` lie in the readable pages. -/
def readable (m : Memory) (addr : UInt64) (n : Nat) : Bool :=
  m.base.toNat ≤ addr.toNat && addr.toNat + n ≤ m.base.toNat + m.mapped

/-- The byte at an offset from the base. -/
def byteAt (m : Memory) (off : Nat) : UInt8 := m.bytes.get! off

/-- The `n` bytes from `addr`, if they are readable. -/
def readBytes (m : Memory) (addr : UInt64) (n : Nat) : Except Fault ByteArray :=
  if m.readable addr n then
    let off := addr.toNat - m.base.toNat
    let kept := min n (m.bytes.size - off)
    let part := m.bytes.extract off (off + kept)
    .ok (part ++ ByteArray.mk (Array.replicate (n - kept) 0))
  else .error (Fault.at addr)

/-- The little-endian word at `addr`. -/
def readWord (m : Memory) (addr : UInt64) : Except Fault UInt64 :=
  if m.readable addr 8 then
    let off := addr.toNat - m.base.toNat
    .ok ((List.range 8).foldl
      (fun acc i => acc ||| ((m.byteAt (off + i)).toUInt64 <<< (8 * i).toUInt64)) 0)
  else .error (Fault.at addr)

/-- Makes sure the kept prefix reaches `n` bytes. -/
def reserve (m : Memory) (n : Nat) : Memory :=
  if m.bytes.size < n then
    { m with bytes := m.bytes ++ ByteArray.mk (Array.replicate (n - m.bytes.size) 0) }
  else m

/-- Writes bytes at an offset from the base; the caller keeps them inside the readable
pages. -/
def putBytes (m : Memory) (off : Nat) (b : ByteArray) : Memory :=
  let m := m.reserve (off + b.size)
  { m with bytes := b.copySlice 0 m.bytes off b.size }

/-- Writes bytes at `addr`, if they are readable. -/
def writeBytes (m : Memory) (addr : UInt64) (b : ByteArray) : Except Fault Memory :=
  if m.readable addr b.size then .ok (m.putBytes (addr.toNat - m.base.toNat) b)
  else .error (Fault.at addr)

/-- The little-endian bytes of a word. -/
def wordBytes (w : UInt64) : ByteArray :=
  ByteArray.mk ((List.range 8).map fun i => (w >>> (8 * i).toUInt64).toUInt8).toArray

/-- Writes a little-endian word at `addr`, if it is readable. -/
def writeWord (m : Memory) (addr : UInt64) (w : UInt64) : Except Fault Memory :=
  m.writeBytes addr (wordBytes w)

end Memory

end RubyLayout
