/-!
# FNV-1a, 64 bits

The 64-bit FNV-1a hash starts from the offset basis `0xcbf29ce484222325` and, for each byte,
xors the byte in and multiplies by the prime `0x100000001b3`, wrapping at 2^64.

Main statement: `hash_append`, hashing a concatenation continues from the hash of the first
part.
-/

set_option autoImplicit false

namespace RubyLayout.Fnv

/-- The offset basis. -/
def basis : UInt64 := 0xcbf29ce484222325

/-- The prime. -/
def prime : UInt64 := 0x100000001b3

/-- One step: xor the byte in, then multiply by the prime. -/
def step (h : UInt64) (b : UInt8) : UInt64 := (h ^^^ b.toUInt64) * prime

/-- Continues a hash over more bytes. -/
def extend (h : UInt64) (bytes : List UInt8) : UInt64 := bytes.foldl step h

/-- The hash of a byte list. -/
def hash (bytes : List UInt8) : UInt64 := extend basis bytes

theorem hash_append (a b : List UInt8) : hash (a ++ b) = extend (hash a) b := by
  simp [hash, extend, List.foldl_append]

/-- The hash of the bytes of a byte array. -/
def hashArray (bytes : ByteArray) : UInt64 := bytes.foldl step basis

end RubyLayout.Fnv
