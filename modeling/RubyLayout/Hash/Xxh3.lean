/-!
# XXH3, 64 bits

The 64-bit XXH3 hash with seed zero and the default 192-byte secret. Inputs are split by
length: up to 3, 4 to 8, 9 to 16, 17 to 128 and 129 to 240 bytes each have a short mixing
rule, and longer inputs run the striped accumulator over blocks of 1024 bytes. Every
multiplication and addition wraps at 2^64; `mulFold` is the 128-bit product folded by xoring
its halves.
-/

set_option autoImplicit false

namespace RubyLayout.Xxh3

/-- The default secret. -/
def secret : ByteArray := ByteArray.mk #[
  0xb8, 0xfe, 0x6c, 0x39, 0x23, 0xa4, 0x4b, 0xbe, 0x7c, 0x01, 0x81, 0x2c, 0xf7, 0x21, 0xad, 0x1c,
  0xde, 0xd4, 0x6d, 0xe9, 0x83, 0x90, 0x97, 0xdb, 0x72, 0x40, 0xa4, 0xa4, 0xb7, 0xb3, 0x67, 0x1f,
  0xcb, 0x79, 0xe6, 0x4e, 0xcc, 0xc0, 0xe5, 0x78, 0x82, 0x5a, 0xd0, 0x7d, 0xcc, 0xff, 0x72, 0x21,
  0xb8, 0x08, 0x46, 0x74, 0xf7, 0x43, 0x24, 0x8e, 0xe0, 0x35, 0x90, 0xe6, 0x81, 0x3a, 0x26, 0x4c,
  0x3c, 0x28, 0x52, 0xbb, 0x91, 0xc3, 0x00, 0xcb, 0x88, 0xd0, 0x65, 0x8b, 0x1b, 0x53, 0x2e, 0xa3,
  0x71, 0x64, 0x48, 0x97, 0xa2, 0x0d, 0xf9, 0x4e, 0x38, 0x19, 0xef, 0x46, 0xa9, 0xde, 0xac, 0xd8,
  0xa8, 0xfa, 0x76, 0x3f, 0xe3, 0x9c, 0x34, 0x3f, 0xf9, 0xdc, 0xbb, 0xc7, 0xc7, 0x0b, 0x4f, 0x1d,
  0x8a, 0x51, 0xe0, 0x4b, 0xcd, 0xb4, 0x59, 0x31, 0xc8, 0x9f, 0x7e, 0xc9, 0xd9, 0x78, 0x73, 0x64,
  0xea, 0xc5, 0xac, 0x83, 0x34, 0xd3, 0xeb, 0xc3, 0xc5, 0x81, 0xa0, 0xff, 0xfa, 0x13, 0x63, 0xeb,
  0x17, 0x0d, 0xdd, 0x51, 0xb7, 0xf0, 0xda, 0x49, 0xd3, 0x16, 0x55, 0x26, 0x29, 0xd4, 0x68, 0x9e,
  0x2b, 0x16, 0xbe, 0x58, 0x7d, 0x47, 0xa1, 0xfc, 0x8f, 0xf8, 0xb8, 0xd1, 0x7a, 0xd0, 0x31, 0xce,
  0x45, 0xcb, 0x3a, 0x8f, 0x95, 0x16, 0x04, 0x28, 0xaf, 0xd7, 0xfb, 0xca, 0xbb, 0x4b, 0x40, 0x7e]

/-- The 32-bit primes. -/
def prime32a : UInt64 := 0x9E3779B1
/-- The second 32-bit prime. -/
def prime32b : UInt64 := 0x85EBCA77
/-- The third 32-bit prime. -/
def prime32c : UInt64 := 0xC2B2AE3D
/-- The 64-bit primes. -/
def prime64a : UInt64 := 0x9E3779B185EBCA87
/-- The second 64-bit prime. -/
def prime64b : UInt64 := 0xC2B2AE3D27D4EB4F
/-- The third 64-bit prime. -/
def prime64c : UInt64 := 0x165667B19E3779F9
/-- The fourth 64-bit prime. -/
def prime64d : UInt64 := 0x85EBCA77C2B2AE63
/-- The fifth 64-bit prime. -/
def prime64e : UInt64 := 0x27D4EB2F165667C5
/-- The multiplier of the final mix. -/
def mixA : UInt64 := 0x165667919E3779F9
/-- The multiplier of the short-input mix. -/
def mixB : UInt64 := 0x9FB21C651E98DF25

/-- The little-endian number of `count` bytes at `pos`, zero beyond the end. -/
def readLE (b : ByteArray) (pos count : Nat) : UInt64 :=
  (List.range count).foldl
    (fun acc i => acc ||| ((b.get! (pos + i)).toUInt64 <<< (8 * i).toUInt64)) 0

/-- Rotates left by `k` bits. -/
def rotl (x : UInt64) (k : Nat) : UInt64 := (x <<< k.toUInt64) ||| (x >>> (64 - k).toUInt64)

/-- Reverses the byte order of a 64-bit word. -/
def swap64 (x : UInt64) : UInt64 :=
  (List.range 8).foldl
    (fun acc i => acc ||| (((x >>> (8 * i).toUInt64) &&& 0xff) <<< (8 * (7 - i)).toUInt64)) 0

/-- The 128-bit product of two words, folded by xoring its halves. -/
def mulFold (a b : UInt64) : UInt64 :=
  let p := a.toNat * b.toNat
  (p % Nat.pow 2 64).toUInt64 ^^^ (p / Nat.pow 2 64).toUInt64

/-- The final mix of the mid-size hashes. -/
def avalanche (h : UInt64) : UInt64 :=
  let h := h ^^^ (h >>> 37)
  let h := h * mixA
  h ^^^ (h >>> 32)

/-- The final mix of the older 64-bit hash, used for inputs up to 3 bytes. -/
def avalanche64 (h : UInt64) : UInt64 :=
  let h := h ^^^ (h >>> 33)
  let h := h * prime64b
  let h := h ^^^ (h >>> 29)
  let h := h * prime64c
  h ^^^ (h >>> 32)

/-- The final mix of inputs of 4 to 8 bytes. -/
def rrmxmx (h : UInt64) (len : Nat) : UInt64 :=
  let h := h ^^^ (rotl h 49 ^^^ rotl h 24)
  let h := h * mixB
  let h := h ^^^ ((h >>> 35) + len.toUInt64)
  let h := h * mixB
  h ^^^ (h >>> 28)

/-- Mixes sixteen input bytes at `pos` with sixteen secret bytes at `spos`. -/
def mix16 (input : ByteArray) (pos spos : Nat) : UInt64 :=
  mulFold (readLE input pos 8 ^^^ readLE secret spos 8)
    (readLE input (pos + 8) 8 ^^^ readLE secret (spos + 8) 8)

/-- Inputs of up to 16 bytes. -/
def hashShort (input : ByteArray) : UInt64 :=
  let len := input.size
  if len = 0 then avalanche64 (readLE secret 56 8 ^^^ readLE secret 64 8)
  else if len ≤ 3 then
    let c1 := (input.get! 0).toUInt64
    let c2 := (input.get! (len / 2)).toUInt64
    let c3 := (input.get! (len - 1)).toUInt64
    let combined := (c1 <<< 16) ||| (c2 <<< 24) ||| c3 ||| (len.toUInt64 <<< 8)
    let flip := (readLE secret 0 4 ^^^ readLE secret 4 4)
    avalanche64 (combined ^^^ flip)
  else if len ≤ 8 then
    let lo := readLE input 0 4
    let hi := readLE input (len - 4) 4
    let flip := readLE secret 8 8 ^^^ readLE secret 16 8
    rrmxmx ((hi + (lo <<< 32)) ^^^ flip) len
  else
    let flip1 := readLE secret 24 8 ^^^ readLE secret 32 8
    let flip2 := readLE secret 40 8 ^^^ readLE secret 48 8
    let lo := readLE input 0 8 ^^^ flip1
    let hi := readLE input (len - 8) 8 ^^^ flip2
    avalanche (len.toUInt64 + swap64 lo + hi + mulFold lo hi)

/-- Inputs of 17 to 128 bytes: pairs of sixteen-byte blocks from both ends. -/
def hashMedium (input : ByteArray) : UInt64 :=
  let len := input.size
  let acc := len.toUInt64 * prime64a
  let acc := if len > 96 then acc + mix16 input 48 96 + mix16 input (len - 64) 112 else acc
  let acc := if len > 64 then acc + mix16 input 32 64 + mix16 input (len - 48) 80 else acc
  let acc := if len > 32 then acc + mix16 input 16 32 + mix16 input (len - 32) 48 else acc
  avalanche (acc + mix16 input 0 0 + mix16 input (len - 16) 16)

/-- Inputs of 129 to 240 bytes: eight blocks, a mix, then the remaining blocks with the secret
shifted by three bytes, and the last sixteen bytes. -/
def hashLarger (input : ByteArray) : UInt64 :=
  let len := input.size
  let rounds := len / 16
  let acc := (List.range 8).foldl (fun acc i => acc + mix16 input (16 * i) (16 * i))
    (len.toUInt64 * prime64a)
  let acc := avalanche acc
  let acc := ((List.range rounds).drop 8).foldl
    (fun acc i => acc + mix16 input (16 * i) (16 * (i - 8) + 3)) acc
  avalanche (acc + mix16 input (len - 16) (136 - 17))

/-- One 64-byte stripe into the eight accumulators, with the secret at `spos`. -/
def accumulateStripe (acc : Array UInt64) (input : ByteArray) (pos spos : Nat) : Array UInt64 :=
  (List.range 8).foldl (fun acc i =>
    let value := readLE input (pos + 8 * i) 8
    let key := value ^^^ readLE secret (spos + 8 * i) 8
    let acc := acc.modify (i ^^^ 1) (· + value)
    acc.modify i (fun a => a + (key &&& (0xffffffff : UInt64)) * (key >>> (32 : UInt64)))) acc

/-- Scrambles the accumulators with the last 64 secret bytes. -/
def scramble (acc : Array UInt64) : Array UInt64 :=
  (List.range 8).foldl (fun acc i =>
    acc.modify i fun a =>
      let a := a ^^^ (a >>> 47)
      let a := a ^^^ readLE secret (192 - 64 + 8 * i) 8
      a * prime32a) acc

/-- Inputs above 240 bytes: blocks of sixteen stripes, a scramble after each full block, the
stripes of the last partial block and a final stripe ending at the last byte. -/
def hashLong (input : ByteArray) : UInt64 :=
  let len := input.size
  let blockLen := 1024
  let blocks := (len - 1) / blockLen
  let init : Array UInt64 :=
    #[prime32c, prime64a, prime64b, prime64c, prime64d, prime32b, prime64e, prime32a]
  let acc := (List.range blocks).foldl (fun acc n =>
    let acc := (List.range 16).foldl
      (fun acc s => accumulateStripe acc input (n * blockLen + 64 * s) (8 * s)) acc
    scramble acc) init
  let stripes := ((len - 1) - blockLen * blocks) / 64
  let acc := (List.range stripes).foldl
    (fun acc s => accumulateStripe acc input (blocks * blockLen + 64 * s) (8 * s)) acc
  let acc := accumulateStripe acc input (len - 64) (192 - 64 - 7)
  let result := (List.range 4).foldl (fun r i =>
    r + mulFold (acc.getD (2 * i) 0 ^^^ readLE secret (11 + 16 * i) 8)
      (acc.getD (2 * i + 1) 0 ^^^ readLE secret (11 + 16 * i + 8) 8)) (len.toUInt64 * prime64a)
  avalanche result

/-- The 64-bit XXH3 hash of a byte array. -/
def hash (input : ByteArray) : UInt64 :=
  let len := input.size
  if len ≤ 16 then hashShort input
  else if len ≤ 128 then hashMedium input
  else if len ≤ 240 then hashLarger input
  else hashLong input

end RubyLayout.Xxh3
