import RubyLayout.Value.Word

/-!
# Immediate floats

A float whose exponent lies in the middle of the range is kept inside the word. Bits 62 to 60
of its binary64 pattern must be `011` or `100`, the pattern `0x3000000000000000` excepted; the
word is then the pattern rotated left by three with the low two bits set to `10`. Positive
zero has the word `0x8000000000000002`. Decoding rotates back after restoring bit 60 from the
top bit.
-/

set_option autoImplicit false

namespace RubyLayout.Flonum

/-- The word of positive zero. -/
def zeroWord : UInt64 := 0x8000000000000002

/-- Rotates a word left by `k` bits, `0 < k < 64`. -/
def rotl (x : UInt64) (k : UInt64) : UInt64 := (x <<< k) ||| (x >>> (64 - k))

/-- Rotates a word right by `k` bits, `0 < k < 64`. -/
def rotr (x : UInt64) (k : UInt64) : UInt64 := (x >>> k) ||| (x <<< (64 - k))

/-- Whether a binary64 pattern has an immediate form. -/
def encodable (bits : UInt64) : Bool :=
  let b := (bits >>> 60) &&& 7
  (bits != 0x3000000000000000 && ((b - 3) &&& ~~~1) == 0) || bits == 0

/-- The immediate word of a binary64 pattern, if it has one. -/
def encode (bits : UInt64) : Option UInt64 :=
  let b := (bits >>> 60) &&& 7
  if bits != 0x3000000000000000 && ((b - 3) &&& ~~~1) == 0 then
    some ((rotl bits 3 &&& ~~~1) ||| 2)
  else if bits == 0 then some zeroWord
  else none

/-- The binary64 pattern of an immediate float word. -/
def decode (w : UInt64) : UInt64 :=
  if w == zeroWord then 0
  else
    let top := w >>> 63
    let t := (2 - top) ||| (w &&& ~~~3)
    rotr t 3

example : encode 0x4004000000000000 = some 0x20000000000002 := by decide
example : decode 0x20000000000002 = 0x4004000000000000 := by decide

end RubyLayout.Flonum
