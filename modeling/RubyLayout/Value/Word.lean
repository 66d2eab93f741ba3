/-!
# Machine words

A value of the interpreter is one 64-bit word, an identifier is one word as well, and so is a
C `unsigned long`; a C `long` is the same 64 bits read as a signed number, and a fixnum holds
the integers of half that range. Shifts follow the
machine rule for counts of 64 or more: a left or logical right shift by such a count gives
zero. Words are written `0x` and their lowercase hexadecimal digits, without leading zeros.

Main statements: `shl_of_le` and `shr_of_le` (a shift by 64 or more gives zero).
-/

set_option autoImplicit false

namespace RubyLayout

/-- An interpreter value: one machine word. -/
abbrev Value := UInt64

/-- A symbol identifier: one machine word. -/
abbrev SymbolId := UInt64

/-- The smallest signed machine integer, `-2^63`. -/
def longMin : Int := -Int.pow 2 63

/-- The largest signed machine integer, `2^63 - 1`. -/
def longMax : Int := Int.pow 2 63 - 1

/-- The smallest integer a fixnum holds: half the smallest machine integer. -/
def fixnumMin : Int := -Int.pow 2 62

/-- The largest integer a fixnum holds: half the largest machine integer, rounded down. -/
def fixnumMax : Int := Int.pow 2 62 - 1

namespace Word

/-- Left shift in which a count of 64 or more gives zero. -/
def shl (x n : UInt64) : UInt64 := if n < 64 then x <<< n else 0

/-- Logical right shift in which a count of 64 or more gives zero. -/
def shr (x n : UInt64) : UInt64 := if n < 64 then x >>> n else 0

theorem shl_of_le (x n : UInt64) (h : 64 ≤ n) : shl x n = 0 := by
  simp [shl, UInt64.not_lt.mpr h]

theorem shr_of_le (x n : UInt64) (h : 64 ≤ n) : shr x n = 0 := by
  simp [shr, UInt64.not_lt.mpr h]

/-- The lowercase hexadecimal digits of a number, without leading zeros. -/
def hexDigits (n : Nat) : String := String.ofList (Nat.toDigits 16 n)

/-- The written form of a word, `0x` and its hexadecimal digits. -/
def hex (w : UInt64) : String := "0x" ++ hexDigits w.toNat

/-- The hexadecimal digits of a word padded to sixteen. -/
def hex16 (w : UInt64) : String :=
  let ds := Nat.toDigits 16 w.toNat
  String.ofList (List.replicate (16 - ds.length) '0' ++ ds)

/-- The word as a signed number. -/
def signed (w : UInt64) : Int := w.toInt64.toInt

/-- The decimal form of a word read as a signed number. -/
def signedText (w : UInt64) : String := toString (signed w)

/-- The decimal form of a word read as an unsigned number. -/
def unsignedText (w : UInt64) : String := toString w.toNat

/-- The word holding the two's complement of an integer, modulo 2^64. -/
def ofInt (i : Int) : UInt64 := (i % Int.pow 2 64).toNat.toUInt64

end Word

end RubyLayout
