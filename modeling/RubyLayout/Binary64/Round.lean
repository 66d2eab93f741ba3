/-!
# Rounding a rational number to binary64

`ofRatio neg num den` is the binary64 pattern nearest to `num / den`, with the sign `neg`: the
significand is the quotient at the right binary scale, rounded to nearest with a tie going to
the even significand. Below the smallest normal exponent the significand shrinks (subnormal
numbers, down to zero), and a result beyond the largest finite number is infinity.
`truncate?` goes the other way: the integer part of a finite pattern.

Main statement: `ofRatio_zero`, a zero numerator gives a zero of the requested sign.
-/

set_option autoImplicit false

namespace RubyLayout.Binary64

/-- The number of bits of a natural number; zero has none. -/
def bitLength (n : Nat) : Nat := if n = 0 then 0 else Nat.log2 n + 1

/-- The pattern of an infinity of the given sign. -/
def infinity (neg : Bool) : UInt64 := if neg then 0xfff0000000000000 else 0x7ff0000000000000

/-- The pattern with the given sign, biased exponent and fraction. -/
def assemble (neg : Bool) (e f : Nat) : UInt64 :=
  ((if neg then 0x8000000000000000 else 0 : UInt64) ||| (e.toUInt64 <<< (52 : UInt64))) |||
    f.toUInt64

/-- `a / b` rounded to nearest, a tie going to the even quotient. -/
def roundDiv (a b : Nat) : Nat :=
  let q := a / b
  let r := a % b
  if 2 * r > b then q + 1 else if 2 * r < b then q else if q % 2 = 0 then q else q + 1

/-- The binary64 pattern nearest to `num / den` (`den > 0`), with sign `neg`. The binary exponent
`x` is chosen so that `num / den / 2^x` has 53 bits, from a first guess that leaves 53 or 54;
below the smallest normal exponent it stays at -1074, and rounding may carry into a 54th bit. -/
def ofRatio (neg : Bool) (num den : Nat) : UInt64 :=
  if num = 0 ∨ den = 0 then assemble neg 0 0 else
  let x : Int := (bitLength num : Int) - (bitLength den : Int) - 53
  let scaledQuot (x : Int) : Nat := (num * Nat.pow 2 (-x).toNat) / (den * Nat.pow 2 x.toNat)
  let x := if scaledQuot x ≥ Nat.pow 2 53 then x + 1 else x
  let x := if x < -1074 then -1074 else x
  let m := roundDiv (num * Nat.pow 2 (-x).toNat) (den * Nat.pow 2 x.toNat)
  let (m, x) := if m ≥ Nat.pow 2 53 then (m / 2, x + 1) else (m, x)
  if m < Nat.pow 2 52 then assemble neg 0 m
  else
    let e := x + 1075
    if e ≥ 2047 then infinity neg else assemble neg e.toNat (m - Nat.pow 2 52)

/-- The integer part of a finite pattern `m * 2^q`, rounded toward zero; `none` for NaN and the
infinities. -/
def truncate? (bits : UInt64) : Option Int :=
  let e := ((bits >>> 52) &&& 0x7ff).toNat
  let frac := (bits &&& 0xfffffffffffff).toNat
  if e = 0x7ff then none
  else
    let m := if e = 0 then frac else frac + Nat.pow 2 52
    let q : Int := ((max e 1 : Nat) : Int) - 1075
    let magnitude := if q ≥ 0 then m * Nat.pow 2 q.toNat else m / Nat.pow 2 (-q).toNat
    some (if bits >>> 63 = 1 then -(magnitude : Int) else magnitude)

theorem ofRatio_zero (neg : Bool) (den : Nat) : ofRatio neg 0 den = assemble neg 0 0 := by
  simp [ofRatio]

example : ofRatio false 1 1 = 0x3ff0000000000000 := by decide +kernel
example : ofRatio false 5 2 = 0x4004000000000000 := by decide +kernel
example : ofRatio false (2 ^ 63 - 1) 1 = 0x43e0000000000000 := by decide +kernel

example : truncate? 0xc004000000000000 = some (-2) := by decide +kernel

end RubyLayout.Binary64
