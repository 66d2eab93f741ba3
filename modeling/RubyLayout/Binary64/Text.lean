import RubyLayout.Binary64.Shortest
import RubyLayout.Binary64.Round

/-!
# Writing binary64 numbers

`Binary64.text` writes a pattern with the fewest digits that read back (`Binary64.shortest`):
`NaN`, `+Inf` and `-Inf` for the specials, a leading `-` for a negative sign (also of zero),
and then either positional notation or scientific notation `d.ddde±XX` with at least two
exponent digits. Scientific notation is used when the decimal exponent of the leading digit
is below -4 or at least 6 (`1e+06`, `1e-05`, `123456`, `0.0001`).

`Binary64.roundTripInt` is the integer a count becomes when it is carried as a binary64 number
and written positionally: the nearest binary64 value, with its shortest digits and zeros after
them (`18446744073709551615` becomes `18446744073709552000`).

Main statement: `text_zero`, positive zero is written `0`.
-/

set_option autoImplicit false

namespace RubyLayout.Binary64

/-- Whether a pattern is a NaN. -/
def isNaN (bits : UInt64) : Bool :=
  (bits >>> 52) &&& 0x7ff == 0x7ff && bits &&& 0xfffffffffffff != 0

/-- Whether a pattern is an infinity. -/
def isInf (bits : UInt64) : Bool :=
  (bits >>> 52) &&& 0x7ff == 0x7ff && bits &&& 0xfffffffffffff == 0

/-- Whether the sign bit is set. -/
def isNegative (bits : UInt64) : Bool := bits >>> 63 == 1

/-- The decimal digits of a number, most significant first; zero has none. -/
def digitsOf (d : Nat) : List Char := if d = 0 then [] else Nat.toDigits 10 d

/-- Scientific notation of the digits `ds` (at least one) with decimal exponent `exp` of the
first digit. -/
def scientific (ds : List Char) (exp : Int) : String :=
  let mant := match ds with
    | [] => "0"
    | [d] => String.ofList [d]
    | d :: rest => String.ofList (d :: '.' :: rest)
  let sign := if exp < 0 then "-" else "+"
  let e := Int.natAbs exp
  let eds := Nat.toDigits 10 e
  let eds := if eds.length < 2 then '0' :: eds else eds
  mant ++ "e" ++ sign ++ String.ofList eds

/-- Positional notation of the digits `ds`, the decimal point after `point` of them (which may
be negative or beyond the digits); as many fraction digits as the digits need. -/
def positional (ds : List Char) (point : Int) : String :=
  let nd := ds.length
  let digitAt (i : Int) : Char := if 0 ≤ i ∧ i < nd then ds.getD i.toNat '0' else '0'
  let intPart :=
    if point ≤ 0 then "0"
    else String.ofList ((List.range point.toNat).map fun (i : Nat) => digitAt (Int.ofNat i))
  let fracCount := ((nd : Int) - point).toNat
  if fracCount = 0 then intPart
  else intPart ++ "." ++
    String.ofList ((List.range fracCount).map fun (i : Nat) => digitAt (point + Int.ofNat i))

/-- The shortest text of a pattern, in the style described in the module header; the decimal point
sits after `point` digits. -/
def text (bits : UInt64) : String :=
  if isNaN bits then "NaN"
  else if isInf bits then (if isNegative bits then "-Inf" else "+Inf")
  else
    let sign := if isNegative bits then "-" else ""
    let (d, s) := shortest bits
    let ds := digitsOf d
    let point : Int := (ds.length : Int) + s
    let exp := point - 1
    if d ≠ 0 ∧ (exp < -4 ∨ exp ≥ 6) then sign ++ scientific ds exp
    else sign ++ positional ds point

theorem text_zero : text 0 = "0" := by
  decide +kernel

/-- The integer a count becomes when carried as the nearest binary64 number and written
positionally with its shortest digits. -/
def roundTripInt (i : Int) : Int :=
  let bits := ofRatio (i < 0) i.natAbs 1
  let (d, s) := shortest bits
  let n : Int := if s ≥ 0 then (d * Nat.pow 10 s.toNat : Nat) else (d / Nat.pow 10 (-s).toNat : Nat)
  if i < 0 then -n else n

end RubyLayout.Binary64
