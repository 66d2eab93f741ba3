/-!
# Shortest decimal digits of a binary64 number

A finite binary64 pattern with biased exponent `E` and fraction `F` is the number `m * 2^q`:
`m = F`, `q = -1074` when `E = 0`, and `m = F + 2^52`, `q = E - 1075` otherwise. The reals
that round to it form an interval reaching half a unit in the last place on either side; the
gap below is a quarter unit when `F = 0` and `E > 1`, since the next smaller number is closer.
The ends belong to the interval exactly when `m` is even, because a tie rounds to the even
neighbour.

`shortest` finds the fewest significant decimal digits of a number in that interval: for 1,
2, … 17 digits it takes the two grid points of that precision around the value, keeps those
inside the interval, and of the first precision with one takes the nearer, a tie going to the
even one. All arithmetic is exact on natural numbers.

Main statement: `shortest_zero`, zero has the single digit zero.
-/

set_option autoImplicit false

namespace RubyLayout.Binary64

/-- A number `m * 2^q` with its rounding interval. -/
structure Scaled where
  /-- The integer significand. -/
  m : Nat
  /-- The binary exponent. -/
  q : Int
  /-- Whether the gap below is a quarter unit instead of a half. -/
  narrowBelow : Bool

/-- The significand, exponent and lower-gap flag of a finite pattern. -/
def scaled (bits : UInt64) : Scaled :=
  let e := ((bits >>> 52) &&& 0x7ff).toNat
  let f := (bits &&& 0xfffffffffffff).toNat
  if e = 0 then ⟨f, -1074, false⟩ else ⟨f + Nat.pow 2 52, (e : Int) - 1075, f = 0 ∧ e > 1⟩

/-- `a * 2^x * 10^y` compared with `b * 2^u * 10^w` for integers `x, y, u, w`: both sides are
multiplied by the powers needed to make every exponent nonnegative. -/
def cmpScaled (a : Nat) (x y : Int) (b : Nat) (u w : Int) : Ordering :=
  let lx := a * Nat.pow 2 (x - u).toNat * Nat.pow 10 (y - w).toNat
  let rx := b * Nat.pow 2 (u - x).toNat * Nat.pow 10 (w - y).toNat
  compare lx rx

/-- The decimal exponent `e` with `10^e ≤ m * 2^q < 10^(e+1)`, for `m > 0`: an estimate from the
bit length, then corrected in both directions. -/
def decimalExponent (m : Nat) (q : Int) : Int :=
  let bits : Int := (Nat.log2 m : Int) + q
  let est : Int := bits * 30103 / 100000
  let lower := (List.range 4).foldl (fun e _ =>
    if cmpScaled 1 0 e m q 0 == .gt then e - 1 else e) (est + 2)
  (List.range 4).foldl (fun e _ =>
    if cmpScaled 1 0 (e + 1) m q 0 != .gt then e + 1 else e) lower

/-- Whether `c * 10^s` lies in the rounding interval of `x`. In units of `2^(q-2)` the value is
`4m` and the ends are `4m - 2` (`4m - 1` when the gap below is narrow) and `4m + 2`, both
included when `m` is even. -/
def inInterval (x : Scaled) (c : Nat) (s : Int) : Bool :=
  let low : Nat := if x.narrowBelow then 4 * x.m - 1 else 4 * x.m - 2
  let high : Nat := 4 * x.m + 2
  let aboveLow := cmpScaled c 0 s low (x.q - 2) 0
  let belowHigh := cmpScaled c 0 s high (x.q - 2) 0
  let inclusive := x.m % 2 = 0
  (aboveLow == .gt || (inclusive && aboveLow == .eq)) &&
    (belowHigh == .lt || (inclusive && belowHigh == .eq))

/-- The distance order of two grid points `a * 10^s` and `b * 10^s` around `m * 2^q`:
`.lt` when `a` is nearer. With `a * 10^s < v < b * 10^s` this compares `2v` with
`(a + b) * 10^s`. -/
def nearer (x : Scaled) (a b : Nat) (s : Int) : Ordering :=
  match cmpScaled (2 * x.m) x.q 0 (a + b) 0 s with
  | .gt => .gt
  | .lt => .lt
  | .eq => .eq

/-- The shortest digits of a finite nonzero pattern as `(d, s)` with value `d * 10^s`. The search
tries one digit more at each step, between `lo` and `hi`, the floor and the ceiling of
`m * 2^q / 10^s`. -/
def shortestScaled (x : Scaled) : Nat × Int :=
  let e := decimalExponent x.m x.q
  let rec search (k : Nat) (fuel : Nat) : Nat × Int :=
    match fuel with
    | 0 => (x.m, 0)
    | fuel + 1 =>
      let s : Int := e - (k : Int) + 1
      let num := x.m * Nat.pow 2 x.q.toNat * Nat.pow 10 (-s).toNat
      let den := Nat.pow 2 (-x.q).toNat * Nat.pow 10 s.toNat
      let lo := num / den
      let hi := if num % den = 0 then lo else lo + 1
      let loIn := inInterval x lo s
      let hiIn := hi != lo && inInterval x hi s
      if loIn && hiIn then
        match nearer x lo hi s with
        | .lt => (lo, s)
        | .gt => (hi, s)
        | .eq => if lo % 2 = 0 then (lo, s) else (hi, s)
      else if loIn then (lo, s)
      else if hiIn then (hi, s)
      else search (k + 1) fuel
  search 1 17

/-- Drops trailing zero digits: `(d, s)` with the same value and `d` not divisible by ten. -/
def trimZeros (d : Nat) (s : Int) : Nat × Int :=
  let rec go (d : Nat) (s : Int) (fuel : Nat) : Nat × Int :=
    match fuel with
    | 0 => (d, s)
    | fuel + 1 => if d ≠ 0 ∧ d % 10 = 0 then go (d / 10) (s + 1) fuel else (d, s)
  go d s 40

/-- The shortest digits of the magnitude of a finite pattern, as `(d, s)` with value `d * 10^s`
and `d` free of trailing zeros; zero gives `(0, 0)`. -/
def shortest (bits : UInt64) : Nat × Int :=
  let x := scaled bits
  if x.m = 0 then (0, 0) else
    let (d, s) := shortestScaled x
    trimZeros d s

theorem shortest_zero : shortest 0 = (0, 0) := by
  decide

end RubyLayout.Binary64
