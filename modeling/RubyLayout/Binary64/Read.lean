import RubyLayout.Binary64.Round

/-!
# Reading binary64 numbers

`Binary64.read? s` is the binary64 pattern that the text `s` denotes, rounded to nearest with
ties to even, or `none` when `s` is not a number. The accepted texts are:

* an optional sign followed by `inf` or `infinity` in any letter case;
* `nan` in any letter case, with no sign (the quiet NaN `0x7ff8000000000001`);
* an optional sign, then decimal digits with at most one point and an optional exponent
  `e`/`E` with optional sign and at least one digit;
* an optional sign, then `0x` or `0X`, hexadecimal digits with at most one point, and a
  mandatory binary exponent `p`/`P`.

At least one mantissa digit is needed. Underscores may stand between digits, or between the
`0x` prefix and a digit, and nowhere else. A number too large for binary64 reads as an
infinity of its sign, and one too small as a zero of its sign. An exponent saturates once it
passes 10000, which is far beyond both ends of the range.

Main statement: `read?_nan`, NaN is read as the quiet pattern.
-/

set_option autoImplicit false

namespace RubyLayout.Binary64

/-- The quiet NaN that a `nan` text denotes. -/
def quietNaN : UInt64 := 0x7ff8000000000001

/-- The value of a digit in base ten, or sixteen when `hex`. -/
def digitValue (hex : Bool) (c : Char) : Option Nat :=
  if '0' ≤ c ∧ c ≤ '9' then some (c.toNat - '0'.toNat)
  else if hex ∧ 'a' ≤ c.toLower ∧ c.toLower ≤ 'f' then
    some (c.toLower.toNat - 'a'.toNat + 10)
  else none

/-- The length of the longest common prefix of `cs` with the lower-case word `w`, ignoring the
letter case of `cs`. -/
def commonPrefixLength : List Char → List Char → Nat
  | c :: cs, w :: ws => if c.toLower = w then commonPrefixLength cs ws + 1 else 0
  | _, _ => 0

/-- The special texts: signed infinities and an unsigned NaN, covering the whole text. -/
def readSpecial (cs : List Char) : Option UInt64 :=
  let (neg, signed, rest) := match cs with
    | '-' :: r => (true, true, r)
    | '+' :: r => (false, true, r)
    | r => (false, false, r)
  let inf := commonPrefixLength rest "infinity".toList
  if (inf = 3 ∨ inf = 8) ∧ rest.length = inf then some (infinity neg)
  else if !signed ∧ commonPrefixLength rest "nan".toList = 3 ∧ rest.length = 3 then
    some quietNaN
  else none

/-- The digits of a mantissa read so far. -/
structure Mantissa where
  /-- The value of all digits read, as an integer. -/
  value : Nat := 0
  /-- The number of digits read. -/
  digits : Nat := 0
  /-- The number of digits read before the point, once a point has been read. -/
  point : Option Nat := none
  /-- Whether an underscore was read. -/
  underscores : Bool := false

/-- The number of digits after the point. -/
def Mantissa.fraction (m : Mantissa) : Nat :=
  match m.point with
  | some p => m.digits - p
  | none => 0

/-- Reads mantissa digits, underscores and one point; stops at anything else or a second
point. -/
def scanMantissa (hex : Bool) : Mantissa → List Char → Mantissa × List Char
  | m, [] => (m, [])
  | m, c :: rest =>
    if c = '_' then scanMantissa hex { m with underscores := true } rest
    else if c = '.' then
      match m.point with
      | some _ => (m, c :: rest)
      | none => scanMantissa hex { m with point := some m.digits } rest
    else
      match digitValue hex c with
      | some d =>
        scanMantissa hex
          { m with value := m.value * (if hex then 16 else 10) + d, digits := m.digits + 1 } rest
      | none => (m, c :: rest)

/-- Reads exponent digits and underscores: the value saturates once it passes 10000, and the
flag tells whether an underscore was read. -/
def scanExponent : Nat → Bool → List Char → Nat × Bool × List Char
  | e, u, [] => (e, u, [])
  | e, u, c :: rest =>
    if c = '_' then scanExponent e true rest
    else if '0' ≤ c ∧ c ≤ '9' then
      scanExponent (if e < 10000 then e * 10 + (c.toNat - '0'.toNat) else e) u rest
    else (e, u, c :: rest)

/-- Reads an exponent after its letter: an optional sign and at least one digit. -/
def readExponent (cs : List Char) : Option (Int × Bool × List Char) :=
  let (neg, rest) := match cs with
    | '-' :: r => (true, r)
    | '+' :: r => (false, r)
    | r => (false, r)
  match rest with
  | c :: _ =>
    if '0' ≤ c ∧ c ≤ '9' then
      let (e, u, after) := scanExponent 0 false rest
      some (if neg then -(e : Int) else e, u, after)
    else none
  | [] => none

/-- Whether the underscores of a number text separate digits: each stands after a digit or
the `0x` prefix and before a digit. -/
def underscoresSeparate (cs : List Char) : Bool :=
  let body := match cs with
    | '-' :: r => r
    | '+' :: r => r
    | r => r
  let (hex, start, rest) := match body with
    | '0' :: b :: r =>
      if b.toLower = 'x' then (true, '0', r)
      else if b.toLower = 'b' ∨ b.toLower = 'o' then (false, '0', r)
      else (false, '^', body)
    | _ => (false, '^', body)
  let step (saw : Option Char) (c : Char) : Option Char :=
    match saw with
    | none => none
    | some s =>
      if ('0' ≤ c ∧ c ≤ '9') ∨ (hex ∧ 'a' ≤ c.toLower ∧ c.toLower ≤ 'f') then some '0'
      else if c = '_' then (if s = '0' then some '_' else none)
      else if s = '_' then none
      else some '!'
  match rest.foldl step (some start) with
  | some s => s ≠ '_'
  | none => false

/-- The pattern nearest to `value * 10^exp` with sign `neg`. -/
def ofDecimal (neg : Bool) (value : Nat) (exp : Int) : UInt64 :=
  if value = 0 then assemble neg 0 0
  else
    let digits : Int := (Nat.toDigits 10 value).length
    if digits + exp > 310 then infinity neg
    else if digits + exp < -324 then assemble neg 0 0
    else if exp ≥ 0 then ofRatio neg (value * Nat.pow 10 exp.toNat) 1
    else ofRatio neg value (Nat.pow 10 (-exp).toNat)

/-- The pattern nearest to `value * 2^exp` with sign `neg`. -/
def ofBinary (neg : Bool) (value : Nat) (exp : Int) : UInt64 :=
  if value = 0 then assemble neg 0 0
  else
    let bits : Int := bitLength value
    if bits + exp > 1025 then infinity neg
    else if bits + exp < -1076 then assemble neg 0 0
    else if exp ≥ 0 then ofRatio neg (value * Nat.pow 2 exp.toNat) 1
    else ofRatio neg value (Nat.pow 2 (-exp).toNat)

/-- Reads a finite number text (decimal or hexadecimal) covering the whole text. -/
def readFinite (cs : List Char) : Option UInt64 :=
  let (neg, body) := match cs with
    | '-' :: r => (true, r)
    | '+' :: r => (false, r)
    | r => (false, r)
  let (hex, digitsText) := match body with
    | '0' :: x :: r@(_ :: _) => if x = 'x' ∨ x = 'X' then (true, r) else (false, body)
    | _ => (false, body)
  let (m, afterMantissa) := scanMantissa hex {} digitsText
  let exponent : Option (Int × Bool × List Char) :=
    match afterMantissa with
    | c :: r =>
      if c.toLower = (if hex then 'p' else 'e') then readExponent r
      else if hex then none
      else some (0, false, c :: r)
    | [] => if hex then none else some (0, false, [])
  match exponent with
  | none => none
  | some (e, u, rest) =>
    if m.digits = 0 ∨ ¬ rest.isEmpty then none
    else if (m.underscores ∨ u) ∧ ¬ underscoresSeparate cs then none
    else if hex then some (ofBinary neg m.value (e - 4 * (m.fraction : Int)))
    else some (ofDecimal neg m.value (e - (m.fraction : Int)))

/-- The pattern a number text denotes, as described in the module header. -/
def read? (s : String) : Option UInt64 :=
  let cs := s.toList
  match readSpecial cs with
  | some bits => some bits
  | none => readFinite cs

theorem read?_nan : read? "nan" = some quietNaN := by
  decide +kernel

end RubyLayout.Binary64
