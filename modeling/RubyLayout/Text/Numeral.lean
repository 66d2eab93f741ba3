/-!
# Integer numerals

Requests spell integers as numerals: an optional sign `+` or `-`, then digits in the base that
a prefix selects. `0b` or `0B` selects two, `0o` or `0O` eight, `0x` or `0X` sixteen, a bare
leading `0` eight as well, and no prefix ten; hexadecimal digits may be of either case. A
`0b`, `0o` or `0x` prefix counts only with a character after it, so `0x` alone is the octal
`0` followed by a stray `x`, and is refused.

Underscores may separate digits: each one stands after a digit or a prefix and before a digit,
so `1_000`, `0x_ff` and `0_7` are numerals while `_1`, `1__0` and `1_` are not.

`unsignedNumeral?` reads a numeral without a sign and `signedNumeral?` one with an optional
sign. Neither bounds the value; callers check the range they need.

Plain digit runs have no prefix and no separators: `decimalDigits?` and `hexDigits?` read a
nonempty run of decimal or hexadecimal digits, and `signedDecimal?` a decimal run after an
optional sign.
-/

set_option autoImplicit false

namespace RubyLayout.Text

/-- The value of a digit, when it is below `base` (a base up to sixteen). -/
def digitBelow (base : Nat) (c : Char) : Option Nat :=
  let d :=
    if '0' ≤ c ∧ c ≤ '9' then some (c.toNat - '0'.toNat)
    else if 'a' ≤ c.toLower ∧ c.toLower ≤ 'z' then some (c.toLower.toNat - 'a'.toNat + 10)
    else none
  d.filter fun d => d < base

/-- The base a numeral's prefix selects, the characters after the prefix, and whether a
separator may come first among them (after `0b`, `0o`, `0x` and a leading `0`). -/
def splitPrefix : List Char → Nat × List Char × Bool
  | '0' :: p :: c :: rest =>
    if p = 'b' ∨ p = 'B' then (2, c :: rest, true)
    else if p = 'o' ∨ p = 'O' then (8, c :: rest, true)
    else if p = 'x' ∨ p = 'X' then (16, c :: rest, true)
    else (8, p :: c :: rest, true)
  | '0' :: rest => (8, rest, true)
  | cs => (10, cs, false)

/-- Whether every separator in `cs` stands after a digit and before one: `afterDigit` says
whether what precedes `cs` ends in a digit or a prefix, `afterSeparator` whether it ends in a
separator. -/
def separatorsPlaced (afterDigit afterSeparator : Bool) : List Char → Bool
  | [] => !afterSeparator
  | c :: rest =>
    if c = '_' then afterDigit && separatorsPlaced false true rest
    else separatorsPlaced true false rest

/-- The value of digits in `base`, most significant first, skipping separators; none when a
character is neither a separator nor a digit below the base. -/
def digitsValue? (base : Nat) (cs : List Char) : Option Nat :=
  cs.foldl (fun acc c =>
    if c = '_' then acc
    else acc.bind fun n => (digitBelow base c).map fun d => n * base + d) (some 0)

/-- The value of an unsigned numeral given as characters. -/
def unsignedDigits? (cs : List Char) : Option Nat :=
  if cs.isEmpty then none
  else
    let (base, body, prefixed) := splitPrefix cs
    if separatorsPlaced prefixed false body then digitsValue? base body else none

/-- The value of an unsigned numeral. -/
def unsignedNumeral? (s : String) : Option Nat := unsignedDigits? s.toList

/-- The value of a numeral with an optional sign. -/
def signedNumeral? (s : String) : Option Int :=
  match s.toList with
  | '+' :: rest => (unsignedDigits? rest).map Int.ofNat
  | '-' :: rest => (unsignedDigits? rest).map fun n => -(n : Int)
  | cs => (unsignedDigits? cs).map Int.ofNat

/-- The value of a nonempty run of digits below `base`, without separators. -/
def plainDigits? (base : Nat) (cs : List Char) : Option Nat :=
  if cs.isEmpty || cs.contains '_' then none else digitsValue? base cs

/-- The value of a nonempty run of decimal digits. -/
def decimalDigits? (cs : List Char) : Option Nat := plainDigits? 10 cs

/-- The value of a nonempty run of hexadecimal digits of either case. -/
def hexDigits? (cs : List Char) : Option Nat := plainDigits? 16 cs

/-- The value of a run of decimal digits after an optional sign. -/
def signedDecimal? (cs : List Char) : Option Int :=
  match cs with
  | '+' :: rest => (decimalDigits? rest).map Int.ofNat
  | '-' :: rest => (decimalDigits? rest).map fun n => -(n : Int)
  | cs => (decimalDigits? cs).map Int.ofNat

example : signedNumeral? "0x_ff" = some 255 := by decide
example : signedNumeral? "-0777" = some (-511) := by decide
example : signedNumeral? "1__0" = none := by decide
example : signedNumeral? "0x" = none := by decide
example : signedDecimal? "-010".toList = some (-10) := by decide
example : hexDigits? "1_0".toList = none := by decide

end RubyLayout.Text
