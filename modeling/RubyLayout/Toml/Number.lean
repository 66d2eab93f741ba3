import RubyLayout.Binary64.Read
import RubyLayout.Text.Quoted

/-!
# TOML numbers and datetimes

The token of a number is read roughly by the lexer; here it is checked and given its value.

* An integer is decimal, or hexadecimal, octal or binary after `0x`, `0o`, `0b`. Underscores
  must stand between two digits, a leading zero is refused (`0` itself apart), and the value must
  fit 64 signed bits.
* A float is split at `.`, `e` and `E`; each part has its underscores between digits, the part
  before the point has no leading zero, and every point is followed by a digit. What remains,
  without underscores, is read as a binary64 number; one that overflows is refused. `nan`,
  `+nan` and `-nan` are NaNs of the sign they show.
* A datetime is a date `YYYY-MM-DD` (with a day that the month has), optionally followed by `T`
  and a time, or a time alone. A time is `HH:MM`, optionally `:SS` and a fraction; after a date
  it may carry `Z` or an offset `±HH:MM`. Hours, minutes and seconds have two digits each. A space
  or `t` may stand for the `T`, and `z` for the `Z`.

Each check answers the message of its failure.
-/

set_option autoImplicit false

namespace RubyLayout.Toml

/-- Hexadecimal digits, which include every character that may stand next to an underscore. -/
def isHexChar (c : Char) : Bool := c.isDigit || ('a' ≤ c && c ≤ 'f') || ('A' ≤ c && c ≤ 'F')

/-- Whether every underscore of a number text follows a digit and the text ends in a digit;
the words of the special floats pass. -/
def underscoresPlaced (s : String) : Bool :=
  if ["nan", "+nan", "-nan", "inf", "-inf", "+inf"].contains s then true
  else
    let step : Option Bool → Char → Option Bool := fun acc c =>
      match acc with
      | none => none
      | some accept => if c == '_' && !accept then none else some (isHexChar c)
    (s.toList.foldl step (some false)).getD false

/-- Whether a number text starts with a zero that another digit follows (base prefixes apart). -/
def hasLeadingZero (s : String) : Bool :=
  match s.toList with
  | '0' :: c :: _ => !(c == 'b' || c == 'o' || c == 'x')
  | s0 :: '0' :: _ :: _ => s0 == '-' || s0 == '+'
  | _ => false

/-- Whether every point of a number text is followed by a digit. -/
def pointsFollowed : List Char → Bool
  | [] => true
  | ['.'] => false
  | '.' :: c :: rest => c.isDigit && pointsFollowed (c :: rest)
  | _ :: rest => pointsFollowed rest

/-- The value of digits in a base, without underscores. -/
def digitsValue (base : Nat) (cs : List Char) : Nat :=
  cs.foldl (fun n c =>
    let d := if c.isDigit then c.toNat - 48 else c.toLower.toNat - 87
    n * base + d) 0

/-- The value of an integer text whose underscores are well placed. -/
def integerValue (s : String) : Int :=
  let cs := s.toList.filter (· != '_')
  let (neg, body) := match cs with
    | '-' :: r => (true, r)
    | '+' :: r => (false, r)
    | r => (false, r)
  let magnitude := match body with
    | '0' :: 'x' :: r => digitsValue 16 r
    | '0' :: 'o' :: r => digitsValue 8 r
    | '0' :: 'b' :: r => digitsValue 2 r
    | r => digitsValue 10 r
  if neg then -(magnitude : Int) else magnitude

/-- An integer token's value, or the message of its failure. -/
def readInteger (s : String) : Except String Int :=
  if !underscoresPlaced s then
    .error ("Invalid integer " ++ Text.quote s ++ ": underscores must be surrounded by digits")
  else if hasLeadingZero s then
    .error ("Invalid integer " ++ Text.quote s ++ ": cannot have leading zeroes")
  else
    let i := integerValue s
    if i < -Int.pow 2 63 || i ≥ Int.pow 2 63 then .error (s ++ " is out of range for int64")
    else .ok i

/-- The parts of a float text between its points and exponent marks. -/
def floatParts (s : String) : List String :=
  let mark (c : Char) : Bool := c == '.' || c == 'e' || c == 'E'
  ((s.toList.splitBy fun a b => mark a == mark b).filter
      fun g => !g.all fun c => c == '.' || c == 'e' || c == 'E').map String.ofList

/-- Whether a pattern is an infinity. -/
def isInfinity (bits : UInt64) : Bool := bits &&& 0x7fffffffffffffff == 0x7ff0000000000000

/-- A float token's binary64 pattern, or the message of its failure. -/
def readFloat (s : String) : Except String UInt64 :=
  let parts := floatParts s
  if parts.any (!underscoresPlaced ·) then
    .error ("Invalid float " ++ Text.quote s ++ ": underscores must be surrounded by digits")
  else if (parts.head?.map hasLeadingZero).getD false then
    .error ("Invalid float " ++ Text.quote s ++ ": cannot have leading zeroes")
  else if !pointsFollowed s.toList then
    .error ("Invalid float " ++ Text.quote s ++ ": '.' must be followed by one or more digits")
  else
    let plain := String.ofList (s.toList.filter (· != '_'))
    let (negNaN, text) := if plain == "+nan" || plain == "-nan" then (plain == "-nan", "nan")
      else (false, plain)
    match Binary64.read? text with
    | none => .error ("Invalid float value: " ++ Text.quote s)
    | some bits =>
      let word := (text.toList.filter (· != '+')).filter (· != '-')
      if isInfinity bits && !(word == ['i', 'n', 'f']) then
        .error (s ++ " is out of range for float64")
      else .ok (if negNaN then bits ||| 0x8000000000000000 else bits)

/-! ### Datetimes -/

/-- Two digits and the text after them. -/
def twoDigits : List Char → Option (Nat × List Char)
  | a :: b :: rest => if a.isDigit && b.isDigit then some (digitsValue 10 [a, b], rest) else none
  | _ => none

/-- Whether a year is a leap year. -/
def isLeapYear (y : Nat) : Bool := y % 4 == 0 && (y % 100 != 0 || y % 400 == 0)

/-- The number of days of a month. -/
def daysInMonth (y m : Nat) : Nat :=
  if m == 2 then (if isLeapYear y then 29 else 28)
  else if m == 4 || m == 6 || m == 9 || m == 11 then 30 else 31

/-- A date `YYYY-MM-DD` with a day its month has, and the text after it. -/
def dateAhead (cs : List Char) : Option (List Char) :=
  match cs with
  | y1 :: y2 :: y3 :: y4 :: '-' :: rest => do
    if !([y1, y2, y3, y4].all Char.isDigit) then none
    let (m, rest) ← twoDigits rest
    match rest with
    | '-' :: rest =>
      let (d, rest) ← twoDigits rest
      let y := digitsValue 10 [y1, y2, y3, y4]
      if 1 ≤ m && m ≤ 12 && 1 ≤ d && d ≤ daysInMonth y m then some rest else none
    | _ => none
  | _ => none

/-- A time `HH:MM`, optionally with seconds and a fraction, and the text after it. -/
def timeAhead (cs : List Char) : Option (List Char) := do
  let (h, rest) ← twoDigits cs
  match rest with
  | ':' :: rest =>
    let (m, rest) ← twoDigits rest
    if h ≥ 24 || m ≥ 60 then none
    match rest with
    | ':' :: rest =>
      let (s, rest) ← twoDigits rest
      if s ≥ 60 then none
      match rest with
      | '.' :: d :: more => if d.isDigit then some (more.dropWhile Char.isDigit) else some rest
      | _ => some rest
    | _ => some rest
  | _ => none

/-- Whether a text is a zone: `Z`, or a sign and `HH:MM` within a day. -/
def isZone : List Char → Bool
  | ['Z'] => true
  | [s, h1, h2, ':', m1, m2] =>
    (s == '+' || s == '-') &&
      match twoDigits [h1, h2], twoDigits [m1, m2] with
      | some (h, _), some (m, _) => h ≤ 24 && m ≤ 60
      | _, _ => false
  | _ => false

/-- Whether a datetime text, with the separators already made uppercase, is valid. -/
def isDatetime (cs : List Char) : Bool :=
  match dateAhead cs with
  | some [] => true
  | some ('T' :: rest) =>
    match timeAhead rest with
    | some [] => true
    | some zone => isZone zone
    | none => false
  | some _ => false
  | none => timeAhead cs == some []

/-- A datetime token with a space or `t` read as `T` and `z` as `Z`. -/
def datetimeText (s : String) : String :=
  String.ofList (s.toList.map fun c =>
    if c == ' ' || c == 't' then 'T' else if c == 'z' then 'Z' else c)

/-- A datetime token's text, or the message of its failure. -/
def readDatetime (s : String) : Except String String :=
  let text := datetimeText s
  if isDatetime text.toList then .ok text else .error ("invalid datetime: " ++ Text.quote text)

example : hasLeadingZero "007" = true ∧ hasLeadingZero "0x7" = false := by decide
example : pointsFollowed "1.e5".toList = false := by decide
example : isDatetime "1979-05-27T07:32:00Z".toList = true := by decide
example : isDatetime "2023-02-29".toList = false := by decide

end RubyLayout.Toml
