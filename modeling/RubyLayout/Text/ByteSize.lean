/-!
# Sizes in binary units

A byte count is written in the largest binary unit (B, KiB, MiB, GiB, TiB, PiB, EiB) it
reaches. Counts below ten are written `n B`. Otherwise the count is divided by the unit and
rounded half up to one decimal; a result below ten keeps the decimal (`2.0 KiB`), a larger one
is written as a whole number, a tenth of exactly one half going to the even neighbour
(`360 B`, `640 B`).

Main statement: `text_small`, counts below ten are written as themselves.
-/

set_option autoImplicit false

namespace RubyLayout.ByteSize

/-- The binary units, smallest first. -/
def units : List String := ["B", "KiB", "MiB", "GiB", "TiB", "PiB", "EiB"]

/-- The largest unit exponent `e ≤ 6` with `1024^e ≤ n`. -/
def exponent (n : Nat) : Nat :=
  ((List.range 7).filter fun e => Nat.pow 1024 e ≤ n).getLast?.getD 0

/-- The count in tenths of its unit, rounded half up. -/
def tenths (n e : Nat) : Nat := (20 * n + Nat.pow 1024 e) / (2 * Nat.pow 1024 e)

/-- Rounds a number of tenths to a whole number, a half going to the even neighbour. -/
def roundTenths (q : Nat) : Nat :=
  let whole := q / 10
  let d := q % 10
  if d > 5 then whole + 1 else if d < 5 then whole else if whole % 2 = 0 then whole else whole + 1

/-- The written form of a byte count. -/
def text (n : Nat) : String :=
  if n < 10 then toString n ++ " B"
  else
    let e := exponent n
    let q := tenths n e
    let unit := units.getD e "EiB"
    if q < 100 then toString (q / 10) ++ "." ++ toString (q % 10) ++ " " ++ unit
    else toString (roundTenths q) ++ " " ++ unit

theorem text_small (n : Nat) (h : n < 10) : text n = toString n ++ " B" := by
  simp [text, h]

example : text 2000 = "2.0 KiB" := by decide
example : text 360 = "360 B" := by decide
example : text 4194304 = "4.0 MiB" := by decide

end RubyLayout.ByteSize
