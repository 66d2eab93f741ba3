import RubyLayout.Text.Blank
import RubyLayout.Text.Quoted

/-!
# Interpreter versions

A version is a pair of machine integers `major.minor`. It is written `3.4`, its build tag is
`ruby_3_4`, and versions are ordered lexicographically.

`Version.parse` reads the written form. Blank characters around the text are dropped, and a
pre-release or build suffix starting at the first `-` or `+` is cut off. What remains must be
two or three dot-separated runs of ASCII digits, each of value at most `2^63 - 1`; a third
part, the patch level, is checked and dropped. Anything else is refused with the cut text.

Main statements: `lt_irrefl`, `lt_trans` and `lt_or_eq_or_gt` make `Version.lt` a strict total
order.
-/

set_option autoImplicit false

namespace RubyLayout

/-- An interpreter version `major.minor`. -/
structure Version where
  /-- The major number. -/
  major : Int
  /-- The minor number. -/
  minor : Int
deriving DecidableEq, Repr, Inhabited

namespace Version

/-- The written form, `major.minor` in decimal. -/
def text (v : Version) : String := toString v.major ++ "." ++ toString v.minor

/-- The build tag naming the version, `ruby_major_minor`. -/
def tag (v : Version) : String := "ruby_" ++ toString v.major ++ "_" ++ toString v.minor

/-- Lexicographic order: the major numbers decide unless they are equal. -/
def lt (a b : Version) : Prop := a.major < b.major ∨ (a.major = b.major ∧ a.minor < b.minor)

instance (a b : Version) : Decidable (lt a b) := by unfold lt; infer_instance

theorem lt_irrefl (a : Version) : ¬ lt a a := by
  simp [lt]

theorem lt_trans {a b c : Version} (hab : lt a b) (hbc : lt b c) : lt a c := by
  simp only [lt] at *
  omega

theorem lt_or_eq_or_gt (a b : Version) : lt a b ∨ a = b ∨ lt b a := by
  cases a; cases b
  simp only [lt, mk.injEq]
  omega

/-! ### Reading the written form -/

/-- Why a text is not a version: it carries the text after trimming and cutting. -/
inductive ParseError where
  | invalid (text : String)
deriving DecidableEq, Repr

/-- The message of a parse error. -/
def ParseError.message : ParseError → String
  | .invalid t => "invalid ruby version " ++ Text.quote t

/-- The largest value a version number may have. -/
def numberLimit : Nat := Nat.pow 2 63 - 1

/-- The value of a run of ASCII digits, or nothing for an empty run, another character, or a
value above `numberLimit`. -/
def readNumber (cs : List Char) : Option Nat :=
  if cs.isEmpty || !cs.all Char.isDigit then none
  else
    let n := cs.foldl (fun acc c => acc * 10 + (c.toNat - 48)) 0
    if n ≤ numberLimit then some n else none

/-- The text before the first `-` or `+`. -/
def cutSuffix (s : String) : String :=
  String.ofList (s.toList.takeWhile fun c => c != '-' && c != '+')

/-- Reads `major.minor` or `major.minor.patch` after trimming blanks and cutting a suffix. -/
def parse (s : String) : Except ParseError Version :=
  let t := cutSuffix (Text.trimBlank s)
  let parts := t.toList.splitOn '.'
  let numbers := parts.map readNumber
  match numbers with
  | [some a, some b] => .ok ⟨a, b⟩
  | [some a, some b, some _] => .ok ⟨a, b⟩
  | _ => .error (.invalid t)


end Version

end RubyLayout
