import RubyLayout.Value.Word
import RubyLayout.Text.Quoted

/-!
# Corpus cases

A corpus lists the values that every layout must decode alike. A case names one value: its
kind, and what fixes it (a text, an integer, a float, a length, or a *bound* plus an offset).

The kinds are the special constants (`nil`, `true`, `false`, `undef`), fixnums and bignums,
floats, strings, arrays, static and dynamic symbols, hashes, plain objects, untyped data and
typed data. A case may also ask for its value to be frozen, interned, or built with its payload
out of line.

An integer is the case's text read as a decimal integer, or else its bound (the largest or
smallest fixnum or C long) or its integer, plus the offset. The length of a container is the
embedding capacity plus the offset (wrapping in 64 bits) when bound to the capacity, the byte
length of a string's text, or the case's length.

A corpus is valid when every case has a name, no two share one, and each kind's fields make
sense; the first case that breaks a rule gives the error.
-/

set_option autoImplicit false

namespace RubyLayout.Conformance

/-- The kinds of values a case can build. -/
inductive Kind where
  | special | fixnum | bignum | float | string | array | symbol | dynamicSymbol | hash | object
  | data | typedData
deriving DecidableEq, Repr

namespace Kind

/-- All kinds with their names in a corpus. -/
def names : List (Kind × String) :=
  [(.special, "special"), (.fixnum, "fixnum"), (.bignum, "bignum"), (.float, "float"),
   (.string, "string"), (.array, "array"), (.symbol, "symbol"), (.dynamicSymbol, "dsymbol"),
   (.hash, "hash"), (.object, "object"), (.data, "data"), (.typedData, "typeddata")]

/-- The kind a corpus name stands for. -/
def ofName? (s : String) : Option Kind := (names.find? (·.2 == s)).map (·.1)

end Kind

/-- The bounds a case can be given relative to. -/
inductive Bound where
  | capacity | fixnumMax | fixnumMin | longMax | longMin
deriving DecidableEq, Repr

namespace Bound

/-- The bound a corpus name stands for. -/
def ofName? : String → Option Bound
  | "capacity" => some .capacity
  | "fixnum-max" => some .fixnumMax
  | "fixnum-min" => some .fixnumMin
  | "long-max" => some .longMax
  | "long-min" => some .longMin
  | _ => none

/-- The integer an integer bound stands for. -/
def integer? : Bound → Option Int
  | .fixnumMax => some RubyLayout.fixnumMax
  | .fixnumMin => some RubyLayout.fixnumMin
  | .longMax => some RubyLayout.longMax
  | .longMin => some RubyLayout.longMin
  | .capacity => none

end Bound

/-- A case of a corpus, with its fields as the corpus gives them. -/
structure Case where
  name : String := ""
  kind : String := ""
  text : String := ""
  int : Int := 0
  float : UInt64 := 0
  length : Int := 0
  bound : String := ""
  offset : Int := 0
  heap : Bool := false
  frozen : Bool := false
  interned : Bool := false
deriving Repr, Inhabited

/-- The names of the special constants a case may build. -/
def specialNames : List String := ["nil", "true", "false", "undef"]

/-- A decimal integer: an optional sign and at least one decimal digit. -/
def readDecimal (s : String) : Option Int :=
  let digits (cs : List Char) : Option Nat :=
    if !cs.isEmpty && cs.all Char.isDigit then
      some (cs.foldl (fun n c => 10 * n + (c.toNat - 48)) 0)
    else none
  match s.toList with
  | '-' :: cs => (digits cs).map fun n => -(n : Int)
  | '+' :: cs => (digits cs).map Int.ofNat
  | cs => (digits cs).map Int.ofNat

namespace Case

/-- The integer a case stands for; `none` when its text is not a decimal integer. -/
def integer? (c : Case) : Option Int :=
  if !c.text.isEmpty then readDecimal c.text
  else
    let base := ((Bound.ofName? c.bound).bind Bound.integer?).getD c.int
    some (base + c.offset)

/-- The length of a container, given the layout's embedding capacity. -/
def lengthFor (c : Case) (capacity : UInt64) : Int :=
  if c.bound == "capacity" then Word.signed (capacity + Word.ofInt c.offset)
  else if !c.text.isEmpty && c.kind == "string" then c.text.utf8ByteSize
  else c.length

end Case

/-- Why a corpus is not valid. -/
inductive CaseError where
  | noName (index : Nat)
  | duplicate (name : String)
  | unknownSpecial (name text : String)
  | integerBound (name bound : String)
  | notDecimal (name text : String)
  | containerBound (name bound : String)
  | negativeLength (name : String)
  | symbolNeedsText (name : String)
  | unknownKind (name kind : String)
  | unknownKeys (keys : List String)
deriving DecidableEq, Repr

namespace CaseError

/-- The text of a validation error. -/
def message : CaseError → String
  | .noName i => "case " ++ toString i ++ " has no name"
  | .duplicate n => "duplicate case " ++ Text.quote n
  | .unknownSpecial n t => n ++ ": unknown special constant " ++ Text.quote t
  | .integerBound n b => n ++ ": bound " ++ Text.quote b ++ " does not apply to integers"
  | .notDecimal n t => n ++ ": " ++ Text.quote t ++ " is not a decimal integer"
  | .containerBound n b => n ++ ": bound " ++ Text.quote b ++ " does not apply to containers"
  | .negativeLength n => n ++ ": negative length"
  | .symbolNeedsText n => n ++ ": symbol needs text"
  | .unknownKind n k => n ++ ": unknown kind " ++ Text.quote k
  | .unknownKeys ks => "unknown keys " ++ ", ".intercalate ks

/-- The text of a validation error as answered: it names the invalid case first. -/
def text (e : CaseError) : String := "invalid corpus case: " ++ e.message

end CaseError

/-- The fields of one case that its kind requires to make sense. -/
def Case.check (c : Case) : Except CaseError Unit :=
  match Kind.ofName? c.kind with
  | some .special =>
    if specialNames.contains c.text then .ok () else .error (.unknownSpecial c.name c.text)
  | some .fixnum | some .bignum =>
    if !(c.bound.isEmpty || ((Bound.ofName? c.bound).bind Bound.integer?).isSome) then
      .error (.integerBound c.name c.bound)
    else if !c.text.isEmpty && (readDecimal c.text).isNone then .error (.notDecimal c.name c.text)
    else .ok ()
  | some .string | some .array =>
    if !(c.bound.isEmpty || c.bound == "capacity") then .error (.containerBound c.name c.bound)
    else if c.length < 0 then .error (.negativeLength c.name)
    else .ok ()
  | some .symbol | some .dynamicSymbol =>
    if c.text.isEmpty then .error (.symbolNeedsText c.name) else .ok ()
  | some _ => .ok ()
  | none => .error (.unknownKind c.name c.kind)

/-- Checks the cases in order, `seen` holding the names before them. -/
def checkCases : Nat → List String → List Case → Except CaseError Unit
  | _, _, [] => .ok ()
  | i, seen, c :: rest =>
    if c.name.isEmpty then .error (.noName i)
    else if seen.contains c.name then .error (.duplicate c.name)
    else do
      c.check
      checkCases (i + 1) (c.name :: seen) rest

/-- A corpus: its cases in order. -/
structure Corpus where
  cases : List Case
deriving Repr, Inhabited

/-- Checks that a corpus is valid. -/
def Corpus.validate (c : Corpus) : Except CaseError Unit := checkCases 0 [] c.cases

end RubyLayout.Conformance
