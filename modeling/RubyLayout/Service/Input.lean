import RubyLayout.Service.Doc
import RubyLayout.Binary64.Read
import RubyLayout.Api.Basic
import RubyLayout.TypeCode
import RubyLayout.Value.Word
import RubyLayout.Text.Blank
import RubyLayout.Text.Numeral

/-!
# Reading requests

The fields of a request carry words, signed and unsigned machine integers, integers of any
size, floats, type codes, versions and tiers. A field that does not read as its kind makes the
request malformed, with a message naming the field.

Numeric fields are given as a JSON number or as a string. A number is read from its literal
text, and a string from its text without surrounding blanks. A field that is neither, or is
missing where it is needed, is refused as not a number or a numeric string.

* A word is `0x` and hexadecimal digits below 2^64, a decimal below 2^64, or a negative decimal
  within 64 bits taken modulo 2^64. Leading zeros are decimal, and there are no other base
  prefixes or digit separators.
* A signed integer is a decimal with an optional sign within 64 bits. It may also be `0x` and
  hexadecimal digits below 2^64, possibly after a minus, read as a word's signed value. A
  number written with a fraction or an exponent is not an integer.
* An unsigned integer is read like a word.
* An integer of any size is a numeral (`Text.signedNumeral?`), base prefixes and separators
  included.
* A type code is a word below 2^32, or a type name.
* A float is a JSON number, or a string taken as it stands: `bits:` and the word of its pattern,
  or a decimal or hexadecimal number text, `inf`, `nan` and their variants.
-/

set_option autoImplicit false

namespace RubyLayout.Service

/-- The outcome of reading a request: the value, or the message of a malformed request. -/
abbrev Decode := Except String

/-- The field name as requests quote it in messages. -/
def fieldName (k : String) : String := "field " ++ Text.quote k

/-- The value of a hexadecimal digit. -/
def hexDigitValue (c : Char) : Option Nat :=
  if '0' ≤ c ∧ c ≤ '9' then some (c.toNat - '0'.toNat)
  else if 'a' ≤ c ∧ c ≤ 'f' then some (c.toNat - 'a'.toNat + 10)
  else if 'A' ≤ c ∧ c ≤ 'F' then some (c.toNat - 'A'.toNat + 10)
  else none

/-- The text a numeric member is read from: a number's literal, or a string without the blanks
around it. -/
def Doc.numText? : Doc → Option String
  | .num t => some t
  | .str s => some (Text.trimBlank s)
  | _ => none

/-- A number below 2^64 as a word. -/
def wordBelow? (n : Nat) : Option UInt64 := if n < UInt64.size then some n.toUInt64 else none

/-- The word a text denotes: `0x` and hexadecimal digits, a negative decimal within 64 bits
(taken modulo 2^64), or an unsigned decimal. -/
def wordOfText? (t : String) : Option UInt64 :=
  match t.toList with
  | '0' :: 'x' :: ds => (Text.hexDigits? ds).bind wordBelow?
  | cs@('-' :: _) =>
    (Text.signedDecimal? cs).bind fun i => if longMin ≤ i then some (Word.ofInt i) else none
  | cs => (Text.decimalDigits? cs).bind wordBelow?

/-- The signed machine integer a text denotes: a decimal with an optional sign within 64 bits,
or `0x` and hexadecimal digits after an optional minus, read as the signed value of the word
they spell (negated modulo 2^64 after the minus). -/
def longOfText? (t : String) : Option Int :=
  let hex (ds : List Char) (negative : Bool) : Option Int :=
    (Text.hexDigits? ds).bind fun n =>
      (wordBelow? n).map fun w => Word.signed (if negative then 0 - w else w)
  match t.toList with
  | '0' :: 'x' :: ds => hex ds false
  | '-' :: '0' :: 'x' :: ds => hex ds true
  | cs =>
    (Text.signedDecimal? cs).bind fun i => if longMin ≤ i ∧ i ≤ longMax then some i else none

/-- A number field: the text it is read from, or the error for a field that is neither a
number nor a string. -/
def numField (d : Doc) (k : String) : Decode String :=
  match (d.get? k).bind Doc.numText? with
  | some t => .ok t
  | none => .error (fieldName k ++ " must be a number or a numeric string")

/-- A word field. -/
def wordField (d : Doc) (k : String) : Decode UInt64 := do
  let t ← numField d k
  (wordOfText? t).elim (.error (fieldName k ++ " is not a word")) .ok

/-- A signed machine integer field. -/
def longField (d : Doc) (k : String) : Decode Int := do
  let t ← numField d k
  (longOfText? t).elim (.error (fieldName k ++ " is not a 64-bit signed integer")) .ok

/-- An unsigned machine integer field, read like a word. -/
def ulongField (d : Doc) (k : String) : Decode UInt64 := do
  let t ← numField d k
  (wordOfText? t).elim (.error (fieldName k ++ " is not a 64-bit integer")) .ok

/-- An integer field of machine size, read like a signed machine integer. -/
def intField (d : Doc) (k : String) : Decode Int := do
  let t ← numField d k
  (longOfText? t).elim (.error (fieldName k ++ " is not an integer")) .ok

/-- An optional integer field with a default for when it is absent. -/
def intFieldOr (d : Doc) (k : String) (dflt : Int) : Decode Int :=
  match d.get? k with
  | none => .ok dflt
  | _ => intField d k

/-- An integer field of any size. -/
def bigIntegerField (d : Doc) (k : String) : Decode Int := do
  let t ← numField d k
  (Text.signedNumeral? t).elim (.error (fieldName k ++ " is not an integer")) .ok

/-- A text field. -/
def stringField (d : Doc) (k : String) : Decode String :=
  match d.get? k with
  | some (.str s) => .ok s
  | _ => .error (fieldName k ++ " must be a string")

/-- An optional text field, empty when absent. -/
def stringFieldOr (d : Doc) (k : String) : Decode String :=
  match d.get? k with
  | none | some .null => .ok ""
  | _ => stringField d k

/-- The pattern a float text denotes: `bits:` and the word of the pattern, or a number. The
error names what did not read. -/
def readFloat (s : String) : Decode UInt64 :=
  match s.toList with
  | 'b' :: 'i' :: 't' :: 's' :: ':' :: rest =>
    (wordOfText? (Text.trimBlank (String.ofList rest))).elim
      (.error ("bad float bits " ++ Text.quote s)) .ok
  | _ => (Binary64.read? s).elim (.error ("bad float " ++ Text.quote s)) .ok

/-- A float field: a number, or a string as it stands. -/
def floatField (d : Doc) (k : String) : Decode UInt64 :=
  match d.get? k with
  | some (.num t) | some (.str t) => readFloat t
  | _ => .error (fieldName k ++ " must be a number or a numeric string")

/-- A type code field: a word below 2^32 or a type name. -/
def typeField (d : Doc) (k : String) : Decode TypeCode :=
  let notType : Decode TypeCode := .error (fieldName k ++ " is not a type code")
  match (d.get? k).bind Doc.numText? with
  | some t =>
    if t.startsWith "T_" then
      match TypeCode.ofName? t with
      | some c => .ok c
      | none => .error ("unknown type name " ++ Text.quote t)
    else
      match wordOfText? t with
      | some w => if w.toNat < UInt32.size then .ok ⟨w.toUInt32⟩ else notType
      | none => notType
  | none => notType

/-- How accessors are used, from the field `k`: unchecked when absent; a present field must be
one of the two tier names. -/
def tierAt (d : Doc) (k : String) : Decode Tier :=
  match d.get? k with
  | none => .ok .unchecked
  | some (.str "unchecked") => .ok .unchecked
  | some (.str "checked") => .ok .checked
  | some (.str _) => .error "unknown tier"
  | some _ => .error (fieldName k ++ " must be a string")

end RubyLayout.Service
