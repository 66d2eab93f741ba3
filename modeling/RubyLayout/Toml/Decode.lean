import RubyLayout.Toml.Document
import RubyLayout.Binary64.Round

/-!
# Decoding documents into records

A record is decoded from a table field by field: each entry of the table goes to the field of
the same name, or else to a field whose name equals it up to letter case, and entries that name
no field are left alone. Every key that reaches a field is marked as decoded; the keys of the
document that no field reached are the *undecoded* ones, in the order of the document.

Scalars decode into fields of their own kind; an integer also decodes into a float field when
binary64 holds it exactly (at most 2^53 - 1 in magnitude). A list field takes an array or an
array of tables, decoding each element.

A failure names the key being decoded, and is reported on the line of that key's last
definition.
-/

set_option autoImplicit false

namespace RubyLayout.Toml

/-- Why a value did not decode. -/
inductive DecodeError where
  /-- A value of the kind named first went to a field of the kind named second. -/
  | mismatch (found target : String)
  /-- A value that is not a table went to a record. -/
  | notTable (record found : String)
  /-- An integer too large for a float field to hold exactly. -/
  | unsafeFloat (i : Int)

/-- A decoding failure: the key being decoded and the cause. -/
structure DecodeFailure where
  key : Key
  error : DecodeError

namespace DecodeFailure

/-- The text of a failure, given the lines of the document's keys. -/
def text (info : List (String × KeyInfo)) (f : DecodeFailure) : String :=
  let line := ((info.lookup (keyText f.key)).map (·.line)).getD 0
  let quoted := Text.quote (keyText f.key)
  match f.error with
  | .unsafeFloat i =>
    let at_ := if f.key.isEmpty then "toml: line " ++ toString line ++ ": "
      else "toml: line " ++ toString line ++ " (last key " ++ quoted ++ "): "
    at_ ++ toString i ++ " is out of the safe float64 range"
  | e =>
    let at_ := if line > 0 then "toml: line " ++ toString line ++ " (last key " ++ quoted ++ "): "
      else if !f.key.isEmpty then "toml: (last key " ++ quoted ++ "): "
      else "toml: "
    let message := match e with
      | .mismatch found target =>
        "incompatible types: TOML value has type " ++ found ++ "; destination has type " ++ target
      | .notTable record found =>
        "type mismatch for " ++ record ++ ": expected table but found " ++ found
      | .unsafeFloat _ => ""
    at_ ++ message

end DecodeFailure

/-- The state of decoding: the key being decoded and the keys marked as decoded. -/
structure Decoding where
  context : Key := []
  decoded : List String := []

/-- Decoding. -/
abbrev DecodeM := ExceptT DecodeFailure (StateM Decoding)

namespace Decode

/-- Fails at the key being decoded. -/
def fail {α : Type} (e : DecodeError) : DecodeM α := do throw ⟨(← get).context, e⟩

/-- A string. -/
def string : Value → DecodeM String
  | .string s => pure s
  | v => fail (.mismatch v.typeName "string")

/-- A 64-bit integer. -/
def integer : Value → DecodeM Int
  | .integer i => pure i
  | v => fail (.mismatch v.typeName "integer")

/-- A boolean. -/
def boolean : Value → DecodeM Bool
  | .bool b => pure b
  | v => fail (.mismatch v.typeName "boolean")

/-- The largest integer magnitude binary64 holds exactly together with all below it. -/
def safeFloatInteger : Nat := Nat.pow 2 53 - 1

/-- A float's bit pattern; an integer is taken exactly. -/
def float : Value → DecodeM UInt64
  | .float bits => pure bits
  | .integer i =>
    if i.natAbs > safeFloatInteger then fail (.unsafeFloat i)
    else if i = 0 then pure 0
    else pure (Binary64.ofRatio (i < 0) i.natAbs 1)
  | v => fail (.mismatch v.typeName "float")

/-- A list of elements, each decoded by `element`. -/
def list {α : Type} (element : Value → DecodeM α) : Value → DecodeM (List α)
  | .array items => items.mapM element
  | .tables items => items.mapM fun t => element (.table t)
  | v => fail (.mismatch v.typeName "slice")

/-- Letters folded to one case, including the two letters outside ASCII that fold into it
(the Kelvin sign and the long s). -/
def foldChar (c : Char) : Char :=
  if c.toNat == 0x212a then 'k' else if c.toNat == 0x17f then 's' else c.toLower

/-- Whether two names are equal up to letter case. -/
def equalFold (a b : String) : Bool := a.toList.map foldChar == b.toList.map foldChar

/-- A field of a record of type `α`: its name and how a value updates the record. -/
structure Field (α : Type) where
  name : String
  update : α → Value → DecodeM α

/-- The field an entry goes to: the one of the same name, else one equal up to case. -/
def fieldFor? {α : Type} (fields : List (Field α)) (key : String) : Option (Field α) :=
  match fields.find? (·.name == key) with
  | some f => some f
  | none => fields.find? fun f => equalFold f.name key

/-- Decodes the entry `key` with `f`, marking it as decoded. -/
def entry {α : Type} (key : String) (f : DecodeM α) : DecodeM α := do
  let c := (← get).context
  let k := c ++ [key]
  modify fun d => { d with context := k, decoded := keyText k :: d.decoded }
  let a ← f
  modify fun d => { d with context := c }
  pure a

/-- A record named `record`, starting from `init`, from a table's entries in order. -/
def record {α : Type} (record : String) (init : α) (fields : List (Field α)) :
    Value → DecodeM α
  | .table entries =>
    entries.foldlM (fun acc (key, v) =>
      match fieldFor? fields key with
      | some f => entry key (f.update acc v)
      | none => pure acc) init
  | v => fail (.notTable record v.typeName)

end Decode

/-- The outcome of decoding a document: the value, or the failure's text; and the undecoded
keys, in document order. -/
def Document.decode {α : Type} (doc : Document) (d : Value → DecodeM α) :
    Except String (α × List Key) :=
  match (d (.table doc.root)).run {} with
  | (.ok a, s) => .ok (a, doc.keys.toList.filter fun k => !s.decoded.contains (keyText k))
  | (.error e, _) => .error (e.text doc.info)

end RubyLayout.Toml
