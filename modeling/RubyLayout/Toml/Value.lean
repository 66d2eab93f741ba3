import RubyLayout.Text.Quoted

/-!
# TOML values

A TOML document is a table: names bound to values. Values are strings, 64-bit integers,
binary64 floats (kept as their bit patterns), booleans, datetimes (kept as their text), arrays,
tables, and arrays of tables (which `[[name]]` headers build, one table per header).

A key is the list of names leading to a value. Its text joins the names with dots, each name
bare when it is a non-empty run of ASCII letters, digits, `_` and `-`, and otherwise quoted
with `"` and the TOML escapes.

Tables keep their entries in the order they were first bound.
-/

set_option autoImplicit false

namespace RubyLayout.Toml

/-- A TOML value. -/
inductive Value where
  | string (s : String)
  | integer (i : Int)
  | float (bits : UInt64)
  | bool (b : Bool)
  | datetime (text : String)
  | array (items : List Value)
  | table (entries : List (String × Value))
  | tables (items : List (List (String × Value)))
deriving Inhabited

/-- The entries of a table. -/
abbrev Table := List (String × Value)

/-- The names leading to a value. -/
abbrev Key := List String

namespace Value

/-- The name of a value's kind as it appears in type mismatch messages. -/
def typeName : Value → String
  | .string _ => "string"
  | .integer _ => "int64"
  | .float _ => "float64"
  | .bool _ => "bool"
  | .datetime _ => "time.Time"
  | .array _ => "[]any"
  | .table _ => "map[string]any"
  | .tables _ => "[]map[string]any"

end Value

namespace Table

/-- The value bound to a name. -/
def get? (t : Table) (k : String) : Option Value := (t.lookup k)

/-- Binds a name, in place when it is bound already and at the end otherwise. -/
def set (t : Table) (k : String) (v : Value) : Table :=
  if t.any (·.1 == k) then t.map fun e => if e.1 == k then (k, v) else e
  else t ++ [(k, v)]

end Table

/-- A name needs no quotes when it is a non-empty run of ASCII letters, digits, `_` and `-`. -/
def isBareName (s : String) : Bool :=
  !s.isEmpty && s.all fun c => c.isAlphanum || c == '_' || c == '-'

/-- A character inside a quoted name: the TOML escapes for quotes, backslashes and control
characters. -/
def escapeNameChar (c : Char) : List Char :=
  match c with
  | '"' => ['\\', '"']
  | '\\' => ['\\', '\\']
  | '\x08' => ['\\', 'b']
  | '\t' => ['\\', 't']
  | '\n' => ['\\', 'n']
  | '\x0c' => ['\\', 'f']
  | '\r' => ['\\', 'r']
  | c =>
    if c.toNat < 0x20 || c.toNat == 0x7f then ['\\', 'u'] ++ Text.hexDigits 4 c.toNat
    else [c]

/-- A name as it is written in a key. -/
def nameText (s : String) : String :=
  if isBareName s then s
  else "\"" ++ String.ofList (s.toList.flatMap escapeNameChar) ++ "\""

/-- The text of a key: its names joined with dots. -/
def keyText (k : Key) : String := ".".intercalate (k.map nameText)

example : keyText ["case", "name"] = "case.name" := by cbv
example : keyText ["a b", ""] = "\"a b\".\"\"" := by cbv

end RubyLayout.Toml
