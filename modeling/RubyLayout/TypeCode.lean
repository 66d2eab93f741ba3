import RubyLayout.Text.Quoted

/-!
# Type codes

Every heap object carries a type code in the low bits of its header word, and the immediate
values are given codes of their own. A code is a 32-bit number; the named codes are written
`T_STRING` and so on, every other one `T_UNKNOWN(0x..)` with at least two lowercase hex digits.

Main statement: `ofName?_name`, the name of every named code reads back as that code.
-/

set_option autoImplicit false

namespace RubyLayout

/-- A type code, a 32-bit number. -/
structure TypeCode where
  /-- The number of the code. -/
  code : UInt32
deriving DecidableEq, Repr, Inhabited

namespace TypeCode

/-- `T_NONE`, the code of a word that is not an object. -/
def none : TypeCode := ⟨0x00⟩
/-- `T_OBJECT`. -/
def object : TypeCode := ⟨0x01⟩
/-- `T_CLASS`. -/
def «class» : TypeCode := ⟨0x02⟩
/-- `T_MODULE`. -/
def «module» : TypeCode := ⟨0x03⟩
/-- `T_FLOAT`. -/
def float : TypeCode := ⟨0x04⟩
/-- `T_STRING`. -/
def string : TypeCode := ⟨0x05⟩
/-- `T_REGEXP`. -/
def regexp : TypeCode := ⟨0x06⟩
/-- `T_ARRAY`. -/
def array : TypeCode := ⟨0x07⟩
/-- `T_HASH`. -/
def hash : TypeCode := ⟨0x08⟩
/-- `T_STRUCT`. -/
def struct : TypeCode := ⟨0x09⟩
/-- `T_BIGNUM`. -/
def bignum : TypeCode := ⟨0x0a⟩
/-- `T_FILE`. -/
def file : TypeCode := ⟨0x0b⟩
/-- `T_DATA`. -/
def data : TypeCode := ⟨0x0c⟩
/-- `T_MATCH`. -/
def «match» : TypeCode := ⟨0x0d⟩
/-- `T_COMPLEX`. -/
def complex : TypeCode := ⟨0x0e⟩
/-- `T_RATIONAL`. -/
def rational : TypeCode := ⟨0x0f⟩
/-- `T_NIL`. -/
def nil : TypeCode := ⟨0x11⟩
/-- `T_TRUE`. -/
def «true» : TypeCode := ⟨0x12⟩
/-- `T_FALSE`. -/
def «false» : TypeCode := ⟨0x13⟩
/-- `T_SYMBOL`. -/
def symbol : TypeCode := ⟨0x14⟩
/-- `T_FIXNUM`. -/
def fixnum : TypeCode := ⟨0x15⟩
/-- `T_UNDEF`. -/
def undef : TypeCode := ⟨0x16⟩
/-- `T_IMEMO`. -/
def imemo : TypeCode := ⟨0x1a⟩
/-- `T_NODE`. -/
def node : TypeCode := ⟨0x1b⟩
/-- `T_ICLASS`. -/
def iclass : TypeCode := ⟨0x1c⟩
/-- `T_ZOMBIE`. -/
def zombie : TypeCode := ⟨0x1d⟩
/-- `T_MOVED`. -/
def moved : TypeCode := ⟨0x1e⟩

/-- The named codes with their names, in code order. -/
def named : List (TypeCode × String) :=
  [(none, "T_NONE"), (object, "T_OBJECT"), (TypeCode.class, "T_CLASS"),
   (TypeCode.module, "T_MODULE"), (float, "T_FLOAT"), (string, "T_STRING"),
   (regexp, "T_REGEXP"), (array, "T_ARRAY"), (hash, "T_HASH"), (struct, "T_STRUCT"),
   (bignum, "T_BIGNUM"), (file, "T_FILE"), (data, "T_DATA"), (TypeCode.match, "T_MATCH"),
   (complex, "T_COMPLEX"), (rational, "T_RATIONAL"), (nil, "T_NIL"),
   (TypeCode.true, "T_TRUE"), (TypeCode.false, "T_FALSE"), (symbol, "T_SYMBOL"),
   (fixnum, "T_FIXNUM"), (undef, "T_UNDEF"), (imemo, "T_IMEMO"), (node, "T_NODE"),
   (iclass, "T_ICLASS"), (zombie, "T_ZOMBIE"), (moved, "T_MOVED")]

/-- The hexadecimal digits of a number, at least two of them. -/
def hexAtLeastTwo (n : Nat) : String :=
  let ds := Nat.toDigits 16 n
  String.ofList (if ds.length < 2 then List.replicate (2 - ds.length) '0' ++ ds else ds)

/-- The name of a code: its `T_` name, or `T_UNKNOWN(0x..)`. -/
def name (t : TypeCode) : String :=
  match named.find? (fun p => p.1 == t) with
  | some p => p.2
  | Option.none => "T_UNKNOWN(0x" ++ hexAtLeastTwo t.code.toNat ++ ")"

/-- The code with a given `T_` name. -/
def ofName? (s : String) : Option TypeCode :=
  (named.find? (fun p => p.2 == s)).map Prod.fst

/-- The types an object on the heap can have, in code order. -/
def heapTypes : List TypeCode :=
  [object, TypeCode.class, TypeCode.module, float, string, regexp, array, hash, struct,
   bignum, file, data, TypeCode.match, complex, rational, symbol, imemo, node, iclass,
   zombie, moved]

theorem ofName?_name (t : TypeCode) (h : t ∈ named.map Prod.fst) : ofName? (name t) = some t := by
  simp only [List.mem_map] at h
  obtain ⟨⟨c, s⟩, hp, rfl⟩ := h
  simp only [named, List.mem_cons, Prod.mk.injEq, List.mem_nil_iff, or_false] at hp
  rcases hp with ⟨rfl, rfl⟩ | ⟨rfl, rfl⟩ | ⟨rfl, rfl⟩ | ⟨rfl, rfl⟩ | ⟨rfl, rfl⟩ | ⟨rfl, rfl⟩ |
    ⟨rfl, rfl⟩ | ⟨rfl, rfl⟩ | ⟨rfl, rfl⟩ | ⟨rfl, rfl⟩ | ⟨rfl, rfl⟩ | ⟨rfl, rfl⟩ | ⟨rfl, rfl⟩ |
    ⟨rfl, rfl⟩ | ⟨rfl, rfl⟩ | ⟨rfl, rfl⟩ | ⟨rfl, rfl⟩ | ⟨rfl, rfl⟩ | ⟨rfl, rfl⟩ | ⟨rfl, rfl⟩ |
    ⟨rfl, rfl⟩ | ⟨rfl, rfl⟩ | ⟨rfl, rfl⟩ | ⟨rfl, rfl⟩ | ⟨rfl, rfl⟩ | ⟨rfl, rfl⟩ | ⟨rfl, rfl⟩ <;>
    decide

end TypeCode

end RubyLayout
