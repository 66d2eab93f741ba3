import RubyLayout.Value.Word

/-!
# Symbol tables

A symbol table gives every name it is asked for a serial number, in the order the names are
first seen, starting at 256 (the serials below are kept for operator tokens). The identifier of
serial `s` is `s * 16 + 1`: the low four bits hold the scope, and every identifier here is a
static local. The table also remembers which heap object is the dynamic symbol of which
identifier.

Main statement: `intern_intern`, asking twice for a name changes nothing the second time and
gives the same identifier.
-/

set_option autoImplicit false

namespace RubyLayout

/-- The symbol table: names by serial number, and the identifiers of dynamic symbols. -/
structure SymbolTable where
  /-- The name of serial number `firstSerial + i` is `names[i]`. -/
  names : List String
  /-- The identifier of each dynamic symbol object, the latest binding first. -/
  dynamic : List (Value × SymbolId)
deriving Inhabited

namespace SymbolTable

/-- The first serial number handed out. -/
def firstSerial : Nat := 256

/-- The identifier of the name with table index `i`. -/
def idOfIndex (i : Nat) : SymbolId := ((firstSerial + i) * 16 + 1).toUInt64

/-- The table index of a name already in the table. -/
def indexOf? (t : SymbolTable) (name : String) : Option Nat := t.names.idxOf? name

/-- The identifier of `name`, adding the name when it is new. -/
def intern (t : SymbolTable) (name : String) : SymbolTable × SymbolId :=
  match t.indexOf? name with
  | some i => (t, idOfIndex i)
  | none => ({ t with names := t.names ++ [name] }, idOfIndex t.names.length)

/-- The name an identifier stands for, if the table handed it out. -/
def name? (t : SymbolTable) (id : SymbolId) : Option String :=
  let n := id.toNat
  if n % 16 = 1 ∧ firstSerial ≤ n / 16 then t.names[n / 16 - firstSerial]? else none

/-- Records that the heap object `v` is the dynamic symbol of `id`. -/
def bindDynamic (t : SymbolTable) (v : Value) (id : SymbolId) : SymbolTable :=
  { t with dynamic := (v, id) :: t.dynamic }

/-- The identifier of a dynamic symbol object. -/
def dynamicId? (t : SymbolTable) (v : Value) : Option SymbolId :=
  (t.dynamic.find? (fun e => e.1 == v)).map Prod.snd

/-- A name not yet in a list is found at the end after it is appended. -/
theorem idxOf?_append_new (xs : List String) (name : String) (h : name ∉ xs) :
    (xs ++ [name]).idxOf? name = some xs.length := by
  induction xs with
  | nil => simp
  | cons b xs ih =>
    have hb : b ≠ name := fun e => h (e ▸ List.mem_cons_self)
    have hxs : name ∉ xs := fun m => h (List.mem_cons_of_mem b m)
    rw [List.cons_append, List.idxOf?_cons, ih hxs]
    simp [hb]

theorem intern_intern (t : SymbolTable) (name : String) :
    (t.intern name).1.intern name = ((t.intern name).1, (t.intern name).2) := by
  unfold intern indexOf?
  cases h : t.names.idxOf? name with
  | some i => simp [h]
  | none =>
    have hm : name ∉ t.names := List.idxOf?_eq_none_iff.mp h
    simp [idxOf?_append_new t.names name hm]

end SymbolTable

end RubyLayout
