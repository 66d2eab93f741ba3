import RubyLayout.Heap.Build

/-!
# Building samples

Conformance checks build one value per sample kind. The special constants are named by text;
an integer of any size becomes a fixnum or a bignum; strings and arrays embed unless asked to
lie in a separate buffer; typed data first gets a data type of its own, named `parity`, and then
either embeds a copy of the payload or wraps a buffer holding it. Interning is marking a string
as interned, which a layout without the flag refuses.
-/

set_option autoImplicit false

namespace RubyLayout

/-- The special constants a sample can name. -/
inductive SpecialConstant where
  | nil | true | false | undef
deriving DecidableEq, Repr

namespace SpecialConstant

/-- The constant a name denotes: `nil`, `true`, `false` or `undef`. -/
def ofName? : String → Option SpecialConstant
  | "nil" => some .nil
  | "true" => some .true
  | "false" => some .false
  | "undef" => some .undef
  | _ => none

/-- The word of a constant under the facts. -/
def word (f : Facts) : SpecialConstant → Value
  | .nil => f.specials.qnil
  | .true => f.specials.qtrue
  | .false => f.specials.qfalse
  | .undef => f.specials.qundef

end SpecialConstant

namespace Heap

/-- The filler of `n` bytes: `'a' + i % 26` for `i` below `n`. -/
def fillerBytes (n : Nat) : ByteArray :=
  ByteArray.mk ((Array.range n).map fun i => (97 + i % 26).toUInt8)

/-- The name of the data type that typed data samples point to. -/
def sampleTypeName : String := "parity"

/-- A string sample: embedded when it fits, unless `onHeap` asks for a separate buffer. -/
def stringSample (s : ByteArray) (onHeap : Bool) : HeapM Value :=
  if onHeap then heapString s else string s

/-- An array sample: embedded when it fits, unless `onHeap` asks for a separate buffer. -/
def arraySample (elems : List Value) (onHeap : Bool) : HeapM Value :=
  if onHeap then heapArray elems else array elems

/-- A typed data sample: a fresh data type, then the payload embedded, or copied to a buffer
the object wraps when `onHeap`. -/
def typedSample (payload : ByteArray) (onHeap : Bool) : HeapM Value := do
  let typ ← dataType sampleTypeName
  if onHeap then
    let buf ← buffer payload
    typedData typ buf
  else embeddedTypedData typ payload

/-- Marks a string sample as interned and answers it. -/
def internSample (v : Value) : HeapM Value := do
  intern v
  pure v

end Heap

end RubyLayout
